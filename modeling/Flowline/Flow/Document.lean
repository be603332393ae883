import Flowline.Failure
import Flowline.Flow.Model

/-!
Flow documents. A document writes a flow in a looser form than the model: a step is a name or a mapping
of a name to its fields, kinds and fields have several spellings, numbers may stand for texts, and
durations have units. The normal form of a document has the shape of the model. Shapes and durations can
keep a document from having one, and so can steps that are inside of themselves.
-/

namespace Flowline.Document

/-- What is wrong with the shape of a part of a document. Steps inside of themselves are endless: nothing
is found to be wrong with them, however far the search goes. -/
inductive ShapeError where
  | document
  | stepList
  | step
  | unknownStep (shown : String)
  | stepFields (shown : String)
  | trigger
  | triggerType (shown : String)
  | duration (e : Duration.Error)
  | longInteger
  | endless
  deriving DecidableEq, Repr

def ShapeError.message : ShapeError → String
  | document => "a flow document must be a mapping"
  | stepList => "expected a list of steps"
  | step => "a step must be a name or a single-key mapping"
  | unknownStep shown => "unknown step type " ++ shown
  | stepFields shown => "fields of " ++ shown ++ " must be a mapping"
  | trigger => "trigger must be a mapping"
  | triggerType shown => "no valid trigger type found (" ++ shown ++ ")"
  | duration e => e.message
  | longInteger => Number.unwritable
  | endless => "maximum recursion depth exceeded"

/-- The failure that breaks off the search in a document, for the faults that are one. -/
def ShapeError.failure? : ShapeError → Option Failure
  | longInteger => some (.general .value longInteger.message)
  | endless => some (.general .recursion endless.message)
  | _ => none

/-- Why a document is not a flow, and where. -/
inductive Error where
  | shape (place : String) (e : ShapeError)
  | model (place : String) (issues : List Schema.Issue)
  deriving DecidableEq, Repr

/-- The failure that breaks off the search in a document, for the errors that are one. -/
def Error.failure? : Error → Option Failure
  | shape _ e => e.failure?
  | model .. => none

/-- The message about a fault at a place. One that is a failure by itself tells no place. -/
def ShapeError.text (place : String) (e : ShapeError) : String :=
  if e.failure?.isSome then e.message else place ++ ": " ++ e.message

/-- The message without the issues. -/
def Error.summary : Error → String
  | shape place e => e.text place
  | model place _ => place ++ ": could not parse flow correctly"

def Error.message : Error → String
  | shape place e => e.text place
  | model place issues =>
      place ++ ": could not parse flow correctly: " ++
        "; ".intercalate (issues.map (·.text))

/-- The kind of a step by any of its spellings. -/
def stepKind? : String → Option StepKind
  | "text_extract_one_capture" => some .extractCapture
  | "read_from_file" => some .readText
  | "append_to_file" => some .appendText
  | name => StepKind.ofName? name

/-- The name of a field in the model by its spelling in a document. -/
def fieldName (kind : StepKind) (name : String) : String :=
  match kind, name with
  | .extractCapture, "regex" => "pattern"
  | .setVariable, "input" => "value"
  | _, name => name

/-- Fields that hold a text even if a number is written. -/
def textFields : List String := ["compare_with", "value", "message", "body", "url", "path"]

/-- The plain text of a value, in which no integer may be too long. -/
def shown (place : String) (v : Value) : Except Error String :=
  if v.isShowable then .ok v.display else .error (.shape place .longInteger)

/-- Numbers and truth values as texts, all else as it is. -/
def asText (place : String) : Value → Except Error Value
  | .bool b => .ok (.text (if b then "true" else "false"))
  | .int n => (shown place (.int n)).map .text
  | .real x => .ok (.text x.text)
  | v => .ok v

/-- A field of a step body under its name in the model. -/
def normalField (place : String) (kind : StepKind) (entry : Value × Value) :
    Except Error (Value × Value) :=
  match entry.1 with
  | .text name => do
      let name := fieldName kind name
      let v ← if textFields.contains name then asText place entry.2 else .ok entry.2
      return (.text name, v)
  | key => .ok (key, entry.2)

/-- The fields of a step body under their names in the model; of two that become one, the later one
holds. -/
def normalFields (place : String) (kind : StepKind) (body : Entries) : Except Error Entries := do
  let fields ← body.mapM (normalField place kind)
  return Entries.ofList fields

/-- A value as a text, well formed or not. -/
def named (place : String) : Value → Except Error Value
  | .torn t => .ok (.torn t)
  | v => (shown place v).map .text

/-- A header with a text for its name and, if it is a number, for its value. -/
def normalHeader (place : String) (entry : Value × Value) : Except Error (Value × Value) := do
  let name ← named place entry.1
  let v ← asText place entry.2
  return (name, v)

def normalHeaders (place : String) : Value → Except Error Value
  | .map entries => do
      let headers ← entries.mapM (normalHeader place)
      return .map (Entries.ofList headers)
  | v => .ok v

def duration (place : String) (v : Value) : Except Error Value :=
  match Duration.ofValue v with
  | .ok seconds => .ok (.real seconds)
  | .error e => .error (.shape place (.duration e))

/-- A duration field, if it is there. -/
def durationField (place name : String) (entries : Entries) : Except Error (Option Value) :=
  match entries.field? name with
  | some v => (duration place v).map some
  | none => .ok none

/-- Puts a value under a name, if there is one. -/
def putOptional (entries : Entries) (name : String) : Option Value → Entries
  | some v => entries.putField name v
  | none => entries

/-- The field that tells what to do when an operation fails. -/
def failValue (retries interval : Option Value) (fallback : List Value) : Value :=
  .map (putOptional (putOptional [] "retries" retries) "retry_interval" interval ++
    [(.text "fallback", .list fallback)])

mutual

/-- The normal form of a list of steps; nothing stands for an empty list. -/
def normalSteps (v : Value) (place : String) : Except Error (List Value) :=
  match v with
  | .null => .ok []
  | .list items => normalItems items place 0
  | .enclosing false => .error (.shape place .endless)
  | _ => .error (.shape place .stepList)
termination_by (sizeOf v, 0)

/-- The normal forms of steps, of which the first one has an index in its list. -/
def normalItems (items : List Value) (place : String) (index : Nat) :
    Except Error (List Value) :=
  match items with
  | [] => .ok []
  | item :: rest => do
      let step ← normalStep item s!"{place}[{index}]"
      let steps ← normalItems rest place (index + 1)
      return step :: steps
termination_by (sizeOf items, 0)

/-- The normal form of a step: a mapping of its fields and its kind. -/
def normalStep (v : Value) (place : String) : Except Error Value :=
  match v with
  | .text name => match stepKind? name with
      | none => .error (.shape place (.unknownStep (Text.quoted name)))
      | some kind => normalBody kind [] place
  | .torn t => .error (.shape place (.unknownStep t.quoted))
  | .map [(name, body)] => do
      let text ← shown place name
      match stepKind? text with
      | none => .error (.shape place (.unknownStep name.literal))
      | some kind => match body with
          | .null => normalBody kind [] place
          | .map fields => normalBody kind fields place
          | .enclosing true => .error (.shape place .endless)
          | _ => .error (.shape place (.stepFields name.literal))
  | .enclosing true => .error (.shape place .endless)
  | _ => .error (.shape place .step)
termination_by (sizeOf v, 0)
decreasing_by
  · cases name
    simp only [Value.text.sizeOf_spec, List.nil.sizeOf_spec, String.ofByteArray.sizeOf_spec]
    exact Prod.Lex.left _ _ (by omega)
  all_goals decreasing_tactic

/-- The normal form of a step with a kind and a body. -/
def normalBody (kind : StepKind) (body : Entries) (place : String) : Except Error Value := do
  let fields ← normalFields place kind body
  let fields ←
    if kind.isFailable then do
      let interval ← durationField place "retry_interval" fields
      let fallback ← normalStepsField body "upon_failure" s!"{place}.upon_failure"
      let rest := ((fields.eraseField "retries").eraseField "retry_interval").eraseField
        "upon_failure"
      pure (rest.putField "fail" (failValue (fields.field? "retries") interval fallback))
    else if kind = .sleep then do
      let seconds ← durationField place "duration" fields
      pure (putOptional fields "duration" seconds)
    else if kind = .compareVar then do
      let ifTrue ← normalStepsField body "if_true" s!"{place}.if_true"
      let ifFalse ← normalStepsField body "if_false" s!"{place}.if_false"
      pure ((fields.putField "if_true" (.list ifTrue)).putField "if_false" (.list ifFalse))
    else pure fields
  let fields ←
    if kind = .postUrl then do
      let headers ← (fields.field? "headers").mapM (normalHeaders place)
      pure (putOptional fields "headers" headers)
    else pure fields
  return .map (fields.putField "kind" (.text kind.name))
termination_by (sizeOf body, 2)

/-- The normal form of a field that holds steps, none if it is not there. -/
def normalStepsField (body : Entries) (name place : String) : Except Error (List Value) :=
  match _h : body.field? name with
  | some v => normalSteps v place
  | none => .ok []
termination_by (sizeOf body, 1)
decreasing_by exact Prod.Lex.left _ _ (Entries.sizeOf_lt_of_field? _h)

end

/-- The type of a trigger by any of its spellings: whether it repeats. -/
def repeats? : String → Option Bool
  | "timer" => some true
  | "interval" => some true
  | "once" => some false
  | _ => none

/-- The normal form of a trigger. What else a trigger holds is left out. -/
def normalTrigger (v : Value) (place : String) : Except Error Value :=
  match v with
  | .null => .ok .null
  | .map entries => do
      let type := (Entries.field? entries "type").getD .null
      let text ← shown place type
      match repeats? text with
      | none => .error (.shape place (.triggerType type.literal))
      | some false => .ok (.map [(.text "type", .text "once")])
      | some true => match Entries.field? entries "interval" with
          | none | some .null => .ok (.map [(.text "type", .text "interval")])
          | some v => do
              let seconds ← duration s!"{place}.interval" v
              return .map [(.text "type", .text "interval"), (.text "interval", seconds)]
  | .enclosing true => .error (.shape place .endless)
  | _ => .error (.shape place .trigger)

/-- The value under a name, null if there is none. -/
def fieldOrNull (entries : Entries) (name : String) : Value := (entries.field? name).getD .null

/-- The entries of a document with a text for its name, if it has one. -/
def normalName (entries : Entries) (place : String) : Except Error Entries :=
  match fieldOrNull entries "name" with
  | .null => .ok entries
  | v => do
      let name ← named place v
      return entries.putField "name" name

/-- The normal form of a document: a value that the model can be checked on. -/
def normalForm (document : Value) (place : String) : Except Error Value :=
  match document with
  | .map entries => do
      let data ← normalName entries place
      let trigger ← normalTrigger (fieldOrNull entries "trigger") s!"{place}.trigger"
      let notifiers := fieldOrNull entries "notifiers"
      let data := (data.putField "trigger" trigger).putField "notifiers"
        (if notifiers.isTruthy then notifiers else .list [])
      let data ← match Entries.field? entries "steps" with
        | some v => do
            let steps ← normalSteps v s!"{place}.steps"
            pure (data.putField "steps" (.list steps))
        | none => pure data
      let fallback ← normalSteps (fieldOrNull entries "upon_failure") s!"{place}.upon_failure"
      return .map (data.putField "upon_failure" (.list fallback))
  | .enclosing true => .error (.shape place .endless)
  | _ => .error (.shape place .document)

/-- The flow that a document writes. Messages name the document by its place. -/
def flow (document : Value) (place : String) : Except Error FlowDefinition := do
  let data ← normalForm document place
  match Schema.flow data with
  | .valid flow => return flow
  | .invalid issues => .error (.model place issues)

end Flowline.Document
