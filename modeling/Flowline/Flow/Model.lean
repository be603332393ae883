import Flowline.Duration
import Flowline.Flow.Definition
import Flowline.Schema.Checked

/-!
Checking of flows: a value of the shape of a flow becomes a definition, or all its issues are listed.
-/

namespace Flowline

/-- A value found under a key is smaller than the mapping. -/
theorem Entries.sizeOf_lt_of_get? {entries : Entries} {key v : Value}
    (h : entries.get? key = some v) : sizeOf v < sizeOf entries := by
  simp only [Entries.get?, Option.map_eq_some_iff] at h
  obtain ⟨e, hfind, rfl⟩ := h
  have hmem := List.sizeOf_lt_of_mem (List.mem_of_find?_eq_some hfind)
  have hsnd : sizeOf e.2 < sizeOf e := by
    cases e
    simp only [Prod.mk.sizeOf_spec]
    omega
  omega

theorem Entries.sizeOf_lt_of_field? {entries : Entries} {name : String} {v : Value}
    (h : entries.field? name = some v) : sizeOf v < sizeOf entries :=
  sizeOf_lt_of_get? h

namespace Schema

/-- A duration in seconds. -/
def seconds (v : Value) : Checked Binary64 :=
  (real v).andThen fun x => (realAtMost Duration.limit x).andThen (realAtLeast 0)

/-- A duration in seconds that is not zero. -/
def positiveSeconds (v : Value) : Checked Binary64 :=
  (real v).andThen fun x => (realAtMost Duration.limit x).andThen (realAbove 0)

def retryCount (v : Value) : Checked Nat :=
  ((int v).andThen (atLeast 0)).map Int.toNat

/-- The mapping that is taken for a member of a union, with the name that tells which one. -/
def unionMember (discriminator : String) (v : Value) : Checked (Entries × Value) :=
  match v with
  | .map entries => match Entries.field? entries discriminator with
      | some tag => .valid (entries, tag)
      | none => .fail (.unionTagNotFound discriminator)
  | _ => .fail .modelAttributesType

def tagInvalid {α : Type} (discriminator : String) (tag : Value) (expected : List String) :
    Checked α :=
  .fail (.unionTagInvalid discriminator tag.display expected)

/-- The member of a union that a tag names. -/
def tagged? (tag : Value) : Option String :=
  match tag with
  | .text s => some s
  | _ => none

/-- A model: its fields, and no other keys. -/
def model {α : Type} (fields : List String) (entries : Entries) (check : Checked α) : Checked α :=
  check.keeping (keyIssues fields entries)

/-- A step that holds no steps, by its kind. -/
def leafStep (kind : StepKind) (entries : Entries) : Checked Step :=
  match kind with
  | .abortFlow => model ["kind"] entries (.valid .abortFlow)
  | .debugState => model ["kind"] entries (.valid .debugState)
  | .sleep => model ["kind", "duration"] entries
      (Step.sleep <$> required entries "duration" seconds)
  | _ => model ["kind", "output_var", "value"] entries
      (Step.setVariable <$> optional entries "output_var" none optionalText <*>
        required entries "value" text)

/-- A step whose operation can fail, by its kind, given the check of what to do then. -/
def failableStep (kind : StepKind) (entries : Entries)
    (fail : Checked (RetryPolicy × List Step)) : Checked Step :=
  let outputVar := optional entries "output_var" none optionalText
  let inputVar := optional entries "input_var" none optionalText
  match kind with
  | .notify => model ["kind", "notifier", "message", "fail"] entries
      ((fun notifier message f => Step.notify notifier message f.1 f.2) <$>
        required entries "notifier" text <*> required entries "message" text <*> fail)
  | .getUrl => model ["kind", "url", "output_var", "fail"] entries
      ((fun url output f => Step.getUrl url output f.1 f.2) <$>
        required entries "url" text <*> outputVar <*> fail)
  | .postUrl => model ["kind", "url", "body", "headers", "fail"] entries
      ((fun url body headers f => Step.postUrl url body headers f.1 f.2) <$>
        required entries "url" text <*> required entries "body" looseText <*>
        optional entries "headers" [] textMap <*> fail)
  | .extractCapture => model ["kind", "input_var", "output_var", "pattern", "fail"] entries
      ((fun input output pattern f => Step.extractCapture input output pattern f.1 f.2) <$>
        inputVar <*> outputVar <*> required entries "pattern" text <*> fail)
  | .readText => model ["kind", "path", "output_var", "fail"] entries
      ((fun path output f => Step.readText path output f.1 f.2) <$>
        required entries "path" text <*> outputVar <*> fail)
  | _ => model ["kind", "path", "input_var", "fail"] entries
      ((fun path input f => Step.appendText path input f.1 f.2) <$>
        required entries "path" text <*> inputVar <*> fail)

/-- What to do when an operation fails: the policy of retries, given the check of the fallback. -/
def failSpec (entries : Entries) (fallback : Checked (List Step)) :
    Checked (RetryPolicy × List Step) :=
  model ["retries", "retry_interval", "fallback"] entries
    ((fun retries interval steps => (⟨retries, interval⟩, steps)) <$>
      optional entries "retries" RetryPolicy.standard.retries retryCount <*>
      optional entries "retry_interval" RetryPolicy.standard.interval seconds <*> fallback)

def compareStep (entries : Entries) (ifTrue ifFalse : Checked (List Step)) : Checked Step :=
  model ["kind", "input_var", "compare_with", "compare_for", "if_true", "if_false"] entries
    (Step.compareVar <$> optional entries "input_var" none optionalText <*>
      required entries "compare_with" text <*>
      optional entries "compare_for" "equality" text <*> ifTrue <*> ifFalse)

def stepKinds : List String := StepKind.all.map (·.name)

mutual

/-- A step: a mapping whose kind is known. The issues of its fields lie below its kind. -/
def step (v : Value) : Checked Step :=
  match v with
  | .map entries => match Entries.field? entries "kind" with
      | none => .fail (.unionTagNotFound "kind")
      | some tag => match (tagged? tag).bind StepKind.ofName? with
          | none => tagInvalid "kind" tag stepKinds
          | some kind =>
              let check :=
                if kind.isFailable then failableStep kind entries (failField entries)
                else if kind = .compareVar then
                  compareStep entries (stepsField entries "if_true") (stepsField entries "if_false")
                else leafStep kind entries
              check.within (.name kind.name)
  | _ => .fail .modelAttributesType
termination_by (sizeOf v, 0)

/-- The field that tells what to do when an operation fails. -/
def failField (entries : Entries) : Checked (RetryPolicy × List Step) :=
  match _h : entries.field? "fail" with
  | none => .valid (.standard, [])
  | some (.map fields) =>
      (failSpec fields (stepsField fields "fallback")).within (.name "fail")
  | some _ => (Checked.fail (.modelType "FailSpec")).within (.name "fail")
termination_by (sizeOf entries, 1)
decreasing_by
  have := Entries.sizeOf_lt_of_field? _h
  simp only [Value.map.sizeOf_spec] at this
  exact Prod.Lex.left _ _ (by omega)

/-- A field that holds a list of steps, empty if it is not there. -/
def stepsField (entries : Entries) (name : String) : Checked (List Step) :=
  match _h : entries.field? name with
  | none => .valid []
  | some v => (stepList v).within (.name name)
termination_by (sizeOf entries, 1)
decreasing_by exact Prod.Lex.left _ _ (Entries.sizeOf_lt_of_field? _h)

def stepList (v : Value) : Checked (List Step) :=
  match v with
  | .list items => Checked.sequenceFrom 0 (stepChecks items)
  | .tuple items => Checked.sequenceFrom 0 (stepChecks items)
  | .set items => Checked.sequenceFrom 0 (stepChecks items)
  | _ => .fail .tupleType
termination_by (sizeOf v, 1)

/-- The checks of the items of a list of steps. -/
def stepChecks (items : List Value) : List (Checked Step) :=
  match items with
  | [] => []
  | item :: rest => step item :: stepChecks rest
termination_by (sizeOf items, 0)

end

/-- The identifier of a chat, as a text or as an integer. -/
def chatId (v : Value) : Checked (Option String) :=
  match v with
  | .int n =>
      if Number.isWritable n then .valid (some (toString n))
      else .fail (.valueError Number.unwritable)
  | v => optionalText v

/-- At least one text. -/
def targets (v : Value) : Checked (List String) :=
  (tupleItems v).andThen fun items =>
    let checks := items.map text
    let found := checks.countP fun c => c.issues.isEmpty
    (Checked.sequenceFrom 0 checks).keeping
      (if found < 1 then [⟨[], .tooShort 1 found⟩] else [])

def notifierTypes : List String := ["print", "memory", "telegram", "chain"]

def notifierOfType? (type : String) (entries : Entries) : Option (Checked NotifierConfig) :=
  let name := required entries "name" text
  match type with
  | "print" => some (model ["type", "name"] entries (NotifierConfig.print <$> name))
  | "memory" => some (model ["type", "name"] entries (NotifierConfig.memory <$> name))
  | "telegram" => some (model ["type", "name", "token", "chat_id"] entries
      (NotifierConfig.telegram <$> name <*> optional entries "token" none optionalText <*>
        optional entries "chat_id" none chatId))
  | "chain" => some (model ["type", "name", "targets"] entries
      (NotifierConfig.chain <$> name <*> required entries "targets" targets))
  | _ => none

/-- How a notifier is set up: a mapping whose type is known. -/
def notifier (v : Value) : Checked NotifierConfig :=
  (unionMember "type" v).andThen fun (entries, tag) =>
    match tagged? tag with
    | some type => match notifierOfType? type entries with
        | some check => check.within (.name type)
        | none => tagInvalid "type" tag notifierTypes
    | none => tagInvalid "type" tag notifierTypes

def notifiers (v : Value) : Checked (List NotifierConfig) :=
  (tupleItems v).andThen fun items => Checked.sequenceFrom 0 (items.map notifier)

def triggerTypes : List String := ["once", "interval"]

def triggerOfType? (type : String) (entries : Entries) : Option (Checked Trigger) :=
  match type with
  | "once" => some (model ["type"] entries (.valid .once))
  | "interval" => some (model ["type", "interval"] entries
      (Trigger.interval <$> optional entries "interval" (.ofInt 1) positiveSeconds))
  | _ => none

/-- What starts a flow: nothing, or a mapping whose type is known. -/
def trigger (v : Value) : Checked (Option Trigger) :=
  match v with
  | .null => .valid none
  | v =>
      (unionMember "type" v).andThen fun (entries, tag) =>
        match tagged? tag with
        | some type => match triggerOfType? type entries with
            | some check => (some <$> check).within (.name type)
            | none => tagInvalid "type" tag triggerTypes
        | none => tagInvalid "type" tag triggerTypes

/-- The fields of a flow. -/
def flowFields (entries : Entries) : Checked FlowDefinition :=
  model ["name", "trigger", "notifiers", "steps", "upon_failure"] entries
    (FlowDefinition.mk <$> optional entries "name" none optionalText <*>
      optional entries "trigger" none trigger <*>
      optional entries "notifiers" [] notifiers <*>
      required entries "steps" stepList <*>
      optional entries "upon_failure" [] stepList)

/-- A flow whose names lead where they should. -/
def wellReferenced (flow : FlowDefinition) : Checked FlowDefinition :=
  match flow.referenceError? with
  | none => .valid flow
  | some e => .fail (.valueError e.message)

/-- A flow. The names in it are looked at only if all its fields are as they should be. -/
def flow (v : Value) : Checked FlowDefinition :=
  match v with
  | .map entries => (flowFields entries).andThen wellReferenced
  | _ => .fail (.modelType "FlowDefinition")

end Schema

end Flowline
