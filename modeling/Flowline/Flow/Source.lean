import Flowline.Flow.Document
import Flowline.Markup.Documents

/-!
Flows in a text: each document of the text that is not empty writes one flow.
-/

namespace Flowline.Source

/-- Why a text, or the file that should hold it, does not write flows. -/
inductive Error where
  | unreadable (source reason : String)
  | markup (source : String) (level : Markup.Level) (text : String)
  | document (e : Document.Error)
  | failure (f : Failure)
  deriving DecidableEq, Repr

/-- The message without what is wrong in the markup or in the model. -/
def Error.summary : Error → String
  | unreadable source reason => source ++ ": could not read flow file: " ++ reason
  | markup source .. => source ++ ": invalid YAML"
  | document e => e.summary
  | failure f => f.text

def Error.message : Error → String
  | unreadable source reason => source ++ ": could not read flow file: " ++ reason
  | markup source _ text => source ++ ": invalid YAML: " ++ text
  | document e => e.message
  | failure f => f.text

/-- The failure that an error is. -/
def Error.toFailure : Error → Failure
  | failure f => f
  | e => ⟨.definition, e.message, none⟩

/-- The error of a text because of one of its documents. -/
def Error.ofDocument (e : Document.Error) : Error :=
  match e.failure? with
  | some f => .failure f
  | none => .document e

/-- The flows of documents, of which the first one has a number. Empty documents have one too. -/
def flowsOf (source : String) : Nat → List Value → Except Error (List FlowDefinition)
  | _, [] => .ok []
  | number, .null :: rest => flowsOf source (number + 1) rest
  | number, document :: rest =>
      match Document.flow document s!"{source} document {number}" with
      | .error e => .error (.ofDocument e)
      | .ok flow => (flowsOf source (number + 1) rest).map (flow :: ·)

/-- The flows that a text writes. -/
def flows (source text : String) : Except Error (List FlowDefinition) :=
  match Markup.documents text with
  | .ok documents => flowsOf source 0 documents
  | .error (.invalid level reason) => .error (.markup source level reason)
  | .error (.failure f) => .error (.failure f)

end Flowline.Source
