import Flowline.Failure
import Flowline.Value.Basic

/-!
The state of a run: its variables and the value that the latest producing step left.
-/

namespace Flowline

/-- Variables in the order in which they were first set. -/
abbrev Variables := List (String × String)

namespace Variables

def get? (vars : Variables) (name : String) : Option String := vars.lookup name

/-- Sets a variable, in its place if it is there already. -/
def set : Variables → String → String → Variables
  | [], name, value => [(name, value)]
  | (n, v) :: rest, name, value =>
      if n = name then (n, value) :: rest else (n, v) :: set rest name value

end Variables

structure RunState where
  vars : Variables
  lastOutput : Option String
  deriving DecidableEq, Repr

namespace RunState

/-- The state a run starts in. -/
def fresh : RunState := ⟨[], none⟩

/-- Records a value as the latest output and, given a name, as a variable. -/
def setOutput (s : RunState) (value : String) (name : Option String) : RunState where
  vars := match name with
    | some n => s.vars.set n value
    | none => s.vars
  lastOutput := some value

/-- The input of a step: the variable of a name, which must be set, or the latest output. -/
def input (s : RunState) : Option String → Except Failure String
  | some name => match s.vars.get? name with
      | some value => .ok value
      | none => .error (.flow .missingInput ("invalid input variable name " ++ name))
  | none => match s.lastOutput with
      | some value => .ok value
      | none =>
          .error (.flow .missingInput
            "no input variable specified and no previous output to use")

/-- The state as a value that logs can show. -/
def snapshot (s : RunState) : Value :=
  .map [
    (.text "vars", .map (s.vars.map fun (name, value) => (.text name, .text value))),
    (.text "last_output", match s.lastOutput with
      | some value => .text value
      | none => .null)]

end RunState

end Flowline
