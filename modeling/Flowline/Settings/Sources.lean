import Flowline.Settings.Basic
import Flowline.Settings.EnvFile
import Flowline.World.Basic

/-!
Where settings come from: what is given directly, else variables of the environment, else a file of
such variables. Names of variables are read without regard to case.
-/

namespace Flowline.Settings

/-- The start of the names of variables that are settings. -/
def variableStart : String := "m7m_"

/-- The settings among variables, by their own names; of variables that differ in case alone the last
one holds. -/
def ofVariables (bindings : List (String × Option String)) : Entries :=
  names.filterMap fun name =>
    match (bindings.reverse.find? fun v => Text.lower v.1 = variableStart ++ name).bind (·.2) with
    | some value => some (.text name, .text value)
    | none => none

/-- The entries with those of another list put over them. -/
def overlaid (entries others : Entries) : Entries :=
  others.foldl (fun es e => es.put e.1 e.2) entries

/-- The settings from what is given directly, from the environment, and from the text of a file of
variables. -/
def load (given : Entries) (environment : List (String × String)) (envFile : Option String) :
    Schema.Checked Settings :=
  let fileVariables := match envFile with
    | some text => EnvFile.values environment (EnvFile.bindings text)
    | none => []
  let ofEnvironment := environment.map fun v => (v.1, some v.2)
  check (overlaid (overlaid (ofVariables fileVariables) (ofVariables ofEnvironment)) given)

/-- The text of the file of variables in the working directory, if there is such a file. -/
def envFileText : Action World (Option String) := fun w =>
  match w.disk.node? (w.home ++ [".env"]) with
  | some (.file bytes) => match Text.Utf8.decode bytes with
    | .ok text => ⟨.ok (some (Text.Utf8.withLineFeeds text)), [], w⟩
    | .error fault => ⟨.error (.general .unicodeDecode fault.message), [], w⟩
  | _ => ⟨.ok none, [], w⟩

end Flowline.Settings
