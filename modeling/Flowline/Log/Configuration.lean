import Flowline.Failure
import Flowline.Log.Threshold
import Flowline.Settings.Basic

/-!
The configuration of the log: a threshold, the formats in which records are written, and a threshold for
the libraries that send requests.
-/

namespace Flowline.Log

structure Configuration where
  threshold : Threshold
  formats : List LogFormat
  libraryNumber : Nat
  deriving DecidableEq

namespace Configuration

/-- The configuration before any is chosen. -/
def standard : Configuration := ⟨.warning, [], 0⟩

/-- The format of a name; all names but one mean JSON. -/
def formatOf (name : String) : LogFormat := if name = LogFormat.text.name then .text else .json

/-- Chooses a level, in letters of any case, and a format. The format takes the place of those before
also if there is no such level. Libraries log no more than at the level of information. -/
def choose (c : Configuration) (level format : String) : Except Failure Unit × Configuration :=
  let c := { c with formats := [formatOf format] }
  let name := Text.upper level
  match Threshold.ofName? name with
  | none => (.error (.general .value ("Unknown level: " ++ Text.quoted name)), c)
  | some threshold =>
      (.ok (), { c with threshold, libraryNumber := max threshold.number Threshold.info.number })

end Configuration

/-- The name of the level of a number. -/
def levelName (number : Nat) : String :=
  match [Threshold.critical, .error, .warning, .info, .debug, .notSet].find? (·.number = number) with
  | some threshold => threshold.name
  | none => s!"Level {number}"

end Flowline.Log
