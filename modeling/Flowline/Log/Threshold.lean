import Flowline.Log.Entry
import Flowline.Text.Blank
import Flowline.Text.LetterCase

/-!
Thresholds: names of log levels below which entries are left out.
-/

namespace Flowline.Log

inductive Threshold where
  | critical
  | fatal
  | error
  | warning
  | info
  | debug
  | notSet
  deriving DecidableEq, Repr

namespace Threshold

def name : Threshold → String
  | critical => "CRITICAL"
  | fatal => "FATAL"
  | error => "ERROR"
  | warning => "WARNING"
  | info => "INFO"
  | debug => "DEBUG"
  | notSet => "NOTSET"

def number : Threshold → Nat
  | critical => 50
  | fatal => 50
  | error => 40
  | warning => 30
  | info => 20
  | debug => 10
  | notSet => 0

/-- The threshold of a name in capital letters; one of them has two names. -/
def ofName? (name : String) : Option Threshold :=
  if name = "WARN" then some warning
  else [critical, fatal, error, warning, info, debug, notSet].find? (·.name = name)

/-- The threshold that a text names, in letters of any case and with blanks around. -/
def ofText? (text : String) : Option Threshold := ofName? (Text.upper (Text.trim text))

/-- Whether entries of a level are written. -/
def admits (t : Threshold) (level : Level) : Bool := t.number ≤ level.number

end Threshold

end Flowline.Log
