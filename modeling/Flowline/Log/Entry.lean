import Flowline.Failure
import Flowline.Value.Literal

/-!
Log entries: what the parts of the program tell about a run while it goes on.
-/

namespace Flowline.Log

inductive Level where
  | debug
  | info
  | warning
  | error
  | critical
  deriving DecidableEq, Repr

namespace Level

def name : Level → String
  | debug => "DEBUG"
  | info => "INFO"
  | warning => "WARNING"
  | error => "ERROR"
  | critical => "CRITICAL"

/-- The number by which levels are compared. -/
def number : Level → Nat
  | debug => 10
  | info => 20
  | warning => 30
  | error => 40
  | critical => 50

end Level

/-- The parts of the program that log. -/
inductive Logger where
  | retry
  | http
  | loader
  | interpreter
  | runner
  | triggers
  | registry
  | main
  | channels
  | telegram
  | factory
  deriving DecidableEq, Repr

def Logger.name : Logger → String
  | retry => "m7m.io.retry"
  | http => "m7m.io.http"
  | loader => "m7m.flows.loader"
  | interpreter => "m7m.flows.interpreter"
  | runner => "m7m.flows.runner"
  | triggers => "m7m.flows.triggers"
  | registry => "m7m.flows.registry"
  | main => "m7m.flows.main"
  | channels => "m7m.notifiers.channels"
  | telegram => "m7m.notifiers.telegram"
  | factory => "m7m.notifiers.factory"

/-- A message with named values and, if an error is attached, the error. -/
structure Entry where
  level : Level
  logger : Logger
  message : String
  fields : List (String × Value)
  error : Option Failure

end Flowline.Log
