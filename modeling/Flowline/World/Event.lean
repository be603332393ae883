import Flowline.Log.Entry
import Flowline.World.Session

/-!
Events: what an onlooker sees of a run, in order.
-/

namespace Flowline

inductive Event where
  | requested (request : Request)
  | closed
  | slept (seconds : Quantity)
  | printed (text : String)
  | sent (message : String)
  | attempted
  | logged (entry : Log.Entry)

namespace Event

/-- The log entry that an event is. -/
def entry? : Event → Option Log.Entry
  | logged entry => some entry
  | _ => none

def isLogged (e : Event) : Bool := e.entry?.isSome

end Event

end Flowline
