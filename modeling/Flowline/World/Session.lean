import Flowline.Failure
import Flowline.Number.Quantity

/-!
Requests and what a session answers to them.
-/

namespace Flowline

/-- Headers and the fields of a form, in order. -/
abbrev Fields := List (String × String)

/-- A request as it reaches the session. -/
inductive Request where
  | get (url : String) (headers : Fields) (timeout : Quantity)
  | post (url body : String) (headers : Fields) (timeout : Quantity)
  | form (url : String) (fields : Fields) (timeout : Quantity)
  deriving DecidableEq

structure Reply where
  status : Int
  text : String
  deriving DecidableEq, Repr

namespace Reply

/-- Whether the status tells success of any kind. -/
def isSuccess (r : Reply) : Bool := 200 ≤ r.status && r.status < 300

end Reply

/-- What comes of a request: a reply, or a failure to get one. -/
abbrev Answer := Except Failure Reply

/-- The failure of a session that reaches nothing. -/
def noNetwork : Failure := ⟨.transport .connection, "no network", none⟩

/-- What a session answers to each request in turn. -/
abbrev Session := Nat → Answer

/-- A session that gives answers in order, and the last one from then on. -/
def Session.ofList (answers : List Answer) : Session := fun n =>
  match answers[min n (answers.length - 1)]? with
  | some answer => answer
  | none => .error noNetwork

end Flowline
