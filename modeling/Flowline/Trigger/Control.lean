/-!
The control of a trigger: where its thread stands, how many attempts were started and counted, and
whether somebody has asked it to stop. The moves of the thread and the request to stop may come in any
order in which each move is possible.
-/

namespace Flowline.Trigger

/-- Where the thread of a trigger stands: about to look whether it should stop, ready to start an
attempt, in an attempt, after one that is not counted yet, waiting until the next one is due, or about
to tell that it stops. -/
inductive Position where
  | unstarted
  | looking
  | ready
  | attempting
  | ended
  | waiting
  | leaving
  | finished
  deriving DecidableEq, Repr

structure Control where
  position : Position
  started : Nat
  runs : Nat
  stopped : Bool
  deriving DecidableEq, Repr

/-- What may happen to a trigger: a move of its thread, or the request to stop. A wait ends because its
time is out, or because the thread wakes when it was asked to stop. -/
inductive Move where
  | look
  | start
  | finish
  | count
  | timeOut
  | wake
  | leave
  | stop
  deriving DecidableEq, Repr

namespace Control

/-- The control of a trigger whose thread was not started. -/
def unstarted : Control := ⟨.unstarted, 0, 0, false⟩

/-- The control at the start of the thread; one that repeats its attempts looks first whether it should
stop. -/
def launched (repeats : Bool) : Control := ⟨if repeats then .looking else .ready, 0, 0, false⟩

def requestStop (c : Control) : Control := { c with stopped := true }

def countRun (c : Control) : Control := { c with runs := c.runs + 1 }

/-- Whether the thread runs. -/
def isAlive (c : Control) : Bool := c.position ≠ .unstarted && c.position ≠ .finished

/-- The control after a move, if the move is possible. How an attempt ended does not matter. -/
def move? (repeats : Bool) (c : Control) : Move → Option Control
  | .stop => some c.requestStop
  | .look => match c.position with
    | .looking => some { c with position := if c.stopped then .leaving else .ready }
    | _ => none
  | .start => match c.position with
    | .ready => some { c with position := .attempting, started := c.started + 1 }
    | _ => none
  | .finish => match c.position with
    | .attempting => some { c with position := .ended }
    | _ => none
  | .count => match c.position with
    | .ended => some { c.countRun with position := if repeats then .waiting else .finished }
    | _ => none
  | .timeOut => match c.position with
    | .waiting => some { c with position := .looking }
    | _ => none
  | .wake => match c.position with
    | .waiting => if c.stopped then some { c with position := .leaving } else none
    | _ => none
  | .leave => match c.position with
    | .leaving => some { c with position := .finished }
    | _ => none

/-- The control after some moves; a move that is not possible is passed over. -/
def after (repeats : Bool) (c : Control) (moves : List Move) : Control :=
  moves.foldl (fun c move => (c.move? repeats move).getD c) c

end Control

end Flowline.Trigger
