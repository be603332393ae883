import Flowline.Duration
import Flowline.Trigger.Control
import Flowline.World.Basic

/-!
Threads of triggers: an action that is attempted once, or again and again with an interval between. An
attempt that fails is logged and counted like any other.
-/

namespace Flowline.Trigger

/-- When a trigger attempts its action. -/
inductive Timing where
  | once
  | every (seconds : Quantity)
  deriving DecidableEq

namespace Timing

def repeats : Timing → Bool
  | once => false
  | every _ => true

/-- Starts a trigger that is known by a name. -/
def launch {σ : Type} (name : String) : Timing → Action σ Control
  | once => do
      Action.log .debug .triggers "Starting once trigger" [("flow", .text name)]
      return .launched false
  | every seconds =>
      if seconds.isWithin Duration.limit then do
        Action.log .debug .triggers "Starting interval trigger"
          [("flow", .text name), ("interval", seconds.toValue)]
        return .launched true
      else .fail (.general .value
        s!"interval must be > 0 and at most {Duration.limit} seconds")

/-- The moves of one attempt, from the look at the request to stop on. -/
def attempt : Timing → List Move
  | once => [.start, .finish, .count]
  | every _ => [.look, .start, .finish, .count]

/-- The moves of one attempt during which the trigger is asked to stop. -/
def stoppedAttempt : Timing → List Move
  | once => [.start, .stop, .finish, .count]
  | every _ => [.look, .start, .stop, .finish, .count]

/-- The moves after the last attempt of a trigger that was asked to stop. -/
def close : Timing → List Move
  | once => []
  | every _ => [.wake, .leave]

/-- The moves of a number of attempts, with the waits after them. -/
def attempts (t : Timing) (count : Nat) : List Move :=
  (List.replicate count (t.attempt ++ [.timeOut])).flatten

end Timing

/-- A thread: its control, and the state on which its action works. -/
structure Thread (σ : Type) where
  control : Control
  state : σ

namespace Thread

variable {σ : Type}

/-- An attempt of an action. Its failure is logged and goes no further. -/
def attempt (name : String) (action : Action σ Unit) : Action σ Unit :=
  action.orElse fun f =>
    .logError .triggers "Triggered run raised" [("flow", .text name)] f

/-- What a move does besides its effect on the control. -/
def effect (name : String) (action : Action σ Unit) (runs : Nat) : Move → Action σ Unit
  | .finish => attempt name action
  | .leave =>
      .log .info .triggers "Interval trigger stopped"
        [("flow", .text name), ("runs", .int runs)]
  | _ => .succeed ()

/-- A move of a thread; one that is not possible does nothing. -/
def perform (name : String) (repeats : Bool) (action : Action σ Unit) (move : Move) :
    Action (Thread σ) Unit := fun thread =>
  match thread.control.move? repeats move with
  | none => ⟨.ok (), [], thread⟩
  | some control =>
      let d := effect name action control.runs move thread.state
      ⟨d.result, d.events, ⟨control, d.state⟩⟩

/-- Moves of a thread in order. -/
def follow (name : String) (repeats : Bool) (action : Action σ Unit) :
    List Move → Action (Thread σ) Unit
  | [] => .succeed ()
  | move :: rest => do
      perform name repeats action move
      follow name repeats action rest

end Thread

end Flowline.Trigger
