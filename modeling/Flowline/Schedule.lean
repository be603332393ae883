import Flowline.Runner
import Flowline.Trigger.Thread

/-!
Scheduling of flows: the trigger of a flow starts a thread that runs it.
-/

namespace Flowline

namespace Trigger

def timing : Trigger → Timing
  | .once => .once
  | .interval seconds => .every (.real seconds)

end Trigger

namespace Runner

/-- Runs the flow; how the run ended is told in the log alone. -/
def attempt (r : Runner) : Action World Unit := do
  let _ ← r.runOnce

/-- Starts the trigger of the flow. A flow without one never runs. -/
def schedule {σ : Type} (r : Runner) : Action σ (Option (Trigger.Timing × Trigger.Control)) :=
  match r.flow.trigger with
  | none => do
      r.log .warning "Flow has no trigger and will never run"
      return none
  | some trigger => do
      let control ← trigger.timing.launch r.label
      return some (trigger.timing, control)

/-- Moves of the thread that runs the flow. -/
def follow (r : Runner) (timing : Trigger.Timing) (moves : List Trigger.Move) :
    Action (Trigger.Thread World) Unit :=
  Trigger.Thread.follow r.label timing.repeats r.attempt moves

end Runner

end Flowline
