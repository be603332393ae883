import Flowline.Proofs.Interpreter.Comparison
import Flowline.Proofs.Runner.Notifiers

/-!
Runs of flows that are compared. Two runners of the same steps come to the same, in one run and in any
number of them, if the notifiers that they set up differ in their chats alone.
-/

namespace Flowline

/-- Two runners of the same steps, whose notifiers differ in their chats alone or cannot be set up for
the same reason. -/
structure Runner.Like (T : Telegram → Telegram → Prop) (r other : Runner) : Prop where
  label : r.label = other.label
  steps : r.flow.steps = other.flow.steps
  uponFailure : r.flow.uponFailure = other.flow.uponFailure
  http : r.httpClient = other.httpClient
  build : ResultsAlike (NotifierSet.Like T) (NotifierSet.build r.settings r.flow.notifiers)
    (NotifierSet.build other.settings other.flow.notifiers)

namespace Runner

/-- A runner is like itself. -/
theorem like_self {T : Telegram → Telegram → Prop} (hChats : ∀ chat, T chat chat) (r : Runner) :
    r.Like T r := by
  refine ⟨rfl, rfl, rfl, rfl, ?_⟩
  cases hBuild : NotifierSet.build r.settings r.flow.notifiers with
  | error f => exact .error f
  | ok set => exact .ok (NotifierSet.like_self hChats (NotifierSet.genuine_of_build hBuild))

variable {σ τ : Type} {c : Comparison World World} {T : Telegram → Telegram → Prop} {r other : Runner}

theorem alike_log (C : Comparison σ τ) (hLabel : r.label = other.label) {level : Log.Level}
    {message : String} :
    (r.log level message : Action σ Unit).Alike C Eq (other.log level message) := by
  rw [log, log, fields, fields, hLabel]
  exact .log

theorem alike_logError (C : Comparison σ τ) (hLabel : r.label = other.label) {message : String}
    {f : Failure} :
    (r.logError message f : Action σ Unit).Alike C Eq (other.logError message f) := by
  rw [logError, logError, fields, fields, hLabel]
  exact .logError

/-- A run from the fresh state is compared by its world. -/
theorem alike_inFreshRun {α : Type} {x y : Action Run α} (h : x.Alike c.onRun Eq y) :
    (inFreshRun x).Alike c Eq (inFreshRun y) := by
  intro ahead w v hStates
  obtain ⟨hResult, hEvents, hWorlds, -⟩ := h ahead ⟨w, .fresh⟩ ⟨v, .fresh⟩ ⟨hStates, rfl⟩
  exact ⟨hResult, hEvents, hWorlds⟩

section

variable {s services : Services} (h : c.Worldly T) (hRunner : r.Like T other) (hServices : s.Like T services)

include h hRunner hServices

theorem alike_runFallback : (r.runFallback s).Alike c.onRun Eq (other.runFallback services) := by
  refine (alike_log _ hRunner.label).bindEq fun _ => ?_
  rw [hRunner.uponFailure]
  refine (Interpreter.alike_run_of_like h hServices _).forkEq (fun _ => ?_) fun f => ?_
  · exact (alike_log _ hRunner.label).bindEq fun _ => .pure rfl
  · exact .ite ((alike_log _ hRunner.label).bindEq fun _ => .pure rfl)
      ((alike_logError _ hRunner.label).bindEq fun _ => .pure rfl)

theorem alike_runSteps : (r.runSteps s).Alike c.onRun Eq (other.runSteps services) := by
  rw [runSteps, runSteps, hRunner.steps, hRunner.uponFailure]
  refine (Interpreter.alike_run_of_like h hServices _).forkEq (fun _ => ?_) fun f => ?_
  · exact (alike_log _ hRunner.label).bindEq fun _ => .pure rfl
  · refine .ite ((alike_log _ hRunner.label).bindEq fun _ => ?_)
      ((alike_logError _ hRunner.label).bindEq fun _ => .pure rfl)
    exact .ite ((alike_log _ hRunner.label).bindEq fun _ => .pure rfl)
      (alike_runFallback h hRunner hServices)

end

theorem alike_setUp (hRunner : r.Like T other) :
    (NotifierSet.setUp r.settings r.flow.notifiers : Action World NotifierSet).Alike c
      (NotifierSet.Like T) (NotifierSet.setUp other.settings other.flow.notifiers) := by
  refine (Action.Alike.ofResult hRunner.build).bind fun set set' hLike => ?_
  rw [hLike.sortedNames]
  exact Action.Alike.log.bindEq fun _ => .pure hLike

theorem alike_runOnce (h : c.Worldly T) (hRunner : r.Like T other) :
    r.runOnce.Alike c Eq other.runOnce := by
  refine (alike_log _ hRunner.label).bindEq fun _ => ?_
  refine (alike_setUp hRunner).fork (fun set set' hLike => ?_) fun f => ?_
  · exact alike_inFreshRun (alike_runSteps h hRunner ⟨hLike, hRunner.label, hRunner.http⟩)
  · exact (alike_logError _ hRunner.label).bindEq fun _ => .pure rfl

theorem alike_runTimes (h : c.Worldly T) (hRunner : r.Like T other) (n : Nat) :
    (r.runTimes n).Alike c Eq (other.runTimes n) := by
  induction n with
  | zero => exact .pure rfl
  | succ n ih =>
      exact (alike_runOnce h hRunner).bindEq fun _ => ih.bindEq fun _ => .pure rfl

end Runner

end Flowline
