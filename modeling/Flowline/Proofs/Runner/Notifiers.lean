import Flowline.Proofs.Notifier.Build
import Flowline.Proofs.Runner.Outcome

/-!
Notifiers of runs. What is checked before the first run of a flow is enough for all of its runs: its
notifiers can be set up, and each step that is dispatched finds the notifier that it names.
-/

namespace Flowline

/-- The record that the notifiers of a flow could not be set up. -/
def Event.IsSetUpFailure (e : Event) : Prop :=
  ∃ entry, e.entry? = some entry ∧ entry.logger = .runner ∧
    entry.message = "Could not set up notifiers"

/-- It is a record of the runner. -/
theorem Event.not_isSetUpFailure_of_not_frame {e : Event} (h : e.isFrame = false) :
    ¬ e.IsSetUpFailure := by
  rintro ⟨entry, hEntry, hLogger, -⟩
  rw [isFrame, hEntry, Option.any_some, hLogger] at h
  cases h

namespace Runner

/-- A number of runs of a flow, one after another in the same world. -/
def runTimes (r : Runner) : Nat → Action World (List Outcome)
  | 0 => return []
  | n + 1 => do
      let first ← r.runOnce
      let others ← r.runTimes n
      return first :: others

variable {r : Runner} {set : NotifierSet}

theorem not_isSetUpFailure_of_logger {entry : Log.Entry} (h : entry.logger ≠ .runner) :
    ¬ (Event.logged entry).IsSetUpFailure := by
  rintro ⟨other, hEntry, hLogger, -⟩
  cases hEntry
  exact h hLogger

theorem not_isSetUpFailure_of_message {entry : Log.Entry}
    (h : entry.message ≠ "Could not set up notifiers") : ¬ (Event.logged entry).IsSetUpFailure := by
  rintro ⟨other, hEntry, -, hMessage⟩
  cases hEntry
  exact h hMessage

/-- A message that starts with another letter is another message. -/
theorem append_ne_of_head {first rest whole : String}
    (h : (first.toList ++ rest.toList).head? ≠ whole.toList.head?) : first ++ rest ≠ whole := by
  intro hSame
  have hHead := congrArg (fun t => t.toList.head?) hSame
  exact h (by simpa using hHead)

theorem emits_interpreter (s : Services) (steps : List Step) :
    (Interpreter.run s steps).Emits fun e => ¬ e.IsSetUpFailure :=
  (Interpreter.emits_no_frame s steps).mono fun _ => Event.not_isSetUpFailure_of_not_frame

theorem emits_log {level : Log.Level} {message : String}
    (h : message ≠ "Could not set up notifiers") :
    (r.log level message : Action Run Unit).Emits fun e => ¬ e.IsSetUpFailure :=
  .log (not_isSetUpFailure_of_message h)

theorem emits_logError {message : String} {f : Failure}
    (h : message ≠ "Could not set up notifiers") :
    (r.logError message f : Action Run Unit).Emits fun e => ¬ e.IsSetUpFailure := by
  intro start e hMem
  rw [List.mem_singleton.mp hMem]
  exact not_isSetUpFailure_of_message h

theorem emits_runFallback (r : Runner) (s : Services) :
    (r.runFallback s).Emits fun e => ¬ e.IsSetUpFailure := by
  refine (emits_log (by decide)).bind fun _ => ?_
  refine (emits_interpreter s _).fork (fun _ => ?_) fun f => ?_
  · exact (emits_log (by decide)).bind fun _ => .pure _
  · exact .ite ((emits_log (append_ne_of_head (by simp))).bind fun _ => .pure _)
      ((emits_logError (by decide)).bind fun _ => .pure _)

/-- Once notifiers are set up nothing in the run of a flow says that they could not be. -/
theorem emits_runSteps (r : Runner) (s : Services) :
    (r.runSteps s).Emits fun e => ¬ e.IsSetUpFailure := by
  refine (emits_interpreter s _).fork (fun _ => ?_) fun f => ?_
  · exact (emits_log (by decide)).bind fun _ => .pure _
  · refine .ite ((emits_log (append_ne_of_head (by simp))).bind fun _ => ?_)
      ((emits_logError (by decide)).bind fun _ => .pure _)
    exact .ite ((emits_log (by decide)).bind fun _ => .pure _) (emits_runFallback r s)

theorem emits_runOnce (h : NotifierSet.build r.settings r.flow.notifiers = .ok set) :
    r.runOnce.Emits fun e => ¬ e.IsSetUpFailure := by
  intro w e hMem
  rw [runOnce_of_build h] at hMem
  rcases List.mem_cons.mp hMem with rfl | hMem
  · exact not_isSetUpFailure_of_message (by simp)
  · rcases List.mem_cons.mp hMem with rfl | hMem
    · exact not_isSetUpFailure_of_logger (by simp)
    · exact emits_runSteps r _ _ e hMem

theorem emits_runTimes (h : NotifierSet.build r.settings r.flow.notifiers = .ok set) (n : Nat) :
    (r.runTimes n).Emits fun e => ¬ e.IsSetUpFailure := by
  induction n with
  | zero => exact .pure _
  | succ n ih => exact (emits_runOnce h).bind fun _ => ih.bind fun _ => .pure _

/-- A step of an accepted flow that notifies finds its notifier, wherever in the tree it stands and
however the run got there. -/
theorem require_of_mem_course (hReferenced : r.flow.Referenced)
    (hNamed : ∀ config ∈ r.flow.notifiers, ∃ channel, set.require config.name = .ok channel)
    {w : World} {d : Dispatch} (hMem : d ∈ r.course w) {name template : String}
    {retry : RetryPolicy} {fallback : List Step}
    (hStep : d.step = .notify name template retry fallback) :
    ∃ channel, set.require name = .ok channel := by
  have hWalk := mem_walk_of_mem_course hMem
  rw [hStep] at hWalk
  obtain ⟨config, hConfig, rfl⟩ := hReferenced.notified name template retry fallback hWalk
  exact hNamed config hConfig

/-- For an accepted flow whose credentials were checked, the notifiers are set up, and no chain in
them has chains. In every run, from whatever world, each dispatched step that notifies finds its
notifier, and no number of runs says that notifiers could not be set up. -/
theorem checked_notifiers_serve_all_runs {r : Runner} (hAccepted : r.flow.Accepted)
    (hChecked : r.check = .ok ()) :
    ∃ set, NotifierSet.build r.settings r.flow.notifiers = .ok set ∧
      (∀ name known members, (name, .chain known members) ∈ set →
        ∀ member ∈ members, member.isChain = false) ∧
      (∀ w, (r.runOnce w).events.filterMap Event.startedKind? =
        (r.course w).map fun d => d.step.kind.name) ∧
      (∀ w, ∀ d ∈ r.course w, ∀ name template retry fallback,
        d.step = .notify name template retry fallback →
          ∃ channel, set.require name = .ok channel) ∧
      ∀ n w, ∀ e ∈ (r.runTimes n w).events, ¬ e.IsSetUpFailure := by
  have hReferenced := FlowDefinition.referenced_of_no_error hAccepted.referenceError?_eq_none
  obtain ⟨set, hBuild, hFlat, hNamed⟩ :=
    NotifierSet.build_ok hReferenced (NotifierSet.checked_of_forM hChecked)
  refine ⟨set, hBuild, hFlat, startedKinds_runOnce r, ?_, fun n => emits_runTimes hBuild n⟩
  · intro w d hMem name template retry fallback hStep
    exact require_of_mem_course hReferenced hNamed hMem hStep

/-- The chain stands before its target, the message to it in front, and one more in a fallback and
one in the fallback of the flow. -/
theorem checked_notifiers_serve_watch :
    watch.flow.Accepted ∧ watch.check = .ok () ∧
      ∃ set, NotifierSet.build watch.settings watch.flow.notifiers = .ok set ∧
        (∃ d ∈ watch.course Interpreter.stillRun.world,
          d.step = Watch.notice "all" [Watch.notice "desk" []]) ∧
        (∃ channel, set.require "all" = .ok channel) ∧
        ∀ e ∈ (watch.runTimes 2 Interpreter.stillRun.world).events, ¬ e.IsSetUpFailure := by
  have hChecked : watch.check = .ok () := rfl
  obtain ⟨set, hBuild, -, -, hFound, hRuns⟩ :=
    checked_notifiers_serve_all_runs (r := watch) Watch.accepted hChecked
  have hFirst : ⟨0, Watch.notice "all" [Watch.notice "desk" []], Interpreter.stillRun⟩ ∈
      watch.course Interpreter.stillRun.world := by
    rw [course_of_build hBuild, stepsCourse]
    refine List.mem_append_left _ ?_
    change _ ∈ Interpreter.dispatches _ 0 (Watch.notice "all" [Watch.notice "desk" []] :: _) _
    rw [Interpreter.dispatches]
    exact List.mem_cons_self
  refine ⟨Watch.accepted, hChecked, set, hBuild, ⟨_, hFirst, rfl⟩, ?_, hRuns 2 _⟩
  exact hFound _ _ hFirst "all" "" Watch.retry [Watch.notice "desk" []] rfl

end Runner

end Flowline
