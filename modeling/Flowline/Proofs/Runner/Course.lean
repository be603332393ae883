import Flowline.Proofs.Flow.Accepted
import Flowline.Proofs.Interpreter.Records
import Flowline.Runner

/-!
The course of a flow: the steps that one run of it dispatches, those of its steps and then, if these
failed as steps do, those of its fallback. Each has its place in the walk of the whole flow.
-/

namespace Flowline.Runner

/-- What the steps of a flow work with, given its notifiers. -/
def services (r : Runner) (set : NotifierSet) : Services := ⟨set, r.label, r.httpClient⟩

/-- The course of the fallback of a flow, from what the failed steps left. -/
def fallbackCourse (r : Runner) (s : Services) (left : Run) : List Dispatch :=
  Interpreter.dispatches s (Step.walk r.flow.steps).length r.flow.uponFailure left

/-- The course of a flow on a fresh run. -/
def stepsCourse (r : Runner) (s : Services) (start : Run) : List Dispatch :=
  Interpreter.dispatches s 0 r.flow.steps start ++
    match (Interpreter.run s r.flow.steps start).result with
    | .ok _ => []
    | .error f =>
        if f.kind.isFlowError then r.fallbackCourse s (Interpreter.run s r.flow.steps start).state
        else []

/-- The course of one run of a flow. Without notifiers nothing is dispatched. -/
def course (r : Runner) (w : World) : List Dispatch :=
  match NotifierSet.build r.settings r.flow.notifiers with
  | .ok set => r.stepsCourse (r.services set) ⟨w, .fresh⟩
  | .error _ => []

variable {r : Runner} {set : NotifierSet}

theorem course_of_build (h : NotifierSet.build r.settings r.flow.notifiers = .ok set) (w : World) :
    r.course w = r.stepsCourse (r.services set) ⟨w, .fresh⟩ := by
  rw [course, h]

/-- Each place of a flow is dispatched at most once in a run, and in the order of the walk of its
steps and its fallback. -/
theorem stepsCourse_sublist_walk (r : Runner) (s : Services) (start : Run) :
    ((r.stepsCourse s start).map fun d => (d.step, d.index)).Sublist
      (Step.walk (r.flow.steps ++ r.flow.uponFailure)).zipIdx := by
  rw [stepsCourse, Step.walk_append, List.zipIdx_append, List.map_append, Nat.zero_add]
  refine (Interpreter.dispatches_sublist_walk s 0 r.flow.steps start).append ?_
  split
  · exact List.nil_sublist _
  · split
    · exact Interpreter.dispatches_sublist_walk s _ r.flow.uponFailure _
    · exact List.nil_sublist _

theorem course_sublist_walk (r : Runner) (w : World) :
    ((r.course w).map fun d => (d.step, d.index)).Sublist
      (Step.walk (r.flow.steps ++ r.flow.uponFailure)).zipIdx := by
  rw [course]
  split
  · exact stepsCourse_sublist_walk r _ _
  · exact List.nil_sublist _

/-- A dispatched step stands in the tree. -/
theorem mem_walk_of_mem_course {w : World} {d : Dispatch} (h : d ∈ r.course w) :
    d.step ∈ Step.walk (r.flow.steps ++ r.flow.uponFailure) := by
  have hPlace := (course_sublist_walk r w).subset (List.mem_map_of_mem h)
  exact List.fst_mem_of_mem_zipIdx hPlace

/-! ## What is seen of a run -/

/-- What can be seen of the records around steps: nothing. -/
structure Blind {β : Type} (show? : Event → Option β) : Prop where
  completed : ∀ s, show? (Interpreter.completedRecord s) = none
  runner : ∀ level message fields error,
    show? (.logged ⟨level, .runner, message, fields, error⟩) = none
  factory : ∀ level message fields error,
    show? (.logged ⟨level, .factory, message, fields, error⟩) = none

variable {β : Type} {show? : Event → Option β}

/-- What the own part of a dispatched step shows, and the record of its start. -/
def shown (s : Services) (show? : Event → Option β) (d : Dispatch) : List β :=
  (Interpreter.starting s d.step :: (d.own s).events).filterMap show?

theorem Blind.log (h : Blind show?) {level : Log.Level} {message : String} :
    (r.log level message : Action Run Unit).Emits fun e => show? e = none :=
  .log (h.runner _ _ _ _)

theorem Blind.logError (h : Blind show?) {message : String} {f : Failure} :
    (r.logError message f : Action Run Unit).Emits fun e => show? e = none := by
  intro start e hMem
  rw [List.mem_singleton.mp hMem]
  exact h.runner _ _ _ _

/-- Handlers that only write records of the runner show nothing. -/
theorem filterMap_fork_of_silent {x : Action Run Unit} {next : Unit → Action Run Outcome}
    {handle : Failure → Action Run Outcome} {start : Run}
    (hNext : ∀ a, (next a).Emits fun e => show? e = none)
    (hHandle : ∀ f, (x start).result = .error f → ∀ t, ∀ e ∈ (handle f t).events, show? e = none) :
    (x.fork next handle start).events.filterMap show? = (x start).events.filterMap show? := by
  cases hResult : (x start).result with
  | ok a =>
      rw [Action.fork_of_ok _ _ hResult, Done.events_after, List.filterMap_append,
        List.filterMap_eq_nil_iff.mpr (hNext a _), List.append_nil]
  | error f =>
      rw [Action.fork_of_error _ _ hResult, Done.events_after, List.filterMap_append,
        List.filterMap_eq_nil_iff.mpr (hHandle f hResult _), List.append_nil]

theorem filterMap_events_fallback (h : Blind show?) (r : Runner) (s : Services) (left : Run) :
    (r.runFallback s left).events.filterMap show? =
      (r.fallbackCourse s left).flatMap (shown s show?) := by
  have hRun := Interpreter.filterMap_events_run s show? (h.completed s)
    (Step.walk r.flow.steps).length r.flow.uponFailure left
  rw [runFallback, Action.bind_of_ok _ (x := r.log .info "Entering flow fallback") (a := ()) rfl,
    Done.events_after, List.filterMap_append,
    List.filterMap_eq_nil_iff.mpr (h.log (r := r) left), List.nil_append,
    filterMap_fork_of_silent (fun _ => h.log.bind fun _ => .pure _) fun f _ => ?_]
  · exact hRun
  · exact Action.Emits.ite (P := fun e => show? e = none) (h.log.bind fun _ => .pure _)
      (h.logError.bind fun _ => .pure _)

theorem filterMap_events_steps (h : Blind show?) (r : Runner) (s : Services) (start : Run) :
    (r.runSteps s start).events.filterMap show? =
      (r.stepsCourse s start).flatMap (shown s show?) := by
  have hRun := Interpreter.filterMap_events_run s show? (h.completed s) 0 r.flow.steps start
  rw [stepsCourse, List.flatMap_append, runSteps]
  cases hResult : (Interpreter.run s r.flow.steps start).result with
  | ok u =>
      have hNoFailure (f : Failure) : (Interpreter.run s r.flow.steps start).result ≠ .error f := by
        rw [hResult]
        simp
      rw [filterMap_fork_of_silent (fun _ => h.log.bind fun _ => .pure _)
        fun f hFailed => (hNoFailure f hFailed).elim]
      exact hRun.trans (List.append_nil _).symm
  | error f =>
      rw [Action.fork_of_error _ _ hResult, Done.events_after, List.filterMap_append, hRun]
      refine congrArg (_ ++ ·) ?_
      by_cases hFlow : f.kind.isFlowError = true
      · simp only [if_pos hFlow]
        rw [Action.bind_of_ok _ (x := r.log .warning ("Flow failed: " ++ f.text)) (a := ()) rfl,
          Done.events_after, List.filterMap_append,
          List.filterMap_eq_nil_iff.mpr (h.log (r := r) _), List.nil_append]
        split
        · rename_i hEmpty
          rw [fallbackCourse, List.isEmpty_iff.mp hEmpty, Interpreter.dispatches_nil]
          refine List.filterMap_eq_nil_iff.mpr ?_
          exact (h.log.bind fun _ => .pure _ : Action.Emits _ _) _
        · exact filterMap_events_fallback h r s _
      · simp only [if_neg hFlow]
        refine List.filterMap_eq_nil_iff.mpr ?_
        exact (h.logError.bind fun _ => .pure _ : Action.Emits _ _) _

/-! ## Setting up -/

theorem runOnce_of_build (h : NotifierSet.build r.settings r.flow.notifiers = .ok set) (w : World) :
    r.runOnce w =
      let d := r.runSteps (r.services set) ⟨w, .fresh⟩
      ⟨d.result,
        .logged ⟨.info, .runner, "Flow run started", r.fields, none⟩ ::
          .logged ⟨.debug, .factory, "Built notifiers",
            [("notifiers", .list (set.sortedNames.map .text))], none⟩ :: d.events,
        d.state.world⟩ := by
  rw [runOnce, NotifierSet.setUp, h]
  rfl

theorem runOnce_of_build_error {f : Failure}
    (h : NotifierSet.build r.settings r.flow.notifiers = .error f) (w : World) :
    r.runOnce w = ⟨.ok .failed,
      [.logged ⟨.info, .runner, "Flow run started", r.fields, none⟩,
        .logged ⟨.error, .runner, "Could not set up notifiers", r.fields, some f⟩], w⟩ := by
  rw [runOnce, NotifierSet.setUp, h]
  rfl

/-- What is seen of a run is what the own parts of its dispatched steps show. -/
theorem filterMap_events_runOnce (hBlind : Blind show?)
    (h : NotifierSet.build r.settings r.flow.notifiers = .ok set) (w : World) :
    (r.runOnce w).events.filterMap show? = (r.course w).flatMap (shown (r.services set) show?) := by
  rw [runOnce_of_build h, course_of_build h, ← filterMap_events_steps hBlind]
  rw [List.filterMap_cons_none (hBlind.runner _ _ _ _),
    List.filterMap_cons_none (hBlind.factory _ _ _ _)]

theorem blind_startedKind : Blind Event.startedKind? where
  completed _ := rfl
  runner _ _ _ _ := Interpreter.startedKind?_of_logger (by simp)
  factory _ _ _ _ := Interpreter.startedKind?_of_logger (by simp)

/-- The log of a run tells the kinds of the steps of its course, in order. -/
theorem startedKinds_runOnce (r : Runner) (w : World) :
    (r.runOnce w).events.filterMap Event.startedKind? =
      (r.course w).map fun d => d.step.kind.name := by
  cases hBuild : NotifierSet.build r.settings r.flow.notifiers with
  | ok set =>
      rw [filterMap_events_runOnce blind_startedKind hBuild, List.map_eq_flatMap]
      congr 1
      funext d
      exact Interpreter.startedKinds_own _ d
  | error f =>
      rw [runOnce_of_build_error hBuild, course, hBuild]
      simp [Interpreter.startedKind?_of_logger]

/-- The watch on a page with the settings where nothing is given. -/
def watch : Runner := ⟨Watch.flow, .standard⟩

end Flowline.Runner
