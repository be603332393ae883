import Flowline.Proofs.Interpreter.Budget
import Flowline.Proofs.Runner.Outcome
import Mathlib.Algebra.Order.BigOperators.Group.List
import Mathlib.Algebra.Order.Ring.Nat

/-!
Budgets of runs. A run of an accepted flow dispatches each place of its tree at most once, in the
order of the walk, and each dispatched step keeps to its own budget; so the run ends, and the
requests of its steps are at most as many as the budgets of all steps in the tree sum up to. A step
may send less than one request: a text that has no form in bytes is not sent at all.
-/

namespace Flowline.Runner

variable {r : Runner} {set : NotifierSet}

/-- Each run comes to an outcome, whatever fails in it. -/
theorem succeeds_runOnce (r : Runner) : r.runOnce.Succeeds := fun w => (result_runOnce r w).1

theorem blind_stepRequest : Blind Event.stepRequest? where
  completed _ := rfl
  runner _ _ _ _ := rfl
  factory _ _ _ _ := rfl

theorem timely_of_mem_course (hAccepted : r.flow.Accepted) {w : World} {d : Dispatch}
    (hMem : d ∈ r.course w) : d.step.Timely :=
  (hAccepted.sound.steps d.step (mem_walk_of_mem_course hMem)).timely

/-- The budgets of the dispatched steps are among those of all steps. -/
theorem sum_budget_course_le (r : Runner) (w : World) :
    ((r.course w).map fun d => d.step.requestBudget).sum ≤
      ((Step.walk (r.flow.steps ++ r.flow.uponFailure)).map Step.requestBudget).sum := by
  have hSteps := ((course_sublist_walk r w).map Prod.fst).map Step.requestBudget
  rw [List.zipIdx_map_fst, List.map_map, List.map_map] at hSteps
  exact hSteps.sum_le_sum fun _ _ => Nat.zero_le _

theorem length_stepRequests_runOnce_le (hAccepted : r.flow.Accepted) (w : World) :
    ((r.runOnce w).events.filterMap Event.stepRequest?).length ≤
      ((Step.walk (r.flow.steps ++ r.flow.uponFailure)).map Step.requestBudget).sum := by
  cases hBuild : NotifierSet.build r.settings r.flow.notifiers with
  | error f =>
      rw [runOnce_of_build_error hBuild]
      exact Nat.zero_le _
  | ok set =>
      rw [filterMap_events_runOnce blind_stepRequest hBuild, List.length_flatMap]
      refine Nat.le_trans (List.sum_le_sum fun d hMem => ?_) (sum_budget_course_le r w)
      exact Dispatch.stepRequests_le (timely_of_mem_course hAccepted hMem)

theorem blind_guard : Blind (Option.guard fun e : Event => !e.isLogged) where
  completed _ := rfl
  runner _ _ _ _ := rfl
  factory _ _ _ _ := rfl

/-- Records aside, nothing happens in a run but the own parts of the steps that it dispatches. -/
theorem quiet_events_runOnce (hBuild : NotifierSet.build r.settings r.flow.notifiers = .ok set)
    (w : World) :
    (r.runOnce w).events.filter (!·.isLogged) =
      (r.course w).flatMap fun d => (d.own (r.services set)).events.filter (!·.isLogged) := by
  have hEvents := filterMap_events_runOnce blind_guard hBuild w
  rw [List.filterMap_eq_filter] at hEvents
  rw [hEvents]
  congr 1
  funext d
  rw [shown, List.filterMap_eq_filter]
  rfl

/-- One run of an accepted flow dispatches steps at places that are a part of the walk of its steps
and its fallback, in order. Nothing else happens in it, and each of these steps keeps to the budget
of its kind. So it comes to an outcome, after no more steps than the tree has and no more requests
of steps than the budgets of all its steps allow. -/
theorem runs_keep_to_budget {r : Runner} (hAccepted : r.flow.Accepted) (w : World) :
    ((r.course w).map fun d => (d.step, d.index)).Sublist
      (Step.walk (r.flow.steps ++ r.flow.uponFailure)).zipIdx ∧
    ((r.runOnce w).events.filterMap Event.startedKind? =
      (r.course w).map fun d => d.step.kind.name) ∧
    (∀ set, NotifierSet.build r.settings r.flow.notifiers = .ok set →
      ((r.runOnce w).events.filter (!·.isLogged) =
        (r.course w).flatMap fun d => (d.own (r.services set)).events.filter (!·.isLogged)) ∧
      ∀ d ∈ r.course w, d.WithinBudget (r.services set)) ∧
    (∃ outcome, (r.runOnce w).result = .ok outcome) ∧
    (r.course w).length ≤ (Step.walk (r.flow.steps ++ r.flow.uponFailure)).length ∧
    ((r.runOnce w).events.filterMap Event.stepRequest?).length ≤
      ((Step.walk (r.flow.steps ++ r.flow.uponFailure)).map Step.requestBudget).sum := by
  have hPlaces := course_sublist_walk r w
  refine ⟨hPlaces, startedKinds_runOnce r w, fun set hBuild => ⟨quiet_events_runOnce hBuild w, ?_⟩,
    succeeds_runOnce r w, ?_, length_stepRequests_runOnce_le hAccepted w⟩
  · intro d hMem
    exact Dispatch.withinBudget (timely_of_mem_course hAccepted hMem)
  · have hLength := hPlaces.length_le
    rw [List.length_map, List.length_zipIdx] at hLength
    exact hLength

/-- The watch has four places, of which one may send three requests. -/
theorem runs_keep_to_budget_watch :
    watch.flow.Accepted ∧ (watch.course Interpreter.stillRun.world).length ≤ 4 ∧
      ((watch.runOnce Interpreter.stillRun.world).events.filterMap
        Event.stepRequest?).length ≤ 3 := by
  have hBudget := runs_keep_to_budget (r := watch) Watch.accepted Interpreter.stillRun.world
  obtain ⟨-, -, -, -, hPlaces, hRequests⟩ := hBudget
  have hWalk : (Step.walk (watch.flow.steps ++ watch.flow.uponFailure)).length = 4 := rfl
  have hSum : ((Step.walk (watch.flow.steps ++ watch.flow.uponFailure)).map
      Step.requestBudget).sum = 3 := rfl
  rw [hWalk] at hPlaces
  rw [hSum] at hRequests
  exact ⟨Watch.accepted, hPlaces, hRequests⟩

end Flowline.Runner

namespace Flowline

namespace Watch

def postEntries : Entries :=
  [(.text "kind", .text "post_url"), (.text "url", .text "hook"), (.text "body", .torn .lone),
    (.text "fail", failValue [])]

/-- Posts a text that has no form in bytes. -/
def post : Step := .postUrl "hook" (.torn .lone) [] retry []

def postFlow : FlowDefinition := { flow with notifiers := [], steps := [post], uponFailure := [] }

theorem accepted_post : postFlow.Accepted := by
  have hStep : Schema.step (.map postEntries) = .valid post := by
    rw [Schema.step]
    change (Schema.failableStep .postUrl _ (Schema.failField _)).within _ = _
    rw [failField_eq postEntries rfl stepList_nil]
    rfl
  refine .ofValue (.map [(.text "steps", .list [.map postEntries])]) ?_
  change ((Schema.model _ _ (FlowDefinition.mk <$> .valid none <*> .valid none <*> .valid [] <*>
    (Schema.stepList (.list [.map postEntries])).within _ <*> .valid [])).andThen
      Schema.wellReferenced) = _
  rw [stepList_cons hStep stepList_nil]
  rfl

end Watch

namespace Runner

def poster : Runner := ⟨Watch.postFlow, .standard⟩

/-- A step that may send three requests is dispatched and sends none. -/
theorem post_sends_nothing : poster.flow.Accepted ∧
    ∃ d ∈ poster.course Interpreter.stillRun.world, d.step.requestBudget = 3 ∧
      ∀ s, (d.own s).requests = [] := by
  have hDuration : Watch.retry.interval.IsDuration := by
    dsimp only [Watch.retry]
    exact Schema.isDuration_standard
  have hIdle (s : Services) : Dispatch.Idle s ⟨0, Watch.post, Interpreter.stillRun⟩ ∧
      (Dispatch.own s ⟨0, Watch.post, Interpreter.stillRun⟩).result = .error (.unencodable .lone) :=
    Dispatch.idle_of_torn hDuration
  have hBuild : NotifierSet.build poster.settings poster.flow.notifiers = .ok [] := rfl
  refine ⟨Watch.accepted_post, ⟨0, Watch.post, Interpreter.stillRun⟩, ?_, rfl, fun s => ?_⟩
  · rw [course_of_build hBuild, stepsCourse]
    refine List.mem_append_left _ ?_
    have hAll : Interpreter.dispatches (poster.services []) 0 [Watch.post] Interpreter.stillRun =
        [⟨0, Watch.post, Interpreter.stillRun⟩] :=
      Interpreter.dispatches_cons_of_error (hIdle _).2
    exact hAll ▸ List.mem_singleton_self _
  · exact (hIdle s).1.filterMap fun _ => rfl

end Runner

end Flowline
