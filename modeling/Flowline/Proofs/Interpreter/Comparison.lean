import Flowline.Proofs.Comparison.Collaborators
import Flowline.Proofs.Interpreter.Course

/-!
Runs of steps that are compared. Two runs of a list of steps come to the same if the own part of each
step in the tree does. That is so if the two differ in chats alone and start in the same state.
-/

namespace Flowline

/-- A comparison of worlds as one of runs, which have the same state. -/
def Comparison.onRun (c : Comparison World World) : Comparison Run Run where
  states ahead r t := c.states ahead r.world t.world ∧ r.state = t.state
  events := c.events
  logged := c.logged
  passed entry ahead r t h := ⟨c.passed entry ahead r.world t.world h.1, h.2⟩

theorem Action.Alike.world {α β : Type} {c : Comparison World World} {R : α → β → Prop}
    {x : Action World α} {y : Action World β} (h : x.Alike c R y) :
    (Run.inWorld x).Alike c.onRun R (Run.inWorld y) := by
  intro ahead r t hStates
  obtain ⟨hResult, hEvents, hWorlds⟩ := h ahead r.world t.world hStates.1
  exact ⟨hResult, hEvents, hWorlds, hStates.2⟩

/-- Services that differ in chats alone. -/
structure Services.Like (T : Telegram → Telegram → Prop) (s other : Services) : Prop where
  notifiers : s.notifiers.Like T other.notifiers
  label : s.label = other.label
  http : s.http = other.http

namespace Interpreter

variable {c : Comparison World World} {T : Telegram → Telegram → Prop} {s other : Services}

/-! ## Own parts -/

theorem alike_log (C : Comparison Run Run) (hLabel : s.label = other.label) {level : Log.Level}
    {message : String} {fields : List (String × Value)} :
    (log s level message fields).Alike C Eq (log other level message fields) := by
  rw [log, log, flowField, flowField, hLabel]
  exact .log

theorem alike_input (name : Option String) : (Run.input name).Alike c.onRun Eq (Run.input name) := by
  intro ahead r t hStates
  refine ⟨?_, .nil, hStates⟩
  rw [Run.input, Run.input, hStates.2]
  exact .refl (fun _ => rfl) _

theorem alike_rendered (template : String) :
    (rendered template).Alike c.onRun Eq (rendered template) := by
  intro ahead r t hStates
  refine ⟨?_, .nil, hStates⟩
  rw [rendered, rendered, hStates.2]
  exact .ok rfl

theorem alike_snapshot : snapshot.Alike c.onRun Eq snapshot := by
  intro ahead r t hStates
  refine ⟨?_, .nil, hStates⟩
  rw [snapshot, snapshot, hStates.2]
  exact .ok rfl

theorem alike_setOutput (name : Option String) (value : String) :
    (Run.setOutput name value).Alike c.onRun Eq (Run.setOutput name value) := by
  intro ahead r t hStates
  refine ⟨.ok rfl, .nil, hStates.1, ?_⟩
  rw [Run.setOutput, Action.modifyState, Action.modifyState, hStates.2]

theorem alike_operation (h : c.Worldly T) (hServices : s.Like T other) (step : Step) :
    (operation s step).Alike c.onRun Eq (operation other step) := by
  cases step with
  | abortFlow => exact (alike_log _ hServices.label).bindEq fun _ => .fail _
  | debugState =>
      exact alike_snapshot.bindEq fun _ => (alike_log _ hServices.label).bindEq fun _ => .pure rfl
  | sleep duration => exact (h.sleep _).world.bindEq fun _ => .pure rfl
  | setVariable outputVar value => exact .pure rfl
  | notify name template retry fallback =>
      refine (Action.Alike.ofResult (hServices.notifiers.require name)).bind fun n n' hLike => ?_
      refine (alike_rendered template).bindEq fun message => ?_
      exact (Notifier.alike_send h message n n' hLike).world.bindEq fun _ => .pure rfl
  | getUrl url outputVar retry fallback =>
      rw [operation, operation, hServices.http]
      exact (HttpClient.alike_getText h other.http url _ _).world.bindEq fun _ => .pure rfl
  | postUrl url body headers retry fallback =>
      rw [operation, operation, hServices.http]
      exact (HttpClient.alike_postText h other.http url _ _ body headers).world.bindEq
        fun _ => .pure rfl
  | readText path outputVar retry fallback =>
      exact (FileAccess.alike_readText h _ _ _).world.bindEq fun _ => .pure rfl
  | appendText path inputVar retry fallback =>
      refine (alike_input inputVar).bindEq fun text => ?_
      exact (FileAccess.alike_appendLine h _ _ _ text).world.bindEq fun _ => .pure rfl
  | extractCapture inputVar outputVar pattern retry fallback =>
      refine (alike_input inputVar).bindEq fun text => ?_
      exact (Action.Alike.ofResult (.refl (fun _ => rfl) _)).bindEq fun _ => .pure rfl
  | compareVar inputVar compareWith compareFor ifTrue ifFalse =>
      exact (alike_input inputVar).bindEq fun value => .ite (.fail _) (.pure rfl)

/-- The own part of a step comes to the same if its operation does, whether this succeeds or fails, and
if outputs are recorded alike. -/
theorem alike_dispatch_of_operation {C : Comparison Run Run} (hLabel : s.label = other.label)
    {step : Step} (hOperation : (operation s step).Alike C Eq (operation other step))
    (hOutput : ∀ value, (Run.setOutput step.outputVar value).Alike C Eq
      (Run.setOutput step.outputVar value)) :
    (dispatch s step).Alike C Eq (dispatch other step) := by
  refine hOperation.forkEq (fun y => ?_) fun f => .ite ?_ (.fail f)
  · cases y with
    | nothing => exact .pure rfl
    | output text => exact (hOutput text).bindEq fun _ => .pure rfl
    | arm taken => exact .pure rfl
  · refine (alike_log C hLabel).bindEq fun _ => .ite (.fail _) ?_
    exact (alike_log C hLabel).bindEq fun _ => .pure rfl

theorem alike_dispatch (h : c.Worldly T) (hServices : s.Like T other) (step : Step) :
    (dispatch s step).Alike c.onRun Eq (dispatch other step) :=
  alike_dispatch_of_operation hServices.label (alike_operation h hServices step) (alike_setOutput _)

/-! ## Runs -/

/-- If the own part of each step of a tree comes to the same, so does the run of the tree. -/
theorem alike_run {C : Comparison Run Run} (hLabel : s.label = other.label) (steps : List Step)
    (hOwn : ∀ step ∈ Step.walk steps, (dispatch s step).Alike C Eq (dispatch other step)) :
    (run s steps).Alike C Eq (run other steps) := by
  induction steps using Step.nested_induction with
  | nil => exact .succeed rfl
  | cons step rest ihNested ihRest =>
      rw [Step.walk] at hOwn
      obtain ⟨hStep, hRest⟩ := List.forall_mem_append.mp hOwn
      have hFollow (next : Next) : (follow s step next).Alike C Eq (follow other step next) := by
        refine (ihNested next fun d hMem => ?_).bindEq fun _ => ?_
        · exact hStep d (Step.mem_withDescendants_of_nested hMem)
        · cases next with
          | fallback => exact alike_log C hLabel
          | finished => exact .succeed rfl
          | arm taken => exact .succeed rfl
      rw [run, run, execute_eq, execute_eq, flowField, flowField, hLabel]
      refine Action.Alike.log.bindEq fun _ => ?_
      refine ((hStep step (Step.mem_withDescendants_self step)).bindEq hFollow).bindEq fun _ => ?_
      exact ihRest hRest

/-- Dispatched steps that stand at one place, and that begin in states of a pair. -/
structure DispatchedAlike (C : Comparison Run Run) (d e : Dispatch) : Prop where
  index : d.index = e.index
  step : d.step = e.step
  before : ∃ ahead, C.states ahead d.before e.before

/-- Two runs whose own parts come to the same dispatch the same steps. -/
theorem alike_dispatches {C : Comparison Run Run} (hLabel : s.label = other.label)
    (steps : List Step)
    (hOwn : ∀ step ∈ Step.walk steps, (dispatch s step).Alike C Eq (dispatch other step))
    (first : Nat) (ahead : List Event) (r t : Run)
    (hStates : C.states ((run s steps r).events ++ ahead) r t) :
    List.Forall₂ (DispatchedAlike C) (dispatches s first steps r)
      (dispatches other first steps t) := by
  induction steps using Step.nested_induction generalizing first ahead r t with
  | nil =>
      rw [dispatches_nil, dispatches_nil]
      exact .nil
  | cons step rest ihNested ihRest =>
      rw [Step.walk] at hOwn
      obtain ⟨hStep, hRest⟩ := List.forall_mem_append.mp hOwn
      have hSelf := hStep step (Step.mem_withDescendants_self step)
      have hInner (next : Next) (d : Step) (hMem : d ∈ Step.walk (step.nested next)) :=
        hStep d (Step.mem_withDescendants_of_nested hMem)
      have hHead : DispatchedAlike C ⟨first, step, r⟩ ⟨first, step, t⟩ := ⟨rfl, rfl, _, hStates⟩
      rcases cons_cases s step r with ⟨f, h⟩ | ⟨next, f, h, hNested⟩ | ⟨next, h, hNested⟩
      · rw [run_cons_of_error h] at hStates
        have hFirst := hSelf _ r t (C.passed _ _ r t hStates)
        have hOther : (dispatch other step t).result = .error f := hFirst.result.eq.symm.trans h
        rw [dispatches_cons_of_error h, dispatches_cons_of_error hOther]
        exact .cons hHead .nil
      · simp only [run_cons_of_nested_error h hNested, Done.events_after, List.cons_append,
          List.append_assoc] at hStates
        have hFirst := hSelf _ r t (C.passed _ _ r t hStates)
        have hOther : (dispatch other step t).result = .ok next := hFirst.result.eq.symm.trans h
        have hSecond := alike_run hLabel (step.nested next) (hInner next) _ _ _ hFirst.states
        rw [dispatches_cons_of_nested_error h hNested,
          dispatches_cons_of_nested_error hOther (hSecond.result.eq.symm.trans hNested)]
        exact .cons hHead (ihNested next (hInner next) _ _ _ _ hFirst.states)
      · simp only [run_cons_of_ok h hNested, Done.events_after, List.cons_append,
          List.append_assoc] at hStates
        have hFirst := hSelf _ r t (C.passed _ _ r t hStates)
        have hOther : (dispatch other step t).result = .ok next := hFirst.result.eq.symm.trans h
        have hSecond := alike_run hLabel (step.nested next) (hInner next) _ _ _ hFirst.states
        have hLeft := hSecond.states
        rw [dispatches_cons_of_ok h hNested,
          dispatches_cons_of_ok hOther (hSecond.result.eq.symm.trans hNested)]
        have hAfter : C.states ((run s rest (run s (step.nested next)
            (dispatch s step r).state).state).events ++ ahead)
            (run s (step.nested next) (dispatch s step r).state).state
            (run other (step.nested next) (dispatch other step t).state).state := by
          cases next with
          | fallback => exact C.passed _ _ _ _ hLeft
          | finished => exact hLeft
          | arm taken => exact hLeft
        refine .cons hHead (List.rel_append ?_ ?_)
        · exact ihNested next (hInner next) _ _ _ _ hFirst.states
        · exact ihRest hRest _ _ _ _ hAfter

theorem alike_run_of_like (h : c.Worldly T) (hServices : s.Like T other) (steps : List Step) :
    (run s steps).Alike c.onRun Eq (run other steps) :=
  alike_run hServices.label steps fun step _ => alike_dispatch h hServices step

end Interpreter

end Flowline
