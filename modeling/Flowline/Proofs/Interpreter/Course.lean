import Flowline.Proofs.Interpreter.Dispatch

/-!
The course of a run: the steps that it dispatches, in order, each with its place in the walk of the
tree and with the state in which its own part began. The run has no other effects than these own
parts, and each place is dispatched at most once, in the order of the walk.
-/

namespace Flowline

/-- A step that is dispatched: its index in the walk of the tree, and the run up to it. -/
structure Dispatch where
  index : Nat
  step : Step
  before : Run

namespace Dispatch

/-- The own part of a dispatched step. -/
def own (s : Services) (d : Dispatch) : Done Run Next := Interpreter.dispatch s d.step d.before

/-- The whole execution of a dispatched step. -/
def whole (s : Services) (d : Dispatch) : Done Run Unit := Interpreter.execute s d.step d.before

end Dispatch

namespace Step

/-- How far the list that is run next stands behind the step in the walk, the step itself aside. -/
def offset : Step → Next → Nat
  | compareVar _ _ _ ifTrue _, .arm false => (walk ifTrue).length
  | _, _ => 0

/-- The walk visits a step and then, at its place, the list that is run next. -/
theorem sublist_withDescendants (step : Step) (next : Next) (first : Nat) :
    ((step, first) :: (walk (step.nested next)).zipIdx (first + 1 + step.offset next)).Sublist
      ((withDescendants step).zipIdx first) := by
  cases step <;> cases next <;>
    simp only [nested, fallback, offset, withDescendants, walk, List.zipIdx_cons, List.zipIdx_nil,
      List.zipIdx_append] <;>
    try simp
  rename_i taken
  cases taken <;> simp

/-- All steps of a list that a step holds are among the step's descendants. -/
theorem mem_withDescendants_of_nested {step d : Step} {next : Next}
    (h : d ∈ walk (step.nested next)) : d ∈ withDescendants step := by
  have hSublist := (sublist_withDescendants step next 0).map Prod.fst
  rw [List.map_cons, List.zipIdx_map_fst, List.zipIdx_map_fst] at hSublist
  exact hSublist.subset (List.mem_cons_of_mem _ h)

theorem mem_withDescendants_self (step : Step) : step ∈ withDescendants step := by
  cases step <;> exact List.mem_cons_self

end Step

namespace Interpreter

/-- The steps that a run of a list dispatches, where the first place of the list has an index. -/
def dispatches (s : Services) (first : Nat) : List Step → Run → List Dispatch
  | [], _ => []
  | step :: rest, r =>
      let own := dispatch s step r
      ⟨first, step, r⟩ :: match own.result with
        | .error _ => []
        | .ok next =>
            let inner := run s (step.nested next) own.state
            dispatches s (first + 1 + step.offset next) (step.nested next) own.state ++
              match inner.result with
              | .error _ => []
              | .ok () => dispatches s (first + (Step.withDescendants step).length) rest inner.state
termination_by steps => sizeOf steps
decreasing_by
  · have := step.sizeOf_nested_le next
    simp only [List.cons.sizeOf_spec]
    omega
  · simp +arith

variable {s : Services} {first : Nat} {step : Step} {rest : List Step} {r : Run}

@[simp] theorem dispatches_nil (s : Services) (first : Nat) (r : Run) :
    dispatches s first [] r = [] := by
  rw [dispatches]

theorem dispatches_cons_of_error {f : Failure} (h : (dispatch s step r).result = .error f) :
    dispatches s first (step :: rest) r = [⟨first, step, r⟩] := by
  rw [dispatches]
  simp only [h]

theorem dispatches_cons_of_nested_error {next : Next} {f : Failure}
    (h : (dispatch s step r).result = .ok next)
    (hNested : (run s (step.nested next) (dispatch s step r).state).result = .error f) :
    dispatches s first (step :: rest) r = ⟨first, step, r⟩ ::
      dispatches s (first + 1 + step.offset next) (step.nested next) (dispatch s step r).state := by
  rw [dispatches]
  simp only [h, hNested, List.append_nil]

theorem dispatches_cons_of_ok {next : Next} (h : (dispatch s step r).result = .ok next)
    (hNested : (run s (step.nested next) (dispatch s step r).state).result = .ok ()) :
    dispatches s first (step :: rest) r = ⟨first, step, r⟩ ::
      (dispatches s (first + 1 + step.offset next) (step.nested next) (dispatch s step r).state ++
        dispatches s (first + (Step.withDescendants step).length) rest
          (run s (step.nested next) (dispatch s step r).state).state) := by
  rw [dispatches]
  simp only [h, hNested]

/-- The three ways in which a step at the head of a list can go: its own part fails, the list that
it leads to fails, or the run of the list around it goes on. -/
theorem cons_cases (s : Services) (step : Step) (r : Run) :
    (∃ f, (dispatch s step r).result = .error f) ∨
    (∃ next f, (dispatch s step r).result = .ok next ∧
      (run s (step.nested next) (dispatch s step r).state).result = .error f) ∨
    (∃ next, (dispatch s step r).result = .ok next ∧
      (run s (step.nested next) (dispatch s step r).state).result = .ok ()) := by
  cases hOwn : (dispatch s step r).result with
  | error f => exact .inl ⟨f, rfl⟩
  | ok next =>
      cases hNested : (run s (step.nested next) (dispatch s step r).state).result with
      | error f => exact .inr (.inl ⟨next, f, rfl, hNested⟩)
      | ok _ => exact .inr (.inr ⟨next, rfl, hNested⟩)

/-- What a run shows of each event is what the own parts of its dispatched steps show, as long as
the records around fallbacks show nothing. -/
theorem filterMap_events_run {β : Type} (s : Services) (show? : Event → Option β)
    (hCompleted : show? (completedRecord s) = none)
    (first : Nat) (steps : List Step) (r : Run) :
    (run s steps r).events.filterMap show? = (dispatches s first steps r).flatMap fun d =>
      (starting s d.step :: (d.own s).events).filterMap show? := by
  induction steps using Step.nested_induction generalizing first r with
  | nil => simp
  | cons step rest ihNested ihRest =>
      have hSilent (next : Next) : (closingEvents s next).filterMap show? = [] :=
        List.filterMap_eq_nil_iff.mpr (forall_mem_closingEvents hCompleted next)
      rcases cons_cases s step r with ⟨f, h⟩ | ⟨next, f, h, hNested⟩ | ⟨next, h, hNested⟩
      · rw [run_cons_of_error h, dispatches_cons_of_error h]
        simp [Dispatch.own]
      · rw [run_cons_of_nested_error h hNested, dispatches_cons_of_nested_error h hNested,
          List.flatMap_cons, ← ihNested, Done.events_after, List.filterMap_append]
        rfl
      · rw [run_cons_of_ok h hNested, dispatches_cons_of_ok h hNested, List.flatMap_cons,
          List.flatMap_append, ← ihNested, ← ihRest]
        simp only [Done.events_after, List.filterMap_append, hSilent, List.append_assoc]
        rfl

/-- Each place of the tree is dispatched at most once, and in the order of the walk. -/
theorem dispatches_sublist_walk (s : Services) (first : Nat) (steps : List Step) (r : Run) :
    ((dispatches s first steps r).map fun d => (d.step, d.index)).Sublist
      ((Step.walk steps).zipIdx first) := by
  induction steps using Step.nested_induction generalizing first r with
  | nil => simp
  | cons step rest ihNested ihRest =>
      rw [Step.walk, List.zipIdx_append]
      have hStep (next : Next) (t : Run) :=
        ((ihNested next (first + 1 + step.offset next) t).cons_cons (step, first)).trans
          (step.sublist_withDescendants next first)
      rcases cons_cases s step r with ⟨f, h⟩ | ⟨next, f, h, hNested⟩ | ⟨next, h, hNested⟩
      · rw [dispatches_cons_of_error h]
        have hOnly := ((List.nil_sublist _).cons_cons (step, first)).trans (hStep .finished r)
        exact hOnly.trans (List.sublist_append_left _ _)
      · rw [dispatches_cons_of_nested_error h hNested]
        exact (hStep next _).trans (List.sublist_append_left _ _)
      · rw [dispatches_cons_of_ok h hNested, List.map_cons, List.map_append, ← List.cons_append]
        exact (hStep next _).append (ihRest _ _)

/-- What the own part of each step of a tree preserves holds before every dispatched step, and in the
end. -/
theorem forall_dispatches_of_own {Inv : Run → Prop} (s : Services) (first : Nat) (steps : List Step)
    (r : Run) (hOwn : ∀ step ∈ Step.walk steps, ∀ t, Inv t → Inv (dispatch s step t).state)
    (hStart : Inv r) :
    Inv (run s steps r).state ∧ ∀ d ∈ dispatches s first steps r, Inv d.before := by
  induction steps using Step.nested_induction generalizing first r with
  | nil => exact ⟨hStart, by simp⟩
  | cons step rest ihNested ihRest =>
      rw [Step.walk] at hOwn
      obtain ⟨hStep, hRest⟩ := List.forall_mem_append.mp hOwn
      have hLeft := hStep step (Step.mem_withDescendants_self step) r hStart
      have hNestedOwn (next : Next) (d : Step) (hMem : d ∈ Step.walk (step.nested next)) :=
        hStep d (Step.mem_withDescendants_of_nested hMem)
      rcases cons_cases s step r with ⟨f, h⟩ | ⟨next, f, h, hNested⟩ | ⟨next, h, hNested⟩
      · rw [run_cons_of_error h, dispatches_cons_of_error h]
        exact ⟨hLeft, List.forall_mem_singleton.mpr hStart⟩
      · rw [run_cons_of_nested_error h hNested, dispatches_cons_of_nested_error h hNested]
        obtain ⟨hEnd, hInner⟩ := ihNested next (first + 1 + step.offset next) _ (hNestedOwn next) hLeft
        exact ⟨hEnd, List.forall_mem_cons.mpr ⟨hStart, hInner⟩⟩
      · rw [run_cons_of_ok h hNested, dispatches_cons_of_ok h hNested]
        obtain ⟨hMiddle, hInner⟩ :=
          ihNested next (first + 1 + step.offset next) _ (hNestedOwn next) hLeft
        obtain ⟨hEnd, hOuter⟩ :=
          ihRest (first + (Step.withDescendants step).length) _ hRest hMiddle
        exact ⟨hEnd, List.forall_mem_cons.mpr
          ⟨hStart, List.forall_mem_append.mpr ⟨hInner, hOuter⟩⟩⟩

/-- Every dispatched step is one of the tree. -/
theorem mem_walk_of_mem_dispatches {s : Services} {first : Nat} {steps : List Step} {r : Run}
    {d : Dispatch} (h : d ∈ dispatches s first steps r) : d.step ∈ Step.walk steps := by
  have hPlace := (dispatches_sublist_walk s first steps r).subset (List.mem_map_of_mem h)
  exact List.fst_mem_of_mem_zipIdx hPlace

/-- Dispatched steps of which each begins with what the own part of the one before it left. -/
inductive Linked (s : Services) : Run → List Dispatch → Run → Prop where
  | nil (r : Run) : Linked s r [] r
  | cons {d : Dispatch} {rest : List Dispatch} {last : Run}
      (link : Linked s (d.own s).state rest last) : Linked s d.before (d :: rest) last

theorem Linked.append {first second : List Dispatch} {middle last : Run}
    (hFirst : Linked s r first middle) (hSecond : Linked s middle second last) :
    Linked s r (first ++ second) last := by
  induction hFirst with
  | nil r => exact hSecond
  | cons link ih => exact .cons (ih hSecond)

/-- From its beginning to its end a run goes from one dispatched step to the next. -/
theorem linked_dispatches (s : Services) (first : Nat) (steps : List Step) (r : Run) :
    Linked s r (dispatches s first steps r) (run s steps r).state := by
  induction steps using Step.nested_induction generalizing first r with
  | nil =>
      rw [dispatches_nil]
      exact .nil r
  | cons step rest ihNested ihRest =>
      rcases cons_cases s step r with ⟨f, h⟩ | ⟨next, f, h, hNested⟩ | ⟨next, h, hNested⟩
      · rw [run_cons_of_error h, dispatches_cons_of_error h]
        exact .cons (d := ⟨first, step, r⟩) (.nil _)
      · rw [run_cons_of_nested_error h hNested, dispatches_cons_of_nested_error h hNested]
        exact .cons (d := ⟨first, step, r⟩) (ihNested next _ _)
      · rw [run_cons_of_ok h hNested, dispatches_cons_of_ok h hNested]
        have hInner := ihNested next (first + 1 + step.offset next) (dispatch s step r).state
        have hOuter := ihRest (first + (Step.withDescendants step).length)
          (run s (step.nested next) (dispatch s step r).state).state
        exact .cons (d := ⟨first, step, r⟩) (hInner.append hOuter)

/-- A run that has not begun, in a world without network and without files. -/
def stillRun : Run := ⟨.fresh (fun _ => .error noNetwork) [] (fun _ => []) .working, .fresh⟩

end Interpreter

end Flowline
