import Flowline.Proofs.Interpreter.Records

/-!
Failing runs. The failure of a run is the one that its last dispatched step raised, and nothing
happens after that. No step catches what is raised in a list that it holds.
-/

namespace Flowline.Interpreter

/-- A run ends with the failure that the own part of a dispatched step raised: that step is the last
one of the course, its own part is the last thing to happen, and the run leaves what that part left.
-/
structure EndsWith (s : Services) (course : List Dispatch) (d : Done Run Unit) (last : Dispatch)
    (f : Failure) : Prop where
  raised : (last.own s).result = .error f
  result : d.result = .error f
  state : d.state = (last.own s).state
  events : ∃ earlier, d.events = earlier ++ starting s last.step :: (last.own s).events
  isLast : ∃ earlier, course = earlier ++ [last] ∧
    ∀ x ∈ earlier, ∃ next, (x.own s).result = .ok next

namespace EndsWith

variable {s : Services} {course : List Dispatch} {d : Done Run Unit} {last : Dispatch} {f : Failure}

/-- What comes before a run does not change how it ends. -/
theorem after (h : EndsWith s course d last f) (events : List Event) {before : List Dispatch}
    (hBefore : ∀ x ∈ before, ∃ next, (x.own s).result = .ok next) :
    EndsWith s (before ++ course) (d.after events) last f where
  raised := h.raised
  result := h.result
  state := h.state
  events := by
    obtain ⟨earlier, hEvents⟩ := h.events
    exact ⟨events ++ earlier, by rw [Done.events_after, hEvents, List.append_assoc]⟩
  isLast := by
    obtain ⟨earlier, hCourse, hOk⟩ := h.isLast
    refine ⟨before ++ earlier, by rw [hCourse, List.append_assoc], fun x hMem => ?_⟩
    exact (List.mem_append.mp hMem).elim (hBefore x) (hOk x)

end EndsWith

variable (s : Services)

/-- In a run that succeeds no own part fails. -/
theorem own_ok_of_run_ok (first : Nat) (steps : List Step) (r : Run)
    (hRun : (run s steps r).result = .ok ()) :
    ∀ d ∈ dispatches s first steps r, ∃ next, (d.own s).result = .ok next := by
  induction steps using Step.nested_induction generalizing first r with
  | nil => simp
  | cons step rest ihNested ihRest =>
      rcases cons_cases s step r with ⟨f, h⟩ | ⟨next, f, h, hNested⟩ | ⟨next, h, hNested⟩
      · rw [run_cons_of_error h] at hRun
        cases hRun
      · rw [run_cons_of_nested_error h hNested, Done.result_after, hNested] at hRun
        cases hRun
      · rw [run_cons_of_ok h hNested] at hRun
        rw [dispatches_cons_of_ok h hNested]
        intro d hMem
        rcases List.mem_cons.mp hMem with rfl | hMem
        · exact ⟨next, h⟩
        · exact (List.mem_append.mp hMem).elim (ihNested next _ _ hNested d) (ihRest _ _ hRun d)

/-- The failure of a run was raised by the step dispatched last. -/
theorem endsWith_of_run_error (first : Nat) (steps : List Step) (r : Run) (f : Failure)
    (hRun : (run s steps r).result = .error f) :
    ∃ last, EndsWith s (dispatches s first steps r) (run s steps r) last f := by
  induction steps using Step.nested_induction generalizing first r with
  | nil => cases hRun
  | cons step rest ihNested ihRest =>
      have hHead {next : Next} (h : (dispatch s step r).result = .ok next) :
          ∀ x ∈ [(⟨first, step, r⟩ : Dispatch)], ∃ next, (x.own s).result = .ok next := by
        intro x hMem
        rw [List.mem_singleton.mp hMem]
        exact ⟨next, h⟩
      rcases cons_cases s step r with ⟨g, h⟩ | ⟨next, g, h, hNested⟩ | ⟨next, h, hNested⟩
      · rw [run_cons_of_error h] at hRun ⊢
        rw [dispatches_cons_of_error h]
        cases hRun
        exact ⟨⟨first, step, r⟩, h, rfl, rfl, ⟨[], rfl⟩, ⟨[], rfl, List.forall_mem_nil _⟩⟩
      · rw [run_cons_of_nested_error h hNested] at hRun ⊢
        rw [dispatches_cons_of_nested_error h hNested]
        obtain ⟨last, hLast⟩ := ihNested next (first + 1 + step.offset next) _ hRun
        exact ⟨last, hLast.after _ (hHead h)⟩
      · rw [run_cons_of_ok h hNested] at hRun ⊢
        rw [dispatches_cons_of_ok h hNested, ← List.cons_append]
        obtain ⟨last, hLast⟩ :=
          ihRest (first + (Step.withDescendants step).length) _ hRun
        refine ⟨last, hLast.after _ fun x hMem => ?_⟩
        rcases List.mem_cons.mp hMem with rfl | hMem
        · exact ⟨next, h⟩
        · exact own_ok_of_run_ok s _ _ _ hNested x hMem

/-- An own part that fails anywhere in a run ends the run. -/
theorem endsWith_of_own_error {first : Nat} {steps : List Step} {r : Run} {d : Dispatch}
    {f : Failure} (hMem : d ∈ dispatches s first steps r) (hOwn : (d.own s).result = .error f) :
    EndsWith s (dispatches s first steps r) (run s steps r) d f := by
  cases hRun : (run s steps r).result with
  | ok _ =>
      obtain ⟨next, hOk⟩ := own_ok_of_run_ok s first steps r hRun d hMem
      rw [hOk] at hOwn
      cases hOwn
  | error g =>
      obtain ⟨last, hLast⟩ := endsWith_of_run_error s first steps r g hRun
      obtain ⟨earlier, hCourse, hOk⟩ := hLast.isLast
      rw [hCourse, List.mem_append, List.mem_singleton] at hMem
      rcases hMem with hMem | rfl
      · obtain ⟨next, hNext⟩ := hOk d hMem
        rw [hNext] at hOwn
        cases hOwn
      · have hSame := hLast.raised
        rw [hOwn] at hSame
        cases hSame
        exact hLast

/-- A step that fails, by its own part or by what is raised in a list that it holds, ends the run
with that failure, and leaves what the run leaves. -/
theorem run_error_of_whole_error {first : Nat} {steps : List Step} {r : Run} {d : Dispatch}
    {f : Failure} (hMem : d ∈ dispatches s first steps r)
    (hWhole : (d.whole s).result = .error f) :
    (run s steps r).result = .error f ∧ (run s steps r).state = (d.whole s).state ∧
      (d.whole s).events <:+ (run s steps r).events := by
  induction steps using Step.nested_induction generalizing first r with
  | nil => simp at hMem
  | cons step rest ihNested ihRest =>
      rcases cons_cases s step r with ⟨g, h⟩ | ⟨next, g, h, hNested⟩ | ⟨next, h, hNested⟩
      · rw [dispatches_cons_of_error h, List.mem_singleton] at hMem
        subst hMem
        have hExecute := execute_of_error h
        rw [Dispatch.whole, hExecute] at hWhole ⊢
        rw [run_cons_of_error h]
        exact ⟨hWhole, rfl, List.suffix_cons _ _⟩
      · rw [dispatches_cons_of_nested_error h hNested, List.mem_cons] at hMem
        rw [run_cons_of_nested_error h hNested]
        rcases hMem with rfl | hMem
        · have hExecute := execute_of_nested_error h hNested
          rw [Dispatch.whole, hExecute] at hWhole ⊢
          exact ⟨hNested.trans hWhole, rfl, List.suffix_cons _ _⟩
        · obtain ⟨hResult, hState, hEvents⟩ := ihNested next hMem
          exact ⟨hResult, hState, hEvents.trans (List.suffix_append _ _)⟩
      · rw [dispatches_cons_of_ok h hNested, List.mem_cons, List.mem_append] at hMem
        rw [run_cons_of_ok h hNested]
        rcases hMem with rfl | hMem | hMem
        · have hExecute := execute_of_ok h hNested
          rw [Dispatch.whole, hExecute] at hWhole
          cases hWhole
        · obtain ⟨hResult, -, -⟩ := ihNested next hMem
          rw [hNested] at hResult
          cases hResult
        · obtain ⟨hResult, hState, hEvents⟩ := ihRest hMem
          exact ⟨hResult, hState, hEvents.trans (List.suffix_append _ _)⟩

/-- No step recovers from a fatal failure. -/
theorem recovers_of_fatal (step : Step) {kind : ErrorKind}
    (h : kind.isKindOf (.flow .fatal) = true) : step.recovers kind = false := by
  have hOperation : kind.isOperationError = false := by
    cases kind with
    | operation k => cases k <;> revert h <;> decide
    | _ => rfl
  have hCapture : isCaptureNotFound kind = false := by
    rw [isCaptureNotFound, decide_eq_false_iff_not]
    rintro rfl
    revert h
    decide
  simp only [Step.recovers, hOperation, hCapture, Bool.and_false]
  split <;> rfl

theorem recovers_aborted (step : Step) : step.recovers (.flow .aborted) = false := by
  cases step <;> rfl

/-- The failure of a run is that of the step dispatched last, after which nothing happens, and any
failure of a dispatched step, at whatever depth, is the failure of the run. In particular no
fallback around it is entered after an abort or a fatal failure, and an operation that fails without
a fallback fails its step because of that failure. -/
theorem failure_escapes (s : Services) (steps : List Step) (r : Run) :
    ((run s steps r).events.filterMap Event.startedKind? =
      (dispatches s 0 steps r).map fun d => d.step.kind.name) ∧
    (∀ f, (run s steps r).result = .error f →
      ∃ last, EndsWith s (dispatches s 0 steps r) (run s steps r) last f) ∧
    ∀ d ∈ dispatches s 0 steps r, ∀ f,
      ((d.own s).result = .error f →
        EndsWith s (dispatches s 0 steps r) (run s steps r) d f) ∧
      ((d.whole s).result = .error f →
        (run s steps r).result = .error f ∧ (run s steps r).state = (d.whole s).state ∧
          (d.whole s).events <:+ (run s steps r).events) ∧
      ((operation s d.step d.before).result = .error f →
        f.kind = .flow .aborted ∨ f.kind.isKindOf (.flow .fatal) = true →
        EndsWith s (dispatches s 0 steps r) (run s steps r) d f) ∧
      ((operation s d.step d.before).result = .error f → d.step.recovers f.kind = true →
        d.step.fallback = [] →
        EndsWith s (dispatches s 0 steps r) (run s steps r) d
          ⟨.flow .stepFailed, f.text, some (f.kind, f.text)⟩) := by
  refine ⟨startedKinds_run s 0 steps r, endsWith_of_run_error s 0 steps r, fun d hMem f => ?_⟩
  refine ⟨endsWith_of_own_error s hMem, run_error_of_whole_error s hMem, ?_, ?_⟩
  · intro hOperation hKind
    have hStays : d.step.recovers f.kind = false := by
      rcases hKind with hAborted | hFatal
      · rw [hAborted, recovers_aborted]
      · exact recovers_of_fatal d.step hFatal
    refine endsWith_of_own_error s hMem ?_
    rw [Dispatch.own, dispatch_of_unrecovered hOperation hStays]
  · intro hOperation hRecovers hNone
    refine endsWith_of_own_error s hMem ?_
    rw [Dispatch.own, dispatch_of_no_fallback hOperation hRecovers hNone]
    rfl

def undelivered : Failure := .operation .notification "not delivered"

/-- Services with one notifier, which never delivers. -/
def deafServices : Services :=
  ⟨[("desk", .scripted (some undelivered))], "nightly", ⟨.int 30, "m7m"⟩⟩

/-- A message that is not delivered, and what is run then. -/
def tell (fallback : List Step) : Step := .notify "desk" "" .standard fallback

theorem dispatch_tell (step : Step) (rest : List Step) :
    (dispatch deafServices (tell (step :: rest)) stillRun).result = .ok .fallback := rfl

/-- An abort in a fallback of a fallback passes both, and so does a message without a fallback. -/
theorem failure_escapes_two_fallbacks :
    (let steps := [tell [tell [.abortFlow]], .debugState]
      let aborted := Failure.flow .aborted "flow aborted"
      (run deafServices steps stillRun).result = .error aborted ∧
      ∃ d ∈ dispatches deafServices 0 steps stillRun, d.step = .abortFlow ∧
        EndsWith deafServices (dispatches deafServices 0 steps stillRun)
          (run deafServices steps stillRun) d aborted) ∧
    (let steps := [tell [tell []], .debugState]
      ∃ d ∈ dispatches deafServices 0 steps stillRun, d.index = 1 ∧
        EndsWith deafServices (dispatches deafServices 0 steps stillRun)
          (run deafServices steps stillRun) d
          ⟨.flow .stepFailed, "not delivered",
            some (.operation .notification, "not delivered")⟩) := by
  constructor
  · intro steps aborted
    have hOuter : (⟨0, tell [tell [.abortFlow]], stillRun⟩ : Dispatch) ∈
        dispatches deafServices 0 steps stillRun := by
      rw [dispatches]
      exact List.mem_cons_self
    have hInner : (⟨2, .abortFlow, stillRun⟩ : Dispatch) ∈
        dispatches deafServices 0 steps stillRun := by
      rw [dispatches_cons_of_nested_error (dispatch_tell _ _) rfl]
      change _ ∈ _ :: dispatches deafServices 1 [tell [.abortFlow]] stillRun
      rw [dispatches_cons_of_nested_error (dispatch_tell _ _) rfl]
      change _ ∈ _ :: _ :: dispatches deafServices 2 [.abortFlow] stillRun
      rw [dispatches]
      exact List.mem_cons_of_mem _ (List.mem_cons_of_mem _ List.mem_cons_self)
    have hEscapes := (failure_escapes deafServices steps stillRun).2.2
    exact ⟨((hEscapes _ hOuter aborted).2.1 rfl).1, _, hInner, rfl,
      (hEscapes _ hInner aborted).2.2.1 rfl (.inl rfl)⟩
  · intro steps
    have hInner : (⟨1, tell [], stillRun⟩ : Dispatch) ∈
        dispatches deafServices 0 steps stillRun := by
      rw [dispatches_cons_of_nested_error (dispatch_tell _ _) rfl]
      change _ ∈ _ :: dispatches deafServices 1 [tell []] stillRun
      rw [dispatches]
      exact List.mem_cons_of_mem _ List.mem_cons_self
    have hEscapes := (failure_escapes deafServices steps stillRun).2.2
    exact ⟨_, hInner, rfl, (hEscapes _ hInner undelivered).2.2.2 rfl rfl rfl⟩

end Flowline.Interpreter
