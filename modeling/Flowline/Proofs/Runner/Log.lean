import Flowline.Proofs.Interpreter.Brackets
import Flowline.Proofs.Runner.Outcome

/-!
The log of a run of a flow. It begins with the record that the run started and tells the outcome: a run
that has failed ends with its only error, and a fallback of the flow that was run or came to its end has
its record.
-/

namespace Flowline

/-- A record of an error. -/
def Event.isError (e : Event) : Bool := e.entry?.any fun entry => entry.level = .error

/-- A record of the runner with a message. -/
def Event.isRunnerRecord (message : String) (e : Event) : Bool :=
  e.entry?.any fun entry => entry.logger = .runner && entry.message = message

namespace Interpreter

theorem not_isError_of_operation {e : Event} (h : e.OfOperation) : e.isError = false := by
  cases hEntry : e.entry? with
  | none => rw [Event.isError, hEntry, Option.any_none]
  | some entry =>
      rw [Event.isError, hEntry, Option.any_some]
      rcases h entry hEntry with hCollaborator | ⟨-, hLevel, -⟩
      · rw [hCollaborator.level]
        rfl
      · rw [hLevel]
        rfl

/-- Running steps writes no error, at whatever depth. -/
theorem emits_no_error (s : Services) (steps : List Step) :
    (run s steps).Emits fun e => e.isError = false := by
  refine emits_run (fun _ => rfl) (fun next => ?_) (fun step => ?_) steps
  · cases next with
    | fallback => exact .log rfl
    | finished => exact .succeed ()
    | arm taken => exact .succeed ()
  · refine emits_settle ((emits_operation s step).mono fun _ => ?_) (fun _ => rfl) rfl
    exact not_isError_of_operation

end Interpreter

theorem Event.isRunnerRecord_of_not_frame {e : Event} (h : e.isFrame = false) (message : String) :
    e.isRunnerRecord message = false := by
  cases hEntry : e.entry? with
  | none => rw [isRunnerRecord, hEntry, Option.any_none]
  | some entry =>
      rw [isFrame, hEntry, Option.any_some, Bool.or_eq_false_iff] at h
      rw [isRunnerRecord, hEntry, Option.any_some, h.1, Bool.false_and]

namespace Runner

variable {r : Runner} {set : NotifierSet} {w : World}

/-- The fallback of a flow is run if a step that stands in it is dispatched. -/
def RunsFallback (r : Runner) (w : World) : Prop :=
  ∃ d ∈ r.course w, (Step.walk r.flow.steps).length ≤ d.index

theorem not_runsFallback_of_steps {s : Services} {start : Run} {d : Dispatch}
    (h : d ∈ Interpreter.dispatches s 0 r.flow.steps start) :
    ¬ (Step.walk r.flow.steps).length ≤ d.index := by
  have hIndex := Interpreter.index_of_mem_dispatches h
  omega

/-- The fallback is run exactly if it is entered. -/
theorem runsFallback_iff (h : NotifierSet.build r.settings r.flow.notifiers = .ok set) :
    r.RunsFallback w ↔ r.EntersFallback set w := by
  have hSteps : Interpreter.run (r.services set) r.flow.steps ⟨w, .fresh⟩ = r.stepsRun set w := rfl
  rw [RunsFallback, course_of_build h, stepsCourse, EntersFallback, hSteps]
  cases hResult : (r.stepsRun set w).result with
  | ok u =>
      rw [List.append_nil]
      constructor
      · rintro ⟨d, hMem, hIndex⟩
        exact absurd hIndex (not_runsFallback_of_steps hMem)
      · rintro ⟨f, hError, -⟩
        cases hError
  | error f =>
      cases hKind : f.kind.isFlowError with
      | false =>
          simp only [hKind, Bool.false_eq_true, if_false, List.append_nil]
          constructor
          · rintro ⟨d, hMem, hIndex⟩
            exact absurd hIndex (not_runsFallback_of_steps hMem)
          · rintro ⟨g, hError, hFlow, -⟩
            cases hError
            cases hKind.symm.trans hFlow
      | true =>
          simp only [hKind, if_true]
          constructor
          · rintro ⟨d, hMem, hIndex⟩
            refine ⟨f, rfl, hKind, fun hNone => ?_⟩
            rw [fallbackCourse, hNone, Interpreter.dispatches_nil, List.append_nil] at hMem
            exact not_runsFallback_of_steps hMem hIndex
          · rintro ⟨_, -, -, hSome⟩
            obtain ⟨step, rest, hFallback⟩ := List.exists_cons_of_ne_nil hSome
            refine ⟨⟨_, step, (r.stepsRun set w).state⟩, List.mem_append_right _ ?_, Nat.le_refl _⟩
            rw [fallbackCourse, hFallback, Interpreter.dispatches]
            exact List.mem_cons_self

theorem not_runsFallback_of_build_error {f : Failure}
    (h : NotifierSet.build r.settings r.flow.notifiers = .error f) : ¬ r.RunsFallback w := by
  rintro ⟨d, hMem, -⟩
  rw [course, h] at hMem
  cases hMem

/-! ## Records -/

/-- The last record of a run tells of its only error. -/
def EndsInError (events : List Event) : Prop :=
  ∃ earlier e, events = earlier ++ [e] ∧ e.isError = true ∧
    (∃ entry, e.entry? = some entry ∧ entry.logger = .runner) ∧ ∀ x ∈ earlier, x.isError = false

theorem endsInError_append {first : List Event} {e : Event} (hFirst : ∀ x ∈ first, x.isError = false)
    (hLogger : ∃ entry, e.entry? = some entry ∧ entry.logger = .runner) (h : e.isError = true) :
    EndsInError (first ++ [e]) := ⟨first, e, rfl, h, hLogger, hFirst⟩

theorem not_endsInError {events : List Event} (h : ∀ x ∈ events, x.isError = false) :
    ¬ EndsInError events := by
  rintro ⟨earlier, e, rfl, hError, -⟩
  rw [h e (List.mem_append_right _ (List.mem_singleton_self e))] at hError
  cases hError

theorem errors_runOnce (r : Runner) (w : World) :
    ((r.runOnce w).result = .ok .failed → EndsInError (r.runOnce w).events) ∧
      ((r.runOnce w).result ≠ .ok .failed → ∀ e ∈ (r.runOnce w).events, e.isError = false) := by
  have hSteps (set : NotifierSet) : ∀ e ∈ (r.stepsRun set w).events, e.isError = false :=
    Interpreter.emits_no_error _ _ _
  have hFallback (set : NotifierSet) : ∀ e ∈ (r.fallbackRun set w).events, e.isError = false :=
    Interpreter.emits_no_error _ _ _
  have hOpening (set : NotifierSet) : ∀ e ∈ r.opening set, e.isError = false := by
    simp only [opening, List.forall_mem_cons]
    exact ⟨rfl, rfl, List.forall_mem_nil _⟩
  have hTurning (f : Failure) : ∀ e ∈ r.turning f, e.isError = false := by
    simp only [turning, List.forall_mem_cons]
    exact ⟨rfl, rfl, List.forall_mem_nil _⟩
  have hEnding := ending_runOnce r w
  generalize r.runOnce w = d at hEnding ⊢
  cases hEnding with
  | notSetUp f build =>
      refine ⟨fun _ => ?_, fun hNot => absurd rfl hNot⟩
      exact endsInError_append (List.forall_mem_singleton.mpr rfl) ⟨_, rfl, rfl⟩ rfl
  | completed set build steps =>
      refine ⟨fun hFailed => ?_, fun _ => ?_⟩
      · cases hFailed
      refine List.forall_mem_append.mpr ⟨?_, List.forall_mem_singleton.mpr rfl⟩
      exact List.forall_mem_append.mpr ⟨hOpening set, hSteps set⟩
  | unexpected set f build steps kind =>
      refine ⟨fun _ => ?_, fun hNot => absurd rfl hNot⟩
      exact endsInError_append (List.forall_mem_append.mpr ⟨hOpening set, hSteps set⟩) ⟨_, rfl, rfl⟩ rfl
  | noFallback set f build steps kind none =>
      refine ⟨fun _ => ?_, fun hNot => absurd rfl hNot⟩
      change EndsInError (_ ++ ([_] ++ [_]))
      rw [← List.append_assoc]
      refine endsInError_append (List.forall_mem_append.mpr ⟨?_, ?_⟩) ⟨_, rfl, rfl⟩ rfl
      · exact List.forall_mem_append.mpr ⟨hOpening set, hSteps set⟩
      · exact List.forall_mem_singleton.mpr rfl
  | recovered set f build steps kind some fallback =>
      refine ⟨fun hFailed => ?_, fun _ => ?_⟩
      · cases hFailed
      simp only [List.forall_mem_append]
      exact ⟨⟨⟨⟨hOpening set, hSteps set⟩, hTurning f⟩, hFallback set⟩,
        List.forall_mem_singleton.mpr rfl⟩
  | fallbackFailed set f g build steps kind some fallback =>
      refine ⟨fun _ => ?_, fun hNot => absurd rfl hNot⟩
      refine endsInError_append ?_ ?_ ?_
      · simp only [List.forall_mem_append]
        exact ⟨⟨⟨hOpening set, hSteps set⟩, hTurning f⟩, hFallback set⟩
      · rw [fallbackFailed]
        split <;> exact ⟨_, rfl, rfl⟩
      · rw [fallbackFailed]
        split <;> rfl

/-- Running steps writes no record of the runner, whatever its message. -/
theorem any_events_run (message : String) (s : Services) (steps : List Step) (start : Run) :
    (Interpreter.run s steps start).events.any (·.isRunnerRecord message) = false := by
  refine List.any_eq_false.mpr fun e hMem => Bool.not_eq_true _ ▸ ?_
  exact Event.isRunnerRecord_of_not_frame (Interpreter.emits_no_frame s steps start e hMem) message

theorem isRunnerRecord_record (r : Runner) (level : Log.Level) (message other : String) :
    (r.record level message).isRunnerRecord other = decide (message = other) := rfl

theorem isRunnerRecord_errorRecord (r : Runner) (message other : String) (f : Failure) :
    (r.errorRecord message f).isRunnerRecord other = decide (message = other) := rfl

theorem isRunnerRecord_fallbackFailed (r : Runner) (f : Failure) {message : String}
    (h : message = "Entering flow fallback" ∨ message = "Flow fallback completed") :
    (r.fallbackFailed f).isRunnerRecord message = false := by
  have hFailed : "Flow fallback failed: " ++ f.text ≠ message := by
    rcases h with rfl | rfl <;> exact Interpreter.append_ne_of_start (by decide)
  rw [fallbackFailed]
  split
  · rw [isRunnerRecord_record, decide_eq_false hFailed]
  · rw [isRunnerRecord_errorRecord]
    rcases h with rfl | rfl <;> rfl

/-- The fallback has its two records exactly if it is entered and if it comes to its end. -/
theorem fallbackRecords_runOnce (r : Runner) (w : World) :
    ((r.runOnce w).events.any (·.isRunnerRecord "Entering flow fallback") = true ↔
        r.RunsFallback w) ∧
      ((r.runOnce w).events.any (·.isRunnerRecord "Flow fallback completed") = true ↔
        (r.runOnce w).result = .ok .recovered) := by
  have hSteps (set : NotifierSet) (message : String) :
      (r.stepsRun set w).events.any (·.isRunnerRecord message) = false := any_events_run _ _ _ _
  have hFallback (set : NotifierSet) (message : String) :
      (r.fallbackRun set w).events.any (·.isRunnerRecord message) = false := any_events_run _ _ _ _
  have hFailed (f : Failure) : "Flow failed: " ++ f.text ≠ "Entering flow fallback" ∧
      "Flow failed: " ++ f.text ≠ "Flow fallback completed" :=
    ⟨Interpreter.append_ne_of_start (by decide), Interpreter.append_ne_of_start (by decide)⟩
  have hOpening (set : NotifierSet) (message : String) :
      (r.opening set).any (·.isRunnerRecord message) = decide ("Flow run started" = message) :=
    Bool.or_false _
  have hTurning (f : Failure) (message : String) :
      (r.turning f).any (·.isRunnerRecord message) =
        (decide ("Flow failed: " ++ f.text = message) ||
          decide ("Entering flow fallback" = message)) :=
    congrArg _ (Bool.or_false _)
  have hEnding := ending_runOnce r w
  generalize r.runOnce w = d at hEnding ⊢
  cases hEnding with
  | notSetUp f build =>
      simp [not_runsFallback_of_build_error build, isRunnerRecord_record, isRunnerRecord_errorRecord]
  | completed set build steps =>
      simp [runsFallback_iff build, EntersFallback, steps, hSteps, hOpening, isRunnerRecord_record,
        List.any_append, -List.any_eq_true]
  | unexpected set f build steps kind =>
      simp [runsFallback_iff build, EntersFallback, steps, kind, hSteps, hOpening,
        isRunnerRecord_errorRecord, List.any_append, -List.any_eq_true]
  | noFallback set f build steps kind none =>
      simp [runsFallback_iff build, EntersFallback, none, hSteps, hOpening, hFailed f,
        isRunnerRecord_record, List.any_append, -List.any_eq_true]
  | recovered set f build steps kind some fallback =>
      simp [runsFallback_iff build, EntersFallback, steps, kind, some, hSteps, hFallback, hOpening,
        hTurning, isRunnerRecord_record, List.any_append, -List.any_eq_true]
  | fallbackFailed set f g build steps kind some fallback =>
      simp [runsFallback_iff build, EntersFallback, steps, kind, some, hSteps, hFallback, hOpening,
        hTurning, hFailed f, isRunnerRecord_fallbackFailed, List.any_append, -List.any_eq_true]

/-- The log of a run is bracketed and tells the outcome. In the run of each list of steps the records
around fallbacks are those of fallbacks that were entered because of a failure, in the order of their
nesting. The log of the whole begins with the start of the run, ends with its only error if the run has
failed and has none if it has not, and tells whether the fallback of the flow was run and came to its
end. -/
theorem log_tells_run (r : Runner) (w : World) :
    (∀ s steps start, Interpreter.Bracketed s steps start) ∧
      (∃ rest, (r.runOnce w).events = r.record .info "Flow run started" :: rest) ∧
      ((r.runOnce w).result = .ok .failed ↔ EndsInError (r.runOnce w).events) ∧
      ((r.runOnce w).result ≠ .ok .failed → ∀ e ∈ (r.runOnce w).events, e.isError = false) ∧
      ((r.runOnce w).events.any (·.isRunnerRecord "Entering flow fallback") = true ↔
        r.RunsFallback w) ∧
      ((r.runOnce w).events.any (·.isRunnerRecord "Flow fallback completed") = true ↔
        (r.runOnce w).result = .ok .recovered) := by
  obtain ⟨hFailed, hOthers⟩ := errors_runOnce r w
  obtain ⟨hEntry, hCompletion⟩ := fallbackRecords_runOnce r w
  refine ⟨Interpreter.bracketed_run, ?_, ⟨hFailed, fun hError => ?_⟩, hOthers, hEntry, hCompletion⟩
  · have hEnding := ending_runOnce r w
    generalize r.runOnce w = d at hEnding ⊢
    cases hEnding <;> exact ⟨_, rfl⟩
  · exact Classical.byContradiction fun hNot => not_endsInError (hOthers hNot) hError

end Runner

end Flowline
