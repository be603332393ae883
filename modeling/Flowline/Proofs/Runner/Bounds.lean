import Flowline.Proofs.Flow.RoundTrip
import Flowline.Proofs.Runner.Budget
import Flowline.Schedule

/-!
Bounds on the numbers of accepted flows. All durations in a flow are finite and within bounds, and no
count of retries is below zero, so that the checks which stand before retries and before the start of a
trigger never fail, and all sleeps of a run are within the bounds too.
-/

namespace Flowline

/-- A number of seconds that is finite and whose exact value is from zero to the longest duration. -/
def Binary64.Bounded (x : Binary64) : Prop :=
  x.isFinite = true ∧ 0 ≤ x.signedUnits ∧ x.signedUnits ≤ Duration.limit * unitsPerOne

theorem Binary64.IsDuration.bounded {x : Binary64} (h : x.IsDuration) : x.Bounded :=
  isDuration_iff.mp h

/-- A duration above zero has an exact value above zero. -/
theorem Binary64.IsDuration.signedUnits_pos {x : Binary64} (h : x.IsDuration)
    (hAbove : Binary64.zero.lt x = true) : 0 < x.signedUnits := by
  rw [lt, Bool.and_eq_true, Bool.not_eq_true'] at hAbove
  have hNotBelow : ¬ x.signedUnits ≤ 0 := by
    intro hLe
    have hZero : x.le .zero = true := (le_of_isFinite h.isFinite rfl).mpr hLe
    rw [hZero] at hAbove
    exact Bool.noConfusion hAbove.2
  omega

/-- A count of retries is the integer that was given, so that none is below zero and none is changed
to fit. -/
theorem Schema.retryCount_eq_valid {v : Value} {n : Nat} :
    retryCount v = .valid n ↔ int v = .valid (n : Int) := by
  refine Iff.trans (Checked.map_eq_valid (f := Int.toNat)) ?_
  simp only [Checked.andThen_eq_valid, atLeast]
  constructor
  · rintro ⟨m, ⟨k, hInt, hAtLeast⟩, hCount⟩
    split at hAtLeast
    · cases hAtLeast
      rw [hInt, ← hCount, Int.toNat_of_nonneg ‹_›]
    · cases hAtLeast
  · intro hInt
    exact ⟨n, ⟨n, hInt, if_pos (Int.natCast_nonneg n)⟩, Int.toNat_natCast n⟩

namespace Dispatch

variable {s : Services} {d : Dispatch}

theorem sleeps_of_idle (h : d.Idle s) : (d.own s).sleeps = [] := h.filterMap fun _ => rfl

theorem mem_sleeps_of_tries {α : Type} {retry : RetryPolicy} {operation : Action World α}
    {given : α → Interpreter.Yield} {requests : Nat → List Request}
    (h : d.Tries s retry operation given requests) {q : Quantity} (hMem : q ∈ (d.own s).sleeps) :
    q = .real retry.interval := by
  obtain ⟨n, -, -, -, -, -, hSleeps⟩ := h
  rw [hSleeps] at hMem
  exact List.eq_of_mem_replicate hMem

/-- The own part of a step sleeps for the duration of the step, or for the interval of its policy. -/
theorem pause_of_mem_sleeps (hTimely : d.step.Timely) {q : Quantity}
    (hMem : q ∈ (d.own s).sleeps) : ∃ x, d.step.pause? = some x ∧ q = .real x := by
  have hWithin := withinBudget (s := s) hTimely
  obtain ⟨index, step, before⟩ := d
  cases step with
  | getUrl url outputVar retry fallback =>
      simp only [WithinBudget] at hWithin
      exact ⟨_, rfl, mem_sleeps_of_tries hWithin hMem⟩
  | postUrl url body headers retry fallback =>
      cases body with
      | torn text =>
          simp only [WithinBudget] at hWithin
          rw [sleeps_of_idle hWithin.1] at hMem
          cases hMem
      | whole text =>
          simp only [WithinBudget] at hWithin
          exact ⟨_, rfl, mem_sleeps_of_tries hWithin hMem⟩
  | readText path outputVar retry fallback =>
      simp only [WithinBudget] at hWithin
      exact ⟨_, rfl, mem_sleeps_of_tries hWithin hMem⟩
  | appendText path inputVar retry fallback =>
      simp only [WithinBudget] at hWithin
      split at hWithin
      · exact ⟨_, rfl, mem_sleeps_of_tries hWithin hMem⟩
      · rw [sleeps_of_idle hWithin.1] at hMem
        cases hMem
  | notify name template retry fallback =>
      simp only [WithinBudget] at hWithin
      rw [hWithin.1] at hMem
      cases hMem
  | sleep duration =>
      simp only [WithinBudget] at hWithin
      rw [show (own s _).sleeps = [.real duration] from hWithin.filterMap fun _ => rfl] at hMem
      exact ⟨duration, rfl, List.mem_singleton.mp hMem⟩
  | _ =>
      simp only [WithinBudget] at hWithin
      rw [sleeps_of_idle hWithin] at hMem
      cases hMem

end Dispatch

namespace Interpreter

/-- The operation of a step, with attempts on which no check of their numbers stands. -/
def unchecked (s : Services) : Step → Action Run Yield
  | .getUrl url _ retry _ => do
      let text ← Run.inWorld do
        Action.log .debug .http ("GET " ++ url) [("retries", .int retry.retries)]
        Retry.attempts HttpClient.isRetryable ("GET " ++ url) (.real retry.interval) World.sleep
          (s.http.getOnce url) retry.retries
      return .output text
  | .postUrl url body headers retry _ => do
      Run.inWorld do
        Action.log .debug .http ("POST " ++ url) [("retries", .int retry.retries)]
        Retry.attempts HttpClient.isRetryable ("POST " ++ url) (.real retry.interval) World.sleep
          (s.http.postOnce url body headers) retry.retries
      return .nothing
  | .readText path _ retry _ => do
      let path := FilePath.ofText path
      let text ← Run.inWorld
        (Retry.attempts FileAccess.isRetryable ("reading file " ++ path.text) (.real retry.interval)
          World.sleep (FileAccess.readOnce path) retry.retries)
      return .output text
  | .appendText path inputVar retry _ => do
      let path := FilePath.ofText path
      let text ← Run.input inputVar
      Run.inWorld
        (Retry.attempts FileAccess.isRetryable ("appending to file " ++ path.text)
          (.real retry.interval) World.sleep (FileAccess.appendOnce path text) retry.retries)
      return .nothing
  | step => operation s step

/-- Where all pauses are durations no check stands in the way of the attempts. -/
theorem operation_eq_unchecked (s : Services) {step : Step} (hTimely : step.Timely) :
    operation s step = unchecked s step := by
  cases step with
  | getUrl url outputVar retry fallback =>
      have hInterval := (hTimely _ rfl).not_isNegative
      rw [operation, HttpClient.getText, Retry.run_eq_attempts _ _ hInterval, unchecked]
  | postUrl url body headers retry fallback =>
      have hInterval := (hTimely _ rfl).not_isNegative
      rw [operation, HttpClient.postText, Retry.run_eq_attempts _ _ hInterval, unchecked]
  | readText path outputVar retry fallback =>
      have hInterval := (hTimely _ rfl).not_isNegative
      rw [operation, FileAccess.readText, Retry.run_eq_attempts _ _ hInterval, unchecked]
  | appendText path inputVar retry fallback =>
      have hInterval := (hTimely _ rfl).not_isNegative
      rw [operation, unchecked]
      simp only [FileAccess.appendLine, Retry.run_eq_attempts _ _ hInterval]
  | _ => rfl

end Interpreter

namespace Runner

variable {r : Runner}

theorem blind_sleep : Blind Event.sleep? where
  completed _ := rfl
  runner _ _ _ _ := rfl
  factory _ _ _ _ := rfl

/-- Every sleep of a run is one of a dispatched step. -/
theorem exists_dispatch_of_sleep {w : World} {q : Quantity}
    (hMem : q ∈ (r.runOnce w).events.filterMap Event.sleep?) :
    ∃ s, ∃ d ∈ r.course w, q ∈ (d.own s).sleeps := by
  cases hBuild : NotifierSet.build r.settings r.flow.notifiers with
  | error f =>
      rw [runOnce_of_build_error hBuild] at hMem
      cases hMem
  | ok set =>
      rw [filterMap_events_runOnce blind_sleep hBuild, List.mem_flatMap] at hMem
      obtain ⟨d, hDispatched, hShown⟩ := hMem
      exact ⟨r.services set, d, hDispatched, hShown⟩

/-- A trigger whose interval is within bounds is started. -/
theorem launch_ok {σ : Type} {trigger : Trigger}
    (h : ∀ x, trigger = .interval x → x.IsDuration ∧ Binary64.zero.lt x = true) (name : String)
    (t : σ) : ∃ control, (trigger.timing.launch name t).result = .ok control := by
  cases trigger with
  | once => exact ⟨_, rfl⟩
  | interval x =>
      obtain ⟨hDuration, hAbove⟩ := h x rfl
      have hWithin : (Quantity.real x).isWithin Duration.limit = true :=
        Bool.and_eq_true_iff.mpr ⟨hAbove, hDuration.2⟩
      rw [Trigger.timing, Trigger.Timing.launch, if_pos hWithin]
      exact ⟨_, rfl⟩

/-- In an accepted flow every policy of retries, every sleep and the trigger keep to their bounds. So
the check before retries never fails and every dispatched step comes to what it would come to without
it, all sleeps of a run are within the bounds, and the flow can be scheduled. -/
theorem accepted_numbers_are_bounded {r : Runner} (hAccepted : r.flow.Accepted) :
    (∀ step ∈ Step.walk (r.flow.steps ++ r.flow.uponFailure),
      (∀ retry, step.retry? = some retry → retry.interval.Bounded ∧
        Retry.checkBudget retry.retries (.real retry.interval) = .ok retry.retries ∧
        ∀ {α : Type} (retryable : ErrorKind → Bool) (description : String)
          (operation : Action World α),
          Retry.run retryable description retry.retries (.real retry.interval) World.sleep
              operation =
            Retry.attempts retryable description (.real retry.interval) World.sleep operation
              retry.retries) ∧
      ∀ duration, step = .sleep duration → duration.Bounded) ∧
    (∀ v n, Schema.retryCount v = .valid n ↔ Schema.int v = .valid (n : Int)) ∧
    (∀ x, r.flow.trigger = some (.interval x) → x.Bounded ∧ 0 < x.signedUnits) ∧
    (∀ w, ∀ d ∈ r.course w, ∀ s, Interpreter.operation s d.step = Interpreter.unchecked s d.step ∧
      d.own s = Interpreter.settle s d.step (Interpreter.unchecked s d.step) d.before) ∧
    (∀ w, ∀ q ∈ (r.runOnce w).events.filterMap Event.sleep?, ∃ x, q = .real x ∧ x.Bounded) ∧
    ∀ {σ : Type} (t : σ), ∃ started, (r.schedule t).result = .ok started := by
  have hSound := hAccepted.sound
  have hInterval : ∀ step ∈ Step.walk (r.flow.steps ++ r.flow.uponFailure), ∀ retry,
      step.retry? = some retry → retry.interval.IsDuration := by
    intro step hMem retry hRetry
    exact (hSound.steps step hMem).timely retry.interval (Step.pause?_of_retry hRetry)
  refine ⟨fun step hMem => ⟨fun retry hRetry => ?_, fun duration hSleep => ?_⟩,
    fun _ _ => Schema.retryCount_eq_valid, fun x hTrigger => ?_, fun w d hMem s => ?_,
    fun w q hMem => ?_, fun t => ?_⟩
  · have hDuration := hInterval step hMem retry hRetry
    refine ⟨hDuration.bounded, Retry.checkBudget_eq_ok hDuration.not_isNegative _, ?_⟩
    intro α retryable description operation
    exact Retry.run_eq_attempts _ _ hDuration.not_isNegative _ _ _
  · have hTimely := (hSound.steps step hMem).timely
    rw [hSleep] at hTimely
    exact (hTimely duration rfl).bounded
  · obtain ⟨hDuration, hAbove⟩ := hSound.interval x hTrigger
    exact ⟨hDuration.bounded, hDuration.signedUnits_pos hAbove⟩
  · have hSame := Interpreter.operation_eq_unchecked s (timely_of_mem_course hAccepted hMem)
    refine ⟨hSame, ?_⟩
    rw [Dispatch.own, Interpreter.dispatch, hSame]
  · obtain ⟨s, d, hDispatched, hSleep⟩ := exists_dispatch_of_sleep hMem
    have hTimely := timely_of_mem_course hAccepted hDispatched
    obtain ⟨x, hPause, hReal⟩ := Dispatch.pause_of_mem_sleeps hTimely hSleep
    exact ⟨x, hReal, (hTimely x hPause).bounded⟩
  · cases hTrigger : r.flow.trigger with
    | none =>
        rw [schedule, hTrigger]
        exact ⟨_, rfl⟩
    | some trigger =>
        have hBounds : ∀ x, trigger = .interval x → x.IsDuration ∧ Binary64.zero.lt x = true := by
          rintro x rfl
          exact hSound.interval x hTrigger
        obtain ⟨control, hLaunch⟩ := launch_ok hBounds r.label t
        simp only [schedule, hTrigger, Action.bind_of_ok _ hLaunch]
        exact ⟨_, rfl⟩

/-- The report, with a pause of one second and an interval of five minutes. -/
def report : Runner := ⟨Report.flow (.ofInt 1) (.ofInt 300), .standard⟩

/-- The report can be scheduled, and all sleeps of its runs are within bounds. -/
theorem accepted_numbers_are_bounded_report :
    report.flow.Accepted ∧ (Binary64.ofInt 300).Bounded ∧
      (∀ w, ∀ q ∈ (report.runOnce w).events.filterMap Event.sleep?,
        ∃ x, q = .real x ∧ x.Bounded) ∧
      ∃ started, (report.schedule Interpreter.stillRun.world).result = .ok started := by
  have hAccepted : report.flow.Accepted :=
    Report.accepted ⟨by decide +kernel, by decide +kernel⟩ ⟨by decide +kernel, by decide +kernel⟩
      (by decide +kernel)
  obtain ⟨-, -, hTrigger, -, hSleeps, hSchedule⟩ := accepted_numbers_are_bounded hAccepted
  exact ⟨hAccepted, (hTrigger _ rfl).1, hSleeps, hSchedule _⟩

end Runner

end Flowline
