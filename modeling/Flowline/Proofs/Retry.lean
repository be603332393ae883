import Flowline.Proofs.Action
import Flowline.Retry
import Flowline.World.Basic

/-!
Retries of operations on the world. Between two attempts the run sleeps once, for the same time, and
there are at most as many retries as the budget has.
-/

namespace Flowline

/-- The request that an event is. -/
def Event.request? : Event → Option Request
  | requested request => some request
  | _ => none

/-- How long a sleep lasts, if an event is one. -/
def Event.sleep? : Event → Option Quantity
  | slept seconds => some seconds
  | _ => none

namespace Retry

variable {α β : Type}

/-- An operation that was tried again a number of times: its end is that of the last attempt, and
before that come the earlier attempts, each with the record of the retry and a sleep. -/
inductive Retried (interval : Quantity) (operation : Action World α) :
    Nat → World → Done World α → Prop where
  | last (w : World) : Retried interval operation 0 w (operation w)
  | again {n : Nat} {w : World} {d : Done World α} (f : Failure) (record : Log.Entry)
      (failed : (operation w).result = .error f)
      (rest : Retried interval operation n (World.sleep interval (operation w).state).state d) :
      Retried interval operation (n + 1) w
        (d.after ((operation w).events ++ [.logged record, .slept interval]))

variable {interval : Quantity} {operation : Action World α} {n : Nat} {w : World} {d : Done World α}

/-- What is seen of an operation that was tried again, where each attempt shows the same. -/
theorem Retried.filterMap_events {show? : Event → Option β} {own : List β}
    (h : Retried interval operation n w d)
    (hOwn : ∀ w, (operation w).events.filterMap show? = own)
    (hRecord : ∀ record, show? (.logged record) = none) :
    d.events.filterMap show? =
      (List.replicate n (own ++ (show? (.slept interval)).toList)).flatten ++ own := by
  induction h with
  | last w => simp [hOwn]
  | again f record failed rest ih =>
      rw [Done.events_after, List.filterMap_append, ih, List.filterMap_append, hOwn,
        List.replicate_succ, List.flatten_cons, List.filterMap_cons_none (hRecord record)]
      cases hSlept : show? (.slept interval) <;> simp [hSlept]

/-- The number of retries can be told from the sleeps. -/
theorem Retried.sleeps (h : Retried interval operation n w d)
    (hOwn : ∀ w, (operation w).events.filterMap Event.sleep? = []) :
    d.events.filterMap Event.sleep? = List.replicate n interval := by
  rw [h.filterMap_events hOwn fun _ => rfl]
  simp [Event.sleep?]

/-- An operation that sends one request sends it once more than it is tried again. -/
theorem Retried.requests {request : Request} (h : Retried interval operation n w d)
    (hOwn : ∀ w, (operation w).events.filterMap Event.request? = [request]) :
    d.events.filterMap Event.request? = List.replicate (n + 1) request := by
  rw [h.filterMap_events hOwn fun _ => rfl, List.replicate_succ']
  simp [Event.request?]

/-- One that sends none sends none however often it is tried again. -/
theorem Retried.no_requests (h : Retried interval operation n w d)
    (hOwn : ∀ w, (operation w).events.filterMap Event.request? = []) :
    d.events.filterMap Event.request? = [] := by
  rw [h.filterMap_events hOwn fun _ => rfl]
  simp [Event.request?]

variable (retryable : ErrorKind → Bool) (description : String)

theorem retried_attempts (interval : Quantity) (operation : Action World α) (budget : Nat)
    (w : World) :
    ∃ n ≤ budget, Retried interval operation n w
      (attempts retryable description interval World.sleep operation budget w) := by
  induction budget generalizing w with
  | zero => exact ⟨0, Nat.le_refl 0, .last w⟩
  | succ left ih =>
      rw [attempts]
      cases hFirst : (operation w).result with
      | ok a =>
          rw [Action.orElse_of_ok hFirst]
          exact ⟨0, Nat.zero_le _, .last w⟩
      | error f =>
          rw [Action.orElse_of_error hFirst]
          split
          · obtain ⟨n, hLe, hRest⟩ := ih (World.sleep interval (operation w).state).state
            refine ⟨n + 1, Nat.succ_le_succ hLe, ?_⟩
            have hAgain := Retried.again f ⟨.debug, .retry, message description (left + 1) interval,
              [("error", .text f.text)], none⟩ hFirst hRest
            rw [List.append_cons, ← Done.after_after, ← Done.after_after] at hAgain
            exact hAgain
          · have hLast : (Action.fail f (operation w).state).after (operation w).events =
                operation w := by
              rw [Action.fail_apply, Done.after, List.append_nil, ← hFirst]
            rw [hLast]
            exact ⟨0, Nat.zero_le _, .last w⟩

/-- With an interval that is not negative there is a budget to spend. -/
theorem checkBudget_eq_ok {interval : Quantity} (hInterval : interval.isNegative = false)
    (budget : Nat) : checkBudget budget interval = .ok budget := by
  rw [checkBudget, if_neg (by omega), if_neg (by rw [hInterval]; decide), Int.toNat_natCast]

theorem run_eq_attempts {σ : Type} {interval : Quantity} (hInterval : interval.isNegative = false)
    (sleep : Quantity → Action σ Unit) (operation : Action σ α) (budget : Nat) :
    run retryable description budget interval sleep operation =
      attempts retryable description interval sleep operation budget := by
  rw [run, checkBudget_eq_ok hInterval]

/-- Retries with an interval that is not negative try an operation again at most as often as the
budget allows. -/
theorem retried_run (hInterval : interval.isNegative = false) (operation : Action World α)
    (budget : Nat) (w : World) :
    ∃ n ≤ budget, Retried interval operation n w
      (run retryable description budget interval World.sleep operation w) := by
  rw [run_eq_attempts _ _ hInterval]
  exact retried_attempts retryable description interval operation budget w

/-! ## The value that an operation obtains -/

/-- An operation that succeeds after it was tried again a number of times: every earlier attempt failed
in a retryable way, and a sleep came between it and the next. -/
inductive Obtains (retryable : ErrorKind → Bool) (interval : Quantity) (operation : Action World α)
    (a : α) : Nat → World → Prop where
  | now {w : World} (obtained : (operation w).result = .ok a) :
      Obtains retryable interval operation a 0 w
  | later {n : Nat} {w : World} (f : Failure) (failed : (operation w).result = .error f)
      (again : retryable f.kind = true)
      (rest : Obtains retryable interval operation a n
        (World.sleep interval (operation w).state).state) :
      Obtains retryable interval operation a (n + 1) w

theorem result_attempts_eq_ok {retryable : ErrorKind → Bool} {a : α} {budget : Nat} :
    (attempts retryable description interval World.sleep operation budget w).result = .ok a ↔
      ∃ n ≤ budget, Obtains retryable interval operation a n w := by
  induction budget generalizing w with
  | zero =>
      constructor
      · intro hOk
        exact ⟨0, Nat.le_refl 0, .now hOk⟩
      · rintro ⟨n, hLe, hObtains⟩
        cases hObtains with
        | now hOk => exact hOk
        | later f hFailed hAgain hRest => omega
  | succ left ih =>
      rw [attempts]
      cases hFirst : (operation w).result with
      | ok b =>
          rw [Action.orElse_of_ok hFirst, hFirst]
          constructor
          · intro hOk
            exact ⟨0, Nat.zero_le _, .now (hFirst.trans hOk)⟩
          · rintro ⟨n, hLe, hObtains⟩
            cases hObtains with
            | now hOk => exact hFirst.symm.trans hOk
            | later f hFailed hAgain hRest =>
                rw [hFirst] at hFailed
                cases hFailed
      | error f =>
          rw [Action.orElse_of_error hFirst]
          split
          · rename_i hAgain
            refine Iff.trans (ih (w := (World.sleep interval (operation w).state).state)) ?_
            constructor
            · rintro ⟨n, hLe, hRest⟩
              exact ⟨n + 1, Nat.succ_le_succ hLe, .later f hFirst hAgain hRest⟩
            · rintro ⟨n, hLe, hObtains⟩
              cases hObtains with
              | now hOk =>
                  rw [hFirst] at hOk
                  cases hOk
              | later g hFailed hRetried hRest => exact ⟨_, Nat.le_of_succ_le_succ hLe, hRest⟩
          · rename_i hFinal
            constructor
            · intro hOk
              cases hOk
            · rintro ⟨n, hLe, hObtains⟩
              cases hObtains with
              | now hOk =>
                  rw [hFirst] at hOk
                  cases hOk
              | later g hFailed hRetried hRest =>
                  rw [hFirst] at hFailed
                  cases hFailed
                  exact absurd hRetried hFinal

/-- Retries come to a value exactly if one of the attempts that the budget allows obtains it. -/
theorem result_run_eq_ok {retryable : ErrorKind → Bool} {a : α} {budget : Nat} :
    (run retryable description budget interval World.sleep operation w).result = .ok a ↔
      interval.isNegative = false ∧
        ∃ n ≤ budget, Obtains retryable interval operation a n w := by
  cases hNegative : interval.isNegative with
  | false =>
      rw [run_eq_attempts _ _ hNegative, result_attempts_eq_ok]
      simp
  | true =>
      have hBudget : checkBudget budget interval =
          .error (.general .value "retry_interval must be >= 0") := by
        rw [checkBudget, if_neg (by omega), if_pos hNegative]
      rw [run, hBudget]
      simp

end Retry

end Flowline
