import Flowline.FileAccess
import Flowline.Proofs.Retry

/-!
The loop of retries on whatever state, with whatever goes on while it sleeps. It ends with the first
attempt that succeeds or fails for good, and if there is none within the budget with the one that
spends it; between two attempts, and nowhere else, it writes one record and sleeps once.
-/

namespace Flowline

namespace Retry

/-- The last of the numbers from zero up to a budget that are tried: the first that is not tried
again, or the budget itself. -/
structure IsLast (again : Nat → Prop) (budget k : Nat) : Prop where
  within : k ≤ budget
  earlier : ∀ n < k, again n
  ends : k < budget → ¬ again k

namespace IsLast

variable {again other : Nat → Prop} {budget k n : Nat}

theorem congr (h : ∀ n, again n ↔ other n) : IsLast again budget k ↔ IsLast other budget k := by
  have hEq : again = other := funext fun n => propext (h n)
  rw [hEq]

theorem tail (h : IsLast again (budget + 1) (k + 1)) : IsLast (fun n => again (n + 1)) budget k where
  within := Nat.le_of_succ_le_succ h.within
  earlier n hLess := h.earlier (n + 1) (Nat.succ_lt_succ hLess)
  ends hLess := h.ends (Nat.succ_lt_succ hLess)

theorem le (hFirst : IsLast again budget k) (hSecond : IsLast again budget n) : k ≤ n := by
  refine Nat.le_of_not_lt fun hLess => ?_
  exact hSecond.ends (Nat.lt_of_lt_of_le hLess hFirst.within) (hFirst.earlier n hLess)

theorem exists_isLast (again : Nat → Prop) (budget : Nat) : ∃ k, IsLast again budget k := by
  induction budget generalizing again with
  | zero => exact ⟨0, Nat.le_refl 0, fun n hLess => absurd hLess (Nat.not_lt_zero n),
      fun hLess => absurd hLess (Nat.not_lt_zero 0)⟩
  | succ left ih =>
      by_cases hAgain : again 0
      · obtain ⟨k, hLast⟩ := ih fun n => again (n + 1)
        refine ⟨k + 1, Nat.succ_le_succ hLast.within, fun n hLess => ?_, fun hLess => ?_⟩
        · cases n with
          | zero => exact hAgain
          | succ n => exact hLast.earlier n (Nat.lt_of_succ_lt_succ hLess)
        · exact hLast.ends (Nat.lt_of_succ_lt_succ hLess)
      · exact ⟨0, Nat.zero_le _, fun n hLess => absurd hLess (Nat.not_lt_zero n), fun _ => hAgain⟩

/-- There is one last number and no other. -/
theorem exists_unique (again : Nat → Prop) (budget : Nat) :
    ∃ k, IsLast again budget k ∧ ∀ n, IsLast again budget n → n = k := by
  obtain ⟨k, hLast⟩ := exists_isLast again budget
  exact ⟨k, hLast, fun n hOther => Nat.le_antisymm (hOther.le hLast) (hLast.le hOther)⟩

end IsLast

/-! ## Attempts and what lies between them -/

variable {σ α : Type} {retryable : ErrorKind → Bool} {description : String} {interval : Quantity}
  {sleep : Quantity → Action σ Unit} {pause : Action σ Unit} {operation : Action σ α} {s : σ}
  {budget k n : Nat} {f : Failure}

/-- The state in which an attempt begins, counted from zero: the one that the attempt before it and the
pause after that have left. -/
def stateAt (pause : Action σ Unit) (operation : Action σ α) (s : σ) : Nat → σ
  | 0 => s
  | n + 1 => (pause (operation (stateAt pause operation s n)).state).state

/-- What an attempt comes to. -/
def outcome (pause : Action σ Unit) (operation : Action σ α) (s : σ) (n : Nat) : Done σ α :=
  operation (stateAt pause operation s n)

/-- A failure after which the operation is tried again. -/
def Again (retryable : ErrorKind → Bool) (result : Except Failure α) : Prop :=
  ∃ f, result = .error f ∧ retryable f.kind = true

/-- The record of a failed attempt: what it failed with, and how many retries are left for it. -/
def retryRecord (description : String) (left : Nat) (interval : Quantity) :
    Except Failure α → List Event
  | .error f => [.logged ⟨.debug, .retry, message description left interval,
      [("error", .text f.text)], none⟩]
  | .ok _ => []

/-- What is seen before an attempt: all attempts before it, each with its record and its pause. The
first record counts the whole budget, and each one after it one retry less. -/
def seenBefore (description : String) (interval : Quantity) (pause : Action σ Unit)
    (operation : Action σ α) (s : σ) (budget n : Nat) : List Event :=
  (List.range n).flatMap fun i =>
    (outcome pause operation s i).events ++
      (retryRecord description (budget - i) interval (outcome pause operation s i).result ++
        (pause (outcome pause operation s i).state).events)

/-- The last attempt of the loop: all before it fail in a retryable way, and it does not, unless it
spends the budget. -/
def StopsAt (retryable : ErrorKind → Bool) (pause : Action σ Unit) (operation : Action σ α) (s : σ)
    (budget k : Nat) : Prop :=
  IsLast (fun n => Again retryable (outcome pause operation s n).result) budget k

theorem stateAt_succ' (n : Nat) :
    stateAt pause operation s (n + 1) =
      stateAt pause operation (pause (operation s).state).state n := by
  induction n with
  | zero => rfl
  | succ n ih => rw [stateAt, ih, stateAt]

theorem outcome_succ (n : Nat) :
    outcome pause operation s (n + 1) = outcome pause operation (pause (operation s).state).state n := by
  rw [outcome, outcome, stateAt_succ']

/-- What is seen before a later attempt begins with the first one. -/
theorem seenBefore_succ (n : Nat) :
    seenBefore description interval pause operation s (budget + 1) (n + 1) =
      (operation s).events ++ (retryRecord description (budget + 1) interval (operation s).result ++
        (pause (operation s).state).events) ++
        seenBefore description interval pause operation (pause (operation s).state).state budget n := by
  rw [seenBefore, List.range_succ_eq_map, List.flatMap_cons, List.flatMap_map, seenBefore]
  simp only [outcome_succ, Nat.add_sub_add_right, Nat.sub_zero, Nat.succ_eq_add_one]
  rfl

/-- The attempts after one that failed in a retryable way, with what comes before them. -/
theorem attempts_of_again (hSleep : (sleep interval).Succeeds)
    (hFirst : (operation s).result = .error f) (hAgain : retryable f.kind = true) :
    attempts retryable description interval sleep operation (budget + 1) s =
      (attempts retryable description interval sleep operation budget
        (sleep interval (operation s).state).state).after
        ((operation s).events ++ (retryRecord description (budget + 1) interval (operation s).result ++
          (sleep interval (operation s).state).events)) := by
  obtain ⟨_, hSlept⟩ := hSleep (operation s).state
  rw [attempts, Action.orElse_of_error hFirst, if_pos hAgain, hFirst, ← Done.after_after,
    ← Done.after_after, ← Action.bind_of_ok (fun _ => attempts retryable description interval sleep
      operation budget) hSlept]
  rfl

/-- An attempt that does not fail in a retryable way is the only one. -/
theorem attempts_of_not_again (h : ¬ Again retryable (operation s).result) :
    attempts retryable description interval sleep operation budget s = operation s := by
  cases budget with
  | zero => rfl
  | succ left =>
      rw [attempts]
      cases hFirst : (operation s).result with
      | ok a => rw [Action.orElse_of_ok hFirst]
      | error f =>
          rw [Action.orElse_of_error hFirst, if_neg fun hAgain => h ⟨f, hFirst, hAgain⟩,
            Action.fail_apply, Done.after, List.append_nil, ← hFirst]

/-- One attempt is all there is of an operation that fails for good. -/
theorem run_of_unretryable (hInterval : interval.isNegative = false)
    (hFirst : (operation s).result = .error f) (hFinal : retryable f.kind = false) :
    run retryable description budget interval sleep operation s = operation s := by
  rw [run_eq_attempts _ _ hInterval, attempts_of_not_again]
  rintro ⟨g, hFails, hAgain⟩
  rw [hFirst] at hFails
  cases hFails
  exact absurd hAgain (by rw [hFinal]; decide)

/-- The loop ends as its last attempt does. The induction is on the number of that attempt, from
whatever state and with whatever budget the loop starts. -/
theorem attempts_of_stopsAt (hSleep : (sleep interval).Succeeds)
    (h : StopsAt retryable (sleep interval) operation s budget k) :
    attempts retryable description interval sleep operation budget s =
      (outcome (sleep interval) operation s k).after
        (seenBefore description interval (sleep interval) operation s budget k) := by
  induction k generalizing s budget with
  | zero =>
      change _ = operation s
      cases budget with
      | zero => rfl
      | succ left => exact attempts_of_not_again (h.ends (Nat.succ_pos left))
  | succ k ih =>
      cases budget with
      | zero => exact absurd h.within (Nat.not_succ_le_zero k)
      | succ left =>
          obtain ⟨f, hFirst, hAgain⟩ := h.earlier 0 (Nat.succ_pos k)
          have hRest : StopsAt retryable (sleep interval) operation
              (sleep interval (operation s).state).state left k :=
            (IsLast.congr fun n => by rw [outcome_succ]).mp (IsLast.tail h)
          rw [attempts_of_again (s := s) hSleep hFirst hAgain, ih hRest, Done.after_after, outcome_succ,
            seenBefore_succ]

/-! ## The calls of the loop -/

/-- A call that the loop makes. -/
inductive Call where
  | attempt
  | sleep (seconds : Quantity)
  deriving DecidableEq

/-- An action that notes, beside the state, each time it is called. -/
def noting (call : Call) (x : Action σ α) : Action (σ × List Call) α := fun t =>
  ⟨(x t.1).result, (x t.1).events, ((x t.1).state, t.2 ++ [call])⟩

/-- So many attempts, each with a sleep after it. -/
def callsBefore (interval : Quantity) (n : Nat) : List Call :=
  (List.replicate n [.attempt, .sleep interval]).flatten

theorem callsBefore_succ (n : Nat) :
    callsBefore interval (n + 1) = callsBefore interval n ++ [.attempt] ++ [.sleep interval] := by
  rw [callsBefore, List.replicate_succ', List.flatten_append, List.flatten_singleton, ← callsBefore,
    List.append_assoc]
  rfl

/-- Notes do not change what an operation and a pause do. -/
theorem stateAt_noting (n : Nat) :
    stateAt (noting (.sleep interval) pause) (noting .attempt operation) (s, []) n =
      (stateAt pause operation s n, callsBefore interval n) := by
  induction n with
  | zero => rfl
  | succ n ih =>
      rw [stateAt, ih, callsBefore_succ]
      rfl

theorem outcome_noting (n : Nat) :
    outcome (noting (.sleep interval) pause) (noting .attempt operation) (s, []) n =
      ⟨(outcome pause operation s n).result, (outcome pause operation s n).events,
        ((outcome pause operation s n).state, callsBefore interval n ++ [.attempt])⟩ := by
  rw [outcome, stateAt_noting]
  rfl

theorem seenBefore_noting (budget n : Nat) :
    seenBefore description interval (noting (.sleep interval) pause) (noting .attempt operation) (s, [])
        budget n =
      seenBefore description interval pause operation s budget n := by
  simp only [seenBefore, outcome_noting]
  rfl

/-- A budget that is negative in one way or the other is refused. -/
theorem checkBudget_eq_error {retries : Int} (h : retries < 0 ∨ interval.isNegative = true) :
    ∃ text, checkBudget retries interval = .error (.general .value text) := by
  rw [checkBudget]
  by_cases hRetries : retries < 0
  · exact ⟨_, if_pos hRetries⟩
  · rw [if_neg hRetries, if_pos (h.resolve_left hRetries)]
    exact ⟨_, rfl⟩

/-- Retries with a budget that is negative call nothing at all. With any other one, the last attempt is
the first that does not fail in a retryable way, or the one that spends the budget. The operation is
called once more than it fails before that, with one sleep of the same length between each call and the
next; all ends as that last attempt does, and the records in between count down from the budget. -/
theorem run_calls_exactly (retryable : ErrorKind → Bool) (description : String) (retries : Int)
    (interval : Quantity) {sleep : Quantity → Action σ Unit} (hSleep : (sleep interval).Succeeds)
    (operation : Action σ α) (s : σ) :
    ((retries < 0 ∨ interval.isNegative = true) → ∃ text,
      run retryable description retries interval (fun d => noting (.sleep d) (sleep d))
          (noting .attempt operation) (s, []) =
        ⟨.error (.general .value text), [], (s, [])⟩) ∧
    (0 ≤ retries → interval.isNegative = false →
      (∃ k, StopsAt retryable (sleep interval) operation s retries.toNat k ∧
        ∀ n, StopsAt retryable (sleep interval) operation s retries.toNat n → n = k) ∧
      ∀ k, StopsAt retryable (sleep interval) operation s retries.toNat k →
        run retryable description retries interval sleep operation s =
          ⟨(outcome (sleep interval) operation s k).result,
            seenBefore description interval (sleep interval) operation s retries.toNat k ++
              (outcome (sleep interval) operation s k).events,
            (outcome (sleep interval) operation s k).state⟩ ∧
        run retryable description retries interval (fun d => noting (.sleep d) (sleep d))
            (noting .attempt operation) (s, []) =
          ⟨(outcome (sleep interval) operation s k).result,
            seenBefore description interval (sleep interval) operation s retries.toNat k ++
              (outcome (sleep interval) operation s k).events,
            ((outcome (sleep interval) operation s k).state,
              (List.replicate k [.attempt, .sleep interval]).flatten ++ [.attempt])⟩) := by
  refine ⟨fun hNegative => ?_, fun hRetries hInterval => ⟨IsLast.exists_unique _ _, ?_⟩⟩
  · obtain ⟨text, hCheck⟩ := checkBudget_eq_error hNegative
    exact ⟨text, by rw [run, hCheck]; rfl⟩
  · intro k hLast
    obtain ⟨budget, rfl⟩ := Int.eq_ofNat_of_zero_le hRetries
    rw [Int.toNat_natCast] at hLast ⊢
    have hNoting : (noting (.sleep interval) (sleep interval)).Succeeds := fun t => hSleep t.1
    have hLastNoting : StopsAt retryable (noting (.sleep interval) (sleep interval))
        (noting .attempt operation) (s, []) budget k :=
      (IsLast.congr fun n => by rw [outcome_noting]).mp hLast
    have hNoted : attempts retryable description interval (fun d => noting (.sleep d) (sleep d))
        (noting .attempt operation) budget (s, []) = _ := attempts_of_stopsAt hNoting hLastNoting
    constructor
    · rw [run_eq_attempts _ _ hInterval, attempts_of_stopsAt hSleep hLast]
      rfl
    · rw [run_eq_attempts _ _ hInterval, hNoted, outcome_noting, seenBefore_noting]
      rfl

/-- A world in which a directory appears while one sleeps for the second time. -/
def lateWorld : World :=
  .fresh (fun _ => .error noNetwork) [] (fun n => if n = 1 then [⟨["log", "old"], some []⟩] else [])
    .working

def newLine : Action World Unit := FileAccess.appendOnce ⟨"", ["log", "new"]⟩ "up"

/-- A line is added by the attempt that spends the budget of two retries. -/
theorem run_calls_exactly_late_directory :
    (World.sleep (.int 5)).Succeeds ∧
      (run FileAccess.isRetryable "adding" 2 (.int 5) (fun d => noting (.sleep d) (World.sleep d))
          (noting .attempt newLine) (lateWorld, [])).result = .ok () ∧
      (run FileAccess.isRetryable "adding" 2 (.int 5) (fun d => noting (.sleep d) (World.sleep d))
          (noting .attempt newLine) (lateWorld, [])).state.2 =
        [.attempt, .sleep (.int 5), .attempt, .sleep (.int 5), .attempt] := by
  have hSleep : (World.sleep (.int 5)).Succeeds := fun w => ⟨(), rfl⟩
  have hLast : StopsAt FileAccess.isRetryable (World.sleep (.int 5)) newLine lateWorld 2 2 := by
    refine ⟨Nat.le_refl 2, fun n hLess => ?_, fun hLess => absurd hLess (Nat.lt_irrefl 2)⟩
    match n with
    | 0 => exact ⟨_, rfl, by decide⟩
    | 1 => exact ⟨_, rfl, by decide⟩
    | n + 2 => exact absurd hLess (by omega)
  obtain ⟨-, hRuns⟩ := run_calls_exactly FileAccess.isRetryable "adding" 2 (.int 5) hSleep newLine
    lateWorld
  obtain ⟨-, hNoted⟩ := (hRuns (by decide) rfl).2 2 hLast
  rw [hNoted]
  exact ⟨hSleep, rfl, rfl⟩

end Retry

end Flowline
