import Flowline.Proofs.Retry.Loop

/-!
The loop of retries on the world, where the pause between two attempts is a sleep: what the world is
after a number of requests and sleeps, and what is seen of the attempts before the last one.
-/

namespace Flowline

namespace World

/-- The disk of a world after a number of sleeps, if nothing but the sleeps changes it. -/
def diskAfter (w : World) : Nat → FileStore
  | 0 => w.disk
  | n + 1 => (w.changes (w.sleeps + n)).foldl FileChange.apply (w.diskAfter n)

/-- A world after a number of requests and of sleeps and nothing else. -/
def later (w : World) (requests sleeps : Nat) : World :=
  { w with
    requests := w.requests + requests
    sleeps := w.sleeps + sleeps
    disk := w.diskAfter sleeps }

variable {w : World} {requests sleeps more : Nat}

/-- One more sleep. -/
theorem sleep_later (interval : Quantity) :
    sleep interval (w.later requests sleeps) =
      ⟨.ok (), [.slept interval], w.later requests (sleeps + 1)⟩ := rfl

/-- More requests. -/
theorem later_later_zero :
    (w.later requests sleeps).later more 0 = w.later (requests + more) sleeps := by
  simp only [later, diskAfter, Nat.add_assoc, Nat.add_zero]

end World

namespace Retry

variable {α : Type} {retryable : ErrorKind → Bool} {description : String} {interval : Quantity}
  {operation : Action World α} {w : World} {budget k n : Nat}

theorem succeeds_sleep (interval : Quantity) : (World.sleep interval).Succeeds := fun _ => ⟨(), rfl⟩

/-- A record is all that is put aside with the logs. -/
theorem filter_retryRecord (description : String) (left : Nat) (interval : Quantity)
    (result : Except Failure α) :
    (retryRecord description left interval result).filter (!·.isLogged) = [] := by
  cases result <;> rfl

/-- What is seen before an attempt, where each attempt before it shows the same. -/
theorem filter_seenBefore {own : List Event}
    (h : ∀ i < n,
      (outcome (World.sleep interval) operation w i).events.filter (!·.isLogged) = own) :
    (seenBefore description interval (World.sleep interval) operation w budget n).filter
        (!·.isLogged) =
      (List.replicate n (own ++ [.slept interval])).flatten := by
  rw [seenBefore, List.filter_flatMap, List.flatMap_def]
  congr 1
  rw [List.eq_replicate_iff, List.length_map, List.length_range]
  refine ⟨rfl, fun round hMem => ?_⟩
  obtain ⟨i, hRange, rfl⟩ := List.mem_map.mp hMem
  rw [List.filter_append, List.filter_append, filter_retryRecord, h i (List.mem_range.mp hRange),
    List.nil_append]
  rfl

/-- The end of an operation on the world with retries, where the interval is not negative. -/
theorem run_of_stopsAt (hInterval : interval.isNegative = false)
    (h : StopsAt retryable (World.sleep interval) operation w budget k) :
    run retryable description budget interval World.sleep operation w =
      (outcome (World.sleep interval) operation w k).after
        (seenBefore description interval (World.sleep interval) operation w budget k) := by
  rw [run_eq_attempts _ _ hInterval, attempts_of_stopsAt (succeeds_sleep interval) h]

/-- An operation that succeeds at once is not tried again. -/
theorem run_of_ok {retries : Int} {a : α} (hRetries : 0 ≤ retries)
    (hInterval : interval.isNegative = false) (h : (operation w).result = .ok a) :
    run retryable description retries interval World.sleep operation w = operation w := by
  obtain ⟨budget, rfl⟩ := Int.eq_ofNat_of_zero_le hRetries
  rw [run_eq_attempts _ _ hInterval, attempts_of_not_again]
  rintro ⟨f, hFails, -⟩
  rw [h] at hFails
  cases hFails

end Retry

end Flowline
