import Flowline.Action

/-!
Retries: an operation that fails is tried again, each time after a sleep of the same length, as long as
its budget lasts.
-/

namespace Flowline.Retry

variable {σ α : Type}

/-- The message about an operation that will be tried again. -/
def message (description : String) (left : Nat) (interval : Quantity) : String :=
  s!"{description} failed but {left} " ++ (if left = 1 then "retry" else "retries") ++
    s!" left, will retry in {interval.twoPlaces} seconds"

/-- Tries an operation and, after each failure of a kind that is retryable, tries it again, at most so
many times. -/
def attempts (retryable : ErrorKind → Bool) (description : String) (interval : Quantity)
    (sleep : Quantity → Action σ Unit) (operation : Action σ α) : Nat → Action σ α
  | 0 => operation
  | left + 1 => operation.orElse fun f =>
      if retryable f.kind then do
        Action.log .debug .retry (message description (left + 1) interval)
          [("error", .text f.text)]
        sleep interval
        attempts retryable description interval sleep operation left
      else .fail f

/-- The check of a budget: neither the retries nor the interval may be negative. -/
def checkBudget (retries : Int) (interval : Quantity) : Except Failure Nat :=
  if retries < 0 then .error (.general .value "retries must be >= 0")
  else if interval.isNegative then .error (.general .value "retry_interval must be >= 0")
  else .ok retries.toNat

/-- Runs an operation with retries. -/
def run (retryable : ErrorKind → Bool) (description : String) (retries : Int) (interval : Quantity)
    (sleep : Quantity → Action σ Unit) (operation : Action σ α) : Action σ α :=
  match checkBudget retries interval with
  | .error f => .fail f
  | .ok budget => attempts retryable description interval sleep operation budget

end Flowline.Retry
