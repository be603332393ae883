/-!
Rounding of exact quotients of natural numbers. A quotient is rounded to the nearest whole number, and
a quotient that lies halfway between two of them goes to the even one.
-/

namespace Flowline.Number

/-- The whole number nearest to `num / den`, a half going to the even neighbour. -/
def roundHalfEven (num den : Nat) : Nat :=
  let whole := num / den
  let twice := 2 * (num % den)
  if twice < den then whole
  else if den < twice then whole + 1
  else whole + whole % 2

theorem div_le_roundHalfEven (num den : Nat) : num / den ≤ roundHalfEven num den := by
  simp only [roundHalfEven]
  split
  · exact Nat.le_refl _
  · split <;> omega

theorem roundHalfEven_le (num den : Nat) : roundHalfEven num den ≤ num / den + 1 := by
  simp only [roundHalfEven]
  split
  · omega
  · split <;> omega

@[simp] theorem roundHalfEven_mul (n den : Nat) (hden : 0 < den) : roundHalfEven (n * den) den = n := by
  simp [roundHalfEven, Nat.mul_div_cancel _ hden, hden]

/-- The number of decimal digits of `n`, one for zero. -/
def digitCount (n : Nat) : Nat := (Nat.toDigits 10 n).length

end Flowline.Number
