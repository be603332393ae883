import Flowline.Text.Blank
import Flowline.Text.DecimalDigit
import Mathlib.Data.List.TakeWhile

/-!
Scanning of rows of characters of one kind. Blanks, the decimal digits of all scripts and the letters of
ASCII have no character in common, so that where a row of one of them is followed by another one there is
one place only at which the row can end.
-/

namespace Flowline.Text

/-! ## Rows -/

/-- A text that does not begin with a character of a kind. -/
def Stops (p : Char → Bool) (cs : List Char) : Prop := ∀ c ∈ cs.head?, p c = false

variable {p : Char → Bool} {c : Char} {cs row rest : List Char}

theorem stops_nil (p : Char → Bool) : Stops p [] := fun _ h => nomatch h

theorem stops_cons : Stops p (c :: cs) ↔ p c = false := by
  simp [Stops]

theorem stops_append (hRow : ∀ c ∈ row, p c = false) (hRest : row = [] → Stops p rest) :
    Stops p (row ++ rest) := by
  cases row with
  | nil => exact hRest rfl
  | cons c row => exact stops_cons.mpr (hRow c List.mem_cons_self)

theorem stops_dropWhile (p : Char → Bool) (cs : List Char) : Stops p (cs.dropWhile p) := by
  intro c hHead
  have hNot := List.head?_dropWhile_not p cs
  rw [hHead] at hNot
  simpa using hNot

theorem takeWhile_of_stops (h : Stops p cs) : cs.takeWhile p = [] := by
  cases cs with
  | nil => rfl
  | cons c cs => rw [List.takeWhile_cons, stops_cons.mp h, if_neg Bool.false_ne_true]

theorem dropWhile_of_stops (h : Stops p cs) : cs.dropWhile p = cs := by
  cases cs with
  | nil => rfl
  | cons c cs => rw [List.dropWhile_cons, stops_cons.mp h, if_neg Bool.false_ne_true]

/-- A row ends where its kind does. -/
theorem takeWhile_append (hRow : ∀ c ∈ row, p c = true) (hRest : Stops p rest) :
    (row ++ rest).takeWhile p = row := by
  rw [List.takeWhile_append_of_pos hRow, takeWhile_of_stops hRest, List.append_nil]

theorem dropWhile_append (hRow : ∀ c ∈ row, p c = true) (hRest : Stops p rest) :
    (row ++ rest).dropWhile p = rest := by
  rw [List.dropWhile_append_of_pos hRow, dropWhile_of_stops hRest]

/-! ## Kinds of characters -/

/-- The digits of a script are ten characters in a row. -/
theorem digitValue?_eq_some {d : Nat} (h : digitValue? c = some d) :
    d < 10 ∧ ∃ first ∈ zeroDigits, c = Char.ofNat (first + d) := by
  rw [digitValue?, Option.map_eq_some_iff] at h
  obtain ⟨first, hFirst, rfl⟩ := h
  have hWithin := List.find?_some hFirst
  rw [Bool.and_eq_true, decide_eq_true_iff, decide_eq_true_iff] at hWithin
  refine ⟨by omega, first, List.mem_of_find?_eq_some hFirst, ?_⟩
  rw [Nat.add_sub_cancel' hWithin.1, Char.ofNat_toNat]

theorem isDecimalDigit_iff : isDecimalDigit c = true ↔ ∃ d, digitValue? c = some d :=
  Option.isSome_iff_exists

/-- No digit of any script is a blank or a letter of ASCII. -/
theorem digits_apart : ∀ first ∈ zeroDigits, ∀ d < 10,
    isBlank (Char.ofNat (first + d)) = false ∧ (Char.ofNat (first + d)).isAlpha = false := by
  decide +kernel

theorem isBlank_of_isDecimalDigit (h : isDecimalDigit c = true) : isBlank c = false := by
  obtain ⟨d, hDigit⟩ := isDecimalDigit_iff.mp h
  obtain ⟨hLess, first, hFirst, rfl⟩ := digitValue?_eq_some hDigit
  exact (digits_apart first hFirst d hLess).1

theorem isAlpha_of_isDecimalDigit (h : isDecimalDigit c = true) : c.isAlpha = false := by
  obtain ⟨d, hDigit⟩ := isDecimalDigit_iff.mp h
  obtain ⟨hLess, first, hFirst, rfl⟩ := digitValue?_eq_some hDigit
  exact (digits_apart first hFirst d hLess).2

theorem isAlpha_eq_false_iff : c.isAlpha = false ↔
    ¬(65 ≤ c.toNat ∧ c.toNat ≤ 90) ∧ ¬(97 ≤ c.toNat ∧ c.toNat ≤ 122) := by
  have hLetters : c.isAlpha = (decide (65 ≤ c.val ∧ c.val ≤ 90) || decide (97 ≤ c.val) &&
    decide (c.val ≤ 122)) := rfl
  rw [hLetters, Bool.or_eq_false_iff, decide_eq_false_iff_not, Bool.and_eq_false_iff,
    decide_eq_false_iff_not, decide_eq_false_iff_not, ← not_and_or]
  exact Iff.rfl

theorem isAlpha_of_isBlank (h : isBlank c = true) : c.isAlpha = false := by
  simp only [isBlank, Bool.or_eq_true, Bool.and_eq_true, decide_eq_true_eq, beq_iff_eq] at h
  exact isAlpha_eq_false_iff.mpr (by omega)

theorem isDecimalDigit_of_isBlank (h : isBlank c = true) : isDecimalDigit c = false :=
  Bool.eq_false_iff.mpr fun hDigit => Bool.eq_false_iff.mp (isBlank_of_isDecimalDigit hDigit) h

theorem isDecimalDigit_of_isAlpha (h : c.isAlpha = true) : isDecimalDigit c = false :=
  Bool.eq_false_iff.mpr fun hDigit => Bool.eq_false_iff.mp (isAlpha_of_isDecimalDigit hDigit) h

theorem isBlank_of_isAlpha (h : c.isAlpha = true) : isBlank c = false :=
  Bool.eq_false_iff.mpr fun hBlank => Bool.eq_false_iff.mp (isAlpha_of_isBlank hBlank) h

end Flowline.Text
