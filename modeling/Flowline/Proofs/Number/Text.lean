import Flowline.Number.Decimal

/-!
The texts of numbers. That of a finite number has no letter but the mark of an exponent.
-/

namespace Flowline

namespace Binary64

/-- A character of the text of a finite number. -/
def IsNumeral (c : Char) : Prop := c.isDigit = true ∨ c ∈ ['.', '-', '+', 'e']

variable {d : Decimal}

theorem isNumeral_of_mem_toDigits {n : Nat} : ∀ c ∈ Nat.toDigits 10 n, IsNumeral c :=
  fun _ hMem => .inl (Nat.isDigit_of_mem_toDigits (by decide) (by decide) hMem)

theorem isNumeral_of_mem_positional : ∀ c ∈ (positional d).toList, IsNumeral c := by
  have hZero (n : Nat) : ∀ c ∈ List.replicate n '0', IsNumeral c := by
    intro c hMem
    rw [List.eq_of_mem_replicate hMem]
    exact .inl rfl
  have hPoint : ∀ c ∈ ".0".toList ++ ".".toList, IsNumeral c := by
    simp [IsNumeral]
  rw [List.forall_mem_append] at hPoint
  rw [positional]
  cases d.exponent with
  | ofNat e =>
      simp only [String.toList_append, String.toList_ofList, List.forall_mem_append]
      exact ⟨⟨isNumeral_of_mem_toDigits, hZero e⟩, hPoint.1⟩
  | negSucc e =>
      have hPadded : ∀ c ∈ List.replicate (e + 1 + 1 - d.digitChars.length) '0' ++ d.digitChars,
          IsNumeral c := List.forall_mem_append.mpr ⟨hZero _, isNumeral_of_mem_toDigits⟩
      simp only [String.toList_append, String.toList_ofList]
      rw [List.forall_mem_append, List.forall_mem_append]
      exact ⟨⟨fun c hMem => hPadded c (List.mem_of_mem_take hMem), hPoint.2⟩,
        fun c hMem => hPadded c (List.mem_of_mem_drop hMem)⟩

theorem isNumeral_of_mem_exponentText (e : Int) : ∀ c ∈ (exponentText "e" e).toList, IsNumeral c := by
  have hMark : ∀ c ∈ "e".toList, IsNumeral c := by simp [IsNumeral]
  have hSign : ∀ c ∈ (if e < 0 then "-" else "+").toList, IsNumeral c := by
    split <;> simp [IsNumeral]
  have hDigits : ∀ c ∈ (toString e.natAbs).toList, IsNumeral c := by
    rw [show (toString e.natAbs).toList = Nat.toDigits 10 e.natAbs from Nat.toList_repr]
    exact isNumeral_of_mem_toDigits
  simp only [exponentText, String.toList_append]
  refine List.forall_mem_append.mpr ⟨List.forall_mem_append.mpr ⟨hMark, hSign⟩, ?_⟩
  split
  · rw [String.toList_append]
    exact List.forall_mem_append.mpr ⟨List.forall_mem_singleton.mpr (.inl rfl), hDigits⟩
  · exact hDigits

theorem isNumeral_of_mem_scientific : ∀ c ∈ (scientific d).toList, IsNumeral c := by
  have hDigits : ∀ c ∈ d.digitChars, IsNumeral c := isNumeral_of_mem_toDigits
  have hPoint : ∀ c ∈ ".".toList, IsNumeral c := by simp [IsNumeral]
  rw [scientific]
  simp only [String.toList_append]
  refine List.forall_mem_append.mpr ⟨?_, isNumeral_of_mem_exponentText _⟩
  split
  · exact List.forall_mem_singleton.mpr (.inl rfl)
  · rename_i c hOwn
    rw [hOwn] at hDigits
    rw [String.toList_singleton]
    exact hDigits
  · rename_i c more hMore hOwn
    rw [hOwn, List.forall_mem_cons] at hDigits
    simp only [String.toList_append, String.toList_singleton, String.toList_ofList]
    exact List.forall_mem_append.mpr ⟨List.forall_mem_append.mpr
      ⟨List.forall_mem_singleton.mpr hDigits.1, hPoint⟩, hDigits.2⟩

/-- The text of a finite number has digits, points, signs and the mark of an exponent only. -/
theorem isNumeral_of_mem_text {x : Binary64} (h : x.isFinite = true) : ∀ c ∈ x.text.toList, IsNumeral c := by
  cases x with
  | finite negative significand exponent bounded =>
      have hSign : ∀ c ∈ (signText negative).toList, IsNumeral c := by
        cases negative <;> simp [signText, IsNumeral]
      simp only [text, String.toList_append]
      refine List.forall_mem_append.mpr ⟨hSign, ?_⟩
      split
      · exact isNumeral_of_mem_positional
      · exact isNumeral_of_mem_scientific
  | _ => cases h

end Binary64
end Flowline
