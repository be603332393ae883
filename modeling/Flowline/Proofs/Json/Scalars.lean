import Flowline.Json.Writer
import Flowline.Proofs.Json.Completeness

/-!
Texts and integers in JSON. What writes them has no control character, and reading it gives them back.
-/

namespace Flowline

namespace Json

open Text

variable {c : Char} {cs rest : List Char} {n : Nat}

/-! ## Texts -/

/-- The characters of a text as they stand inside quotes. -/
def escaped (cs : List Char) : List Char := cs.flatMap fun c => (escapedChar c).toList

theorem toList_quoted (s : String) : (quoted s).toList = '"' :: (escaped s.toList ++ ['"']) := by
  rw [quoted, String.toList_append, String.toList_append, String.toList_join, List.flatMap_map]
  rfl

/-- The code of a control character has four hexadecimal digits that give it back. -/
theorem writesUnit_hexDigits (h : n < 0x20) : WritesUnit (hexDigits 4 n).toList n := by
  have hAll : ∀ code < 0x20, (hexDigits 4 code).toList.length = 4 ∧
      (hexDigits 4 code).toList.all Markup.isHexDigit = true ∧
        Markup.hexValue (hexDigits 4 code).toList = code := by
    decide +kernel
  obtain ⟨hLength, hHex, hValue⟩ := hAll n h
  exact ⟨hLength, List.all_eq_true.mp hHex, hValue⟩

/-- A control character is no half of a pair. -/
theorem unitChar_control (h : c.toNat < 0x20) :
    isHighSurrogate c.toNat = false ∧ unitChar c.toNat = c := by
  have hHigh : isHighSurrogate c.toNat = false := by
    simp only [isHighSurrogate, Bool.and_eq_false_iff, decide_eq_false_iff_not]
    omega
  have hLow : isLowSurrogate c.toNat = false := by
    simp only [isLowSurrogate, Bool.and_eq_false_iff, decide_eq_false_iff_not]
    omega
  rw [unitChar, hHigh, hLow]
  exact ⟨rfl, Char.ofNat_toNat c⟩

/-- The characters with an escape of their own, each by a letter. -/
theorem escapedChar_letter : ∀ c ∈ ['"', '\\', '\n', '\r', '\t', '\x08', '\x0c'], ∃ e,
    (escapedChar c).toList = ['\\', e] ∧ simpleEscape? e = some c ∧ e ≠ 'u' ∧ 0x20 ≤ e.toNat := by
  simp only [List.forall_mem_cons]
  refine ⟨?_, ?_, ?_, ?_, ?_, ?_, ?_, List.forall_mem_nil _⟩
  all_goals exact ⟨_, rfl, rfl, by decide, by decide⟩

/-- A character is escaped by a letter or by its code, or it stands for itself. -/
theorem escapedChar_cases (c : Char) :
    (∃ e, (escapedChar c).toList = ['\\', e] ∧ simpleEscape? e = some c ∧ e ≠ 'u' ∧
      0x20 ≤ e.toNat) ∨
    (c.toNat < 0x20 ∧ (escapedChar c).toList = '\\' :: 'u' :: (hexDigits 4 c.toNat).toList) ∨
    (0x20 ≤ c.toNat ∧ c ≠ '"' ∧ c ≠ '\\' ∧ (escapedChar c).toList = [c]) := by
  by_cases hLetter : c ∈ ['"', '\\', '\n', '\r', '\t', '\x08', '\x0c']
  · exact .inl (escapedChar_letter c hLetter)
  · simp only [List.mem_cons, List.not_mem_nil, or_false, not_or] at hLetter
    obtain ⟨hQuote, hBackslash, hFeed, hReturn, hTab, hBack, hForm⟩ := hLetter
    rw [escapedChar, if_neg hQuote, if_neg hBackslash, if_neg hFeed, if_neg hReturn, if_neg hTab,
      if_neg hBack, if_neg hForm]
    split
    · rename_i hControl
      refine .inr (.inl ⟨hControl, ?_⟩)
      rw [String.toList_append]
      rfl
    · rename_i hVisible
      exact .inr (.inr ⟨Nat.le_of_not_lt hVisible, hQuote, hBackslash, String.toList_singleton c⟩)

theorem writesChars_escaped (cs : List Char) : WritesChars (escaped cs) cs := by
  induction cs with
  | nil => exact .nil
  | cons c cs ih =>
      rw [escaped, List.flatMap_cons]
      rcases escapedChar_cases c with ⟨e, hList, hEscape, -⟩ | ⟨hControl, hList⟩ |
        ⟨hVisible, hQuote, hBackslash, hList⟩
      · rw [hList]
        exact .letter hEscape ih
      · obtain ⟨hHigh, hUnit⟩ := unitChar_control hControl
        have hCode := WritesChars.unit (writesUnit_hexDigits hControl)
          (fun hPair => absurd hPair.1 (Bool.eq_false_iff.mp hHigh)) ih
        rw [hList]
        rwa [hUnit] at hCode
      · rw [hList]
        exact .plain hVisible hQuote hBackslash ih

/-- A text in quotes is read back. -/
theorem text?_quoted (s : String) (rest : List Char) :
    text? ((quoted s).toList ++ rest) = some (s, rest) := by
  rw [toList_quoted, List.cons_append, List.append_assoc, List.singleton_append,
    (writesChars_escaped s.toList).read_quoted, String.ofList_toList]

/-- A text without control characters. -/
def Visible (text : String) : Prop := ∀ c ∈ text.toList, 0x20 ≤ c.toNat

theorem visible_append {first second : String} (hFirst : Visible first) (hSecond : Visible second) :
    Visible (first ++ second) := by
  intro c hMem
  rw [String.toList_append, List.mem_append] at hMem
  exact hMem.elim (hFirst c) (hSecond c)

theorem visible_escapedChar (c : Char) : Visible (escapedChar c) := by
  have hDigits : ∀ code < 0x20,
      (hexDigits 4 code).toList.all (fun d => decide (0x20 ≤ d.toNat)) = true := by
    decide +kernel
  intro d hMem
  rcases escapedChar_cases c with ⟨e, hList, -, -, hLetter⟩ | ⟨hControl, hList⟩ |
    ⟨hVisible, -, -, hList⟩
  · rw [hList, List.mem_cons, List.mem_singleton] at hMem
    rcases hMem with rfl | rfl
    · decide
    · exact hLetter
  · rw [hList, List.mem_cons, List.mem_cons] at hMem
    rcases hMem with rfl | rfl | hDigit
    · decide
    · decide
    · exact forall_of_all (hDigits c.toNat hControl) d hDigit
  · rw [hList, List.mem_singleton] at hMem
    rw [hMem]
    exact hVisible

theorem visible_quoted (s : String) : Visible (quoted s) := by
  have hQuote : Visible "\"" := forall_of_all rfl
  refine visible_append (visible_append hQuote fun d hMem => ?_) hQuote
  rw [String.toList_join, List.flatMap_map, List.mem_flatMap] at hMem
  obtain ⟨c, -, hOwn⟩ := hMem
  exact visible_escapedChar c d hOwn

/-! ## Integers -/

/-- What can stand after a value: nothing, a comma or the end of what encloses it. -/
def Ends (rest : List Char) : Prop := ∀ c ∈ rest.head?, c = ',' ∨ c = ']' ∨ c = '\x7d'

/-- The digits of a number write it. -/
theorem digitsValue_toDigits (n : Nat) : digitsValue (Nat.toDigits 10 n) = n := by
  have hDigit : ∀ d < 10, digitValue? d.digitChar = some d := by decide
  induction n using Nat.strong_induction_on with
  | _ n ih =>
    by_cases hSmall : n < 10
    · rw [Nat.toDigits_of_lt_base hSmall, digitsValue, List.foldl_cons, List.foldl_nil,
        hDigit n hSmall]
      exact Nat.zero_add n
    · have hFront := ih (n / 10) (by omega)
      rw [digitsValue] at hFront
      rw [Nat.toDigits_of_base_le (by decide) (Nat.le_of_not_lt hSmall), digitsValue,
        List.foldl_append, hFront, List.foldl_cons, List.foldl_nil,
        hDigit (n % 10) (Nat.mod_lt n (by decide))]
      exact Nat.div_add_mod n 10

/-- The digits of a number begin with the digit zero only if they are no other. -/
theorem head?_toDigits (h : 0 < n) : (Nat.toDigits 10 n).head? ≠ some '0' := by
  induction n using Nat.strong_induction_on with
  | _ n ih =>
    by_cases hSmall : n < 10
    · rw [Nat.toDigits_of_lt_base hSmall]
      intro hZero
      rw [List.head?_cons, Option.some_inj, Nat.digitChar_eq_zero] at hZero
      omega
    · rw [Nat.toDigits_of_base_le (by decide) (Nat.le_of_not_lt hSmall), List.head?_append,
        Option.or_of_isSome (by simp [Nat.toDigits_ne_nil])]
      exact ih (n / 10) (by omega) (by omega)

theorem isDigit_of_mem_toDigits : ∀ c ∈ Nat.toDigits 10 n, c.isDigit = true :=
  fun _ hMem => Nat.isDigit_of_mem_toDigits (by decide) (by decide) hMem

theorem isWhole_toDigits (n : Nat) : IsWhole (Nat.toDigits 10 n) := by
  by_cases hZero : n = 0
  · rw [hZero, Nat.toDigits_zero]
    exact .zero
  · exact .digits ⟨Nat.toDigits_ne_nil, isDigit_of_mem_toDigits⟩
      (head?_toDigits (Nat.pos_of_ne_zero hZero))

/-- What can stand after a value on one line can stand behind it. -/
theorem Ends.follows (h : Ends rest) : Follows rest := by
  intro c hHead
  right
  simpa using h c hHead

theorem length_toDigits_le {k : Nat} (hSome : 0 < k) (h : n < Number.tenTo k) :
    (Nat.toDigits 10 n).length ≤ k :=
  (Nat.length_toDigits_le_iff (by decide) hSome).mpr h

theorem toList_toString (i : Int) :
    (toString i).toList = sign (i < 0) ++ Nat.toDigits 10 i.natAbs := by
  cases i with
  | ofNat m => exact Nat.toList_repr
  | negSucc m =>
      change ("-" ++ (m + 1).repr).toList = _
      rw [String.toList_append, Nat.toList_repr, decide_eq_true (Int.negSucc_lt_zero m)]
      rfl

/-- An integer of so few digits that it can be written is read back. -/
theorem writesNumber_toString {i : Int} (hWritable : Number.isWritable i = true) :
    WritesNumber (toString i).toList (.int i) := by
  rw [Number.isWritable, decide_eq_true_iff] at hWritable
  have hNumber := @WritesNumber.int (decide (i < 0)) _ (isWhole_toDigits i.natAbs)
    (length_toDigits_le (by decide) hWritable)
  have hOwn : signed (decide (i < 0)) i.natAbs = i := by
    simp only [signed, decide_eq_true_iff]
    omega
  rwa [digitsValue_toDigits, hOwn, ← toList_toString] at hNumber

theorem visible_toString (i : Int) : Visible (toString i) := by
  have hSign (negative : Bool) : ∀ c ∈ sign negative, 0x20 ≤ c.toNat := by
    cases negative with
    | true => exact forall_of_all rfl
    | false => exact List.forall_mem_nil _
  intro c hMem
  rw [toList_toString, List.mem_append] at hMem
  rcases hMem with hOwn | hDigit
  · exact hSign _ c hOwn
  · have hOwn := isDigit_of_mem_toDigits c hDigit
    have hBounds : (decide (48 ≤ c.val) && decide (c.val ≤ 57)) = true := hOwn
    rw [Bool.and_eq_true, decide_eq_true_iff, decide_eq_true_iff] at hBounds
    have hLeast : 48 ≤ c.toNat := hBounds.1
    omega

end Json

end Flowline
