import Flowline.Number.Reading
import Flowline.Proofs.Text.Scanning

/-!
What real literals look like. Digits of any script, with or without a fraction, are one. A literal that
begins with neither a sign nor a letter is a decimal number, so that it ends with a digit or a point.
-/

namespace Flowline.Number

open Text

variable {c : Char} {cs : List Char} {x : Binary64}

/-! ## Digits of other scripts -/

/-- A digit as the ASCII digit of the same value; other characters stay. -/
def asciiDigit (c : Char) : Char :=
  match digitValue? c with
  | some d => Char.ofNat (48 + d)
  | none => c

theorem asciiDigits_eq_map (cs : List Char) : asciiDigits cs = cs.map asciiDigit := rfl

theorem isAsciiDigit_asciiDigit (h : isDecimalDigit c = true) :
    isAsciiDigit (asciiDigit c) = true := by
  have hAll : ∀ d < 10, isAsciiDigit (Char.ofNat (48 + d)) = true := by decide
  obtain ⟨d, hDigit⟩ := isDecimalDigit_iff.mp h
  rw [asciiDigit, hDigit]
  exact hAll d (digitValue?_eq_some hDigit).1

theorem asciiDigit_of_not_digit (h : isDecimalDigit c = false) : asciiDigit c = c := by
  rw [asciiDigit, Option.not_isSome_iff_eq_none.mp (Bool.eq_false_iff.mp h)]

theorem isDecimalDigit_of_isAsciiDigit (h : isAsciiDigit c = true) : isDecimalDigit c = true := by
  rw [isAsciiDigit, Bool.and_eq_true, decide_eq_true_iff, decide_eq_true_iff] at h
  rw [isDecimalDigit, digitValue?, Option.isSome_map, List.find?_isSome]
  refine ⟨48, List.mem_cons_self, ?_⟩
  rw [Bool.and_eq_true, decide_eq_true_iff, decide_eq_true_iff]
  omega

theorem forall_mem_asciiDigits (h : ∀ c ∈ cs, isDecimalDigit c = true) :
    ∀ c ∈ asciiDigits cs, isAsciiDigit c = true := by
  intro c hMem
  obtain ⟨own, hOwn, rfl⟩ := List.mem_map.mp hMem
  exact isAsciiDigit_asciiDigit (h own hOwn)

theorem isAlpha_of_isAsciiDigit (h : isAsciiDigit c = true) : c.isAlpha = false := by
  rw [isAsciiDigit, Bool.and_eq_true, decide_eq_true_iff, decide_eq_true_iff] at h
  exact isAlpha_eq_false_iff.mpr (by omega)

/-! ## Literals without a sign -/

theorem dropSeparators_of_not_mem {previous : Option Char} (hPrevious : previous ≠ some '_')
    (h : '_' ∉ cs) : dropSeparators previous cs = some cs := by
  induction cs generalizing previous with
  | nil => rw [dropSeparators, if_neg hPrevious]
  | cons c cs ih =>
      obtain ⟨hHead, hRest⟩ := List.ne_and_not_mem_of_not_mem_cons h
      have hNext : some c ≠ some '_' := fun hSame => hHead (Option.some.inj hSame).symm
      rw [dropSeparators, ih hNext hRest]
      · simp [hPrevious]
      · exact fun hSame => hHead hSame.symm

theorem toLower_of_not_isAlpha (h : c.isAlpha = false) : c.toLower = c :=
  dif_neg (isAlpha_eq_false_iff.mp h).1

theorem low_line_not_mem_asciiDigits (h : '_' ∉ cs) : '_' ∉ asciiDigits cs := by
  intro hMem
  rw [asciiDigits_eq_map] at hMem
  obtain ⟨c, hOwn, hSame⟩ := List.mem_map.mp hMem
  cases hDigit : isDecimalDigit c with
  | true =>
      have hAscii := isAsciiDigit_asciiDigit hDigit
      rw [hSame] at hAscii
      cases hAscii
  | false =>
      rw [asciiDigit_of_not_digit hDigit] at hSame
      exact h (hSame ▸ hOwn)

/-- What begins with a digit or a blank has no sign. -/
theorem splitSign_of_unsigned {rest : List Char} (h : isAsciiDigit c = true ∨ isBlank c = true) :
    splitSign (c :: rest) = (false, c :: rest) := by
  unfold splitSign
  split
  · rename_i hMinus
    rw [(List.cons.inj hMinus).1] at h
    exact absurd h (by decide)
  · rename_i hPlus
    rw [(List.cons.inj hPlus).1] at h
    exact absurd h (by decide)
  · rfl

/-- What begins with no letter is none of the words that do. -/
theorem ofList_ne_word {word : String} {rest : List Char} (h : c.isAlpha = false)
    (hWord : word.toList.head?.any Char.isAlpha = true) :
    String.ofList ((c :: rest).map Char.toLower) ≠ word := by
  rintro rfl
  rw [String.toList_ofList, List.map_cons, toLower_of_not_isAlpha h] at hWord
  exact Bool.eq_false_iff.mp h hWord

/-- What begins with a digit or a blank is read as a decimal without a sign. -/
theorem realLiteral?_of_unsigned (hPlain : '_' ∉ cs)
    (hHead : ∀ c ∈ cs.head?, isDecimalDigit c = true ∨ isBlank c = true) :
    realLiteral? cs = unsignedDecimal? false (asciiDigits cs) := by
  rw [realLiteral?, dropSeparators_of_not_mem (Option.some_ne_none _).symm
    (low_line_not_mem_asciiDigits hPlain), Option.bind_some]
  cases cs with
  | nil => rfl
  | cons own rest =>
      have hFirst : isAsciiDigit (asciiDigit own) = true ∨ isBlank (asciiDigit own) = true := by
        refine (hHead own rfl).imp isAsciiDigit_asciiDigit fun hBlank => ?_
        rw [asciiDigit_of_not_digit (isDecimalDigit_of_isBlank hBlank)]
        exact hBlank
      have hLetter : (asciiDigit own).isAlpha = false :=
        hFirst.elim isAlpha_of_isAsciiDigit isAlpha_of_isBlank
      have hWord (word : String) (h : word.toList.head?.any Char.isAlpha = true) :
          String.ofList ((asciiDigit own :: rest.map asciiDigit).map Char.toLower) ≠ word :=
        ofList_ne_word hLetter h
      rw [asciiDigits_eq_map, List.map_cons]
      simp only [splitSign_of_unsigned hFirst, hWord "inf" (by decide),
        hWord "infinity" (by decide), hWord "nan" (by decide), decide_false, Bool.or_false,
        Bool.false_eq_true, if_false]

/-! ## Digits with or without a fraction -/

theorem unsignedDecimal?_of_whole {whole : List Char} (hWhole : whole ≠ [])
    (hDigits : ∀ c ∈ whole, isAsciiDigit c = true) :
    unsignedDecimal? false whole = some (.ofDecimal false (digitsValue whole) 0) := by
  have hTake : whole.takeWhile isAsciiDigit = whole := List.takeWhile_eq_self_iff.mpr hDigits
  have hDrop : whole.dropWhile isAsciiDigit = [] := List.dropWhile_eq_nil_iff.mpr hDigits
  rw [unsignedDecimal?, hTake, hDrop]
  simp [hWhole, exponentPart?]

theorem unsignedDecimal?_of_fraction {whole places : List Char} (hWhole : whole ≠ [])
    (hDigits : ∀ c ∈ whole, isAsciiDigit c = true) (hPlaces : ∀ c ∈ places, isAsciiDigit c = true) :
    unsignedDecimal? false (whole ++ '.' :: places) =
      some (.ofDecimal false (digitsValue (whole ++ places)) (-places.length)) := by
  have hStops : Stops isAsciiDigit ('.' :: places) := stops_cons.mpr rfl
  rw [unsignedDecimal?, takeWhile_append hDigits hStops, dropWhile_append hDigits hStops]
  simp [hWhole, List.takeWhile_eq_self_iff.mpr hPlaces, List.dropWhile_eq_nil_iff.mpr hPlaces,
    exponentPart?]

theorem low_line_not_mem_of_digits {row : List Char} (h : ∀ c ∈ row, isDecimalDigit c = true) :
    '_' ∉ row := fun hMem => absurd (h '_' hMem) (by decide)

/-- The value of a row of digits. -/
theorem realLiteral?_of_whole {whole : List Char} (hWhole : whole ≠ [])
    (hDigits : ∀ c ∈ whole, isDecimalDigit c = true) :
    realLiteral? whole = some (.ofDecimal false (digitsValue (asciiDigits whole)) 0) := by
  rw [realLiteral?_of_unsigned (low_line_not_mem_of_digits hDigits)
    fun c hMem => .inl (hDigits c (List.mem_of_mem_head? hMem))]
  exact unsignedDecimal?_of_whole (mt List.map_eq_nil_iff.mp hWhole) (forall_mem_asciiDigits hDigits)

/-- The value of two rows of digits with a point between them. -/
theorem realLiteral?_of_fraction {whole places : List Char} (hWhole : whole ≠ [])
    (hDigits : ∀ c ∈ whole, isDecimalDigit c = true)
    (hPlaces : ∀ c ∈ places, isDecimalDigit c = true) :
    realLiteral? (whole ++ '.' :: places) =
      some (.ofDecimal false (digitsValue (asciiDigits whole ++ asciiDigits places))
        (-places.length)) := by
  have hPlain : '_' ∉ whole ++ '.' :: places := by
    rw [List.mem_append, List.mem_cons]
    rintro (hMem | hMem | hMem)
    · exact low_line_not_mem_of_digits hDigits hMem
    · cases hMem
    · exact low_line_not_mem_of_digits hPlaces hMem
  have hHead : ∀ c ∈ (whole ++ '.' :: places).head?,
      isDecimalDigit c = true ∨ isBlank c = true := by
    obtain ⟨first, rest, rfl⟩ := List.exists_cons_of_ne_nil hWhole
    rintro c hMem
    cases hMem
    exact .inl (hDigits first List.mem_cons_self)
  have hSplit : asciiDigits (whole ++ '.' :: places) =
      asciiDigits whole ++ '.' :: asciiDigits places := List.map_append
  have hSome : asciiDigits whole ≠ [] := mt List.map_eq_nil_iff.mp hWhole
  rw [realLiteral?_of_unsigned hPlain hHead, hSplit, unsignedDecimal?_of_fraction hSome
    (forall_mem_asciiDigits hDigits) (forall_mem_asciiDigits hPlaces), asciiDigits_eq_map places,
    List.length_map]

/-! ## How a literal ends -/

theorem mem_getLast?_append {front back : List Char} (h : c ∈ (front ++ back).getLast?) :
    c ∈ back.getLast? ∨ back = [] ∧ c ∈ front.getLast? := by
  rw [List.getLast?_append] at h
  exact (Option.or_eq_some_iff.mp h).imp_right (And.imp_left List.getLast?_eq_none_iff.mp)

theorem exists_sign (cs : List Char) : ∃ sign, cs = sign ++ (splitSign cs).2 := by
  unfold splitSign
  split
  · exact ⟨['-'], rfl⟩
  · exact ⟨['+'], rfl⟩
  · exact ⟨[], rfl⟩

theorem last_of_exponentValue? {e : Int} (h : exponentValue? cs = some e) :
    ∃ c ∈ cs.getLast?, isAsciiDigit c = true := by
  obtain ⟨sign, hSign⟩ := exists_sign cs
  simp only [exponentValue?, Bool.or_eq_true, not_or, Bool.not_eq_true, Bool.not_eq_true',
    Option.ite_none_left_eq_some, List.isEmpty_eq_false_iff, Bool.not_eq_false,
    List.all_eq_true] at h
  obtain ⟨⟨hSome, hDigits⟩, -⟩ := h
  generalize (splitSign cs).2 = digits at hSign hSome hDigits
  refine ⟨digits.getLast hSome, ?_, hDigits _ (List.getLast_mem hSome)⟩
  rw [hSign, List.getLast?_append, List.getLast?_eq_some_getLast hSome]
  rfl

theorem last_of_exponentPart? {e : Int} (h : exponentPart? cs = some e)
    (hLast : c ∈ cs.getLast?) : isAsciiDigit c = true := by
  cases cs with
  | nil => cases hLast
  | cons mark rest =>
      rw [exponentPart?] at h
      split at h
      · obtain ⟨last, hMem, hDigit⟩ := last_of_exponentValue? h
        rw [List.getLast?_cons, hMem] at hLast
        cases hLast
        exact hDigit
      · cases h

/-- A decimal ends with a digit or a point. -/
theorem last_of_unsignedDecimal? {negative : Bool} (h : unsignedDecimal? negative cs = some x)
    (hLast : c ∈ cs.getLast?) : isAsciiDigit c = true ∨ c = '.' := by
  have hRow (row : List Char) (hMem : c ∈ (row.takeWhile isAsciiDigit).getLast?) :
      isAsciiDigit c = true := List.mem_takeWhile_imp (List.mem_of_mem_getLast? hMem)
  have hSplit (row : List Char) :=
    List.takeWhile_append_dropWhile (p := isAsciiDigit) (l := row)
  rw [← hSplit cs] at hLast
  rw [unsignedDecimal?] at h
  split at h
  rename_i places rest hParts
  simp only [Option.ite_none_left_eq_some, Option.map_eq_some_iff] at h
  obtain ⟨-, e, hExponent, -⟩ := h
  split at hParts
  · rename_i tail hPoint
    cases hParts
    rw [hPoint] at hLast
    rcases mem_getLast?_append hLast with hTail | ⟨hNil, -⟩
    · rw [← hSplit tail, ← List.cons_append] at hTail
      rcases mem_getLast?_append hTail with hAfter | ⟨-, hPlaces⟩
      · exact .inl (last_of_exponentPart? hExponent hAfter)
      · have hPointed : c ∈ (['.'] ++ tail.takeWhile isAsciiDigit).getLast? := hPlaces
        rcases mem_getLast?_append hPointed with hDigit | ⟨-, hMark⟩
        · exact .inl (hRow tail hDigit)
        · exact .inr (Option.some.inj hMark).symm
    · cases hNil
  · cases hParts
    rcases mem_getLast?_append hLast with hAfter | ⟨-, hWhole⟩
    · exact .inl (last_of_exponentPart? hExponent hAfter)
    · exact .inl (hRow cs hWhole)

/-- A literal that begins with a digit or a blank ends with a digit or a point. -/
theorem last_of_realLiteral? (hPlain : '_' ∉ cs)
    (hHead : ∀ c ∈ cs.head?, isDecimalDigit c = true ∨ isBlank c = true)
    (h : realLiteral? cs = some x) (hLast : c ∈ cs.getLast?) :
    isDecimalDigit c = true ∨ c = '.' := by
  rw [realLiteral?_of_unsigned hPlain hHead] at h
  have hMapped : asciiDigit c ∈ (asciiDigits cs).getLast? := by
    rw [asciiDigits_eq_map, List.getLast?_map, hLast]
    rfl
  cases hDigit : isDecimalDigit c with
  | true => exact .inl rfl
  | false =>
      rw [asciiDigit_of_not_digit hDigit] at hMapped
      refine .inr ((last_of_unsignedDecimal? h hMapped).resolve_left fun hAscii => ?_)
      rw [isDecimalDigit_of_isAsciiDigit hAscii] at hDigit
      cases hDigit

end Flowline.Number
