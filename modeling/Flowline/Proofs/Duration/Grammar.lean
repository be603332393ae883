import Flowline.Duration
import Flowline.Proofs.Number.Reading
import Mathlib.Data.List.Forall2

/-!
The grammar of durations. It is told without its reader: a row is one part after another, and each part
is an amount and a unit with blanks wherever they may stand. The reader finds the parts of a row and no
others, so that a text has one row of parts at most, and no row is the literal of a number.
-/

namespace Flowline.Duration

open Text

/-- An amount: a row of digits, or two of them with a point between. -/
inductive IsAmount : List Char → Prop where
  | whole {digits : List Char} (hSome : digits ≠ [])
      (hDigits : ∀ c ∈ digits, isDecimalDigit c = true) : IsAmount digits
  | fraction {digits places : List Char} (hSome : digits ≠ [])
      (hDigits : ∀ c ∈ digits, isDecimalDigit c = true) (hSomePlaces : places ≠ [])
      (hPlaces : ∀ c ∈ places, isDecimalDigit c = true) : IsAmount (digits ++ '.' :: places)

/-- A text that writes a part: its amount and its unit, which is letters of ASCII, and any blanks before,
between and behind them. -/
inductive Part.Writes (part : Part) : List Char → Prop where
  | intro {before middle after : List Char} (hBefore : ∀ c ∈ before, isBlank c = true)
      (hAmount : IsAmount part.amount) (hMiddle : ∀ c ∈ middle, isBlank c = true)
      (hSome : part.unit ≠ []) (hUnit : ∀ c ∈ part.unit, c.isAlpha = true)
      (hAfter : ∀ c ∈ after, isBlank c = true) :
      Writes part (before ++ (part.amount ++ (middle ++ (part.unit ++ after))))

/-- A text that writes parts one after another. -/
def Written (parts : List Part) (cs : List Char) : Prop :=
  ∃ texts, List.Forall₂ Part.Writes parts texts ∧ texts.flatten = cs

/-! ## Amounts -/

variable {cs rest back text front : List Char} {amount : List Char} {part : Part}
  {parts : List Part}

theorem IsAmount.head (h : IsAmount amount) (rest : List Char) :
    ∃ c ∈ (amount ++ rest).head?, isDecimalDigit c = true := by
  have hFirst {row : List Char} (hSome : row ≠ []) (hRow : ∀ c ∈ row, isDecimalDigit c = true)
      (rest : List Char) : ∃ c ∈ (row ++ rest).head?, isDecimalDigit c = true := by
    obtain ⟨c, tail, rfl⟩ := List.exists_cons_of_ne_nil hSome
    exact ⟨c, rfl, hRow c List.mem_cons_self⟩
  cases h with
  | whole hSome hDigits => exact hFirst hSome hDigits rest
  | fraction hSome hDigits _ _ =>
      rw [List.append_assoc]
      exact hFirst hSome hDigits _

theorem IsAmount.ne_nil (h : IsAmount amount) : amount ≠ [] := by
  rintro rfl
  obtain ⟨c, hHead, -⟩ := h.head []
  cases hHead

/-- Every amount is a literal of a number. -/
theorem IsAmount.exists_value (h : IsAmount amount) :
    ∃ x, Number.realLiteral? amount = some x := by
  cases h with
  | whole hSome hDigits => exact ⟨_, Number.realLiteral?_of_whole hSome hDigits⟩
  | fraction hSome hDigits _ hPlaces =>
      exact ⟨_, Number.realLiteral?_of_fraction hSome hDigits hPlaces⟩

theorem splitAmount_append (h : IsAmount amount) (hDigit : Stops isDecimalDigit rest)
    (hPoint : rest.head? ≠ some '.') : splitAmount (amount ++ rest) = (amount, rest) := by
  cases h with
  | whole hSome hDigits =>
      rw [splitAmount, takeWhile_append hDigits hDigit, dropWhile_append hDigits hDigit]
      split
      · exact absurd rfl hPoint
      · rfl
  | @fraction digits places hSome hDigits hSomePlaces hPlaces =>
      have hStops : Stops isDecimalDigit ('.' :: (places ++ rest)) :=
        stops_cons.mpr (by decide +kernel)
      rw [List.append_assoc, List.cons_append, splitAmount, takeWhile_append hDigits hStops,
        dropWhile_append hDigits hStops]
      simp [takeWhile_append hPlaces hDigit, dropWhile_append hPlaces hDigit, hSome, hSomePlaces]

theorem splitAmount_eq (h : splitAmount cs = (amount, rest)) (hSome : amount ≠ []) :
    IsAmount amount ∧ cs = amount ++ rest := by
  have hWhole := List.takeWhile_append_dropWhile (p := isDecimalDigit) (l := cs)
  have hRow (row : List Char) : ∀ c ∈ row.takeWhile isDecimalDigit, isDecimalDigit c = true :=
    fun c hMem => List.mem_takeWhile_imp hMem
  simp only [splitAmount] at h
  split at h
  · rename_i tail hTail
    rw [hTail] at hWhole
    split at h
    · cases h
      exact ⟨.whole hSome (hRow cs), hWhole.symm⟩
    · rename_i hBoth
      cases h
      rw [Bool.or_eq_true, not_or, List.isEmpty_iff, List.isEmpty_iff] at hBoth
      refine ⟨.fraction hBoth.1 (hRow cs) hBoth.2 (hRow tail), ?_⟩
      rw [List.append_assoc, List.cons_append, List.takeWhile_append_dropWhile, hWhole]
  · cases h
    exact ⟨.whole hSome (hRow cs), hWhole.symm⟩

/-! ## Parts -/

/-- A part begins with a blank or with a digit of its amount. -/
theorem Part.Writes.head (h : part.Writes text) (back : List Char) :
    ∃ c ∈ (text ++ back).head?, isDecimalDigit c = true ∨ isBlank c = true := by
  cases h with
  | @intro before _ _ hBefore hAmount _ _ _ _ =>
      cases before with
      | nil =>
          rw [List.nil_append, List.append_assoc]
          obtain ⟨c, hHead, hDigit⟩ := hAmount.head _
          exact ⟨c, hHead, .inl hDigit⟩
      | cons c before => exact ⟨c, rfl, .inr (hBefore c List.mem_cons_self)⟩

theorem Part.Writes.isAmount (h : part.Writes text) : IsAmount part.amount := by
  cases h
  assumption

/-- No part begins with a letter. -/
theorem Part.Writes.stops (h : part.Writes text) (back : List Char) :
    Stops Char.isAlpha (text ++ back) := by
  obtain ⟨first, hFirst, hKind⟩ := h.head back
  intro c hMem
  cases hFirst.symm.trans hMem
  exact hKind.elim isAlpha_of_isDecimalDigit isAlpha_of_isBlank

/-- A part takes the blanks behind it too. -/
theorem Part.Writes.append_blanks (h : part.Writes text) {blanks : List Char}
    (hBlanks : ∀ c ∈ blanks, isBlank c = true) : part.Writes (text ++ blanks) := by
  cases h with
  | intro hBefore hAmount hMiddle hSome hUnit hAfter =>
      simp only [List.append_assoc]
      exact .intro hBefore hAmount hMiddle hSome hUnit (List.forall_mem_append.mpr ⟨hAfter, hBlanks⟩)

/-- What a part writes is read as that part, if no letter follows; the blanks behind it are passed
over. -/
theorem splitPart_append (h : part.Writes text) (hBack : Stops Char.isAlpha back) :
    splitPart (text ++ back) = some (part, back.dropWhile isBlank) := by
  cases h with
  | @intro before middle after hBefore hAmount hMiddle hSome hUnit hAfter =>
      obtain ⟨letter, unit, hUnitCons⟩ := List.exists_cons_of_ne_nil hSome
      have hLetter : letter.isAlpha = true := hUnit letter (hUnitCons ▸ List.mem_cons_self)
      -- each row ends at the first character of the one behind it
      have hAmountStops (rest : List Char) : Stops isBlank (part.amount ++ rest) := by
        obtain ⟨first, hFirst, hDigit⟩ := hAmount.head rest
        intro c hMem
        cases hFirst.symm.trans hMem
        exact isBlank_of_isDecimalDigit hDigit
      have hUnitStops (rest : List Char) : Stops isBlank (part.unit ++ rest) := by
        rw [hUnitCons]
        exact stops_cons.mpr (isBlank_of_isAlpha hLetter)
      have hAfterStops : Stops Char.isAlpha (after ++ back) :=
        stops_append (fun c hMem => isAlpha_of_isBlank (hAfter c hMem)) fun _ => hBack
      have hDigitStops (rest : List Char) :
          Stops isDecimalDigit (middle ++ (part.unit ++ rest)) := by
        refine stops_append (fun c hMem => isDecimalDigit_of_isBlank (hMiddle c hMem)) fun _ => ?_
        rw [hUnitCons]
        exact stops_cons.mpr (isDecimalDigit_of_isAlpha hLetter)
      have hPointStops (rest : List Char) : (middle ++ (part.unit ++ rest)).head? ≠ some '.' := by
        intro hPoint
        cases middle with
        | nil =>
            rw [List.nil_append, hUnitCons] at hPoint
            cases hPoint
            cases hLetter
        | cons c middle =>
            cases hPoint
            exact absurd (hMiddle '.' List.mem_cons_self) (by decide)
      simp only [List.append_assoc, splitPart, dropWhile_append hBefore (hAmountStops _),
        splitAmount_append hAmount (hDigitStops _) (hPointStops _),
        dropWhile_append hMiddle (hUnitStops _), takeWhile_append hUnit hAfterStops,
        dropWhile_append hUnit hAfterStops, List.dropWhile_append_of_pos hAfter]
      simp [hAmount.ne_nil, hSome]

/-- What is read as a part is written as that part, and no letter follows it. -/
theorem splitPart_eq_some (h : splitPart cs = some (part, rest)) :
    ∃ text back, part.Writes text ∧ Stops Char.isAlpha back ∧ cs = text ++ back ∧
      rest = back.dropWhile isBlank := by
  rw [splitPart] at h
  split at h
  rename_i amount afterAmount hSplit
  simp only [Option.ite_none_left_eq_some, Bool.or_eq_true, not_or, List.isEmpty_iff,
    Option.some.injEq, Prod.mk.injEq] at h
  obtain ⟨⟨hAmountSome, hUnitSome⟩, rfl, rfl⟩ := h
  obtain ⟨hAmount, hFront⟩ := splitAmount_eq hSplit hAmountSome
  have hRow (p : Char → Bool) (row : List Char) : ∀ c ∈ row.takeWhile p, p c = true :=
    fun c hMem => List.mem_takeWhile_imp hMem
  have hWrites : Part.Writes ⟨amount, (afterAmount.dropWhile isBlank).takeWhile Char.isAlpha⟩
      (cs.takeWhile isBlank ++ (amount ++ (afterAmount.takeWhile isBlank ++
        ((afterAmount.dropWhile isBlank).takeWhile Char.isAlpha ++ [])))) :=
    .intro (hRow _ _) hAmount (hRow _ _) hUnitSome (hRow _ _) (List.forall_mem_nil _)
  refine ⟨_, _, hWrites, stops_dropWhile Char.isAlpha (afterAmount.dropWhile isBlank), ?_, rfl⟩
  simp only [List.append_assoc, List.append_nil, List.takeWhile_append_dropWhile]
  rw [← hFront, List.takeWhile_append_dropWhile]

/-! ## Rows of parts -/

theorem written_nil : Written [] [] := ⟨[], .nil, rfl⟩

theorem written_cons : Written (part :: parts) cs ↔
    ∃ text rest, part.Writes text ∧ Written parts rest ∧ cs = text ++ rest := by
  constructor
  · rintro ⟨texts, hTexts, rfl⟩
    cases hTexts with
    | cons hHead hTail => exact ⟨_, _, hHead, ⟨_, hTail, rfl⟩, rfl⟩
  · rintro ⟨text, rest, hText, ⟨texts, hTexts, rfl⟩, rfl⟩
    exact ⟨text :: texts, .cons hText hTexts, rfl⟩

theorem Written.stops (h : Written parts front) (hBack : Stops Char.isAlpha back) :
    Stops Char.isAlpha (front ++ back) := by
  cases parts with
  | nil =>
      obtain ⟨_, ⟨⟩, rfl⟩ := h
      exact hBack
  | cons part parts =>
      obtain ⟨text, rest, hText, -, rfl⟩ := written_cons.mp h
      rw [List.append_assoc]
      exact hText.stops _

theorem splitParts_of_none (h : splitPart cs = none) : splitParts cs = ([], cs) := by
  rw [splitParts]
  split
  · rfl
  · rename_i hSome
    rw [h] at hSome
    cases hSome

theorem splitParts_of_some (h : splitPart cs = some (part, rest)) :
    splitParts cs = (part :: (splitParts rest).1, (splitParts rest).2) := by
  rw [splitParts]
  split
  · rename_i hNone
    rw [h] at hNone
    cases hNone
  · rename_i hSome
    rw [h] at hSome
    cases hSome
    rfl

/-- Blanks before a part belong to it. -/
theorem splitPart_dropWhile (cs : List Char) :
    splitPart (cs.dropWhile isBlank) = splitPart cs := by
  rw [splitPart, dropWhile_of_stops (stops_dropWhile isBlank cs), ← splitPart]

theorem splitParts_dropWhile_fst (cs : List Char) :
    (splitParts (cs.dropWhile isBlank)).1 = (splitParts cs).1 := by
  cases h : splitPart cs with
  | none =>
      rw [splitParts_of_none h, splitParts_of_none ((splitPart_dropWhile cs).trans h)]
  | some read =>
      rw [splitParts_of_some h, splitParts_of_some ((splitPart_dropWhile cs).trans h)]

/-- Parts that are written are read, and then those that are behind them. -/
theorem splitParts_append (h : Written parts front) (hBack : Stops Char.isAlpha back) :
    (splitParts (front ++ back)).1 = parts ++ (splitParts back).1 := by
  induction parts generalizing front with
  | nil =>
      obtain ⟨_, ⟨⟩, rfl⟩ := h
      rfl
  | cons part parts ih =>
      obtain ⟨text, rest, hText, hRest, rfl⟩ := written_cons.mp h
      rw [List.append_assoc, splitParts_of_some (splitPart_append hText (hRest.stops hBack))]
      exact congrArg (part :: ·) ((splitParts_dropWhile_fst _).trans (ih hRest))

/-- A row of parts is read to its end. -/
theorem splitParts_of_written (h : Written parts cs) : splitParts cs = (parts, []) := by
  have hParts := splitParts_append h (stops_nil Char.isAlpha)
  have hNone : splitPart [] = none := by decide +kernel
  rw [List.append_nil, splitParts_of_none hNone, List.append_nil] at hParts
  refine Prod.ext hParts ?_
  clear hParts
  induction parts generalizing cs with
  | nil =>
      obtain ⟨_, ⟨⟩, rfl⟩ := h
      rw [List.flatten_nil, splitParts_of_none hNone]
  | cons part parts ih =>
      obtain ⟨text, rest, hText, hRest, rfl⟩ := written_cons.mp h
      have hEnd := hRest.stops (stops_nil Char.isAlpha)
      rw [List.append_nil] at hEnd
      have hTail := ih hRest
      rw [splitParts_of_some (splitPart_append hText hEnd)]
      change (splitParts (rest.dropWhile isBlank)).2 = []
      cases hPart : splitPart rest with
      | none =>
          rw [splitParts_of_none hPart] at hTail
          cases hTail
          rw [List.dropWhile_nil, splitParts_of_none hNone]
      | some read =>
          rw [splitParts_of_some hPart] at hTail
          rw [splitParts_of_some ((splitPart_dropWhile rest).trans hPart)]
          exact hTail

/-- A text is written by its parts in one way at most, but for the blanks between them. -/
theorem Written.unique {others : List Part} (h : Written parts cs) (hOther : Written others cs) :
    parts = others :=
  congrArg Prod.fst ((splitParts_of_written h).symm.trans (splitParts_of_written hOther))

/-- What is read as a part is written as that part, with the blanks behind it. -/
theorem exists_text_of_splitPart (h : splitPart cs = some (part, rest)) :
    ∃ text, part.Writes text ∧ cs = text ++ rest := by
  obtain ⟨text, back, hText, -, rfl, rfl⟩ := splitPart_eq_some h
  have hBlanks : ∀ c ∈ back.takeWhile isBlank, isBlank c = true :=
    fun c hMem => List.mem_takeWhile_imp hMem
  refine ⟨_, hText.append_blanks hBlanks, ?_⟩
  rw [List.append_assoc, List.takeWhile_append_dropWhile]

/-- The first of the parts that are read, and where the others are read. -/
theorem splitPart_of_splitParts (h : (splitParts cs).1 = part :: parts) :
    ∃ rest, splitPart cs = some (part, rest) ∧ (splitParts rest).1 = parts ∧
      (splitParts cs).2 = (splitParts rest).2 := by
  cases hPart : splitPart cs with
  | none =>
      rw [splitParts_of_none hPart] at h
      cases h
  | some read =>
      rw [splitParts_of_some hPart] at h ⊢
      obtain ⟨hHead, hRest⟩ := List.cons.inj h
      exact ⟨read.2, hHead ▸ rfl, hRest, rfl⟩

/-- The parts that are read are written, up to what is left. -/
theorem written_of_splitParts (h : (splitParts cs).1 = parts) :
    ∃ front, Written parts front ∧ cs = front ++ (splitParts cs).2 := by
  induction parts generalizing cs with
  | nil =>
      refine ⟨[], written_nil, ?_⟩
      cases hPart : splitPart cs with
      | none =>
          rw [splitParts_of_none hPart]
          rfl
      | some read =>
          rw [splitParts_of_some hPart] at h
          cases h
  | cons part parts ih =>
      obtain ⟨rest, hPart, hParts, hLeft⟩ := splitPart_of_splitParts h
      obtain ⟨text, hText, hSplit⟩ := exists_text_of_splitPart hPart
      obtain ⟨front, hFront, hRest⟩ := ih hParts
      refine ⟨text ++ front, written_cons.mpr ⟨text, front, hText, hFront, rfl⟩, ?_⟩
      rw [hLeft, List.append_assoc, ← hRest, hSplit]

/-- Wherever in its row, a part that is read is written, and no letter follows it. -/
theorem exists_front_of_splitParts {earlier later : List Part}
    (h : (splitParts cs).1 = earlier ++ part :: later) :
    ∃ front text back, Written earlier front ∧ part.Writes text ∧ Stops Char.isAlpha back ∧
      cs = front ++ (text ++ back) := by
  induction earlier generalizing cs with
  | nil =>
      obtain ⟨rest, hPart, -, -⟩ := splitPart_of_splitParts h
      obtain ⟨text, back, hText, hBack, hSplit, -⟩ := splitPart_eq_some hPart
      exact ⟨[], text, back, written_nil, hText, hBack, hSplit⟩
  | cons first earlier ih =>
      obtain ⟨rest, hPart, hParts, -⟩ := splitPart_of_splitParts h
      obtain ⟨own, hOwn, hSplit⟩ := exists_text_of_splitPart hPart
      obtain ⟨front, text, back, hFront, hText, hBack, hRest⟩ := ih hParts
      refine ⟨own ++ front, text, back, written_cons.mpr ⟨own, front, hOwn, hFront, rfl⟩, hText,
        hBack, ?_⟩
      rw [hSplit, hRest, List.append_assoc]

theorem Written.isAmount (h : Written parts cs) : ∀ part ∈ parts, IsAmount part.amount := by
  induction parts generalizing cs with
  | nil => exact List.forall_mem_nil _
  | cons part parts ih =>
      obtain ⟨text, rest, hText, hRest, -⟩ := written_cons.mp h
      exact List.forall_mem_cons.mpr ⟨hText.isAmount, ih hRest⟩

/-! ## No row is a literal -/

theorem IsAmount.not_mem_low_line (h : IsAmount amount) : '_' ∉ amount := by
  cases h with
  | whole _ hDigits => exact Number.low_line_not_mem_of_digits hDigits
  | fraction _ hDigits _ hPlaces =>
      rw [List.mem_append, List.mem_cons]
      rintro (hMem | hMem | hMem)
      · exact Number.low_line_not_mem_of_digits hDigits hMem
      · cases hMem
      · exact Number.low_line_not_mem_of_digits hPlaces hMem

/-- A row of parts has digits, points, blanks and letters, but no low line. -/
theorem Written.not_mem_low_line (h : Written parts cs) : '_' ∉ cs := by
  induction parts generalizing cs with
  | nil =>
      obtain ⟨_, ⟨⟩, rfl⟩ := h
      exact List.not_mem_nil
  | cons part parts ih =>
      obtain ⟨text, rest, hText, hRest, rfl⟩ := written_cons.mp h
      cases hText with
      | intro hBefore hAmount hMiddle _ hUnit hAfter =>
          simp only [List.mem_append, not_or]
          refine ⟨⟨?_, hAmount.not_mem_low_line, ?_, ?_, ?_⟩, ih hRest⟩
          · exact fun hMem => absurd (hBefore '_' hMem) (by decide)
          · exact fun hMem => absurd (hMiddle '_' hMem) (by decide)
          · exact fun hMem => absurd (hUnit '_' hMem) (by decide)
          · exact fun hMem => absurd (hAfter '_' hMem) (by decide)

theorem exists_last_append {P : Char → Prop} (h : ∃ c ∈ back.getLast?, P c) (front : List Char) :
    ∃ c ∈ (front ++ back).getLast?, P c := by
  obtain ⟨c, hLast, hHolds⟩ := h
  refine ⟨c, ?_, hHolds⟩
  rw [List.getLast?_append, hLast]
  rfl

theorem exists_last {P : Char → Prop} (hSome : cs ≠ []) (h : ∀ c ∈ cs, P c) :
    ∃ c ∈ cs.getLast?, P c :=
  ⟨cs.getLast hSome, List.getLast?_eq_some_getLast hSome, h _ (List.getLast_mem hSome)⟩

/-- A row of parts ends with a letter or a blank. -/
theorem Written.last (h : Written parts cs) (hSome : parts ≠ []) :
    ∃ c ∈ cs.getLast?, c.isAlpha = true ∨ isBlank c = true := by
  induction parts generalizing cs with
  | nil => exact absurd rfl hSome
  | cons part parts ih =>
      obtain ⟨text, rest, hText, hRest, rfl⟩ := written_cons.mp h
      by_cases hMore : parts = []
      · subst hMore
        obtain ⟨_, ⟨⟩, rfl⟩ := hRest
        cases hText with
        | @intro _ _ after _ _ _ hUnitSome hUnit hAfter =>
            rw [List.flatten_nil, List.append_nil]
            refine exists_last_append (exists_last_append (exists_last_append ?_ _) _) _
            refine exists_last (List.append_ne_nil_of_left_ne_nil hUnitSome after) ?_
            exact List.forall_mem_append.mpr
              ⟨fun c hMem => .inl (hUnit c hMem), fun c hMem => .inr (hAfter c hMem)⟩
      · exact exists_last_append (ih hRest hMore) text

/-- No row of parts is a literal: one that begins as a row does ends with a digit or a point. -/
theorem Written.realLiteral?_eq_none (h : Written parts cs) (hSome : parts ≠ []) :
    Number.realLiteral? cs = none := by
  rw [Option.eq_none_iff_forall_ne_some]
  intro x hLiteral
  have hHead : ∀ c ∈ cs.head?, isDecimalDigit c = true ∨ isBlank c = true := by
    obtain ⟨part, later, rfl⟩ := List.exists_cons_of_ne_nil hSome
    obtain ⟨text, rest, hText, -, rfl⟩ := written_cons.mp h
    obtain ⟨first, hFirst, hKind⟩ := hText.head rest
    intro c hMem
    cases hFirst.symm.trans hMem
    exact hKind
  obtain ⟨c, hLast, hKind⟩ := h.last hSome
  rcases Number.last_of_realLiteral? h.not_mem_low_line hHead hLiteral hLast with hDigit | rfl
  · rcases hKind with hLetter | hBlank
    · exact Bool.eq_false_iff.mp (isAlpha_of_isDecimalDigit hDigit) hLetter
    · exact Bool.eq_false_iff.mp (isBlank_of_isDecimalDigit hDigit) hBlank
  · exact absurd hKind (by decide)

end Flowline.Duration
