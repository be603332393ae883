import Flowline.Proofs.Duration.Grammar
import Flowline.Proofs.Except
import Flowline.Proofs.Flow.RoundTrip

/-!
Durations that are written. A text is a duration exactly if it is a literal or a row of parts with known
units and comes to a number within the bounds. Any other text is reported: by the first unit that there
is not, if what stands before that is a row, or else as no duration at all.
-/

namespace Flowline

theorem Binary64.le_of_not_lt {x y : Binary64} (hx : x.isFinite = true) (hy : y.isFinite = true)
    (h : ¬ x.lt y = true) : y.le x = true := by
  rw [lt, Bool.and_eq_true, Bool.not_eq_true', Bool.eq_false_iff, ne_eq,
    le_of_isFinite hx hy, le_of_isFinite hy hx] at h
  rw [le_of_isFinite hy hx]
  omega

namespace Duration

open Text

/-! ## What parts come to -/

/-- A name of a unit, in any letter case, and the length of the unit in seconds. -/
def IsUnit (name : String) (factor : Binary64) : Prop :=
  ∃ names, (names, factor) ∈ units ∧ name.toLower ∈ names

namespace Part

/-- A part whose unit there is. -/
def Known (part : Part) : Prop := ∃ factor, IsUnit (String.ofList part.unit) factor

/-- How many seconds a part lasts: its amount times the length of its unit. -/
def Lasts (part : Part) (seconds : Binary64) : Prop :=
  ∃ amount factor, Number.realLiteral? part.amount = some amount ∧
    IsUnit (String.ofList part.unit) factor ∧ seconds = amount * factor

end Part

/-- How many seconds parts last, added from left to right. -/
def Totals (parts : List Part) (total : Binary64) : Prop :=
  ∃ lengths, List.Forall₂ Part.Lasts parts lengths ∧ lengths.foldl (· + ·) .zero = total

/-- A text in which parts with units that there are come before one whose unit there is not. No letter
follows the part, so that its unit is as long as it can be. -/
inductive FirstUnknown : List Char → String → Prop where
  | intro {earlier : List Part} {part : Part} {front text back : List Char}
      (hFront : Written earlier front) (hKnown : ∀ p ∈ earlier, p.Known) (hText : part.Writes text)
      (hUnknown : ¬ part.Known) (hBack : Stops Char.isAlpha back) :
      FirstUnknown (front ++ (text ++ back)) (String.ofList part.unit)

variable {cs : List Char} {part : Part} {parts : List Part}

/-- No name belongs to two units. -/
theorem unitSeconds?_eq_some {name : String} {factor : Binary64} :
    unitSeconds? name = some factor ↔ IsUnit name factor := by
  constructor
  · intro h
    obtain ⟨unit, hUnit, rfl⟩ := Option.map_eq_some_iff.mp h
    have hName := List.find?_some hUnit
    exact ⟨unit.1, List.mem_of_find?_eq_some hUnit, List.contains_iff_mem.mp hName⟩
  · rintro ⟨names, hMem, hName⟩
    have hAll : ∀ unit ∈ units, ∀ name ∈ unit.1,
        (units.find? fun other => other.1.contains name).map (·.2) = some unit.2 := by
      decide +kernel
    exact hAll _ hMem _ hName

theorem Part.seconds?_eq_some {seconds : Binary64} :
    part.seconds? = some seconds ↔ part.Lasts seconds := by
  rw [seconds?, Lasts]
  simp only [← unitSeconds?_eq_some]
  constructor
  · intro h
    split at h
    · rename_i amount factor hAmount hFactor
      cases h
      exact ⟨amount, factor, hAmount, hFactor, rfl⟩
    · cases h
  · rintro ⟨amount, factor, hAmount, hFactor, rfl⟩
    rw [hAmount, hFactor]

/-- What keeps a part from its length is its unit alone. -/
theorem Part.isSome_seconds? (h : IsAmount part.amount) :
    part.seconds?.isSome = true ↔ part.Known := by
  obtain ⟨amount, hAmount⟩ := h.exists_value
  rw [Option.isSome_iff_exists]
  simp only [seconds?_eq_some]
  constructor
  · rintro ⟨_, _, factor, -, hFactor, -⟩
    exact ⟨factor, hFactor⟩
  · rintro ⟨factor, hFactor⟩
    exact ⟨_, amount, factor, hAmount, hFactor, rfl⟩

theorem sumFrom_eq_ok {total x : Binary64} :
    sumFrom total parts = .ok x ↔
      ∃ lengths, List.Forall₂ Part.Lasts parts lengths ∧ lengths.foldl (· + ·) total = x := by
  induction parts generalizing total with
  | nil =>
      constructor
      · intro h
        cases h
        exact ⟨[], .nil, rfl⟩
      · rintro ⟨_, ⟨⟩, rfl⟩
        rfl
  | cons part parts ih =>
      rw [sumFrom]
      constructor
      · intro h
        split at h
        · rename_i seconds hSeconds
          obtain ⟨lengths, hLengths, hTotal⟩ := ih.mp h
          exact ⟨seconds :: lengths, .cons (Part.seconds?_eq_some.mp hSeconds) hLengths, hTotal⟩
        · cases h
      · rintro ⟨_, hLengths, hTotal⟩
        cases hLengths with
        | cons hHead hTail =>
            rw [Part.seconds?_eq_some.mpr hHead]
            exact ih.mpr ⟨_, hTail, hTotal⟩

/-- The first part that has no length is the one whose unit is named. -/
theorem sumFrom_eq_error {total : Binary64} {unit : String} :
    sumFrom total parts = .error unit ↔ ∃ earlier part later, parts = earlier ++ part :: later ∧
      (∀ p ∈ earlier, p.seconds?.isSome = true) ∧ part.seconds? = none ∧
      String.ofList part.unit = unit := by
  induction parts generalizing total with
  | nil =>
      constructor
      · intro h
        cases h
      · rintro ⟨earlier, part, later, hParts, -⟩
        simp at hParts
  | cons part parts ih =>
      rw [sumFrom]
      cases hSeconds : part.seconds? with
      | some seconds =>
          change sumFrom (total + seconds) parts = _ ↔ _
          rw [ih]
          constructor
          · rintro ⟨earlier, other, later, rfl, hEarlier, hOther⟩
            refine ⟨part :: earlier, other, later, rfl, ?_, hOther⟩
            exact List.forall_mem_cons.mpr ⟨by rw [hSeconds]; rfl, hEarlier⟩
          · rintro ⟨earlier, other, later, hParts, hEarlier, hNone, hUnit⟩
            cases earlier with
            | nil =>
                cases hParts
                rw [hSeconds] at hNone
                cases hNone
            | cons first earlier =>
                obtain ⟨rfl, rfl⟩ := List.cons.inj hParts
                exact ⟨earlier, other, later, rfl, (List.forall_mem_cons.mp hEarlier).2, hNone,
                  hUnit⟩
      | none =>
          constructor
          · intro h
            cases h
            exact ⟨[], part, parts, rfl, List.forall_mem_nil _, hSeconds, rfl⟩
          · rintro ⟨earlier, other, later, hParts, hEarlier, -, hUnit⟩
            cases earlier with
            | nil =>
                cases hParts
                rw [← hUnit]
            | cons first earlier =>
                obtain ⟨rfl, rfl⟩ := List.cons.inj hParts
                have hFirst := (List.forall_mem_cons.mp hEarlier).1
                rw [hSeconds] at hFirst
                cases hFirst

/-- Parts that have a sum have units that there are. -/
theorem Totals.known {total : Binary64} (h : Totals parts total) : ∀ p ∈ parts, p.Known := by
  obtain ⟨lengths, hLengths, -⟩ := h
  clear total
  induction hLengths with
  | nil => exact List.forall_mem_nil _
  | cons hHead _ ih =>
      obtain ⟨_, factor, -, hFactor, -⟩ := hHead
      exact List.forall_mem_cons.mpr ⟨⟨factor, hFactor⟩, ih⟩

/-- The first unknown unit among the parts that are read is the first one in the text. -/
theorem sumFrom_splitParts_eq_error {unit : String} :
    sumFrom .zero (splitParts cs).1 = .error unit ↔ FirstUnknown cs unit := by
  rw [sumFrom_eq_error]
  constructor
  · rintro ⟨earlier, part, later, hParts, hEarlier, hNone, rfl⟩
    obtain ⟨front, text, back, hFront, hText, hBack, rfl⟩ := exists_front_of_splitParts hParts
    refine .intro hFront (fun p hMem => ?_) hText (fun hKnown => ?_) hBack
    · exact (Part.isSome_seconds? (hFront.isAmount p hMem)).mp (hEarlier p hMem)
    · have hSome := (Part.isSome_seconds? hText.isAmount).mpr hKnown
      rw [hNone] at hSome
      cases hSome
  · intro h
    cases h with
    | @intro earlier part front text back hFront hKnown hText hUnknown hBack =>
        refine ⟨earlier, part, (splitParts (back.dropWhile isBlank)).1, ?_, fun p hMem => ?_, ?_, rfl⟩
        · rw [splitParts_append hFront (hText.stops back),
            splitParts_of_some (splitPart_append hText hBack)]
        · exact (Part.isSome_seconds? (hFront.isAmount p hMem)).mpr (hKnown p hMem)
        · rw [← Option.not_isSome_iff_eq_none, Part.isSome_seconds? hText.isAmount]
          exact hUnknown

/-! ## Texts -/

/-- A number passes the check as it is, if it is a duration. -/
theorem checked_eq_ok {seconds x : Binary64} {shown : String} :
    checked seconds shown = .ok x ↔ seconds = x ∧ x.IsDuration := by
  constructor
  · intro h
    simp only [checked, Bool.not_eq_true', Bool.eq_false_iff] at h
    split at h
    · cases h
    · rename_i hFinite
      rw [not_not] at hFinite
      split at h
      · cases h
      · rename_i hNotBelow
        split at h
        · cases h
        · rename_i hNotAbove
          cases h
          exact ⟨rfl, Binary64.le_of_not_lt hFinite rfl hNotBelow,
            Binary64.le_of_not_lt signedUnits_maxSeconds.1 hFinite hNotAbove⟩
  · rintro ⟨rfl, hDuration⟩
    exact checked_of_isDuration hDuration shown

/-- The errors about numbers that are no durations. -/
def Error.isBound : Error → Bool
  | notFinite _ | negative _ | tooLong _ => true
  | _ => false

theorem checked_ne_error {e : Error} (h : e.isBound = false) (seconds : Binary64) (shown : String) :
    checked seconds shown ≠ .error e := by
  have hFails : FailsAs (fun e => e.isBound = true) (checked seconds shown) :=
    .ite (.error rfl) (.ite (.error rfl) (.ite (.error rfl) (.ok seconds)))
  intro hError
  rw [hFails e hError] at h
  cases h

/-- What a text comes to, where the blanks around it are gone: the check of a literal or of the sum of a
row, or the reason why it is none of them. -/
inductive Reads (shown : String) (cs : List Char) : Except Error Binary64 → Prop where
  | empty (hNone : cs = []) : Reads shown cs (.error .empty)
  | literal {x : Binary64} (hSome : cs ≠ []) (hLiteral : Number.realLiteral? cs = some x) :
      Reads shown cs (checked x shown)
  | row {parts : List Part} {total : Binary64} (hSome : cs ≠ []) (hRow : Written parts cs)
      (hTotal : Totals parts total) : Reads shown cs (checked total shown)
  | unknown {unit : String} (hSome : cs ≠ []) (hLiteral : Number.realLiteral? cs = none)
      (hUnit : FirstUnknown cs unit) : Reads shown cs (.error (.unknownUnit unit shown))
  | invalid (hSome : cs ≠ []) (hLiteral : Number.realLiteral? cs = none)
      (hUnits : ∀ unit, ¬ FirstUnknown cs unit)
      (hRow : ¬ ∃ parts, Written parts cs ∧ ∀ p ∈ parts, p.Known) :
      Reads shown cs (.error (.invalid shown))

/-- The characters of a text, but for the blanks around it. -/
def stripped (s : String) : List Char := trimChars s.toList

theorem reads_ofText (s : String) : Reads (quoted s) (stripped s) (ofText s) := by
  rw [ofText, stripped]
  generalize trimChars s.toList = cs
  cases hEmpty : cs.isEmpty with
  | true => exact .empty (List.isEmpty_iff.mp hEmpty)
  | false =>
      have hSome := List.isEmpty_eq_false_iff.mp hEmpty
      rw [if_neg Bool.false_ne_true]
      cases hLiteral : Number.realLiteral? cs with
      | some x => exact .literal hSome hLiteral
      | none =>
          have hUnknown {unit : String} :
              sumFrom .zero (splitParts cs).1 = .error unit ↔ FirstUnknown cs unit :=
            sumFrom_splitParts_eq_error
          obtain ⟨front, hFront, hSplit⟩ :
              ∃ front, Written (splitParts cs).1 front ∧ cs = front ++ (splitParts cs).2 :=
            written_of_splitParts rfl
          cases hSum : sumFrom .zero (splitParts cs).1 with
          | error unit =>
              simp only [hSum]
              exact .unknown hSome hLiteral (hUnknown.mp hSum)
          | ok total =>
              simp only [hSum]
              cases hTail : (splitParts cs).2.isEmpty with
              | true =>
                  rw [List.isEmpty_iff.mp hTail, List.append_nil] at hSplit
                  exact .row hSome (hSplit ▸ hFront) (sumFrom_eq_ok.mp hSum)
              | false =>
                  refine .invalid hSome hLiteral (fun unit hUnit => ?_) ?_
                  · cases hSum.symm.trans (hUnknown.mpr hUnit)
                  · rintro ⟨parts, hRow, -⟩
                    rw [splitParts_of_written hRow] at hTail
                    cases hTail

/-- A row whose parts have units that there are has no first unknown one. -/
theorem not_firstUnknown {total : Binary64} (hRow : Written parts cs) (hTotal : Totals parts total)
    (unit : String) : ¬ FirstUnknown cs unit := by
  rw [← sumFrom_splitParts_eq_error, splitParts_of_written hRow, sumFrom_eq_ok.mpr hTotal]
  exact fun h => nomatch h

theorem FirstUnknown.unique {unit other : String} (h : FirstUnknown cs unit)
    (hOther : FirstUnknown cs other) : unit = other := by
  rw [← sumFrom_splitParts_eq_error] at h hOther
  exact Except.error.inj (h.symm.trans hOther)

namespace Reads

variable {shown : String} {result : Except Error Binary64}

theorem parts_ne_nil (hSome : cs ≠ []) (hRow : Written parts cs) : parts ≠ [] := by
  rintro rfl
  obtain ⟨_, ⟨⟩, rfl⟩ := hRow
  exact hSome rfl

theorem eq_ok_iff (h : Reads shown cs result) (x : Binary64) :
    result = .ok x ↔ cs ≠ [] ∧ x.IsDuration ∧ (Number.realLiteral? cs = some x ∨
      ∃ parts, parts ≠ [] ∧ Written parts cs ∧ Totals parts x) := by
  cases h with
  | empty hNone => exact iff_of_false (fun h => nomatch h) fun h => h.1 hNone
  | @literal y hSome hLiteral =>
      rw [checked_eq_ok]
      constructor
      · rintro ⟨rfl, hDuration⟩
        exact ⟨hSome, hDuration, .inl hLiteral⟩
      · rintro ⟨-, hDuration, hSame | ⟨parts, hParts, hRow, -⟩⟩
        · exact ⟨Option.some.inj (hLiteral.symm.trans hSame), hDuration⟩
        · cases hLiteral.symm.trans (hRow.realLiteral?_eq_none hParts)
  | @row parts total hSome hRow hTotal =>
      have hParts := parts_ne_nil hSome hRow
      rw [checked_eq_ok]
      constructor
      · rintro ⟨rfl, hDuration⟩
        exact ⟨hSome, hDuration, .inr ⟨parts, hParts, hRow, hTotal⟩⟩
      · rintro ⟨-, hDuration, hLiteral | ⟨others, -, hOther, hSame⟩⟩
        · cases hLiteral.symm.trans (hRow.realLiteral?_eq_none hParts)
        · obtain rfl := hRow.unique hOther
          have hSum := (sumFrom_eq_ok.mpr hTotal).symm.trans (sumFrom_eq_ok.mpr hSame)
          exact ⟨Except.ok.inj hSum, hDuration⟩
  | @unknown unit _ hLiteral hUnit =>
      refine iff_of_false (fun h => nomatch h) ?_
      rintro ⟨-, -, hSame | ⟨parts, -, hRow, hTotal⟩⟩
      · cases hLiteral.symm.trans hSame
      · exact not_firstUnknown hRow hTotal unit hUnit
  | invalid _ hLiteral _ hNoRow =>
      refine iff_of_false (fun h => nomatch h) ?_
      rintro ⟨-, -, hSame | ⟨parts, -, hRow, hTotal⟩⟩
      · cases hLiteral.symm.trans hSame
      · exact hNoRow ⟨parts, hRow, hTotal.known⟩

theorem eq_unknownUnit_iff (h : Reads shown cs result) (unit other : String) :
    result = .error (.unknownUnit unit other) ↔ cs ≠ [] ∧ Number.realLiteral? cs = none ∧
      other = shown ∧ FirstUnknown cs unit := by
  cases h with
  | empty hNone => exact iff_of_false (fun h => nomatch h) fun h => h.1 hNone
  | literal _ hLiteral =>
      refine iff_of_false (checked_ne_error rfl _ _) fun h => ?_
      cases hLiteral.symm.trans h.2.1
  | row _ hRow hTotal =>
      exact iff_of_false (checked_ne_error rfl _ _) fun h => not_firstUnknown hRow hTotal unit h.2.2.2
  | @unknown own hSome hLiteral hUnit =>
      constructor
      · intro h
        cases h
        exact ⟨hSome, hLiteral, rfl, hUnit⟩
      · rintro ⟨-, -, rfl, hOther⟩
        rw [hUnit.unique hOther]
  | invalid _ _ hUnits _ =>
      exact iff_of_false (fun h => nomatch h) fun h => hUnits unit h.2.2.2

theorem eq_invalid_iff (h : Reads shown cs result) (other : String) :
    result = .error (.invalid other) ↔ cs ≠ [] ∧ Number.realLiteral? cs = none ∧ other = shown ∧
      (∀ unit, ¬ FirstUnknown cs unit) ∧ ¬ ∃ parts, Written parts cs ∧ ∀ p ∈ parts, p.Known := by
  cases h with
  | empty hNone => exact iff_of_false (fun h => nomatch h) fun h => h.1 hNone
  | literal _ hLiteral =>
      refine iff_of_false (checked_ne_error rfl _ _) fun h => ?_
      cases hLiteral.symm.trans h.2.1
  | row _ hRow hTotal =>
      exact iff_of_false (checked_ne_error rfl _ _) fun h => h.2.2.2.2 ⟨_, hRow, hTotal.known⟩
  | @unknown unit _ _ hUnit =>
      exact iff_of_false (fun h => nomatch h) fun h => h.2.2.2.1 unit hUnit
  | invalid hSome hLiteral hUnits hNoRow =>
      constructor
      · intro h
        cases h
        exact ⟨hSome, hLiteral, rfl, hUnits, hNoRow⟩
      · rintro ⟨-, -, rfl, -⟩
        rfl

/-- No text is a value of a wrong kind. -/
theorem ne_wrongKind (h : Reads shown cs result) {e : Error} (hError : result = .error e)
    (kindName : String) : e ≠ .wrongKind kindName := by
  rintro rfl
  cases h with
  | literal => exact checked_ne_error rfl _ _ hError
  | row => exact checked_ne_error rfl _ _ hError
  | _ => cases hError

end Reads

/-- **Durations are read exactly by their grammar.** A text is accepted if, without the blanks around it,
it is the literal of a duration or a row of parts that come to a duration, and it is that duration. The
parts of a row are told by the text, and no row is a literal. No other text is a value of the wrong kind;
one that is neither a literal nor a row of known units is reported by its first unknown unit, if what
stands before that is a row, and otherwise as invalid. -/
theorem ofText_grammar (s : String) :
    (∀ x, ofText s = .ok x ↔ stripped s ≠ [] ∧ x.IsDuration ∧
      (Number.realLiteral? (stripped s) = some x ∨
        ∃ parts, parts ≠ [] ∧ Written parts (stripped s) ∧ Totals parts x)) ∧
    (∀ parts others, Written parts (stripped s) → Written others (stripped s) → parts = others) ∧
    (∀ parts, parts ≠ [] → Written parts (stripped s) →
      Number.realLiteral? (stripped s) = none) ∧
    (∀ e, ofText s = .error e → ∀ kindName, e ≠ .wrongKind kindName) ∧
    (∀ unit shown, ofText s = .error (.unknownUnit unit shown) ↔ stripped s ≠ [] ∧
      Number.realLiteral? (stripped s) = none ∧ shown = quoted s ∧
      FirstUnknown (stripped s) unit) ∧
    ∀ shown, ofText s = .error (.invalid shown) ↔ stripped s ≠ [] ∧
      Number.realLiteral? (stripped s) = none ∧ shown = quoted s ∧
      (∀ unit, ¬ FirstUnknown (stripped s) unit) ∧
      ¬ ∃ parts, Written parts (stripped s) ∧ ∀ p ∈ parts, p.Known := by
  have hReads := reads_ofText s
  exact ⟨hReads.eq_ok_iff, fun _ _ => Written.unique,
    fun _ hSome hRow => hRow.realLiteral?_eq_none hSome, fun _ hError => hReads.ne_wrongKind hError,
    hReads.eq_unknownUnit_iff, hReads.eq_invalid_iff⟩

example : (ofText " 1h 30m ").toOption = some (.ofInt 5400) := by decide +kernel

end Duration

end Flowline
