import Flowline.Json.Reader
import Flowline.Proofs.Text.Scanning
import Mathlib.Data.List.Infix

/-!
The grammar of JSON: which characters write which value. What is read is derived by the grammar: the
parts of a text and of a number first, then values, lists and mappings.
-/

namespace Flowline

namespace Json

open Text

/-! ## Texts -/

/-- Four hexadecimal digits and the code unit that they write. -/
def WritesUnit (digits : List Char) (n : Nat) : Prop :=
  digits.length = 4 ∧ (∀ c ∈ digits, Markup.isHexDigit c = true) ∧ Markup.hexValue digits = n

/-- Characters that go on with an escape of the second half of a pair. -/
def BeginsLow (cs : List Char) : Prop :=
  ∃ digits rest n, cs = '\\' :: 'u' :: (digits ++ rest) ∧ WritesUnit digits n ∧
    isLowSurrogate n = true

/-- The character of two code units that make a pair. -/
def pairChar (high low : Nat) : Char :=
  Char.ofNat (0x10000 + (high - 0xd800) * 0x400 + (low - 0xdc00))

/-- The characters between the quotes of a text, and those that they write. -/
inductive WritesChars : List Char → List Char → Prop where
  | nil : WritesChars [] []
  | plain {c : Char} {own cs : List Char} (visible : 0x20 ≤ c.toNat) (noQuote : c ≠ '"')
      (noEscape : c ≠ '\\') (more : WritesChars own cs) : WritesChars (c :: own) (c :: cs)
  | letter {e c : Char} {own cs : List Char} (escape : simpleEscape? e = some c)
      (more : WritesChars own cs) : WritesChars ('\\' :: e :: own) (c :: cs)
  | pair {first second own cs : List Char} {high low : Nat} (one : WritesUnit first high)
      (other : WritesUnit second low) (isHigh : isHighSurrogate high = true)
      (isLow : isLowSurrogate low = true) (more : WritesChars own cs) :
      WritesChars ('\\' :: 'u' :: (first ++ '\\' :: 'u' :: (second ++ own))) (pairChar high low :: cs)
  | unit {digits own cs : List Char} {n : Nat} (code : WritesUnit digits n)
      (single : ¬ (isHighSurrogate n = true ∧ BeginsLow own)) (more : WritesChars own cs) :
      WritesChars ('\\' :: 'u' :: (digits ++ own)) (unitChar n :: cs)

/-! ## Numbers -/

/-- The sign before the digits of a number. -/
def sign (negative : Bool) : List Char := if negative then ['-'] else []

/-- An integer by its sign and its size. -/
def signed (negative : Bool) (size : Nat) : Int := if negative then -(size : Int) else size

/-- A row of digits. -/
def IsDigits (cs : List Char) : Prop := cs ≠ [] ∧ ∀ c ∈ cs, c.isDigit = true

/-- The digits before the point: zero, or digits that do not start with it. -/
inductive IsWhole : List Char → Prop where
  | zero : IsWhole ['0']
  | digits {cs : List Char} (isDigits : IsDigits cs) (first : cs.head? ≠ some '0') : IsWhole cs

/-- A point with the digits after it, or neither. -/
inductive WritesFraction : List Char → List Char → Prop where
  | none : WritesFraction [] []
  | some {places : List Char} (isDigits : IsDigits places) : WritesFraction ('.' :: places) places

/-- The sign of an exponent. -/
inductive WritesSign : List Char → Bool → Prop where
  | none : WritesSign [] false
  | plus : WritesSign ['+'] false
  | minus : WritesSign ['-'] true

/-- An exponent behind its mark, or none. -/
inductive WritesPower : List Char → Option Int → Prop where
  | none : WritesPower [] none
  | some {mark : Char} {before digits : List Char} {negative : Bool}
      (isMark : mark = 'e' ∨ mark = 'E') (isSign : WritesSign before negative)
      (isDigits : IsDigits digits) :
      WritesPower (mark :: (before ++ digits)) (some (signed negative (digitsValue digits)))

/-- A number: an integer of no more digits than are read, or a real number, which has a fraction or an
exponent. -/
inductive WritesNumber : List Char → Value → Prop where
  | int {negative : Bool} {whole : List Char} (isWhole : IsWhole whole)
      (short : whole.length ≤ Number.maxDigits) :
      WritesNumber (sign negative ++ whole) (.int (signed negative (digitsValue whole)))
  | real {negative : Bool} {whole fraction places exponent : List Char} {power : Option Int}
      (isWhole : IsWhole whole) (isFraction : WritesFraction fraction places)
      (isPower : WritesPower exponent power) (broken : places ≠ [] ∨ power ≠ none) :
      WritesNumber (sign negative ++ (whole ++ (fraction ++ exponent)))
        (.real (.ofDecimal negative (digitsValue (whole ++ places)) (power.getD 0 - places.length)))

/-! ## Values -/

def IsBlanks (cs : List Char) : Prop := ∀ c ∈ cs, isSpace c = true

mutual

/-- The characters of a value, without blanks around it. -/
inductive Denotes : List Char → Value → Prop where
  | word {word : String} {v : Value} (known : (word, v) ∈ words) : Denotes word.toList v
  | number {own : List Char} {v : Value} (isNumber : WritesNumber own v) : Denotes own v
  | text {own cs : List Char} (chars : WritesChars own cs) :
      Denotes ('"' :: (own ++ ['"'])) (.text (String.ofList cs))
  | emptyList {within : List Char} (blank : IsBlanks within) :
      Denotes ('[' :: (within ++ [']'])) (.list [])
  | list {row : List Char} {items : List Value} (parts : DenotesItems row items) :
      Denotes ('[' :: (row ++ [']'])) (.list items)
  | emptyMap {within : List Char} (blank : IsBlanks within) :
      Denotes ('\x7b' :: (within ++ ['\x7d'])) (.map [])
  | map {row : List Char} {members : Entries} (parts : DenotesMembers row members) :
      Denotes ('\x7b' :: (row ++ ['\x7d'])) (.map (Entries.ofList members))

/-- The characters of items, with commas between them and blanks around each. -/
inductive DenotesItems : List Char → List Value → Prop where
  | last {before own after : List Char} {v : Value} (lead : IsBlanks before) (item : Denotes own v)
      (trail : IsBlanks after) : DenotesItems (before ++ (own ++ after)) [v]
  | more {before own after row : List Char} {v : Value} {items : List Value} (lead : IsBlanks before)
      (item : Denotes own v) (trail : IsBlanks after) (rest : DenotesItems row items) :
      DenotesItems (before ++ (own ++ (after ++ ',' :: row))) (v :: items)

/-- The characters of members, each of which is a name in quotes, a colon and a value. Of several
members of one name the last one holds. -/
inductive DenotesMembers : List Char → Entries → Prop where
  | last {before name cs between lead own after : List Char} {v : Value} (start : IsBlanks before)
      (isName : WritesChars name cs) (gap : IsBlanks between) (gapBehind : IsBlanks lead)
      (value : Denotes own v) (trail : IsBlanks after) :
      DenotesMembers (before ++ '"' :: (name ++ '"' :: (between ++ ':' :: (lead ++ (own ++ after)))))
        [(.text (String.ofList cs), v)]
  | more {before name cs between lead own after row : List Char} {v : Value} {members : Entries}
      (start : IsBlanks before) (isName : WritesChars name cs) (gap : IsBlanks between)
      (gapBehind : IsBlanks lead) (value : Denotes own v) (trail : IsBlanks after)
      (rest : DenotesMembers row members) :
      DenotesMembers
        (before ++ '"' :: (name ++ '"' :: (between ++ ':' :: (lead ++ (own ++ (after ++ ',' :: row))))))
        ((.text (String.ofList cs), v) :: members)

end

/-- A text that writes a value, with blanks around it and nothing else. -/
def Encodes (s : String) (v : Value) : Prop := DenotesItems s.toList [v]

/-! ## What is read of texts -/

variable {cs rest : List Char} {c : Char} {n : Nat}

theorem codeUnit?_eq_some : codeUnit? cs = some (n, rest) ↔
    ∃ digits, cs = digits ++ rest ∧ WritesUnit digits n := by
  rw [codeUnit?]
  constructor
  · intro h
    split at h
    · rename_i hDigits
      simp only [Bool.and_eq_true, decide_eq_true_eq, List.all_eq_true] at hDigits
      cases h
      exact ⟨cs.take 4, (List.take_append_drop 4 cs).symm, hDigits.1, hDigits.2, rfl⟩
    · cases h
  · rintro ⟨digits, rfl, hLength, hHex, rfl⟩
    have hAll := List.all_eq_true.mpr hHex
    simp only [List.take_left' hLength, List.drop_left' hLength, hLength, hAll, decide_true,
      Bool.and_self, if_true]

/-- The character of an escape that gives a code unit: that of a pair, if the escape of the other half
comes next. -/
theorem codeEscape?_eq_some (h : codeEscape? cs = some (c, rest)) :
    (∃ first second high low, cs = first ++ '\\' :: 'u' :: (second ++ rest) ∧
      WritesUnit first high ∧ WritesUnit second low ∧ isHighSurrogate high = true ∧
      isLowSurrogate low = true ∧ c = pairChar high low) ∨
    ∃ digits n, cs = digits ++ rest ∧ WritesUnit digits n ∧
      ¬ (isHighSurrogate n = true ∧ BeginsLow rest) ∧ c = unitChar n := by
  rw [codeEscape?, Option.bind_eq_bind, Option.bind_eq_some_iff] at h
  obtain ⟨⟨high, behind⟩, hHigh, h⟩ := h
  obtain ⟨first, rfl, hFirst⟩ := codeUnit?_eq_some.mp hHigh
  dsimp only at h
  split at h
  · rename_i more
    split at h
    · rename_i low after hLow
      obtain ⟨second, rfl, hSecond⟩ := codeUnit?_eq_some.mp hLow
      split at h
      · rename_i hPair
        rw [Bool.and_eq_true] at hPair
        obtain ⟨hChar, rfl⟩ := Prod.mk.inj (Option.some.inj h)
        exact .inl ⟨first, second, high, low, rfl, hFirst, hSecond, hPair.1, hPair.2, hChar.symm⟩
      · rename_i hSingle
        cases h
        refine .inr ⟨first, high, rfl, hFirst, ?_, rfl⟩
        rintro ⟨hIsHigh, digits, others, m, hBegins, hDigits, hIsLow⟩
        injection hBegins with _ hBegins
        injection hBegins with _ hBegins
        rw [codeUnit?_eq_some.mpr ⟨digits, hBegins, hDigits⟩] at hLow
        cases hLow
        exact hSingle (by rw [hIsHigh, hIsLow, Bool.and_self])
    · rename_i hLow
      cases h
      refine .inr ⟨first, high, rfl, hFirst, ?_, rfl⟩
      rintro ⟨-, digits, others, m, hBegins, hDigits, -⟩
      injection hBegins with _ hBegins
      injection hBegins with _ hBegins
      rw [codeUnit?_eq_some.mpr ⟨digits, hBegins, hDigits⟩] at hLow
      cases hLow
  · rename_i hOther
    cases h
    refine .inr ⟨first, high, rfl, hFirst, ?_, rfl⟩
    rintro ⟨-, digits, others, m, rfl, -⟩
    exact hOther _ rfl

/-- What goes on with an escape still does if more comes behind. -/
theorem BeginsLow.append (h : BeginsLow cs) (rest : List Char) : BeginsLow (cs ++ rest) := by
  obtain ⟨digits, others, n, rfl, hDigits⟩ := h
  exact ⟨digits, others ++ rest, n, by simp, hDigits⟩

theorem exists_writesChars {own : List Char} (h : chars? n cs = some (own, rest)) :
    ∃ inner, cs = inner ++ '"' :: rest ∧ WritesChars inner own := by
  induction n generalizing cs own with
  | zero => cases h
  | succ n ih =>
      rw [chars?.eq_def] at h
      dsimp only at h
      split at h
      · cases h
      · cases h
        exact ⟨[], rfl, .nil⟩
      · simp only [Option.bind_eq_bind, Option.bind_eq_some_iff] at h
        obtain ⟨⟨c, behind⟩, hEscape, ⟨more, last⟩, hMore, h⟩ := h
        dsimp only at hMore h
        cases h
        obtain ⟨inner, rfl, hInner⟩ := ih hMore
        rcases codeEscape?_eq_some hEscape with
          ⟨first, second, high, low, rfl, hFirst, hSecond, hHigh, hLow, hChar⟩ |
          ⟨digits, m, rfl, hDigits, hSingle, rfl⟩
        · rw [hChar]
          refine ⟨'\\' :: 'u' :: (first ++ '\\' :: 'u' :: (second ++ inner)), ?_,
            .pair hFirst hSecond hHigh hLow hInner⟩
          simp only [List.cons_append, List.append_assoc]
        · refine ⟨'\\' :: 'u' :: (digits ++ inner), ?_,
            .unit hDigits (fun hPair => hSingle ?_) hInner⟩
          · simp only [List.cons_append, List.append_assoc]
          exact ⟨hPair.1, hPair.2.append _⟩
      · simp only [Option.bind_eq_bind, Option.bind_eq_some_iff] at h
        obtain ⟨c, hEscape, ⟨more, last⟩, hMore, h⟩ := h
        cases h
        obtain ⟨inner, rfl, hInner⟩ := ih hMore
        exact ⟨_, rfl, .letter hEscape hInner⟩
      · rename_i c behind hQuote hUnit hLetter
        split at h
        · cases h
        · rename_i hPlain
          simp only [Option.bind_eq_bind, Option.bind_eq_some_iff] at h
          obtain ⟨⟨more, last⟩, hMore, h⟩ := h
          cases h
          obtain ⟨inner, rfl, hInner⟩ := ih hMore
          simp only [Bool.or_eq_true, decide_eq_true_eq, not_or] at hPlain
          exact ⟨_, rfl, .plain (Nat.le_of_not_lt hPlain.1) (fun hSame => hQuote hSame) hPlain.2 hInner⟩

theorem exists_of_text? {s : String} (h : text? cs = some (s, rest)) :
    ∃ own chars, cs = '"' :: (own ++ '"' :: rest) ∧ WritesChars own chars ∧
      s = String.ofList chars := by
  unfold text? at h
  split at h
  · simp only [Option.bind_eq_bind, Option.bind_eq_some_iff] at h
    obtain ⟨⟨chars, behind⟩, hChars, h⟩ := h
    cases h
    obtain ⟨own, rfl, hOwn⟩ := exists_writesChars hChars
    exact ⟨own, chars, rfl, hOwn, rfl⟩
  · cases h

/-! ## What is read of numbers -/

theorem isWhole_of_wholeDigits? {whole : List Char} (h : wholeDigits? cs = some (whole, rest)) :
    cs = whole ++ rest ∧ IsWhole whole := by
  unfold wholeDigits? at h
  split at h
  · cases h
    exact ⟨rfl, .zero⟩
  · rename_i c more hOther
    split at h
    · rename_i hDigit
      cases h
      refine ⟨List.takeWhile_append_dropWhile.symm, .digits ⟨?_, fun _ => List.mem_takeWhile_imp⟩ ?_⟩
      · rw [List.takeWhile_cons, if_pos hDigit]
        exact List.cons_ne_nil _ _
      · rw [List.takeWhile_cons, if_pos hDigit, List.head?_cons]
        exact fun hZero => hOther (Option.some.inj hZero)
    · cases h
  · cases h

/-- A row of characters of a kind, and what stands behind it. -/
theorem takeWhile_append_drop (p : Char → Bool) (cs : List Char) :
    cs = cs.takeWhile p ++ cs.drop (cs.takeWhile p).length := by
  have hPrefix := List.takeWhile_prefix (l := cs) p
  exact (List.prefix_iff_eq_append.mp hPrefix).symm

theorem isDigits_takeWhile (h : (cs.takeWhile Char.isDigit).isEmpty = false) :
    IsDigits (cs.takeWhile Char.isDigit) :=
  ⟨List.isEmpty_eq_false_iff.mp h, fun _ => List.mem_takeWhile_imp⟩

theorem exists_writesFraction {places : List Char} (h : fractionDigits cs = (places, rest)) :
    ∃ own, cs = own ++ rest ∧ WritesFraction own places := by
  unfold fractionDigits at h
  split at h
  · rename_i more
    dsimp only at h
    split at h
    · cases h
      exact ⟨[], rfl, .none⟩
    · rename_i hSome
      cases h
      have hRow := takeWhile_append_drop Char.isDigit more
      exact ⟨_, congrArg _ hRow, .some (isDigits_takeWhile (Bool.eq_false_iff.mpr hSome))⟩
  · cases h
    exact ⟨[], rfl, .none⟩

theorem exists_writesSign (cs : List Char) :
    ∃ before, cs = before ++ (Number.splitSign cs).2 ∧
      WritesSign before (Number.splitSign cs).1 := by
  unfold Number.splitSign
  split
  · exact ⟨['-'], rfl, .minus⟩
  · exact ⟨['+'], rfl, .plus⟩
  · exact ⟨[], rfl, .none⟩

theorem exists_writesPower {power : Option Int} (h : exponent cs = (power, rest)) :
    ∃ own, cs = own ++ rest ∧ WritesPower own power := by
  unfold exponent at h
  split at h
  · rename_i mark more
    obtain ⟨before, hMore, hSign⟩ := exists_writesSign more
    have hRow := takeWhile_append_drop Char.isDigit (Number.splitSign more).2
    split at h
    · cases h
      exact ⟨[], rfl, .none⟩
    · rename_i hMark
      dsimp only at h
      split at h
      · cases h
        exact ⟨[], rfl, .none⟩
      · rename_i hSome
        obtain ⟨rfl, rfl⟩ := Prod.mk.inj h
        have hIsMark : mark = 'e' ∨ mark = 'E' := by
          simp only [Bool.and_eq_true, decide_eq_true_eq] at hMark
          tauto
        refine ⟨_, ?_, .some hIsMark hSign (isDigits_takeWhile (Bool.eq_false_iff.mpr hSome))⟩
        rw [List.cons_append, List.append_assoc, ← hRow, ← hMore]
  · cases h
    exact ⟨[], rfl, .none⟩

/-- What `number?` reads behind the sign. -/
theorem exists_writesNumber {v : Value} (h : number? cs = some (v, rest)) :
    ∃ own, cs = own ++ rest ∧ WritesNumber own v := by
  unfold number? at h
  split at h
  rename_i negative unsigned hSplit
  have hSign : cs = sign negative ++ unsigned := by
    split at hSplit <;> cases hSplit <;> rfl
  simp only [Option.bind_eq_bind, Option.bind_eq_some_iff] at h
  obtain ⟨⟨whole, behind⟩, hWhole, h⟩ := h
  obtain ⟨rfl, hIsWhole⟩ := isWhole_of_wholeDigits? hWhole
  rcases hFraction : fractionDigits behind with ⟨places, further⟩
  rcases hPower : exponent further with ⟨power, last⟩
  obtain ⟨fraction, rfl, hIsFraction⟩ := exists_writesFraction hFraction
  obtain ⟨ending, rfl, hIsPower⟩ := exists_writesPower hPower
  simp only [hFraction, hPower] at h
  split at h
  · rename_i hPlain
    rw [Bool.and_eq_true, List.isEmpty_iff, Option.isNone_iff_eq_none] at hPlain
    obtain ⟨rfl, rfl⟩ := hPlain
    cases hIsFraction with
    | some hDigits => exact absurd rfl hDigits.1
    | none =>
        cases hIsPower
        split at h
        · cases h
        · rename_i hShort
          cases h
          exact ⟨_, hSign.trans (List.append_assoc ..).symm, .int hIsWhole (Nat.le_of_not_lt hShort)⟩
  · rename_i hBroken
    cases h
    refine ⟨sign negative ++ (whole ++ (fraction ++ ending)), ?_,
      .real hIsWhole hIsFraction hIsPower ?_⟩
    · simp only [hSign, List.append_assoc]
    · rw [Bool.and_eq_true, List.isEmpty_iff, Option.isNone_iff_eq_none] at hBroken
      exact not_and_or.mp hBroken

/-! ## What is read of values -/

theorem afterWord?_eq_some {word : String} :
    afterWord? word cs = some rest ↔ cs = word.toList ++ rest := by
  rw [afterWord?]
  constructor
  · intro h
    split at h
    · rename_i hBegins
      cases h
      rw [← String.length_toList]
      exact (List.prefix_iff_eq_append.mp (List.isPrefixOf_iff_prefix.mp hBegins)).symm
    · cases h
  · rintro rfl
    rw [if_pos (List.isPrefixOf_iff_prefix.mpr (List.prefix_append _ _)), ← String.length_toList,
      List.drop_left]

theorem exists_of_word? {v : Value} (h : word? cs = some (v, rest)) :
    ∃ word, (word, v) ∈ words ∧ cs = word.toList ++ rest := by
  obtain ⟨⟨word, own⟩, hKnown, hWord⟩ := List.exists_of_findSome?_eq_some h
  obtain ⟨after, hAfter, hFound⟩ := Option.map_eq_some_iff.mp hWord
  cases hFound
  exact ⟨word, hKnown, afterWord?_eq_some.mp hAfter⟩

theorem exists_blanks (cs : List Char) : ∃ blanks, cs = blanks ++ skipSpaces cs ∧ IsBlanks blanks :=
  ⟨_, List.takeWhile_append_dropWhile.symm, fun _ => List.mem_takeWhile_imp⟩

theorem IsBlanks.append {first second : List Char} (hFirst : IsBlanks first)
    (hSecond : IsBlanks second) : IsBlanks (first ++ second) := by
  intro c hMem
  exact (List.mem_append.mp hMem).elim (hFirst c) (hSecond c)

theorem DenotesItems.blanks {blanks row : List Char} {items : List Value} (hBlanks : IsBlanks blanks)
    (h : DenotesItems row items) : DenotesItems (blanks ++ row) items := by
  cases h with
  | last lead item trail =>
      rw [← List.append_assoc]
      exact .last (hBlanks.append lead) item trail
  | more lead item trail rest =>
      rw [← List.append_assoc]
      exact .more (hBlanks.append lead) item trail rest

theorem DenotesMembers.blanks {blanks row : List Char} {members : Entries} (hBlanks : IsBlanks blanks)
    (h : DenotesMembers row members) : DenotesMembers (blanks ++ row) members := by
  cases h with
  | last start isName gap gapBehind value trail =>
      rw [← List.append_assoc]
      exact .last (hBlanks.append start) isName gap gapBehind value trail
  | more start isName gap gapBehind value trail rest =>
      rw [← List.append_assoc]
      exact .more (hBlanks.append start) isName gap gapBehind value trail rest

/-- What is read in so many steps is derived by the grammar. -/
structure Sound (n : Nat) : Prop where
  value : ∀ {cs rest v}, value? n cs = some (v, rest) → ∃ own, cs = own ++ rest ∧ Denotes own v
  items : ∀ {cs rest items}, items? n cs = some (items, rest) →
    ∃ row, cs = row ++ ']' :: rest ∧ DenotesItems row items
  members : ∀ {cs rest members}, members? n cs = some (members, rest) →
    ∃ row, cs = row ++ '\x7d' :: rest ∧ DenotesMembers row members

theorem Sound.zero : Sound 0 where
  value h := by cases h
  items h := by cases h
  members h := by cases h

/-- The first character of a row, behind blanks, and what is left. -/
theorem exists_blanks_before {blanked : List Char} (h : (skipSpaces cs).head? = some c)
    (hTail : (skipSpaces cs).tail = blanked) :
    ∃ blanks, cs = blanks ++ c :: blanked ∧ IsBlanks blanks := by
  obtain ⟨blanks, hCs, hBlanks⟩ := exists_blanks cs
  obtain ⟨more, hMore⟩ := List.head?_eq_some_iff.mp h
  rw [hMore, List.tail_cons] at hTail
  exact ⟨blanks, by rw [← hTail, ← hMore]; exact hCs, hBlanks⟩

theorem Sound.value_succ (h : Sound n) {v : Value} (hRead : value? (n + 1) cs = some (v, rest)) :
    ∃ own, cs = own ++ rest ∧ Denotes own v := by
  unfold value? at hRead
  split at hRead
  · obtain ⟨⟨s, behind⟩, hText, hFound⟩ := Option.map_eq_some_iff.mp hRead
    cases hFound
    obtain ⟨own, chars, hOwn, hChars, rfl⟩ := exists_of_text? hText
    exact ⟨'"' :: (own ++ ['"']), by simp [hOwn], .text hChars⟩
  · rename_i more
    dsimp only at hRead
    split at hRead
    · rename_i hClosed
      cases hRead
      obtain ⟨blanks, hMore, hBlanks⟩ := exists_blanks_before hClosed rfl
      refine ⟨'[' :: (blanks ++ [']']), ?_, .emptyList hBlanks⟩
      rw [List.cons_append, List.append_assoc, List.singleton_append, ← hMore]
    · obtain ⟨⟨items, behind⟩, hItems, hFound⟩ := Option.map_eq_some_iff.mp hRead
      cases hFound
      obtain ⟨blanks, hMore, hBlanks⟩ := exists_blanks more
      obtain ⟨row, hRow, hParts⟩ := h.items hItems
      refine ⟨'[' :: ((blanks ++ row) ++ [']']), ?_, .list (hParts.blanks hBlanks)⟩
      rw [hRow] at hMore
      rw [hMore, List.cons_append, List.append_assoc, List.append_assoc, List.singleton_append]
  · rename_i more
    dsimp only at hRead
    split at hRead
    · rename_i hClosed
      cases hRead
      obtain ⟨blanks, hMore, hBlanks⟩ := exists_blanks_before hClosed rfl
      refine ⟨'\x7b' :: (blanks ++ ['\x7d']), ?_, .emptyMap hBlanks⟩
      rw [List.cons_append, List.append_assoc, List.singleton_append, ← hMore]
    · obtain ⟨⟨members, behind⟩, hMembers, hFound⟩ := Option.map_eq_some_iff.mp hRead
      cases hFound
      obtain ⟨blanks, hMore, hBlanks⟩ := exists_blanks more
      obtain ⟨row, hRow, hParts⟩ := h.members hMembers
      refine ⟨'\x7b' :: ((blanks ++ row) ++ ['\x7d']), ?_, .map (hParts.blanks hBlanks)⟩
      rw [hRow] at hMore
      rw [hMore, List.cons_append, List.append_assoc, List.append_assoc, List.singleton_append]
  · split at hRead
    · rename_i found hWord
      cases hRead
      obtain ⟨word, hKnown, hCs⟩ := exists_of_word? hWord
      exact ⟨word.toList, hCs, .word hKnown⟩
    · obtain ⟨own, hOwn, hNumber⟩ := exists_writesNumber hRead
      exact ⟨own, hOwn, .number hNumber⟩

theorem Sound.items_succ (h : Sound n) {items : List Value}
    (hRead : items? (n + 1) cs = some (items, rest)) :
    ∃ row, cs = row ++ ']' :: rest ∧ DenotesItems row items := by
  rw [items?, Option.bind_eq_bind, Option.bind_eq_some_iff] at hRead
  obtain ⟨⟨item, behind⟩, hItem, hRead⟩ := hRead
  obtain ⟨own, rfl, hOwn⟩ := h.value hItem
  obtain ⟨after, hBehind, hAfter⟩ := exists_blanks behind
  dsimp only at hRead
  split at hRead
  · rename_i hClosed
    cases hRead
    rw [hClosed] at hBehind
    refine ⟨[] ++ (own ++ after), ?_, .last (List.forall_mem_nil _) hOwn hAfter⟩
    rw [hBehind, List.nil_append, List.append_assoc]
  · rename_i further hComma
    rw [Option.bind_eq_bind, Option.bind_eq_some_iff] at hRead
    obtain ⟨⟨others, last⟩, hOthers, hFound⟩ := hRead
    cases hFound
    obtain ⟨row, hRow, hParts⟩ := h.items hOthers
    obtain ⟨blanks, hFurther, hBlanks⟩ := exists_blanks further
    rw [hComma] at hBehind
    rw [hRow] at hFurther
    refine ⟨[] ++ (own ++ (after ++ ',' :: (blanks ++ row))), ?_,
      .more (List.forall_mem_nil _) hOwn hAfter (hParts.blanks hBlanks)⟩
    simp only [hBehind, hFurther, List.nil_append, List.append_assoc, List.cons_append]
  · cases hRead

theorem Sound.members_succ (h : Sound n) {members : Entries}
    (hRead : members? (n + 1) cs = some (members, rest)) :
    ∃ row, cs = row ++ '\x7d' :: rest ∧ DenotesMembers row members := by
  rw [members?, Option.bind_eq_bind, Option.bind_eq_some_iff] at hRead
  obtain ⟨⟨name, behind⟩, hName, hRead⟩ := hRead
  obtain ⟨ownName, chars, rfl, hChars, rfl⟩ := exists_of_text? hName
  obtain ⟨between, hBehind, hBetween⟩ := exists_blanks behind
  dsimp only at hRead
  split at hRead
  · rename_i further hColon
    rw [Option.bind_eq_bind, Option.bind_eq_some_iff] at hRead
    obtain ⟨⟨v, beyond⟩, hValue, hRead⟩ := hRead
    obtain ⟨own, hFurtherOwn, hOwn⟩ := h.value hValue
    obtain ⟨lead, hFurther, hLead⟩ := exists_blanks further
    obtain ⟨after, hBeyond, hAfter⟩ := exists_blanks beyond
    rw [hColon] at hBehind
    rw [hFurtherOwn] at hFurther
    dsimp only at hRead
    split at hRead
    · rename_i hClosed
      cases hRead
      rw [hClosed] at hBeyond
      refine ⟨[] ++ '"' :: (ownName ++ '"' :: (between ++ ':' :: (lead ++ (own ++ after)))), ?_,
        .last (List.forall_mem_nil _) hChars hBetween hLead hOwn hAfter⟩
      simp only [hBehind, hFurther, hBeyond, List.nil_append, List.append_assoc, List.cons_append]
    · rename_i nextRow hComma
      rw [Option.bind_eq_bind, Option.bind_eq_some_iff] at hRead
      obtain ⟨⟨others, last⟩, hOthers, hFound⟩ := hRead
      cases hFound
      obtain ⟨row, hRow, hParts⟩ := h.members hOthers
      obtain ⟨blanks, hNextRow, hBlanks⟩ := exists_blanks nextRow
      rw [hComma] at hBeyond
      rw [hRow] at hNextRow
      refine ⟨[] ++ '"' :: (ownName ++ '"' :: (between ++ ':' ::
          (lead ++ (own ++ (after ++ ',' :: (blanks ++ row)))))), ?_,
        .more (List.forall_mem_nil _) hChars hBetween hLead hOwn hAfter (hParts.blanks hBlanks)⟩
      simp only [hBehind, hFurther, hBeyond, hNextRow, List.nil_append, List.append_assoc,
        List.cons_append]
    · cases hRead
  · cases hRead

theorem sound (n : Nat) : Sound n := by
  induction n with
  | zero => exact .zero
  | succ n ih => exact ⟨ih.value_succ, ih.items_succ, ih.members_succ⟩

/-- What is read of a text is a value that the text writes. -/
theorem encodes_of_read? {s : String} {v : Value} (h : read? s = some v) : Encodes s v := by
  simp only [read?, Option.bind_eq_bind, Option.bind_eq_some_iff] at h
  obtain ⟨⟨own, rest⟩, hValue, h⟩ := h
  split at h
  · rename_i hNothing
    cases h
    obtain ⟨lead, hText, hLead⟩ := exists_blanks s.toList
    obtain ⟨trail, hRest, hTrail⟩ := exists_blanks rest
    obtain ⟨own, hOwn, hDenotes⟩ := (sound _).value hValue
    rw [List.isEmpty_iff.mp hNothing, List.append_nil] at hRest
    rw [Encodes, hText, hOwn, hRest]
    exact .last hLead hDenotes hTrail
  · cases h

end Json

end Flowline
