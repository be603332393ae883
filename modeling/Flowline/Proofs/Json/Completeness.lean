import Flowline.Proofs.Json.Grammar

/-!
Everything that the grammar derives is read, and no other value is read for it. Unlike for the other
direction, it has to be known that each part ends where the characters of its kind do.
-/

namespace Flowline

namespace Json

open Text

variable {c : Char} {cs own rest : List Char} {n : Nat} {v : Value}

/-! ## Texts -/

/-- A check of all characters of a text is one of each. -/
theorem forall_of_all {P : Char → Prop} [DecidablePred P] (h : cs.all (fun c => decide (P c)) = true) :
    ∀ c ∈ cs, P c :=
  fun c hMem => of_decide_eq_true (List.all_eq_true.mp h c hMem)

/-- No quote stands in the first part of the digits of an escape. -/
theorem BeginsLow.of_append (h : BeginsLow (own ++ '"' :: rest)) : BeginsLow own := by
  obtain ⟨digits, others, m, hOwn, hDigits, hLow⟩ := h
  have hQuote : '"' ∉ '\\' :: 'u' :: digits := by
    simp only [List.mem_cons, not_or]
    exact ⟨by decide, by decide, fun hMem => absurd (hDigits.2.1 _ hMem) (by decide)⟩
  rw [← List.cons_append, ← List.cons_append] at hOwn
  rcases List.append_eq_append_iff.mp hOwn with ⟨left, hEscape, hRest⟩ | ⟨left, rfl, -⟩
  · cases left with
    | nil =>
        rw [List.append_nil] at hEscape
        exact ⟨digits, [], m, by rw [List.append_nil, ← hEscape], hDigits, hLow⟩
    | cons c left =>
        rw [(List.cons.inj hRest).1, hEscape] at hQuote
        exact absurd (List.mem_append_right _ List.mem_cons_self) hQuote
  · exact ⟨digits, left, m, rfl, hDigits, hLow⟩

theorem codeEscape?_pair {first second : List Char} {high low : Nat} (hFirst : WritesUnit first high)
    (hSecond : WritesUnit second low) (hHigh : isHighSurrogate high = true)
    (hLow : isLowSurrogate low = true) (rest : List Char) :
    codeEscape? (first ++ '\\' :: 'u' :: (second ++ rest)) = some (pairChar high low, rest) := by
  rw [codeEscape?, codeUnit?_eq_some.mpr ⟨first, rfl, hFirst⟩, Option.bind_eq_bind, Option.bind_some]
  simp only [codeUnit?_eq_some.mpr ⟨second, rfl, hSecond⟩, hHigh, hLow, Bool.and_self, if_true]
  rfl

theorem codeEscape?_single {digits : List Char} (hDigits : WritesUnit digits n)
    (hSingle : ¬ (isHighSurrogate n = true ∧ BeginsLow rest)) :
    codeEscape? (digits ++ rest) = some (unitChar n, rest) := by
  rw [codeEscape?, codeUnit?_eq_some.mpr ⟨digits, rfl, hDigits⟩]
  dsimp only [bind, Option.bind]
  split
  · split
    · rename_i low after hLow
      obtain ⟨second, rfl, hSecond⟩ := codeUnit?_eq_some.mp hLow
      rw [if_neg]
      · rfl
      · rw [Bool.and_eq_true]
        exact fun hPair => hSingle ⟨hPair.1, second, after, low, rfl, hSecond, hPair.2⟩
    · rfl
  · rfl

/-- The characters of a text are read up to the quote after them. -/
theorem WritesChars.read (h : WritesChars own cs) (hFuel : own.length < n) :
    chars? n (own ++ '"' :: rest) = some (cs, rest) := by
  induction h generalizing n with
  | nil =>
      obtain ⟨n, rfl⟩ := Nat.exists_eq_add_one_of_ne_zero (Nat.ne_zero_of_lt hFuel)
      rfl
  | @plain c own cs hVisible hNoQuote hNoEscape hMore ih =>
      obtain ⟨n, rfl⟩ := Nat.exists_eq_add_one_of_ne_zero (Nat.ne_zero_of_lt hFuel)
      rw [List.cons_append, chars?, decide_eq_false (Nat.not_lt_of_le hVisible),
        decide_eq_false hNoEscape, ih (Nat.lt_of_succ_lt_succ hFuel)]
      · rfl
      · exact hNoQuote
      · exact fun _ hSame _ => hNoEscape hSame
      · exact fun _ _ hSame _ => hNoEscape hSame
  | @letter e c own cs hEscape hMore ih =>
      obtain ⟨n, rfl⟩ := Nat.exists_eq_add_one_of_ne_zero (Nat.ne_zero_of_lt hFuel)
      rw [List.length_cons, List.length_cons] at hFuel
      rw [List.cons_append, List.cons_append, chars?, hEscape, ih (by omega)]
      · rfl
      · rintro rfl
        cases hEscape
  | @pair first second own cs high low hFirst hSecond hHigh hLow hMore ih =>
      obtain ⟨n, rfl⟩ := Nat.exists_eq_add_one_of_ne_zero (Nat.ne_zero_of_lt hFuel)
      simp only [List.length_cons, List.length_append] at hFuel
      simp only [List.cons_append, List.append_assoc]
      rw [chars?, codeEscape?_pair hFirst hSecond hHigh hLow, Option.bind_eq_bind, Option.bind_some]
      dsimp only
      rw [ih (by omega)]
      rfl
  | @unit digits own cs m hDigits hSingle hMore ih =>
      obtain ⟨n, rfl⟩ := Nat.exists_eq_add_one_of_ne_zero (Nat.ne_zero_of_lt hFuel)
      simp only [List.length_cons, List.length_append] at hFuel
      simp only [List.cons_append, List.append_assoc]
      rw [chars?, codeEscape?_single hDigits (fun hPair => hSingle ⟨hPair.1, hPair.2.of_append⟩),
        Option.bind_eq_bind, Option.bind_some]
      dsimp only
      rw [ih (by omega)]
      rfl

theorem WritesChars.read_quoted (h : WritesChars own cs) (rest : List Char) :
    text? ('"' :: (own ++ '"' :: rest)) = some (String.ofList cs, rest) := by
  have hFuel : own.length < (own ++ '"' :: rest).length + 1 := by
    rw [List.length_append]
    omega
  rw [text?, h.read hFuel]
  rfl

/-! ## Numbers -/

/-- What can stand behind a value: nothing, a blank, a comma or the end of what encloses it. -/
def Follows (rest : List Char) : Prop :=
  ∀ c ∈ rest.head?, isSpace c = true ∨ c ∈ [',', ']', '\x7d']

theorem follows_nil : Follows [] := by
  intro c hHead
  cases hHead

theorem follows_append {blanks : List Char} (hBlanks : IsBlanks blanks) (hRest : Follows rest) :
    Follows (blanks ++ rest) := by
  cases blanks with
  | nil => exact hRest
  | cons c blanks =>
      intro d hHead
      rw [List.cons_append, List.head?_cons, Option.mem_some_iff] at hHead
      exact .inl (hBlanks d (hHead ▸ List.mem_cons_self))

/-- What can stand behind a value goes on with no number. -/
theorem Follows.apart (h : Follows rest) : Stops Char.isDigit rest ∧ fractionDigits rest = ([], rest) ∧
    exponent rest = (none, rest) := by
  cases rest with
  | nil => exact ⟨stops_nil _, rfl, rfl⟩
  | cons c rest =>
      have hOwn : c ∈ [' ', '\t', '\n', '\r', ',', ']', '\x7d'] := by
        have hFirst := h c rfl
        simp only [isSpace, Bool.or_eq_true, decide_eq_true_eq, List.mem_cons, List.not_mem_nil,
          or_false] at hFirst ⊢
        tauto
      simp only [List.mem_cons, List.not_mem_nil, or_false] at hOwn
      rcases hOwn with rfl | rfl | rfl | rfl | rfl | rfl | rfl <;>
        exact ⟨stops_cons.mpr rfl, rfl, rfl⟩

theorem IsDigits.exists_cons (h : IsDigits cs) : ∃ c more, cs = c :: more ∧ c.isDigit = true := by
  obtain ⟨c, more, rfl⟩ := List.exists_cons_of_ne_nil h.1
  exact ⟨c, more, rfl, h.2 c List.mem_cons_self⟩

theorem IsWhole.isDigits (h : IsWhole cs) : IsDigits cs := by
  cases h with
  | zero => exact ⟨List.cons_ne_nil _ _, List.forall_mem_singleton.mpr rfl⟩
  | digits isDigits _ => exact isDigits

theorem IsWhole.read (h : IsWhole own) (hRest : Stops Char.isDigit rest) :
    wholeDigits? (own ++ rest) = some (own, rest) := by
  cases h with
  | zero => rfl
  | digits isDigits first =>
      have hTake := takeWhile_append isDigits.2 hRest
      have hDrop := dropWhile_append isDigits.2 hRest
      obtain ⟨c, more, rfl, hDigit⟩ := isDigits.exists_cons
      rw [List.cons_append] at hTake hDrop ⊢
      rw [wholeDigits?, if_pos hDigit, hTake, hDrop]
      rintro rfl
      exact first rfl

theorem WritesFraction.read {places : List Char} (h : WritesFraction own places)
    (hRest : Stops Char.isDigit rest) (hNone : fractionDigits rest = ([], rest)) :
    fractionDigits (own ++ rest) = (places, rest) ∧ Stops Char.isDigit (own ++ rest) := by
  cases h with
  | none => exact ⟨hNone, hRest⟩
  | some isDigits =>
      refine ⟨?_, stops_cons.mpr rfl⟩
      rw [List.cons_append, fractionDigits, takeWhile_append isDigits.2 hRest,
        if_neg (by rw [List.isEmpty_iff]; exact isDigits.1), List.drop_left]

theorem WritesSign.read {negative : Bool} (h : WritesSign own negative) (hDigits : IsDigits cs)
    (rest : List Char) : Number.splitSign (own ++ (cs ++ rest)) = (negative, cs ++ rest) := by
  cases h with
  | none =>
      obtain ⟨c, more, rfl, hDigit⟩ := hDigits.exists_cons
      rw [List.nil_append, List.cons_append]
      unfold Number.splitSign
      split
      · rename_i hMinus
        rw [(List.cons.inj hMinus).1] at hDigit
        cases hDigit
      · rename_i hPlus
        rw [(List.cons.inj hPlus).1] at hDigit
        cases hDigit
      · rfl
  | plus => rfl
  | minus => rfl

theorem WritesPower.read {power : Option Int} (h : WritesPower own power) (hRest : Follows rest) :
    exponent (own ++ rest) = (power, rest) ∧ Stops Char.isDigit (own ++ rest) ∧
      fractionDigits (own ++ rest) = ([], own ++ rest) := by
  cases h with
  | none => exact ⟨hRest.apart.2.2, hRest.apart.1, hRest.apart.2.1⟩
  | @some mark before digits negative isMark isSign isDigits =>
      refine ⟨?_, ?_⟩
      · rw [List.cons_append, exponent, if_neg, List.append_assoc, isSign.read isDigits]
        · dsimp only
          rw [takeWhile_append isDigits.2 hRest.apart.1, List.drop_left,
            if_neg (by rw [List.isEmpty_iff]; exact isDigits.1)]
          rfl
        · rcases isMark with rfl | rfl <;> decide
      · rcases isMark with rfl | rfl <;> exact ⟨stops_cons.mpr rfl, rfl⟩

/-- A number is read part by part. -/
theorem number?_eq {whole behind places further : List Char} {power : Option Int} (negative : Bool)
    (hIsWhole : IsWhole whole) (hBehind : Stops Char.isDigit behind)
    (hFraction : fractionDigits behind = (places, further)) (hPower : exponent further = (power, rest)) :
    number? (sign negative ++ (whole ++ behind)) =
      if places.isEmpty && power.isNone then
        if Number.maxDigits < whole.length then none
        else some (.int (signed negative (digitsValue whole)), rest)
      else
        some (.real (.ofDecimal negative (digitsValue (whole ++ places))
          (power.getD 0 - places.length)), rest) := by
  unfold number?
  split
  rename_i own unsigned hSplit
  have hSign : own = negative ∧ unsigned = whole ++ behind := by
    cases negative with
    | true =>
        cases hSplit
        exact ⟨rfl, rfl⟩
    | false =>
        split at hSplit
        · rename_i more hMinus
          obtain ⟨first, others, rfl, hDigit⟩ := hIsWhole.isDigits.exists_cons
          rw [(List.cons.inj hMinus).1] at hDigit
          cases hDigit
        · cases hSplit
          exact ⟨rfl, rfl⟩
  obtain ⟨rfl, rfl⟩ := hSign
  rw [hIsWhole.read hBehind, Option.bind_eq_bind, Option.bind_some]
  simp only [hFraction, hPower]
  rfl

theorem WritesNumber.read (h : WritesNumber own v) (hRest : Follows rest) :
    number? (own ++ rest) = some (v, rest) := by
  obtain ⟨hDigits, hFraction, hPower⟩ := hRest.apart
  cases h with
  | int isWhole short =>
      rw [List.append_assoc, number?_eq _ isWhole hDigits hFraction hPower, List.isEmpty_nil,
        Option.isNone_none, Bool.and_self, if_pos rfl, if_neg (Nat.not_lt_of_le short)]
  | real isWhole isFraction isPower broken =>
      obtain ⟨hExponent, hStops, hNone⟩ := isPower.read hRest
      obtain ⟨hPlaces, hBehind⟩ := isFraction.read hStops hNone
      rw [List.append_assoc, List.append_assoc, List.append_assoc,
        number?_eq _ isWhole hBehind hPlaces hExponent, if_neg]
      rw [Bool.and_eq_true, List.isEmpty_iff, Option.isNone_iff_eq_none]
      exact not_and_or.mpr broken

/-! ## Values -/

theorem word?_known {word : String} (hKnown : (word, v) ∈ words) (rest : List Char) :
    word? (word.toList ++ rest) = some (v, rest) := by
  simp only [words, List.mem_cons, Prod.mk.injEq, List.not_mem_nil, or_false] at hKnown
  rcases hKnown with ⟨rfl, rfl⟩ | ⟨rfl, rfl⟩ | ⟨rfl, rfl⟩ | ⟨rfl, rfl⟩ | ⟨rfl, rfl⟩ | ⟨rfl, rfl⟩ <;>
    rfl

/-- A number begins with its sign or with a digit. -/
theorem WritesNumber.exists_cons (h : WritesNumber own v) : ∃ first more, own = first :: more ∧
    (first.isDigit = true ∨ first = '-' ∧ ∃ digit after, more = digit :: after ∧
      digit.isDigit = true) := by
  have hSigned (negative : Bool) {whole : List Char} (hWhole : IsWhole whole) (behind : List Char) :
      ∃ first more, sign negative ++ (whole ++ behind) = first :: more ∧
        (first.isDigit = true ∨ first = '-' ∧ ∃ digit after, more = digit :: after ∧
          digit.isDigit = true) := by
    obtain ⟨digit, others, rfl, hDigit⟩ := hWhole.isDigits.exists_cons
    cases negative with
    | true => exact ⟨'-', _, rfl, .inr ⟨rfl, digit, _, rfl, hDigit⟩⟩
    | false => exact ⟨digit, _, rfl, .inl hDigit⟩
  cases h with
  | @int negative whole isWhole short =>
      have hParts := hSigned negative isWhole []
      rwa [List.append_nil] at hParts
  | real isWhole isFraction isPower broken => exact hSigned _ isWhole _

/-- No word that is a value begins like a number. -/
theorem word?_number {first : Char} {more : List Char}
    (h : first.isDigit = true ∨ first = '-' ∧ ∃ digit after, more = digit :: after ∧
      digit.isDigit = true) : word? (first :: more) = none := by
  have hWords : ∀ e ∈ words, ∃ a b, e.1.toList.take 2 = [a, b] ∧ a.isDigit = false ∧
      (a = '-' → b.isDigit = false) := by
    simp only [words, List.forall_mem_cons]
    refine ⟨?_, ?_, ?_, ?_, ?_, ?_, List.forall_mem_nil _⟩
    all_goals exact ⟨_, _, rfl, by decide, by decide⟩
  rw [word?, List.findSome?_eq_none_iff]
  intro e hMem
  obtain ⟨a, b, hTake, hLetter, hSecond⟩ := hWords e hMem
  rw [Option.map_eq_none_iff, afterWord?, if_neg]
  rw [List.isPrefixOf_iff_prefix]
  intro hBegins
  have hSame := List.IsPrefix.take hBegins 2
  rw [hTake, List.take_succ_cons, List.cons_prefix_cons] at hSame
  obtain ⟨rfl, hRest⟩ := hSame
  rcases h with hDigit | ⟨hMinus, digit, after, rfl, hDigit⟩
  · rw [hLetter] at hDigit
    cases hDigit
  · rw [List.take_succ_cons, List.cons_prefix_cons] at hRest
    rw [← hRest.1, hSecond hMinus] at hDigit
    cases hDigit

/-- A character that begins none of the values with an end of their own, no blank and no end. -/
def BeginsScalar (c : Char) : Prop :=
  c ∉ ['"', '[', ']', '\x7b', '\x7d', ' ', '\t', '\n', '\r']

theorem value?_of_beginsScalar {more : List Char} (h : BeginsScalar c) (n : Nat) :
    value? (n + 1) (c :: more) = (word? (c :: more)).or (number? (c :: more)) := by
  rw [value?]
  · cases word? (c :: more) <;> rfl
  all_goals
    rintro tail hSame
    rw [BeginsScalar, (List.cons.inj hSame).1] at h
    exact h (by decide)

theorem beginsScalar_of_digit (h : c.isDigit = true ∨ c = '-') : BeginsScalar c := by
  have hAll : ∀ d ∈ ['"', '[', ']', '\x7b', '\x7d', ' ', '\t', '\n', '\r'],
      d.isDigit = false ∧ d ≠ '-' := forall_of_all rfl
  intro hMem
  obtain ⟨hDigit, hMinus⟩ := hAll c hMem
  rcases h with hOwn | hOwn
  · rw [hDigit] at hOwn
    cases hOwn
  · exact hMinus hOwn

theorem exists_beginsScalar_of_word {word : String} (hKnown : (word, v) ∈ words) :
    ∃ c more, word.toList = c :: more ∧ BeginsScalar c := by
  have hAll : ∀ e ∈ words, ∃ c more, e.1.toList = c :: more ∧ BeginsScalar c := by
    simp only [words, List.forall_mem_cons, BeginsScalar]
    refine ⟨?_, ?_, ?_, ?_, ?_, ?_, List.forall_mem_nil _⟩
    all_goals exact ⟨_, _, rfl, by decide⟩
  exact hAll _ hKnown

/-- A value begins with no blank and with no end of a list or a mapping. -/
theorem Denotes.exists_cons (h : Denotes own v) :
    ∃ c more, own = c :: more ∧ isSpace c = false ∧ c ≠ ']' ∧ c ≠ '\x7d' := by
  have hScalar {c : Char} (hBegins : BeginsScalar c) : isSpace c = false ∧ c ≠ ']' ∧ c ≠ '\x7d' := by
    simp only [BeginsScalar, List.mem_cons, List.not_mem_nil, or_false, not_or] at hBegins
    obtain ⟨-, -, hBracket, -, hBrace, hBlanks⟩ := hBegins
    exact ⟨by simp [isSpace, hBlanks], hBracket, hBrace⟩
  cases h with
  | word known =>
      obtain ⟨c, more, hWord, hBegins⟩ := exists_beginsScalar_of_word known
      exact ⟨c, more, hWord, hScalar hBegins⟩
  | number isNumber =>
      obtain ⟨c, more, hNumber, hBegins⟩ := isNumber.exists_cons
      exact ⟨c, more, hNumber, hScalar (beginsScalar_of_digit (hBegins.imp_right And.left))⟩
  | text chars => exact ⟨'"', _, rfl, by decide⟩
  | emptyList blank => exact ⟨'[', _, rfl, by decide⟩
  | list parts => exact ⟨'[', _, rfl, by decide⟩
  | emptyMap blank => exact ⟨'\x7b', _, rfl, by decide⟩
  | map parts => exact ⟨'\x7b', _, rfl, by decide⟩

theorem IsBlanks.skip {blanks : List Char} (h : IsBlanks blanks) (hRest : Stops isSpace rest) :
    skipSpaces (blanks ++ rest) = rest := dropWhile_append h hRest

/-- What is read of a row of items, behind the blanks before them. -/
theorem Denotes.skip {blanks : List Char} (h : Denotes own v) (hBlanks : IsBlanks blanks)
    (rest : List Char) : skipSpaces (blanks ++ (own ++ rest)) = own ++ rest := by
  obtain ⟨c, more, rfl, hSpace, -⟩ := h.exists_cons
  exact hBlanks.skip (stops_cons.mpr hSpace)

theorem DenotesItems.exists_cons {row : List Char} {items : List Value} (h : DenotesItems row items)
    (rest : List Char) : ∃ c more, skipSpaces (row ++ rest) = c :: more ∧ c ≠ ']' := by
  cases h with
  | last lead item trail =>
      obtain ⟨c, more, hOwn, -, hBracket, -⟩ := item.exists_cons
      rw [List.append_assoc, List.append_assoc, item.skip lead, hOwn]
      exact ⟨c, _, rfl, hBracket⟩
  | more lead item trail others =>
      obtain ⟨c, more, hOwn, -, hBracket, -⟩ := item.exists_cons
      rw [List.append_assoc, List.append_assoc, item.skip lead, hOwn]
      exact ⟨c, _, rfl, hBracket⟩

theorem DenotesMembers.exists_cons {row : List Char} {members : Entries}
    (h : DenotesMembers row members) (rest : List Char) :
    ∃ more, skipSpaces (row ++ rest) = '"' :: more := by
  cases h with
  | last start isName gap gapBehind value trail =>
      rw [List.append_assoc, List.cons_append, start.skip (stops_cons.mpr rfl)]
      exact ⟨_, rfl⟩
  | more start isName gap gapBehind value trail others =>
      rw [List.append_assoc, List.cons_append, start.skip (stops_cons.mpr rfl)]
      exact ⟨_, rfl⟩

/-- What the grammar derives is read in as many steps as it has characters. -/
structure Complete (n : Nat) : Prop where
  value : ∀ {own rest v}, Denotes own v → own.length ≤ n → Follows rest →
    value? n (own ++ rest) = some (v, rest)
  items : ∀ {row rest items}, DenotesItems row items → row.length < n →
    items? n (skipSpaces (row ++ ']' :: rest)) = some (items, rest)
  members : ∀ {row rest members}, DenotesMembers row members → row.length < n →
    members? n (skipSpaces (row ++ '\x7d' :: rest)) = some (members, rest)

theorem Complete.zero : Complete 0 where
  value h hFuel _ := by
    obtain ⟨c, more, rfl, -⟩ := h.exists_cons
    exact absurd hFuel (Nat.not_succ_le_zero _)
  items _ hFuel := absurd hFuel (Nat.not_lt_zero _)
  members _ hFuel := absurd hFuel (Nat.not_lt_zero _)

theorem Complete.value_succ (h : Complete n) (hDenotes : Denotes own v) (hFuel : own.length ≤ n + 1)
    (hRest : Follows rest) : value? (n + 1) (own ++ rest) = some (v, rest) := by
  cases hDenotes with
  | word known =>
      have hWord := word?_known known rest
      obtain ⟨c, more, hOwn, hBegins⟩ := exists_beginsScalar_of_word known
      rw [hOwn, List.cons_append] at hWord ⊢
      rw [value?_of_beginsScalar hBegins, hWord, Option.some_or]
  | number isNumber =>
      have hNumber := isNumber.read hRest
      obtain ⟨c, more, rfl, hBegins⟩ := isNumber.exists_cons
      have hFirst : c.isDigit = true ∨ c = '-' ∧ ∃ digit after, more ++ rest = digit :: after ∧
          digit.isDigit = true := by
        rcases hBegins with hDigit | ⟨hMinus, digit, after, rfl, hDigit⟩
        · exact .inl hDigit
        · exact .inr ⟨hMinus, digit, after ++ rest, rfl, hDigit⟩
      rw [List.cons_append] at hNumber ⊢
      rw [value?_of_beginsScalar (beginsScalar_of_digit (hFirst.imp_right And.left)), hNumber,
        word?_number hFirst, Option.none_or]
  | text chars =>
      rw [List.cons_append, List.append_assoc, List.singleton_append, value?, chars.read_quoted]
      rfl
  | emptyList blank =>
      rw [List.cons_append, List.append_assoc, List.singleton_append, value?,
        blank.skip (stops_cons.mpr rfl)]
      rfl
  | @list row items parts =>
      obtain ⟨c, more, hRow, hOpen⟩ := parts.exists_cons (']' :: rest)
      rw [List.length_cons, List.length_append, List.length_singleton] at hFuel
      rw [List.cons_append, List.append_assoc, List.singleton_append, value?]
      dsimp only
      rw [if_neg (by rw [hRow]; exact fun hSame => hOpen (Option.some.inj hSame)),
        h.items parts (by omega)]
      rfl
  | emptyMap blank =>
      rw [List.cons_append, List.append_assoc, List.singleton_append, value?,
        blank.skip (stops_cons.mpr rfl)]
      rfl
  | @map row members parts =>
      obtain ⟨more, hRow⟩ := parts.exists_cons ('\x7d' :: rest)
      rw [List.length_cons, List.length_append, List.length_singleton] at hFuel
      rw [List.cons_append, List.append_assoc, List.singleton_append, value?]
      dsimp only
      rw [if_neg (by rw [hRow, List.head?_cons]; decide), h.members parts (by omega)]
      rfl

theorem items?_bracket {behind : List Char} (hItem : value? n cs = some (v, behind))
    (hBehind : skipSpaces behind = ']' :: rest) : items? (n + 1) cs = some ([v], rest) := by
  rw [items?, hItem, Option.bind_eq_bind, Option.bind_some]
  dsimp only
  rw [hBehind]
  rfl

theorem items?_comma {behind more : List Char} (hItem : value? n cs = some (v, behind))
    (hBehind : skipSpaces behind = ',' :: more) :
    items? (n + 1) cs = (items? n (skipSpaces more)).map fun p => (v :: p.1, p.2) := by
  rw [items?, hItem, Option.bind_eq_bind, Option.bind_some]
  dsimp only
  rw [hBehind]
  change (items? n (skipSpaces more)).bind _ = _
  cases items? n (skipSpaces more) <;> rfl

/-- A value is read with the blanks before it. -/
theorem Complete.value_between (h : Complete n) {before after : List Char} (lead : IsBlanks before)
    (hDenotes : Denotes own v) (trail : IsBlanks after) (hFuel : own.length ≤ n)
    (hRest : Follows rest) :
    value? n (skipSpaces (before ++ (own ++ (after ++ rest)))) = some (v, after ++ rest) := by
  rw [hDenotes.skip lead]
  exact h.value hDenotes hFuel (follows_append trail hRest)

theorem Complete.items_succ (h : Complete n) {row : List Char} {items : List Value}
    (hDenotes : DenotesItems row items) (hFuel : row.length < n + 1) :
    items? (n + 1) (skipSpaces (row ++ ']' :: rest)) = some (items, rest) := by
  cases hDenotes with
  | @last before own after v lead item trail =>
      have hClosed : Follows (']' :: rest) := by simp [Follows]
      simp only [List.length_append] at hFuel
      simp only [List.append_assoc]
      exact items?_bracket (h.value_between lead item trail (by omega) hClosed)
        (trail.skip (stops_cons.mpr rfl))
  | @more before own after row v items lead item trail others =>
      have hComma : Follows (',' :: (row ++ ']' :: rest)) := by simp [Follows]
      simp only [List.length_append, List.length_cons] at hFuel
      simp only [List.append_assoc, List.cons_append]
      rw [items?_comma (h.value_between lead item trail (by omega) hComma)
        (trail.skip (stops_cons.mpr rfl)), h.items others (by omega)]
      rfl

section Members

variable {name : String} {behind more beyond : List Char} (hName : text? cs = some (name, behind))
  (hBehind : skipSpaces behind = ':' :: more) (hValue : value? n (skipSpaces more) = some (v, beyond))

include hName hBehind hValue

theorem members?_brace (hBeyond : skipSpaces beyond = '\x7d' :: rest) :
    members? (n + 1) cs = some ([(.text name, v)], rest) := by
  rw [members?, hName, Option.bind_eq_bind, Option.bind_some]
  dsimp only
  rw [hBehind]
  change (value? n (skipSpaces more)).bind _ = _
  rw [hValue, Option.bind_some]
  dsimp only
  rw [hBeyond]
  rfl

theorem members?_comma (hBeyond : skipSpaces beyond = ',' :: rest) :
    members? (n + 1) cs =
      (members? n (skipSpaces rest)).map fun p => ((.text name, v) :: p.1, p.2) := by
  rw [members?, hName, Option.bind_eq_bind, Option.bind_some]
  dsimp only
  rw [hBehind]
  change (value? n (skipSpaces more)).bind _ = _
  rw [hValue, Option.bind_some]
  dsimp only
  rw [hBeyond]
  change (members? n (skipSpaces rest)).bind _ = _
  cases members? n (skipSpaces rest) <;> rfl

end Members

theorem Complete.members_succ (h : Complete n) {row : List Char} {members : Entries}
    (hDenotes : DenotesMembers row members) (hFuel : row.length < n + 1) :
    members? (n + 1) (skipSpaces (row ++ '\x7d' :: rest)) = some (members, rest) := by
  cases hDenotes with
  | @last before name cs between lead own after v start isName gap gapBehind value trail =>
      have hClosed : Follows ('\x7d' :: rest) := by simp [Follows]
      simp only [List.length_append, List.length_cons] at hFuel
      have hValue := h.value_between gapBehind value trail (by omega) hClosed
      simp only [List.append_assoc, List.cons_append]
      rw [start.skip (stops_cons.mpr rfl)]
      exact members?_brace (isName.read_quoted _) (gap.skip (stops_cons.mpr rfl)) hValue
        (trail.skip (stops_cons.mpr rfl))
  | @more before name cs between lead own after row v members start isName gap gapBehind value trail
      others =>
      have hComma : Follows (',' :: (row ++ '\x7d' :: rest)) := by simp [Follows]
      simp only [List.length_append, List.length_cons] at hFuel
      have hValue := h.value_between gapBehind value trail (by omega) hComma
      simp only [List.append_assoc, List.cons_append]
      rw [start.skip (stops_cons.mpr rfl), members?_comma (isName.read_quoted _)
        (gap.skip (stops_cons.mpr rfl)) hValue (trail.skip (stops_cons.mpr rfl)),
        h.members others (by omega)]
      rfl

theorem complete (n : Nat) : Complete n := by
  induction n with
  | zero => exact .zero
  | succ n ih => exact ⟨ih.value_succ, ih.items_succ, ih.members_succ⟩

/-- A text is read as the one value that it writes. -/
theorem Encodes.read? {s : String} (h : Encodes s v) : Json.read? s = some v := by
  rw [Encodes] at h
  generalize hText : s.toList = text at h
  cases h with
  | @last before own after v lead item trail =>
      have hEnd : Follows (after ++ []) := follows_append trail follows_nil
      have hRead := (complete (own ++ after).length.succ).value item
        (by rw [List.length_append]; omega) hEnd
      rw [List.append_nil] at hEnd hRead
      rw [Json.read?, hText, item.skip lead]
      dsimp only
      rw [hRead, Option.bind_eq_bind, Option.bind_some]
      have hSkip := trail.skip (stops_nil _)
      rw [List.append_nil] at hSkip
      dsimp only
      rw [hSkip]
      rfl
  | more lead item trail others => cases others

theorem read?_eq_some_iff {s : String} : read? s = some v ↔ Encodes s v :=
  ⟨encodes_of_read?, Encodes.read?⟩

end Json

end Flowline
