import Flowline.Proofs.Flow.Message

/-!
Messages as simultaneous substitutions. What a template gives is told by its positions, each for itself:
where a placeholder begins stands its value, inside of one stands nothing, and every other character
stays. Placeholders do not overlap, so that each position has one such part, and the parts in their order
are the message.
-/

namespace Flowline.Message

/-! ## Placeholders in a template -/

/-- An ASCII letter or a low line. -/
def StartsName (c : Char) : Prop := ('A' ≤ c ∧ c ≤ 'Z') ∨ ('a' ≤ c ∧ c ≤ 'z') ∨ c = '_'

/-- Names of placeholders: an ASCII letter or a low line, then such characters and ASCII digits. -/
def IsIdentifier : List Char → Prop
  | [] => False
  | c :: rest => StartsName c ∧ ∀ d ∈ rest, StartsName d ∨ ('0' ≤ d ∧ d ≤ '9')

/-- A placeholder as it is written. -/
def written (name : List Char) : List Char := '\x7b' :: (name ++ ['\x7d'])

/-- A placeholder stands at a position of a template. -/
def OccursAt (template : List Char) (position : Nat) (name : List Char) : Prop :=
  IsIdentifier name ∧ written name <+: template.drop position

/-- A placeholder stands partly before a position of a template and partly behind it. -/
def Straddles (template : List Char) (position : Nat) : Prop :=
  ∃ start name, OccursAt template start name ∧ start < position ∧
    position < start + (written name).length

/-- What stands for a placeholder of a name: the latest output, a variable, or the placeholder itself. -/
inductive StandsFor (s : RunState) (name : List Char) : String → Prop where
  | output {value : String} (named : String.ofList name = lastOutputName)
      (found : s.lastOutput = some value) : StandsFor s name value
  | assigned {value : String} (noOutput : String.ofList name = lastOutputName → s.lastOutput = none)
      (found : s.vars.get? (String.ofList name) = some value) : StandsFor s name value
  | unknown (noOutput : String.ofList name = lastOutputName → s.lastOutput = none)
      (noVariable : s.vars.get? (String.ofList name) = none) :
      StandsFor s name (String.ofList (written name))

/-- What one position of a template gives to the message. -/
inductive Contributes (s : RunState) (template : List Char) (position : Nat) : String → Prop where
  | placeholder {name : List Char} {value : String} (occurs : OccursAt template position name)
      (stands : StandsFor s name value) : Contributes s template position value
  | inside {start : Nat} {name : List Char} (occurs : OccursAt template start name)
      (behind : start < position) (before : position < start + (written name).length) :
      Contributes s template position ""
  | plain {c : Char} (here : template[position]? = some c)
      (free : ∀ start name, OccursAt template start name →
        position < start ∨ start + (written name).length ≤ position) :
      Contributes s template position (String.singleton c)

/-- A part for each position of a template. -/
def AreParts (s : RunState) (template : List Char) (parts : List String) : Prop :=
  parts.length = template.length ∧
    ∀ position part, parts[position]? = some part → Contributes s template position part

variable {s : RunState} {template name other : List Char} {position start last : Nat} {part : String}

theorem length_written (name : List Char) : (written name).length = name.length + 2 := by
  simp [written]

theorem isUpper_iff {c : Char} : c.isUpper = true ↔ 'A' ≤ c ∧ c ≤ 'Z' := decide_eq_true_iff

theorem isLower_iff {c : Char} : c.isLower = true ↔ 'a' ≤ c ∧ c ≤ 'z' :=
  Bool.and_eq_true_iff.trans (and_congr decide_eq_true_iff decide_eq_true_iff)

theorem isDigit_iff {c : Char} : c.isDigit = true ↔ '0' ≤ c ∧ c ≤ '9' :=
  Bool.and_eq_true_iff.trans (and_congr decide_eq_true_iff decide_eq_true_iff)

theorem isNameChar_iff {c : Char} :
    isNameChar c = true ↔ StartsName c ∨ ('0' ≤ c ∧ c ≤ '9') := by
  change (((c.isUpper || c.isLower) || c.isDigit) || c == '_') = true ↔ _
  rw [Bool.or_eq_true, Bool.or_eq_true, Bool.or_eq_true, isUpper_iff, isLower_iff, isDigit_iff,
    beq_iff_eq, StartsName]
  constructor
  · rintro (((h | h) | h) | h)
    · exact .inl (.inl h)
    · exact .inl (.inr (.inl h))
    · exact .inr h
    · exact .inl (.inr (.inr h))
  · rintro ((h | h | h) | h)
    · exact .inl (.inl (.inl h))
    · exact .inl (.inl (.inr h))
    · exact .inr h
    · exact .inl (.inr h)

theorem not_isDigit_of_startsName {c : Char} (h : StartsName c) : c.isDigit = false := by
  rw [← Bool.not_eq_true, isDigit_iff]
  simp only [Char.le_def, UInt32.le_iff_toNat_le]
  simp only [StartsName, Char.le_def, UInt32.le_iff_toNat_le] at h
  have hUpper : 'A'.val.toNat = 65 := rfl
  have hLower : 'a'.val.toNat = 97 := rfl
  have hNine : '9'.val.toNat = 57 := rfl
  rcases h with h | h | rfl
  · omega
  · omega
  · decide

theorem isName_iff : isName name = true ↔ IsIdentifier name := by
  cases name with
  | nil => simp [isName, IsIdentifier]
  | cons c rest =>
      simp only [isName, IsIdentifier, List.all_cons, Bool.and_eq_true, Bool.not_eq_true',
        List.all_eq_true, isNameChar_iff]
      constructor
      · rintro ⟨hDigit, hFirst, hRest⟩
        refine ⟨hFirst.resolve_right fun hNumber => ?_, hRest⟩
        rw [isDigit_iff.mpr hNumber] at hDigit
        cases hDigit
      · rintro ⟨hFirst, hRest⟩
        exact ⟨not_isDigit_of_startsName hFirst, .inl hFirst, hRest⟩

/-- No brace stands in a name. -/
theorem isNameChar_of_mem {c : Char} (hName : IsIdentifier name) (hMem : c ∈ name) :
    isNameChar c = true := by
  rw [← isName_iff] at hName
  cases name with
  | nil => cases hMem
  | cons first rest =>
      rw [isName, Bool.and_eq_true] at hName
      exact List.all_eq_true.mp hName.2 c hMem

theorem brace_not_mem (hName : IsIdentifier name) : '\x7b' ∉ name := fun hMem =>
  absurd (isNameChar_of_mem hName hMem) (by decide)

/-- A placeholder is found where it stands. -/
theorem splitName?_written (hName : IsIdentifier name) (after : List Char) :
    splitName? (name ++ '\x7d' :: after) = some (name, after) := by
  have hAll : ∀ c ∈ name, isNameChar c = true := fun c => isNameChar_of_mem hName
  have hBrace : isNameChar '\x7d' = false := by decide
  simp only [splitName?, List.takeWhile_append_of_pos hAll, List.dropWhile_append_of_pos hAll,
    List.takeWhile_cons_of_neg (p := isNameChar) (a := '\x7d') (by simp [hBrace]),
    List.dropWhile_cons_of_neg (p := isNameChar) (a := '\x7d') (by simp [hBrace]),
    List.append_nil, if_pos (isName_iff.mpr hName)]

/-! ## Placeholders do not overlap -/

theorem OccursAt.splitName? (h : OccursAt template position name) :
    ∃ after, template.drop position = written name ++ after ∧
      Message.splitName? (name ++ '\x7d' :: after) = some (name, after) := by
  obtain ⟨hName, after, hDrop⟩ := h
  exact ⟨after, hDrop.symm, splitName?_written hName after⟩

/-- At one position one placeholder stands at most. -/
theorem OccursAt.unique (h : OccursAt template position name)
    (hOther : OccursAt template position other) : name = other := by
  obtain ⟨after, hDrop, hSplit⟩ := h.splitName?
  obtain ⟨after', hDrop', hSplit'⟩ := hOther.splitName?
  have hSame : written name ++ after = written other ++ after' := hDrop.symm.trans hDrop'
  simp only [written, List.cons_append, List.append_assoc, List.nil_append, List.cons.injEq,
    true_and] at hSame
  rw [hSame, hSplit'] at hSplit
  cases hSplit
  rfl

/-- Behind its first character a placeholder has no opening brace. -/
theorem getElem?_written {n : Nat} (hName : IsIdentifier name) :
    (written name)[n + 1]? ≠ some '\x7b' := by
  intro hBrace
  have hMem := List.mem_of_getElem? (l := name ++ ['\x7d']) hBrace
  rcases List.mem_append.mp hMem with hInside | hEnd
  · exact brace_not_mem hName hInside
  · exact absurd (List.mem_singleton.mp hEnd) (by decide)

theorem OccursAt.getElem? (h : OccursAt template position name) {n : Nat}
    (hInside : n < (written name).length) : template[position + n]? = (written name)[n]? := by
  obtain ⟨-, after, hDrop⟩ := h
  rw [← List.getElem?_drop, ← hDrop, List.getElem?_append_left hInside]

/-- A placeholder begins with a brace. -/
theorem OccursAt.brace (h : OccursAt template position name) :
    template[position]? = some '\x7b' :=
  h.getElem? (n := 0) (by simp [written])

/-- Of two placeholders at different positions one ends before the other begins. -/
theorem OccursAt.disjoint (h : OccursAt template position name)
    (hOther : OccursAt template last other) (hBefore : position < last) :
    position + (written name).length ≤ last := by
  refine Nat.le_of_not_lt fun hOverlap => ?_
  obtain ⟨n, rfl⟩ := Nat.exists_eq_add_of_lt hBefore
  have hInside : n + 1 < (written name).length := by omega
  have hBrace := hOther.brace
  rw [Nat.add_assoc, h.getElem? hInside] at hBrace
  exact getElem?_written h.1 hBrace

theorem OccursAt.lt_length (h : OccursAt template position name) :
    position + (written name).length ≤ template.length := by
  obtain ⟨-, hPrefix⟩ := h
  have hLength := hPrefix.length_le
  rw [List.length_drop, length_written] at hLength
  rw [length_written]
  omega

/-- A placeholder is filled with what stands for it. -/
theorem standsFor_iff {value : String} :
    StandsFor s name value ↔ fill s (.placeholder name) = value := by
  have hNone : (String.ofList name = lastOutputName → s.lastOutput = none) →
      (if String.ofList name = lastOutputName then s.lastOutput else none) = none := by
    intro h
    split
    · exact h ‹_›
    · rfl
  rw [fill, valueOf?]
  constructor
  · intro h
    cases h with
    | output named found => rw [if_pos named, found]; rfl
    | assigned noOutput found => rw [hNone noOutput, found]; rfl
    | unknown noOutput noVariable => rw [hNone noOutput, noVariable]; rfl
  · rintro rfl
    by_cases hNamed : String.ofList name = lastOutputName
    · rw [if_pos hNamed]
      cases hOutput : s.lastOutput with
      | some output => exact .output hNamed hOutput
      | none =>
          cases hVariable : s.vars.get? (String.ofList name) with
          | some found => exact .assigned (fun _ => hOutput) hVariable
          | none => exact .unknown (fun _ => hOutput) hVariable
    · rw [if_neg hNamed]
      cases hVariable : s.vars.get? (String.ofList name) with
      | some found => exact .assigned (fun h => absurd h hNamed) hVariable
      | none => exact .unknown (fun h => absurd h hNamed) hVariable

/-- A position has one part at most. -/
theorem Contributes.unique {part' : String} (h : Contributes s template position part)
    (h' : Contributes s template position part') : part = part' := by
  cases h with
  | placeholder occurs stands =>
      cases h' with
      | placeholder occurs' stands' =>
          rw [standsFor_iff] at stands stands'
          rw [occurs.unique occurs', stands'] at stands
          exact stands.symm
      | inside occurs' behind before =>
          have hDisjoint := occurs'.disjoint occurs behind
          omega
      | plain here free =>
          have hFree := free _ _ occurs
          rw [length_written] at hFree
          omega
  | inside occurs behind before =>
      cases h' with
      | placeholder occurs' stands' =>
          have hDisjoint := occurs.disjoint occurs' behind
          omega
      | inside => rfl
      | plain here free =>
          have hFree := free _ _ occurs
          omega
  | plain here free =>
      cases h' with
      | placeholder occurs' stands' =>
          have hFree := free _ _ occurs'
          rw [length_written] at hFree
          omega
      | inside occurs' behind before =>
          have hFree := free _ _ occurs'
          omega
      | plain here' free' =>
          rw [here] at here'
          cases here'
          rfl

/-! ## Parts of a template -/

variable {before after : List Char} {parts parts' : List String}

theorem AreParts.unique (h : AreParts s template parts) (h' : AreParts s template parts') :
    parts = parts' := by
  refine List.ext_getElem (h.1.trans h'.1.symm) fun n hLess hLess' => ?_
  exact (h.2 n _ (List.getElem?_eq_getElem hLess)).unique (h'.2 n _ (List.getElem?_eq_getElem hLess'))

theorem OccursAt.append (h : OccursAt before position name) (after : List Char) :
    OccursAt (before ++ after) position name := by
  obtain ⟨hName, hPrefix⟩ := h
  have hLess : position ≤ before.length := by
    have hLength := hPrefix.length_le
    rw [List.length_drop, length_written] at hLength
    omega
  refine ⟨hName, ?_⟩
  rw [List.drop_append_of_le_length hLess]
  exact hPrefix.trans (List.prefix_append _ _)

theorem occursAt_append_iff :
    OccursAt (before ++ after) (before.length + position) name ↔ OccursAt after position name := by
  rw [OccursAt, OccursAt, ← List.drop_drop, List.drop_left]

/-- A placeholder that begins in the first part of a template and does not straddle the boundary lies
in that part. -/
theorem OccursAt.of_append (h : OccursAt (before ++ after) position name)
    (hEnd : position + (written name).length ≤ before.length) : OccursAt before position name := by
  obtain ⟨hName, hPrefix⟩ := h
  refine ⟨hName, ?_⟩
  rw [List.drop_append_of_le_length (by omega)] at hPrefix
  exact List.prefix_of_prefix_length_le hPrefix (List.prefix_append _ _)
    (by rw [List.length_drop]; omega)

theorem Contributes.append (h : Contributes s before position part)
    (hBoundary : ¬ Straddles (before ++ after) before.length) :
    Contributes s (before ++ after) position part := by
  cases h with
  | placeholder occurs stands => exact .placeholder (occurs.append after) stands
  | inside occurs behind ends => exact .inside (occurs.append after) behind ends
  | plain here free =>
      obtain ⟨hLess, -⟩ := List.getElem?_eq_some_iff.mp here
      refine .plain (by rw [List.getElem?_append_left hLess, here]) fun start name hOccurs => ?_
      by_cases hStart : before.length ≤ start
      · exact .inl (by omega)
      · refine free start name (hOccurs.of_append ?_)
        exact Nat.le_of_not_lt fun hEnd => hBoundary ⟨start, name, hOccurs, by omega, hEnd⟩

theorem Contributes.append_left (h : Contributes s after position part)
    (hBoundary : ¬ Straddles (before ++ after) before.length) :
    Contributes s (before ++ after) (before.length + position) part := by
  cases h with
  | placeholder occurs stands => exact .placeholder (occursAt_append_iff.mpr occurs) stands
  | inside occurs behind ends =>
      exact .inside (occursAt_append_iff.mpr occurs) (by omega) (by omega)
  | plain here free =>
      refine .plain ?_ fun start name hOccurs => ?_
      · rw [List.getElem?_append_right (by omega), Nat.add_sub_cancel_left, here]
      · by_cases hStart : before.length ≤ start
        · obtain ⟨own, rfl⟩ := Nat.exists_eq_add_of_le hStart
          have hFree := free own name (occursAt_append_iff.mp hOccurs)
          omega
        · refine .inr (Nat.le_trans (Nat.le_of_not_lt fun hEnd => ?_) (Nat.le_add_right _ _))
          exact hBoundary ⟨start, name, hOccurs, by omega, hEnd⟩

/-- A template that is cut where no placeholder stands has the parts of its pieces. -/
theorem AreParts.append (h : AreParts s before parts) (h' : AreParts s after parts')
    (hBoundary : ¬ Straddles (before ++ after) before.length) :
    AreParts s (before ++ after) (parts ++ parts') := by
  refine ⟨by rw [List.length_append, List.length_append, h.1, h'.1], fun position part hPart => ?_⟩
  by_cases hLess : position < parts.length
  · rw [List.getElem?_append_left hLess] at hPart
    exact (h.2 position part hPart).append hBoundary
  · rw [List.getElem?_append_right (by omega)] at hPart
    have hOwn := (h'.2 _ part hPart).append_left hBoundary
    rwa [← h.1, Nat.add_sub_cancel' (by omega)] at hOwn

/-- A placeholder by itself: its value at its first position and nothing at the others. -/
theorem areParts_written (hName : IsIdentifier name) :
    AreParts s (written name)
      (fill s (.placeholder name) :: List.replicate (name.length + 1) "") := by
  have hOccurs : OccursAt (written name) 0 name := ⟨hName, List.prefix_rfl⟩
  refine ⟨by simp [written], fun position part hPart => ?_⟩
  cases position with
  | zero =>
      cases hPart
      exact .placeholder hOccurs (standsFor_iff.mpr rfl)
  | succ n =>
      rw [List.getElem?_cons_succ, List.getElem?_replicate] at hPart
      split at hPart
      · rename_i hLess
        cases hPart
        refine .inside hOccurs (Nat.succ_pos n) ?_
        rw [length_written]
        omega
      · cases hPart

/-- A character by itself. -/
theorem areParts_singleton (s : RunState) (c : Char) :
    AreParts s [c] [String.singleton c] := by
  refine ⟨rfl, fun position part hPart => ?_⟩
  cases position with
  | zero =>
      cases hPart
      refine .plain rfl fun start name hOccurs => ?_
      have hLength := hOccurs.lt_length
      rw [length_written, List.length_singleton] at hLength
      omega
  | succ n => cases hPart

theorem join_replicate_empty (n : Nat) : String.join (List.replicate n "") = "" := by
  induction n with
  | zero => rfl
  | succ n ih => rw [List.replicate_succ, String.join_cons, ih, String.append_empty]

/-- No placeholder straddles the end of another one. -/
theorem OccursAt.not_straddles (h : OccursAt template 0 name) :
    ¬ Straddles template (written name).length := by
  rintro ⟨start, other, hOther, hStart, hEnd⟩
  rcases Nat.eq_zero_or_pos start with rfl | hPos
  · rw [hOther.unique h] at hEnd
    omega
  · have hDisjoint := h.disjoint hOther hPos
    omega

/-- The pieces of a template give its parts, by induction on the scan from left to right: no
placeholder straddles the end of a piece. -/
theorem exists_areParts (s : RunState) (template : List Char) :
    ∃ parts, AreParts s template parts ∧
      String.join parts = String.join ((pieces template).map (fill s)) := by
  fun_induction pieces template with
  | case1 => exact ⟨[], ⟨rfl, fun _ _ hPart => by cases hPart⟩, rfl⟩
  | case2 c rest name after hSplit ih =>
      obtain ⟨parts, hParts, hJoin⟩ := ih
      split at hSplit
      · rename_i hBrace
        obtain ⟨hName, hRest⟩ := splitName?_eq_some hSplit
        have hName := isName_iff.mp hName
        have hTemplate : c :: rest = written name ++ after := by
          rw [hBrace, hRest, written, List.cons_append, List.append_assoc]
          rfl
        have hOccurs : OccursAt (written name ++ after) 0 name :=
          ⟨hName, List.prefix_append _ _⟩
        refine ⟨_, hTemplate ▸ (areParts_written hName).append hParts hOccurs.not_straddles, ?_⟩
        rw [List.cons_append, String.join_cons, String.join_append, join_replicate_empty,
          String.empty_append, hJoin, List.map_cons, String.join_cons]
      · cases hSplit
  | case3 c rest hSplit ih =>
      obtain ⟨parts, hParts, hJoin⟩ := ih
      refine ⟨_, (areParts_singleton s c).append hParts ?_, ?_⟩
      · rintro ⟨start, name, hOccurs, hStart, -⟩
        obtain rfl : start = 0 := Nat.lt_one_iff.mp hStart
        obtain ⟨after, hTemplate, hFound⟩ := hOccurs.splitName?
        simp only [List.drop_zero, written, List.cons_append, List.append_assoc, List.nil_append,
          List.cons.injEq] at hTemplate
        obtain ⟨rfl, rfl⟩ := hTemplate
        rw [dif_pos rfl, hFound] at hSplit
        cases hSplit
      · rw [List.singleton_append, String.join_cons, hJoin, List.map_cons, String.join_cons]
        rfl

/-- The message of a template is made of its parts, whichever way these are found. -/
theorem areParts_iff_of_render (template : String) (s : RunState) :
    ∃ parts, (∀ parts', AreParts s template.toList parts' ↔ parts' = parts) ∧
      render template s = String.join parts := by
  obtain ⟨parts, hParts, hJoin⟩ := exists_areParts s template.toList
  refine ⟨parts, fun parts' => ⟨fun hOther => hOther.unique hParts, ?_⟩, hJoin.symm⟩
  rintro rfl
  exact hParts

theorem render_append {first second : String} (s : RunState)
    (h : ¬ Straddles (first ++ second).toList first.length) :
    render (first ++ second) s = render first s ++ render second s := by
  obtain ⟨parts, hParts, hRender⟩ := areParts_iff_of_render first s
  obtain ⟨parts', hParts', hRender'⟩ := areParts_iff_of_render second s
  obtain ⟨whole, hWhole, hRenderWhole⟩ := areParts_iff_of_render (first ++ second) s
  rw [String.toList_append] at h hWhole
  have hBoth := ((hParts parts).mpr rfl).append ((hParts' parts').mpr rfl) h
  rw [hRenderWhole, ← (hWhole _).mp hBoth, hRender, hRender', String.join_append]

/-- A template without an opening brace before a position has no placeholder that straddles it. -/
theorem not_straddles_of_no_brace (h : '\x7b' ∉ template.take position) :
    ¬ Straddles template position := by
  rintro ⟨start, name, hOccurs, hStart, -⟩
  refine h (List.mem_of_getElem? (i := start) ?_)
  rw [List.getElem?_take_of_lt hStart]
  exact hOccurs.brace

/-- Placeholders do not overlap; a message has for each position of its template the one part that the
position gives, whatever the values of the others; and a template that is cut where no placeholder stands
gives the messages of its pieces. -/
theorem render_substitutes_at_once (s : RunState) :
    (∀ template position last name other, OccursAt template position name →
        OccursAt template last other → (position, name) ≠ (last, other) →
        position + (written name).length ≤ last ∨ last + (written other).length ≤ position) ∧
      (∀ template : String, ∃ parts, (∀ parts', AreParts s template.toList parts' ↔ parts' = parts) ∧
        render template s = String.join parts) ∧
      ∀ first second : String, ¬ Straddles (first ++ second).toList first.length →
        render (first ++ second) s = render first s ++ render second s := by
  refine ⟨fun template position last name other hOccurs hOther hDistinct => ?_,
    fun template => areParts_iff_of_render template s, fun first second => render_append s⟩
  rcases Nat.lt_trichotomy position last with hLess | rfl | hGreater
  · exact .inl (hOccurs.disjoint hOther hLess)
  · exact absurd (congrArg (position, ·) (hOccurs.unique hOther)) hDistinct
  · exact .inr (hOther.disjoint hOccurs hGreater)

/-- A value that looks like a placeholder, a placeholder behind a brace, and one of an unknown name. -/
theorem render_substitutes_at_once_page :
    ¬ Straddles ("On " ++ "\x7bpage\x7d\x7b\x7b_\x7d\x7bx\x7d").toList "On ".length ∧
      render ("On " ++ "\x7bpage\x7d\x7b\x7b_\x7d\x7bx\x7d") ⟨[("page", "\x7b_\x7d")], some "ok"⟩ =
        "On \x7b_\x7d\x7bok\x7bx\x7d" := by
  have hBoundary : ¬ Straddles ("On " ++ "\x7bpage\x7d\x7b\x7b_\x7d\x7bx\x7d").toList "On ".length :=
    not_straddles_of_no_brace (by decide)
  refine ⟨hBoundary, ?_⟩
  rw [(render_substitutes_at_once _).2.2 _ _ hBoundary]
  decide +kernel

end Flowline.Message
