import Flowline.Proofs.Json.Scalars
import Flowline.Proofs.Value.Entries

/-!
JSON that is written and read again. A value made of texts, integers, truth values, null, lists and
mappings from texts is written on one line, without any control character, and reading the line gives
the value back.
-/

namespace Flowline

namespace Json

open Text

variable {c : Char} {n : Nat}

/-! ## Values -/

/-- A text that begins with something else than a blank or the end of a list or a mapping. -/
def Begins (text : String) : Prop :=
  ∃ first more, text.toList = first :: more ∧ isSpace first = false ∧ first ≠ ']' ∧ first ≠ '\x7d'

theorem Begins.append {text : String} (h : Begins text) (more : String) : Begins (text ++ more) := by
  obtain ⟨first, own, hList, hFirst⟩ := h
  refine ⟨first, own ++ more.toList, ?_, hFirst⟩
  rw [String.toList_append, hList, List.cons_append]

theorem begins_quoted (s : String) : Begins (quoted s) := ⟨'"', _, toList_quoted s, by decide⟩

theorem Begins.skipSpaces {text : String} (h : Begins text) (rest : List Char) :
    skipSpaces (text.toList ++ rest) = text.toList ++ rest := by
  obtain ⟨first, own, hList, hSpace, -⟩ := h
  rw [hList]
  exact dropWhile_of_stops (stops_cons.mpr hSpace)

/-- A value and the text that writes it: on one line, and whatever stands after it, it is read back. -/
structure Writes (v : Value) (text : String) : Prop where
  write : Json.write v = .ok text
  visible : Visible text
  begins : Begins text
  reads : ∀ n rest, text.toList.length ≤ n → Ends rest →
    value? n (text.toList ++ rest) = some (v, rest)

theorem writes_null : Writes .null "null" where
  write := rfl
  visible := forall_of_all rfl
  begins := ⟨'n', _, rfl, by decide⟩
  reads n rest hFuel _ := by
    cases n with
    | zero => exact absurd hFuel (by decide)
    | succ n => rfl

theorem writes_bool (b : Bool) : Writes (.bool b) (boolText b) where
  write := rfl
  visible := by cases b <;> exact forall_of_all rfl
  begins := by
    cases b
    · exact ⟨'f', _, rfl, by decide⟩
    · exact ⟨'t', _, rfl, by decide⟩
  reads n rest hFuel _ := by
    cases n with
    | zero => cases b <;> exact absurd hFuel (by decide)
    | succ n => cases b <;> rfl

theorem writes_int {i : Int} (h : Number.isWritable i = true) : Writes (.int i) (toString i) where
  write := rfl
  visible := visible_toString i
  begins := (Denotes.number (writesNumber_toString h)).exists_cons
  reads n _ hFuel hEnds :=
    (complete n).value (.number (writesNumber_toString h)) hFuel hEnds.follows

theorem writes_text (s : String) : Writes (.text s) (quoted s) where
  write := rfl
  visible := visible_quoted s
  begins := begins_quoted s
  reads n rest hFuel _ := by
    have hRead := text?_quoted s rest
    rw [toList_quoted] at hFuel
    rw [toList_quoted] at hRead ⊢
    rw [List.cons_append] at hRead ⊢
    cases n with
    | zero => exact absurd hFuel (Nat.not_succ_le_zero _)
    | succ n =>
        change value? (n + 1) ('"' :: (escaped s.toList ++ ['"'] ++ rest)) = _
        rw [value?, hRead]
        rfl

/-! ## Lists and mappings -/

/-- A blank after a comma or a colon is passed over. -/
theorem skipSpaces_blank {text : String} (h : Begins text) (rest : List Char) :
    skipSpaces (' ' :: (text.toList ++ rest)) = text.toList ++ rest :=
  h.skipSpaces rest

theorem Begins.intercalate {text : String} (h : Begins text) (texts : List String) :
    Begins (", ".intercalate (text :: texts)) := by
  cases texts with
  | nil =>
      rw [String.intercalate_singleton]
      exact h
  | cons next texts =>
      rw [String.intercalate_cons_cons]
      exact (h.append _).append _

/-- The characters of several texts, each with a comma and a blank before the next one. -/
theorem toList_intercalate_cons (text next : String) (texts : List String) (rest : List Char) :
    (", ".intercalate (text :: next :: texts)).toList ++ rest =
      text.toList ++ ',' :: ' ' :: ((", ".intercalate (next :: texts)).toList ++ rest) := by
  rw [String.intercalate_cons_cons, String.toList_append, String.toList_append, List.append_assoc,
    List.append_assoc]
  rfl

theorem length_intercalate_cons (text next : String) (texts : List String) :
    (", ".intercalate (text :: next :: texts)).toList.length =
      text.toList.length + 2 + (", ".intercalate (next :: texts)).toList.length := by
  have hList := congrArg List.length (toList_intercalate_cons text next texts [])
  simp only [List.append_nil, List.length_append, List.length_cons] at hList
  omega

variable {item : Value} {items : List Value} {text : String} {texts : List String}

theorem items?_last (h : Writes item text) (hFuel : text.toList.length ≤ n) (rest : List Char) :
    items? (n + 1) (text.toList ++ ']' :: rest) = some ([item], rest) :=
  items?_bracket (h.reads n _ hFuel (by simp [Ends])) rfl

theorem items?_more (h : Writes item text) (hFuel : text.toList.length ≤ n) (rest : List Char) :
    items? (n + 1) (text.toList ++ ',' :: rest) =
      (items? n (skipSpaces rest)).map fun p => (item :: p.1, p.2) :=
  items?_comma (h.reads n _ hFuel (by simp [Ends])) rfl

/-- Items are read up to the bracket after the last one. -/
theorem items?_writes (h : List.Forall₂ Writes items texts) (hSome : items ≠ [])
    (hFuel : (", ".intercalate texts).toList.length < n) (rest : List Char) :
    items? n ((", ".intercalate texts).toList ++ ']' :: rest) = some (items, rest) := by
  induction h generalizing n with
  | nil => exact absurd rfl hSome
  | @cons item text items texts hItem hItems ih =>
      obtain ⟨n, rfl⟩ := Nat.exists_eq_add_one_of_ne_zero (Nat.ne_zero_of_lt hFuel)
      cases hItems with
      | nil =>
          rw [String.intercalate_singleton] at hFuel ⊢
          exact items?_last hItem (Nat.le_of_lt_succ hFuel) rest
      | @cons next own others texts hNext hRest =>
          rw [length_intercalate_cons] at hFuel
          rw [toList_intercalate_cons, items?_more hItem (by omega),
            skipSpaces_blank (hNext.begins.intercalate texts), ih (List.cons_ne_nil _ _) (by omega)]
          rfl

/-- A member and the text that writes it. -/
def WritesField (field : String × Value) (text : String) : Prop :=
  ∃ own, Writes field.2 own ∧ text = quoted field.1 ++ ": " ++ own

theorem WritesField.begins {field : String × Value} (h : WritesField field text) : Begins text := by
  obtain ⟨own, -, rfl⟩ := h
  exact ((begins_quoted field.1).append _).append _

theorem WritesField.visible {field : String × Value} (h : WritesField field text) : Visible text := by
  have hColon : Visible ": " := forall_of_all rfl
  obtain ⟨own, hOwn, rfl⟩ := h
  exact visible_append (visible_append (visible_quoted field.1) hColon) hOwn.visible

variable {field : String × Value} {fields : List (String × Value)}

/-- The name and the value of a member are read. -/
theorem text?_field (h : WritesField field text) (rest : List Char) : ∃ own,
    Writes field.2 own ∧ own.toList.length ≤ text.toList.length ∧
      text? (text.toList ++ rest) = some (field.1, ':' :: ' ' :: (own.toList ++ rest)) := by
  obtain ⟨own, hOwn, rfl⟩ := h
  refine ⟨own, hOwn, ?_, ?_⟩
  · simp only [String.toList_append, List.length_append]
    omega
  · rw [String.toList_append, String.toList_append, List.append_assoc, List.append_assoc,
      text?_quoted]
    rfl

theorem members?_last (h : WritesField field text) (hFuel : text.toList.length ≤ n)
    (rest : List Char) :
    members? (n + 1) (text.toList ++ '\x7d' :: rest) = some ([(.text field.1, field.2)], rest) := by
  obtain ⟨own, hOwn, hLength, hName⟩ := text?_field h ('\x7d' :: rest)
  have hValue := hOwn.reads n ('\x7d' :: rest) (by omega) (by simp [Ends])
  rw [← skipSpaces_blank hOwn.begins] at hValue
  exact members?_brace hName rfl hValue rfl

theorem members?_more (h : WritesField field text) (hFuel : text.toList.length ≤ n)
    (rest : List Char) :
    members? (n + 1) (text.toList ++ ',' :: rest) =
      (members? n (skipSpaces rest)).map fun p => ((.text field.1, field.2) :: p.1, p.2) := by
  obtain ⟨own, hOwn, hLength, hName⟩ := text?_field h (',' :: rest)
  have hValue := hOwn.reads n (',' :: rest) (by omega) (by simp [Ends])
  rw [← skipSpaces_blank hOwn.begins] at hValue
  exact members?_comma hName rfl hValue rfl

/-- Members are read up to the brace after the last one. -/
theorem members?_writes (h : List.Forall₂ WritesField fields texts) (hSome : fields ≠ [])
    (hFuel : (", ".intercalate texts).toList.length < n) (rest : List Char) :
    members? n ((", ".intercalate texts).toList ++ '\x7d' :: rest) =
      some (Entries.ofFields fields, rest) := by
  induction h generalizing n with
  | nil => exact absurd rfl hSome
  | @cons field text fields texts hField hFields ih =>
      obtain ⟨n, rfl⟩ := Nat.exists_eq_add_one_of_ne_zero (Nat.ne_zero_of_lt hFuel)
      cases hFields with
      | nil =>
          rw [String.intercalate_singleton] at hFuel ⊢
          exact members?_last hField (Nat.le_of_lt_succ hFuel) rest
      | @cons next own others texts hNext hRest =>
          rw [length_intercalate_cons] at hFuel
          rw [toList_intercalate_cons, members?_more hField (by omega),
            skipSpaces_blank (hNext.begins.intercalate texts), ih (List.cons_ne_nil _ _) (by omega)]
          rfl

theorem writeAll_eq (h : List.Forall₂ Writes items texts) : writeAll items = .ok texts := by
  induction h with
  | nil => rfl
  | cons hItem hItems ih =>
      rw [writeAll, hItem.write, ih]
      rfl

theorem writeEntries_eq (h : List.Forall₂ WritesField fields texts) :
    writeEntries (Entries.ofFields fields) = .ok texts := by
  induction h with
  | nil => rfl
  | @cons field text fields texts hField hFields ih =>
      obtain ⟨own, hOwn, rfl⟩ := hField
      change writeEntries ((.text field.1, field.2) :: Entries.ofFields fields) = _
      rw [writeEntries, hOwn.write, ih]
      rfl

theorem Begins.head? {text : String} (h : Begins text) (rest : List Char) :
    (text.toList ++ rest).head? ≠ some ']' ∧ (text.toList ++ rest).head? ≠ some '\x7d' := by
  obtain ⟨first, own, hList, -, hBracket, hBrace⟩ := h
  rw [hList]
  exact ⟨fun hSame => hBracket (Option.some.inj hSame), fun hSame => hBrace (Option.some.inj hSame)⟩

theorem visible_intercalate (h : ∀ text ∈ texts, Visible text) :
    Visible (", ".intercalate texts) := by
  have hComma : Visible ", " := forall_of_all rfl
  induction texts with
  | nil => exact fun c hMem => nomatch hMem
  | cons text texts ih =>
      rw [List.forall_mem_cons] at h
      cases texts with
      | nil =>
          rw [String.intercalate_singleton]
          exact h.1
      | cons next texts =>
          rw [String.intercalate_cons_cons]
          exact visible_append (visible_append h.1 hComma) (ih h.2)

theorem begins_intercalate {α : Type} {R : α → String → Prop} {values : List α}
    (hBegins : ∀ a text, R a text → Begins text) (h : List.Forall₂ R values texts)
    (hSome : values ≠ []) : Begins (", ".intercalate texts) := by
  cases h with
  | nil => exact absurd rfl hSome
  | cons hFirst hRest => exact (hBegins _ _ hFirst).intercalate _

theorem visible_forall₂ {α : Type} {R : α → String → Prop} {values : List α}
    (hVisible : ∀ a text, R a text → Visible text) (h : List.Forall₂ R values texts) :
    Visible (", ".intercalate texts) := by
  refine visible_intercalate ?_
  induction h with
  | nil => exact List.forall_mem_nil _
  | cons hFirst hRest ih => exact List.forall_mem_cons.mpr ⟨hVisible _ _ hFirst, ih⟩

theorem value?_list (h : List.Forall₂ Writes items texts)
    (hFuel : (", ".intercalate texts).toList.length < n) (rest : List Char) :
    value? (n + 1) ('[' :: ((", ".intercalate texts).toList ++ ']' :: rest)) =
      some (.list items, rest) := by
  rw [value?]
  by_cases hSome : items = []
  · subst hSome
    cases h
    rfl
  · have hBegins := begins_intercalate (fun _ _ hWrites => Writes.begins hWrites) h hSome
    rw [hBegins.skipSpaces]
    dsimp only
    rw [if_neg (hBegins.head? _).1, items?_writes h hSome hFuel]
    rfl

theorem value?_map (hDistinct : (fields.map Prod.fst).Nodup)
    (h : List.Forall₂ WritesField fields texts)
    (hFuel : (", ".intercalate texts).toList.length < n) (rest : List Char) :
    value? (n + 1) ('\x7b' :: ((", ".intercalate texts).toList ++ '\x7d' :: rest)) =
      some (.map (Entries.ofFields fields), rest) := by
  rw [value?]
  by_cases hSome : fields = []
  · subst hSome
    cases h
    rfl
  · have hBegins := begins_intercalate (fun _ _ hWrites => WritesField.begins hWrites) h hSome
    rw [hBegins.skipSpaces]
    dsimp only
    rw [if_neg (hBegins.head? _).2, members?_writes h hSome hFuel]
    change some (Value.map (Entries.ofList (Entries.ofFields fields)), rest) = _
    rw [Entries.ofList_ofFields hDistinct]

theorem writes_list (h : List.Forall₂ Writes items texts) :
    Writes (.list items) ("[" ++ ", ".intercalate texts ++ "]") where
  write := by
    rw [Json.write, writeAll_eq h]
    rfl
  visible := by
    refine visible_append (visible_append ?_ (visible_forall₂ (fun _ _ => Writes.visible) h)) ?_
    all_goals exact forall_of_all rfl
  begins := Begins.append (Begins.append ⟨'[', [], rfl, by decide⟩ _) _
  reads n rest hFuel _ := by
    have hOpen : "[".toList.length = 1 := rfl
    have hClose : "]".toList.length = 1 := rfl
    simp only [String.toList_append, List.length_append] at hFuel
    obtain ⟨n, rfl⟩ := Nat.exists_eq_add_one_of_ne_zero (by omega : n ≠ 0)
    rw [String.toList_append, String.toList_append, List.append_assoc, List.append_assoc]
    exact value?_list h (by omega) rest

theorem writes_map (hDistinct : (fields.map Prod.fst).Nodup)
    (h : List.Forall₂ WritesField fields texts) :
    Writes (.map (Entries.ofFields fields)) ("\x7b" ++ ", ".intercalate texts ++ "\x7d") where
  write := by
    rw [Json.write, writeEntries_eq h]
    rfl
  visible := by
    refine visible_append (visible_append ?_ (visible_forall₂ (fun _ _ => WritesField.visible) h)) ?_
    all_goals exact forall_of_all rfl
  begins := Begins.append (Begins.append ⟨'\x7b', [], rfl, by decide⟩ _) _
  reads n rest hFuel _ := by
    have hOpen : "\x7b".toList.length = 1 := rfl
    have hClose : "\x7d".toList.length = 1 := rfl
    simp only [String.toList_append, List.length_append] at hFuel
    obtain ⟨n, rfl⟩ := Nat.exists_eq_add_one_of_ne_zero (by omega : n ≠ 0)
    rw [String.toList_append, String.toList_append, List.append_assoc, List.append_assoc]
    exact value?_map hDistinct h (by omega) rest

/-! ## Round trip -/

/-- A value that JSON writes without loss: texts, integers of few enough digits, truth values, null, and
lists and mappings of such values, where a mapping has texts for keys. -/
inductive Plain : Value → Prop where
  | null : Plain .null
  | bool (b : Bool) : Plain (.bool b)
  | int {i : Int} (writable : Number.isWritable i = true) : Plain (.int i)
  | text (s : String) : Plain (.text s)
  | list {items : List Value} (parts : ∀ item ∈ items, Plain item) : Plain (.list items)
  | map {fields : List (String × Value)} (distinct : (fields.map Prod.fst).Nodup)
      (parts : ∀ field ∈ fields, Plain field.2) : Plain (.map (Entries.ofFields fields))

theorem exists_forall₂ {α β : Type} {R : α → β → Prop} {l : List α} (h : ∀ a ∈ l, ∃ b, R a b) :
    ∃ bs, List.Forall₂ R l bs := by
  induction l with
  | nil => exact ⟨[], .nil⟩
  | cons a l ih =>
      rw [List.forall_mem_cons] at h
      obtain ⟨b, hFirst⟩ := h.1
      obtain ⟨bs, hRest⟩ := ih h.2
      exact ⟨b :: bs, .cons hFirst hRest⟩

/-- Every plain value is written. -/
theorem Plain.exists_writes {v : Value} (h : Plain v) : ∃ text, Writes v text := by
  induction h with
  | null => exact ⟨_, writes_null⟩
  | bool b => exact ⟨_, writes_bool b⟩
  | int hWritable => exact ⟨_, writes_int hWritable⟩
  | text s => exact ⟨_, writes_text s⟩
  | list hParts ih =>
      obtain ⟨texts, hTexts⟩ := exists_forall₂ ih
      exact ⟨_, writes_list hTexts⟩
  | @map fields hDistinct hParts ih =>
      have hField : ∀ field ∈ fields, ∃ text, WritesField field text := by
        intro field hMem
        obtain ⟨own, hOwn⟩ := ih field hMem
        exact ⟨_, own, hOwn, rfl⟩
      obtain ⟨texts, hTexts⟩ := exists_forall₂ hField
      exact ⟨_, writes_map hDistinct hTexts⟩

/-- The text that writes a value is read as it. -/
theorem Writes.read? {v : Value} {text : String} (h : Writes v text) : Json.read? text = some v := by
  have hStart := h.begins.skipSpaces []
  have hValue := h.reads (text.toList.length + 1) [] (Nat.le_succ _) (by simp [Ends])
  rw [List.append_nil] at hStart hValue
  rw [Json.read?, hStart, hValue]
  rfl

/-- A plain value is written on one line without control characters, from which it is read back. -/
theorem Plain.read?_write {v : Value} (h : Plain v) :
    ∃ text, write v = .ok text ∧ Visible text ∧ Json.read? text = some v := by
  obtain ⟨text, hWrites⟩ := h.exists_writes
  exact ⟨text, hWrites.write, hWrites.visible, hWrites.read?⟩

end Json

end Flowline
