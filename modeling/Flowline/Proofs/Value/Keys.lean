import Flowline.Proofs.Value.Entries

/-!
Keys of mappings: what stands under a name and which keys there are, once an entry is put among others
or taken away, and in a mapping that is collected from pairs.
-/

namespace Flowline.Entries

/-- The keys of a mapping. -/
def keys (entries : Entries) : List Value := entries.map Prod.fst

variable {entries first last : Entries} {key k v : Value} {name : String}

theorem keys_append (first last : Entries) : keys (first ++ last) = first.keys ++ last.keys :=
  List.map_append

theorem sameKey_text_iff : key.sameKey (.text name) = true ↔ key = .text name := by
  cases key <;> simp [Value.sameKey, Value.asInt?]

theorem text_sameKey_iff : (Value.text name).sameKey key = true ↔ key = .text name := by
  cases key <;> simp [Value.sameKey, Value.asInt?, eq_comm]

/-! ## What stands under a name -/

theorem field?_cons (e : Value × Value) (rest : Entries) (name : String) :
    field? (e :: rest) name = if e.1.sameKey (.text name) then some e.2 else rest.field? name := by
  rw [field?, get?, List.find?_cons]
  cases e.1.sameKey (.text name) <;> rfl

theorem field?_append (first last : Entries) (name : String) :
    field? (first ++ last) name = (first.field? name).or (last.field? name) := by
  rw [field?, get?, List.find?_append, Option.map_or]
  rfl

/-- The entry under a name does not depend on entries under other keys. -/
theorem field?_cons_of_ne {e : Value × Value} (h : e.1 ≠ .text name) (rest : Entries) :
    field? (e :: rest) name = rest.field? name := by
  rw [field?_cons, if_neg (mt sameKey_text_iff.mp h)]

theorem field?_put (entries : Entries) (key v : Value) (name : String) :
    (entries.put key v).field? name =
      if key.sameKey (.text name) then some v else entries.field? name := by
  induction entries with
  | nil => exact field?_cons (key, v) [] name
  | cons e rest ih =>
      rw [put, field?_cons]
      cases hSame : e.1.sameKey key with
      | true =>
          rw [if_pos rfl, field?_cons]
          -- the entry is replaced: it stands under the name before and after, or neither
          have hName : e.1.sameKey (.text name) = true ↔ key.sameKey (.text name) = true := by
            rw [sameKey_text_iff, sameKey_text_iff]
            constructor
            · intro hFirst
              rw [hFirst] at hSame
              exact text_sameKey_iff.mp hSame
            · intro hKey
              rw [hKey] at hSame
              exact sameKey_text_iff.mp hSame
          by_cases hKey : key.sameKey (.text name) = true
          · rw [if_pos hKey, if_pos (hName.mpr hKey)]
          · rw [if_neg hKey, if_neg (mt hName.mp hKey), if_neg (mt hName.mp hKey)]
      | false =>
          rw [if_neg Bool.false_ne_true, field?_cons, ih]
          by_cases hFirst : e.1.sameKey (.text name) = true
          · have hKey : ¬ key.sameKey (.text name) = true := by
              intro hKey
              rw [sameKey_text_iff.mp hKey] at hSame
              exact Bool.false_ne_true (hSame.symm.trans hFirst)
            rw [if_pos hFirst, if_neg hKey, if_pos hFirst]
          · rw [if_neg hFirst, if_neg hFirst]

@[simp] theorem field?_putField (entries : Entries) (name : String) (v : Value) (other : String) :
    (entries.putField name v).field? other = if name = other then some v else entries.field? other := by
  rw [putField, field?_put, sameKey_text]
  simp only [decide_eq_true_eq]

@[simp] theorem field?_eraseField (entries : Entries) (name other : String) :
    (entries.eraseField name).field? other =
      if name = other then none else entries.field? other := by
  induction entries with
  | nil => exact (ite_self none).symm
  | cons e rest ih =>
      rw [eraseField] at ih ⊢
      cases hName : e.1.sameKey (.text name) with
      | true =>
          have hKey := sameKey_text_iff.mp hName
          rw [List.filter_cons_of_neg (by simp [hName]), ih]
          split
          · rfl
          · rename_i hOther
            rw [field?_cons_of_ne (by simpa [hKey] using hOther)]
      | false =>
          rw [List.filter_cons_of_pos (by simp [hName]), field?_cons, ih, field?_cons]
          split
          · rename_i hFirst
            have hOther : name ≠ other := by
              rintro rfl
              exact Bool.false_ne_true (hName.symm.trans hFirst)
            rw [if_neg hOther]
          · rfl

theorem hasField_iff {entries : Entries} : entries.hasField name = true ↔ .text name ∈ entries.keys := by
  induction entries with
  | nil => simp [hasField, field?, get?, keys]
  | cons e rest ih =>
      rw [hasField, field?_cons, keys, List.map_cons, List.mem_cons]
      split
      · rename_i hName
        simp [sameKey_text_iff.mp hName]
      · rename_i hName
        have hFirst : Value.text name ≠ e.1 := fun h => hName (sameKey_text_iff.mpr h.symm)
        rw [← keys, ← ih, hasField]
        simp [hFirst]

/-! ## Collecting -/

/-- In a mapping that is collected from pairs, the last value of a name stands under it. -/
theorem field?_ofList (pairs : Entries) (name : String) :
    (ofList pairs).field? name = field? pairs.reverse name := by
  have hFold : ∀ found : Entries,
      field? (pairs.foldl (fun entries pair => entries.put pair.1 pair.2) found) name =
        (field? pairs.reverse name).or (found.field? name) := by
    induction pairs with
    | nil => exact fun _ => rfl
    | cons e rest ih =>
        intro found
        rw [List.foldl_cons, ih, field?_put, List.reverse_cons, field?_append, Option.or_assoc,
          field?_cons]
        split <;> rfl
  exact (hFold []).trans Option.or_none

/-- What is collected under a name does not depend on pairs with other keys. -/
theorem field?_ofList_insert {e : Value × Value} (h : e.1 ≠ .text name) (first last : Entries) :
    (ofList (first ++ e :: last)).field? name = (ofList (first ++ last)).field? name := by
  simp only [field?_ofList, List.reverse_append, List.reverse_cons, List.append_assoc,
    field?_append, field?_cons_of_ne h, List.singleton_append]

/-- The last pair of a name tells what is collected under it. -/
theorem field?_ofList_self (first : Entries) (v : Value) (h : .text name ∉ last.keys) :
    (ofList (first ++ (.text name, v) :: last)).field? name = some v := by
  have hNone : field? last.reverse name = none := by
    rw [← Option.not_isSome_iff_eq_none, ← hasField, hasField_iff, keys, List.map_reverse,
      List.mem_reverse]
    exact h
  simp only [field?_ofList, List.reverse_append, List.reverse_cons, List.append_assoc,
    field?_append, hNone, Option.none_or, List.singleton_append, field?_cons,
    sameKey_text_iff.mpr rfl, if_true]

/-- What is collected under a name does not depend on a pair before another one of that name. -/
theorem field?_ofList_of_later (e : Value × Value) (first : Entries) (h : .text name ∈ last.keys) :
    (ofList (first ++ e :: last)).field? name = (ofList (first ++ last)).field? name := by
  have hLater : .text name ∈ keys last.reverse := by
    rw [keys, List.map_reverse, List.mem_reverse]
    exact h
  obtain ⟨v, hField⟩ := Option.isSome_iff_exists.mp (hasField_iff.mpr hLater)
  simp only [field?_ofList, List.reverse_append, List.reverse_cons, List.append_assoc,
    field?_append, hField, Option.some_or]

/-- Puts a key behind others, unless it is the same as one of them. -/
def addKey (found : List Value) (key : Value) : List Value :=
  if found.any (·.sameKey key) then found else found ++ [key]

theorem keys_put (entries : Entries) (key v : Value) :
    keys (entries.put key v) = addKey entries.keys key := by
  induction entries with
  | nil => rfl
  | cons e rest ih =>
      rw [put]
      split
      · rename_i hSame
        simp [addKey, keys, hSame]
      · rename_i hSame
        have hAny : (keys (e :: rest)).any (·.sameKey key) = (keys rest).any (·.sameKey key) := by
          rw [keys, List.map_cons, List.any_cons, eq_false_of_ne_true hSame, Bool.false_or, keys]
        change e.1 :: keys (put rest key v) = _
        rw [ih, addKey, addKey, hAny]
        split
        · rfl
        · rfl

theorem keys_ofList (pairs : Entries) : (ofList pairs).keys = pairs.keys.foldl addKey [] := by
  have hFold : ∀ found : Entries,
      keys (pairs.foldl (fun entries pair => entries.put pair.1 pair.2) found) =
        pairs.keys.foldl addKey found.keys := by
    induction pairs with
    | nil => exact fun _ => rfl
    | cons e rest ih =>
        intro found
        rw [List.foldl_cons, ih, keys_put]
        rfl
  exact hFold []

theorem mem_addKey_text {found : List Value} :
    k ∈ addKey found (.text name) ↔ k ∈ found ∨ k = .text name := by
  rw [addKey]
  split
  · rename_i hAny
    obtain ⟨key, hMem, hSame⟩ := List.any_eq_true.mp hAny
    rw [sameKey_text_iff] at hSame
    exact ⟨.inl, fun h => h.elim id fun hKey => hKey ▸ hSame ▸ hMem⟩
  · rw [List.mem_append, List.mem_singleton]

theorem subset_addKey {found : List Value} (key : Value) (h : k ∈ found) : k ∈ addKey found key := by
  rw [addKey]
  split
  · exact h
  · exact List.mem_append_left _ h

theorem mem_keys_putField {entries : Entries} :
    k ∈ keys (entries.putField name v) ↔ k ∈ entries.keys ∨ k = .text name := by
  rw [putField, keys_put, mem_addKey_text]

theorem mem_keys_eraseField {entries : Entries} :
    k ∈ keys (entries.eraseField name) ↔ k ∈ entries.keys ∧ k ≠ .text name := by
  have hKey : ∀ e : Value × Value, e.1.sameKey (.text name) = false ↔ e.1 ≠ .text name := by
    intro e
    rw [Ne, ← sameKey_text_iff, Bool.not_eq_true]
  simp only [keys, eraseField, List.mem_map, List.mem_filter, Bool.not_eq_true', hKey]
  constructor
  · rintro ⟨e, ⟨hMem, hName⟩, rfl⟩
    exact ⟨⟨e, hMem, rfl⟩, hName⟩
  · rintro ⟨⟨e, hMem, rfl⟩, hName⟩
    exact ⟨e, ⟨hMem, hName⟩, rfl⟩

theorem mem_foldl_addKey {rest found : List Value} (h : k ∈ found) :
    k ∈ rest.foldl addKey found := by
  induction rest generalizing found with
  | nil => exact h
  | cons key rest ih => exact ih (subset_addKey key h)

theorem mem_of_mem_foldl_addKey {rest found : List Value} (h : k ∈ rest.foldl addKey found) :
    k ∈ found ∨ k ∈ rest := by
  induction rest generalizing found with
  | nil => exact .inl h
  | cons key rest ih =>
      rcases ih h with hAdded | hRest
      · rw [addKey] at hAdded
        split at hAdded
        · exact .inl hAdded
        · rw [List.mem_append, List.mem_singleton] at hAdded
          exact hAdded.imp_right fun hKey => List.mem_cons.mpr (.inl hKey)
      · exact .inr (List.mem_cons_of_mem _ hRest)

/-- Two collections that differ in one text go on to differ in it only. -/
theorem mem_foldl_addKey_iff {rest found more : List Value}
    (h : ∀ k, k ∈ more ↔ k ∈ found ∨ k = .text name) :
    k ∈ rest.foldl addKey more ↔ k ∈ rest.foldl addKey found ∨ k = .text name := by
  induction rest generalizing found more with
  | nil => exact h k
  | cons key rest ih =>
      refine ih fun k => ?_
      have hText : (∃ k : Value, k = .text name ∧ k.sameKey key = true) ↔ key = .text name := by
        rw [exists_eq_left, text_sameKey_iff]
      have hAny : more.any (·.sameKey key) = true ↔
          found.any (·.sameKey key) = true ∨ key = .text name := by
        simp only [List.any_eq_true, h, or_and_right, exists_or, hText]
      by_cases hFound : found.any (·.sameKey key) = true
      · rw [addKey, addKey, if_pos hFound, if_pos (hAny.mpr (.inl hFound))]
        exact h k
      · rw [addKey, addKey, if_neg hFound]
        split
        · rename_i hMore
          rw [(hAny.mp hMore).resolve_left hFound, List.mem_append, List.mem_singleton, h, or_assoc,
            or_self]
        · rw [List.mem_append, List.mem_append, h, or_right_comm]

/-- A pair more with a text for its key gives that key more, wherever it stands. -/
theorem mem_keys_ofList_insert (first last : Entries) (v : Value) :
    k ∈ keys (ofList (first ++ (.text name, v) :: last)) ↔
      k ∈ keys (ofList (first ++ last)) ∨ k = .text name := by
  rw [keys_ofList, keys_ofList, keys_append, keys_append, List.foldl_append, List.foldl_append]
  exact mem_foldl_addKey_iff fun _ => mem_addKey_text

/-- A text is a key of the collected mapping if it is that of one of the pairs. -/
theorem text_mem_keys_ofList {pairs : Entries} :
    .text name ∈ (ofList pairs).keys ↔ .text name ∈ pairs.keys := by
  rw [← hasField_iff, hasField, field?_ofList, ← hasField, hasField_iff, keys, List.map_reverse,
    List.mem_reverse, keys]

/-- A new key is one of the collected mapping. -/
theorem mem_keys_ofList_of_new {first : Entries} (h : ∀ k ∈ first.keys, k.sameKey key = false)
    (v : Value) (last : Entries) : key ∈ keys (ofList (first ++ (key, v) :: last)) := by
  have hNone : (first.keys.foldl addKey []).any (·.sameKey key) = false := by
    refine List.any_eq_false.mpr fun k hMem => ?_
    rw [h k ((mem_of_mem_foldl_addKey hMem).resolve_left List.not_mem_nil)]
    exact Bool.false_ne_true
  rw [keys_ofList, keys_append, List.foldl_append]
  change key ∈ last.keys.foldl addKey (addKey _ key)
  rw [addKey, hNone, if_neg Bool.false_ne_true]
  exact mem_foldl_addKey (List.mem_append_right _ List.mem_cons_self)

/-! ## Mappings that change -/

/-- Two mappings that differ in the value of one text key. -/
inductive Replaces (name : String) (v w : Value) : Entries → Entries → Prop where
  | at (before after : Entries) (unique : .text name ∉ keys (before ++ after)) :
      Replaces name v w (before ++ (.text name, v) :: after) (before ++ (.text name, w) :: after)

/-- Two mappings of which the second one has an entry more, under a key that is none of the first one's;
`after` are the entries behind it. -/
inductive Adds (key v : Value) (after : Entries) : Entries → Entries → Prop where
  | behind (before : Entries) (new : ∀ k ∈ keys (before ++ after), k.sameKey key = false) :
      Adds key v after (before ++ after) (before ++ (key, v) :: after)

variable {entries entries' : Entries} {after : Entries} {w : Value} {other : String}

theorem Replaces.symm (h : Replaces name v w entries entries') : Replaces name w v entries' entries := by
  obtain ⟨before, after, hUnique⟩ := h
  exact .at before after hUnique

theorem Replaces.field?_self (h : Replaces name v w entries entries') :
    entries.field? name = some v := by
  obtain ⟨before, after, hUnique⟩ := h
  have hNone : ¬ before.hasField name = true := by
    rw [hasField_iff]
    exact fun hMem => hUnique (by rw [keys_append]; exact List.mem_append_left _ hMem)
  rw [hasField, Option.not_isSome_iff_eq_none] at hNone
  rw [field?_append, hNone, Option.none_or, field?_cons, if_pos (sameKey_text_iff.mpr rfl)]

theorem Replaces.field?_of_ne (h : Replaces name v w entries entries') (hOther : name ≠ other) :
    entries'.field? other = entries.field? other := by
  obtain ⟨before, after, -⟩ := h
  have hName : ∀ v : Value, ((.text name, v) : Value × Value).1 ≠ .text other := by
    rintro v hSame
    cases hSame
    exact hOther rfl
  rw [field?_append, field?_append, field?_cons_of_ne (hName v), field?_cons_of_ne (hName w)]

theorem Replaces.keys_eq (h : Replaces name v w entries entries') : entries'.keys = entries.keys := by
  obtain ⟨before, after, -⟩ := h
  simp only [keys, List.map_append, List.map_cons]

/-- A name that is not there can be added in front. -/
theorem Adds.in_front (name : String) (v : Value) (h : entries.hasField name = false) :
    Adds (.text name) v entries entries ((.text name, v) :: entries) := by
  refine .behind [] fun k hMem => ?_
  rw [← Bool.not_eq_true, sameKey_text_iff]
  rintro rfl
  rw [List.nil_append, ← hasField_iff, h] at hMem
  cases hMem

theorem Adds.field?_of_ne (h : Adds key v after entries entries') (hKey : key ≠ .text name) :
    entries'.field? name = entries.field? name := by
  obtain ⟨before, -⟩ := h
  rw [field?_append, field?_append, field?_cons_of_ne hKey]

theorem Adds.mem_keys (h : Adds key v after entries entries') : key ∈ entries'.keys := by
  obtain ⟨before, -⟩ := h
  exact List.mem_map.mpr ⟨(key, v), List.mem_append_right _ List.mem_cons_self, rfl⟩

theorem Adds.mem_keys_iff (h : Adds key v after entries entries') :
    k ∈ entries'.keys ↔ k ∈ entries.keys ∨ k = key := by
  obtain ⟨before, -⟩ := h
  rw [keys_append, keys_append, List.mem_append, List.mem_append, or_assoc]
  refine or_congr_right ?_
  rw [keys, List.map_cons, List.mem_cons, or_comm, keys]

/-- The added key is none of those that are there already. -/
theorem Adds.ne_of_hasField (h : Adds key v after entries entries') (hField : entries.hasField name = true) :
    key ≠ .text name := by
  obtain ⟨before, hNew⟩ := h
  rintro rfl
  have hOld := hNew _ (hasField_iff.mp hField)
  rw [sameKey_text_iff.mpr rfl] at hOld
  cases hOld

theorem Adds.ne_of_later (h : Adds key v after entries entries') (hLater : after.hasField name = true) :
    key ≠ .text name := by
  refine h.ne_of_hasField (hasField_iff.mpr ?_)
  obtain ⟨before, -⟩ := h
  rw [keys_append]
  exact List.mem_append_right _ (hasField_iff.mp hLater)

/-- The added name was not there before. -/
theorem Adds.field?_before (h : Adds (.text name) v after entries entries') :
    entries.field? name = none := by
  have hNone : ¬ entries.hasField name = true := fun hField => h.ne_of_hasField hField rfl
  rwa [hasField, Option.not_isSome_iff_eq_none] at hNone

theorem Adds.field?_self (h : Adds (.text name) v after entries entries') :
    entries'.field? name = some v := by
  have hNone := h.field?_before
  obtain ⟨before, -⟩ := h
  rw [field?_append, Option.or_eq_none_iff] at hNone
  rw [field?_append, hNone.1, Option.none_or, field?_cons, if_pos (sameKey_text_iff.mpr rfl)]

end Flowline.Entries
