import Flowline.Flow.Model
import Flowline.Proofs.Schema.Checked
import Flowline.Proofs.Value.Keys

/-!
Checks of a value that changes. A check stays as it was if it gives the same value as before, and it
refuses a key if one of its issues tells so. Either is carried from the check of a part to that of the
whole.
-/

namespace Flowline.Schema

/-- An issue about a key that no model has, at the place of that key. -/
def Issue.Refuses (key : Value) (i : Issue) : Prop :=
  (i.kind = .extraForbidden ∨ i.kind = .invalidKey) ∧ i.location.getLast? = some (.ofKey key)

namespace Checked

variable {α β : Type} {key : Value} {c c' : Checked α} {cf cf' : Checked (α → β)}
  {refused : Option Value}

/-- A check that refuses a key, whatever else it finds. -/
def Refuses (key : Value) (c : Checked α) : Prop :=
  ∃ issues, c = .invalid issues ∧ ∃ i ∈ issues, i.Refuses key

/-- What becomes of a check: its value stays, or else a key is refused. -/
def Turns (refused : Option Value) (c c' : Checked α) : Prop :=
  match refused with
  | none => ∀ a, c = .valid a → c' = .valid a
  | some key => c'.Refuses key

namespace Refuses

theorem map {f : α → β} (h : c.Refuses key) : (f <$> c).Refuses key := by
  obtain ⟨issues, rfl, hIssue⟩ := h
  exact ⟨issues, rfl, hIssue⟩

theorem seq_left (h : cf.Refuses key) (c : Checked α) : (cf <*> c).Refuses key := by
  obtain ⟨issues, rfl, i, hMem, hIssue⟩ := h
  cases c with
  | valid a => exact ⟨issues, rfl, i, hMem, hIssue⟩
  | invalid more => exact ⟨issues ++ more, rfl, i, List.mem_append_left _ hMem, hIssue⟩

theorem seq_right (cf : Checked (α → β)) (h : c.Refuses key) : (cf <*> c).Refuses key := by
  obtain ⟨issues, rfl, i, hMem, hIssue⟩ := h
  cases cf with
  | valid f => exact ⟨issues, rfl, i, hMem, hIssue⟩
  | invalid more => exact ⟨more ++ issues, rfl, i, List.mem_append_right _ hMem, hIssue⟩

/-- An issue below a part lies at the same key. -/
theorem within (part : LocationPart) (h : c.Refuses key) : (c.within part).Refuses key := by
  obtain ⟨issues, rfl, i, hMem, hKind, hLast⟩ := h
  refine ⟨_, rfl, ⟨part :: i.location, i.kind⟩, List.mem_map_of_mem hMem, hKind, ?_⟩
  rw [List.getLast?_cons, hLast]
  rfl

theorem keeping_left (h : c.Refuses key) (more : List Issue) : (c.keeping more).Refuses key := by
  obtain ⟨issues, rfl, i, hMem, hIssue⟩ := h
  rw [keeping]
  split
  · exact ⟨issues, rfl, i, hMem, hIssue⟩
  · exact ⟨issues ++ more, rfl, i, List.mem_append_left _ hMem, hIssue⟩

theorem keeping_right {more : List Issue} (c : Checked α) (h : ∃ i ∈ more, i.Refuses key) :
    (c.keeping more).Refuses key := by
  obtain ⟨i, hMem, hIssue⟩ := h
  rw [keeping, if_neg (by rw [List.isEmpty_iff]; exact List.ne_nil_of_mem hMem)]
  exact ⟨_, rfl, i, List.mem_append_right _ hMem, hIssue⟩

theorem andThen (h : c.Refuses key) (f : α → Checked β) : (c.andThen f).Refuses key := by
  obtain ⟨issues, rfl, hIssue⟩ := h
  exact ⟨issues, rfl, hIssue⟩

end Refuses

namespace Turns

theorem refl (c : Checked α) : Turns none c c := fun _ h => h

theorem map {f : α → β} (h : Turns refused c c') : Turns refused (f <$> c) (f <$> c') := by
  cases refused with
  | none =>
      intro b hValid
      obtain ⟨a, hPart, hValue⟩ := map_eq_valid.mp hValid
      exact map_eq_valid.mpr ⟨a, h a hPart, hValue⟩
  | some key => exact Refuses.map h

/-- Of two checks side by side either one can refuse a key. -/
theorem seq {first second : Option Value} (hf : Turns first cf cf') (h : Turns second c c') :
    Turns (first.or second) (cf <*> c) (cf' <*> c') := by
  cases first with
  | some key => exact Refuses.seq_left hf c'
  | none =>
      cases second with
      | some key => exact Refuses.seq_right cf' h
      | none =>
          intro b hValid
          obtain ⟨f, a, hFirst, hSecond, hValue⟩ := seq_eq_valid.mp hValid
          exact seq_eq_valid.mpr ⟨f, a, hf f hFirst, h a hSecond, hValue⟩

theorem within (part : LocationPart) (h : Turns refused c c') :
    Turns refused (c.within part) (c'.within part) := by
  cases refused with
  | none => exact fun a hValid => within_eq_valid.mpr (h a (within_eq_valid.mp hValid))
  | some key => exact Refuses.within part h

theorem keeping {more more' : List Issue} (h : Turns refused c c') (hMore : more = [] → more' = []) :
    Turns refused (c.keeping more) (c'.keeping more') := by
  cases refused with
  | none =>
      intro a hValid
      obtain ⟨hPart, hNone⟩ := keeping_eq_valid.mp hValid
      exact keeping_eq_valid.mpr ⟨h a hPart, hMore hNone⟩
  | some key => exact Refuses.keeping_left h more'

theorem andThen (f : α → Checked β) (h : Turns refused c c') :
    Turns refused (c.andThen f) (c'.andThen f) := by
  cases refused with
  | none =>
      intro b hValid
      obtain ⟨a, hPart, hValue⟩ := andThen_eq_valid.mp hValid
      exact andThen_eq_valid.mpr ⟨a, h a hPart, hValue⟩
  | some key => exact Refuses.andThen h f

/-- A list of checks turns as one of its items does. -/
theorem sequenceFrom (n : Nat) (before after : List (Checked α)) (h : Turns refused c c') :
    Turns refused (Checked.sequenceFrom n (before ++ c :: after))
      (Checked.sequenceFrom n (before ++ c' :: after)) := by
  induction before generalizing n with
  | nil =>
      rw [← refused.or_none]
      exact (h.within _).map.seq (refl _)
  | cons first rest ih => exact (refl _).seq (ih (n + 1))

end Turns

end Checked

/-! ## Keys that are no fields -/

variable {fields : List String} {entries entries' : Entries} {key k : Value}

theorem keyIssue?_eq_none :
    keyIssue? fields key = none ↔ ∃ name ∈ fields, text key = .valid name := by
  rw [keyIssue?]
  cases text key with
  | valid name => simp
  | invalid issues => simp

/-- The keys of a model are in order if each one spells a field that is there. -/
theorem keyIssues_eq_nil :
    keyIssues fields entries = [] ↔
      ∀ k ∈ entries.keys, ∃ name ∈ fields, .text name ∈ entries.keys ∧ text k = .valid name := by
  simp only [keyIssues, List.filterMap_eq_nil_iff, keyIssue?_eq_none, List.mem_filter, Entries.keys,
    List.forall_mem_map, and_assoc, Entries.hasField_iff]

/-- Whether keys are in order depends on nothing but what keys there are. -/
theorem keyIssues_eq_nil_congr (h : ∀ k, k ∈ entries'.keys ↔ k ∈ entries.keys) :
    keyIssues fields entries' = [] ↔ keyIssues fields entries = [] := by
  simp only [keyIssues_eq_nil, h]

/-- A key that spells no field is refused. -/
theorem exists_refuses_of_mem_keys (hMem : key ∈ entries.keys)
    (hForeign : ∀ name ∈ fields, text key ≠ .valid name) :
    ∃ i ∈ keyIssues fields entries, i.Refuses key := by
  obtain ⟨e, hEntry, rfl⟩ := List.mem_map.mp hMem
  have hIssue : ∃ i, keyIssue? (fields.filter entries.hasField) e.1 = some i ∧ i.Refuses e.1 := by
    rw [keyIssue?]
    cases hText : text e.1 with
    | invalid issues => exact ⟨_, rfl, .inr rfl, rfl⟩
    | valid name =>
        have hNo : ¬ (fields.filter entries.hasField).contains name = true := by
          rw [List.contains_iff_mem]
          exact fun hName => hForeign name (List.mem_filter.mp hName).1 hText
        exact ⟨_, if_neg hNo, .inl rfl, rfl⟩
  obtain ⟨i, hFound, hRefuses⟩ := hIssue
  exact ⟨i, List.mem_filterMap.mpr ⟨e, hEntry, hFound⟩, hRefuses⟩

/-- A model refuses a key that spells none of its fields. -/
theorem refuses_model {α : Type} (check : Checked α) (hMem : key ∈ entries.keys)
    (hForeign : ∀ name ∈ fields, text key ≠ .valid name) : (model fields entries check).Refuses key :=
  .keeping_right check (exists_refuses_of_mem_keys hMem hForeign)

end Flowline.Schema
