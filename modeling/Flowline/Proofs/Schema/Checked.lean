import Flowline.Schema.Checked

/-!
Inversion of checks: what the parts of a check gave if the whole of it gave a valid value.
-/

namespace Flowline.Schema

namespace Checked

variable {α β : Type} {a : α} {b : β}

@[simp] theorem fail_ne_valid {kind : IssueKind} : (Checked.fail kind : Checked α) ≠ .valid a := by
  intro h
  cases h

@[simp] theorem map_eq_valid {f : α → β} {c : Checked α} :
    f <$> c = .valid b ↔ ∃ a, c = .valid a ∧ f a = b := by
  change map f c = _ ↔ _
  cases c with
  | valid a => simp [map]
  | invalid issues => simp [map]

@[simp] theorem seq_eq_valid {cf : Checked (α → β)} {c : Checked α} :
    cf <*> c = .valid b ↔ ∃ f a, cf = .valid f ∧ c = .valid a ∧ f a = b := by
  change apply cf c = _ ↔ _
  cases cf with
  | valid f => cases c <;> simp [apply]
  | invalid issues => cases c <;> simp [apply]

@[simp] theorem within_eq_valid {part : LocationPart} {c : Checked α} :
    c.within part = .valid a ↔ c = .valid a := by
  cases c <;> simp [within]

theorem keeping_eq_valid {c : Checked α} {more : List Issue} :
    c.keeping more = .valid a ↔ c = .valid a ∧ more = [] := by
  rw [keeping]
  split
  · rename_i hNone
    simp [List.isEmpty_iff.mp hNone]
  · rename_i hSome
    simp [List.isEmpty_iff] at hSome
    simp [hSome]

theorem andThen_eq_valid {c : Checked α} {f : α → Checked β} :
    c.andThen f = .valid b ↔ ∃ a, c = .valid a ∧ f a = .valid b := by
  cases c <;> simp [andThen]

/-- A sequence of checks gives a list exactly if its checks give the items. -/
theorem sequenceFrom_eq_valid {n : Nat} {checks : List (Checked α)} {items : List α} :
    sequenceFrom n checks = .valid items ↔ checks = items.map .valid := by
  induction checks generalizing n items with
  | nil => cases items <;> simp [sequenceFrom]
  | cons check rest ih =>
      cases items with
      | nil => simp [sequenceFrom]
      | cons item others =>
          simp only [sequenceFrom, seq_eq_valid, map_eq_valid, within_eq_valid, ih, List.map_cons,
            List.cons.injEq]
          constructor
          · rintro ⟨f, tail, ⟨first, rfl, rfl⟩, rfl, hItems⟩
            cases hItems
            exact ⟨rfl, rfl⟩
          · rintro ⟨rfl, rfl⟩
            exact ⟨List.cons item, others, ⟨item, rfl, rfl⟩, rfl, rfl⟩

end Checked

variable {α : Type} {entries : Entries} {name : String} {check : Value → Checked α} {a : α}

theorem required_eq_valid :
    required entries name check = .valid a ↔
      ∃ v, entries.field? name = some v ∧ check v = .valid a := by
  rw [required]
  split
  · rename_i v hField
    simp [hField]
  · rename_i hField
    simp [hField]

theorem optional_eq_valid {absent : α} :
    optional entries name absent check = .valid a ↔
      (entries.field? name = none ∧ absent = a) ∨
        ∃ v, entries.field? name = some v ∧ check v = .valid a := by
  rw [optional]
  split
  · rename_i v hField
    simp [hField]
  · rename_i hField
    simp [hField]

end Flowline.Schema
