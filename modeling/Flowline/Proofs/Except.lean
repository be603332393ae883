/-!
Computations with errors: the parts of one that succeeds, and those that fail in one way only.
-/

namespace Flowline

/-- Two computations in a row succeed if both do. -/
theorem bind_eq_ok {ε α β : Type} {x : Except ε α} {next : α → Except ε β} {b : β} :
    (x >>= next) = .ok b ↔ ∃ a, x = .ok a ∧ next a = .ok b := by
  cases x with
  | error e =>
      constructor
      · intro h
        cases h
      · rintro ⟨_, h, -⟩
        cases h
  | ok a =>
      constructor
      · exact fun h => ⟨a, rfl, h⟩
      · rintro ⟨_, hSame, h⟩
        cases hSame
        exact h

theorem mapM_cons_eq_ok {ε α β : Type} {f : α → Except ε β} {item : α} {rest : List α}
    {values : List β} :
    (item :: rest).mapM f = .ok values ↔
      ∃ b, f item = .ok b ∧ ∃ others, rest.mapM f = .ok others ∧ b :: others = values := by
  rw [List.mapM_cons]
  simp only [bind_eq_ok]
  refine exists_congr fun b => and_congr_right fun _ => exists_congr fun others =>
    and_congr_right fun _ => ?_
  exact ⟨Except.ok.inj, congrArg Except.ok⟩

theorem mapM_append_eq_ok {ε α β : Type} {f : α → Except ε β} {first last : List α}
    {values : List β} :
    (first ++ last).mapM f = .ok values ↔
      ∃ heads, first.mapM f = .ok heads ∧ ∃ tails, last.mapM f = .ok tails ∧
        heads ++ tails = values := by
  rw [List.mapM_append]
  simp only [bind_eq_ok]
  refine exists_congr fun heads => and_congr_right fun _ => exists_congr fun tails =>
    and_congr_right fun _ => ?_
  exact ⟨Except.ok.inj, congrArg Except.ok⟩

/-- What every value of a computation has, the values of its traversal have. -/
theorem forall_of_mapM_eq_ok {ε α β : Type} {f : α → Except ε β} {P : β → Prop} {items : List α}
    {values : List β} (h : ∀ a ∈ items, ∀ b, f a = .ok b → P b) (hOk : items.mapM f = .ok values) :
    ∀ b ∈ values, P b := by
  induction items generalizing values with
  | nil =>
      cases hOk
      exact List.forall_mem_nil _
  | cons item rest ih =>
      rw [List.forall_mem_cons] at h
      obtain ⟨b, hItem, others, hRest, rfl⟩ := mapM_cons_eq_ok.mp hOk
      exact List.forall_mem_cons.mpr ⟨h.1 b hItem, ih h.2 hRest⟩

/-- A computation whose errors all have a property. -/
def FailsAs {ε α : Type} (P : ε → Prop) (x : Except ε α) : Prop := ∀ e, x = .error e → P e

namespace FailsAs

variable {ε α β : Type} {P Q : ε → Prop} {x : Except ε α}

theorem ok (a : α) : FailsAs P (.ok a : Except ε α) := by
  intro e h
  cases h

theorem error {e : ε} (h : P e) : FailsAs P (.error e : Except ε α) := by
  intro other hError
  cases hError
  exact h

/-- A computation that fails in no way succeeds. -/
theorem exists_ok (hx : FailsAs (fun _ => False) x) : ∃ a, x = .ok a := by
  cases x with
  | error e => exact (hx e rfl).elim
  | ok a => exact ⟨a, rfl⟩

theorem mono (h : ∀ e, P e → Q e) (hx : FailsAs P x) : FailsAs Q x := fun e he => h e (hx e he)

/-- What follows a computation, where it matters what that gave. -/
theorem bind_ok {next : α → Except ε β} (hx : FailsAs P x)
    (hNext : ∀ a, x = .ok a → FailsAs P (next a)) : FailsAs P (x >>= next) := by
  cases x with
  | error e => exact error (hx e rfl)
  | ok a => exact hNext a rfl

theorem bind {next : α → Except ε β} (hx : FailsAs P x) (hNext : ∀ a, FailsAs P (next a)) :
    FailsAs P (x >>= next) := hx.bind_ok fun a _ => hNext a

theorem map {f : α → β} (hx : FailsAs P x) : FailsAs P (x.map f) := by
  cases x with
  | error e => exact error (hx e rfl)
  | ok a => exact ok (f a)

theorem mapM_of_mem {f : α → Except ε β} {items : List α} (h : ∀ a ∈ items, FailsAs P (f a)) :
    FailsAs P (items.mapM f) := by
  induction items with
  | nil => exact ok []
  | cons item rest ih =>
      rw [List.forall_mem_cons] at h
      rw [List.mapM_cons]
      exact h.1.bind fun b => (ih h.2).bind fun bs => ok (b :: bs)

theorem mapM {f : α → Except ε β} (h : ∀ a, FailsAs P (f a)) (items : List α) :
    FailsAs P (items.mapM f) := mapM_of_mem fun a _ => h a

theorem ite {c : Prop} [Decidable c] {y : Except ε α} (hx : FailsAs P x) (hy : FailsAs P y) :
    FailsAs P (if c then x else y) := by
  split
  · exact hx
  · exact hy

end FailsAs

end Flowline
