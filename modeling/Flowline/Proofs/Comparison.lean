import Flowline.Proofs.Action
import Mathlib.Data.List.Forall2

/-!
Comparison of actions: two actions that start in states of a pair end alike, show events that are taken
for one another, and leave states of a pair. What a pair of states must have in common may hang on what
the first of the two actions is going to do.
-/

namespace Flowline

variable {σ τ α β α' β' : Type}

/-- Ends of the same kind: values that are related, or the same failure. -/
inductive ResultsAlike (R : α → β → Prop) : Except Failure α → Except Failure β → Prop where
  | ok {a : α} {b : β} (related : R a b) : ResultsAlike R (.ok a) (.ok b)
  | error (f : Failure) : ResultsAlike R (.error f) (.error f)

namespace ResultsAlike

variable {R : α → β → Prop} {Q : α' → β' → Prop} {x : Except Failure α} {y : Except Failure β}

theorem bind {next : α → Except Failure α'} {other : β → Except Failure β'} (h : ResultsAlike R x y)
    (hNext : ∀ a b, R a b → ResultsAlike Q (next a) (other b)) :
    ResultsAlike Q (x >>= next) (y >>= other) := by
  cases h with
  | ok related => exact hNext _ _ related
  | error f => exact .error f

theorem eq {x y : Except Failure α} (h : ResultsAlike Eq x y) : x = y := by
  cases h with
  | ok related => rw [related]
  | error f => rfl

theorem refl {R : α → α → Prop} (hRefl : ∀ a, R a a) (x : Except Failure α) : ResultsAlike R x x := by
  cases x with
  | ok a => exact .ok (hRefl a)
  | error f => exact .error f

theorem mapM {f : α' → Except Failure α} {g : β' → Except Failure β} {items : List α'}
    {others : List β'} (h : List.Forall₂ (fun a b => ResultsAlike R (f a) (g b)) items others) :
    ResultsAlike (List.Forall₂ R) (items.mapM f) (others.mapM g) := by
  induction h with
  | nil => exact .ok .nil
  | cons first _ ih =>
      rw [List.mapM_cons, List.mapM_cons]
      exact first.bind fun a b hFirst => ih.bind fun as bs hRest => .ok (.cons hFirst hRest)

end ResultsAlike

/-- How two actions are compared: from which states they start, given the events that the first of the
two still has ahead of it, and which events are taken for one another. Records are taken for
themselves, and no pair of states hangs on a record ahead. -/
structure Comparison (σ τ : Type) where
  states : List Event → σ → τ → Prop
  events : Event → Event → Prop
  logged : ∀ entry, events (.logged entry) (.logged entry)
  passed : ∀ entry ahead s t, states (.logged entry :: ahead) s t → states ahead s t

/-- Two ends that a comparison takes for one another. -/
structure Done.Alike (c : Comparison σ τ) (R : α → β → Prop) (ahead : List Event) (d : Done σ α)
    (e : Done τ β) : Prop where
  result : ResultsAlike R d.result e.result
  events : List.Forall₂ c.events d.events e.events
  states : c.states ahead d.state e.state

/-- Two actions that a comparison takes for one another. -/
def Action.Alike (c : Comparison σ τ) (R : α → β → Prop) (x : Action σ α) (y : Action τ β) : Prop :=
  ∀ ahead s t, c.states ((x s).events ++ ahead) s t → (x s).Alike c R ahead (y t)

/-- An end after more events. -/
theorem Done.Alike.after {c : Comparison σ τ} {R : α → β → Prop} {ahead : List Event} {d : Done σ α}
    {e : Done τ β} (h : d.Alike c R ahead e) {earlier others : List Event}
    (hEarlier : List.Forall₂ c.events earlier others) :
    (d.after earlier).Alike c R ahead (e.after others) :=
  ⟨h.result, List.rel_append hEarlier h.events, h.states⟩

namespace Action.Alike

variable {c : Comparison σ τ} {R : α → β → Prop} {Q : α' → β' → Prop} {x : Action σ α}
  {y : Action τ β}

theorem succeed {a : α} {b : β} (h : R a b) :
    (Action.succeed a : Action σ α).Alike c R (Action.succeed b) :=
  fun _ _ _ hStates => ⟨.ok h, .nil, hStates⟩

theorem pure {a : α} {b : β} (h : R a b) : (Pure.pure a : Action σ α).Alike c R (Pure.pure b) :=
  succeed h

theorem fail (f : Failure) : (Action.fail f : Action σ α).Alike c R (Action.fail f : Action τ β) :=
  fun _ _ _ hStates => ⟨.error f, .nil, hStates⟩

theorem ofResult {result : Except Failure α} {other : Except Failure β}
    (h : ResultsAlike R result other) :
    (Action.ofResult result : Action σ α).Alike c R (Action.ofResult other) := by
  cases h with
  | ok related => exact succeed related
  | error f => exact fail f

theorem emit {e : Event} (hEvent : c.events e e)
    (hPassed : ∀ ahead s t, c.states (e :: ahead) s t → c.states ahead s t) :
    (Action.emit e : Action σ Unit).Alike c Eq (Action.emit e) :=
  fun _ _ _ hStates => ⟨.ok rfl, .cons hEvent .nil, hPassed _ _ _ hStates⟩

theorem log {level : Log.Level} {logger : Log.Logger} {message : String}
    {fields : List (String × Value)} :
    (Action.log level logger message fields : Action σ Unit).Alike c Eq
      (Action.log level logger message fields) :=
  emit (c.logged _) (c.passed _)

theorem logError {logger : Log.Logger} {message : String} {fields : List (String × Value)}
    {f : Failure} :
    (Action.logError logger message fields f : Action σ Unit).Alike c Eq
      (Action.logError logger message fields f) :=
  emit (c.logged _) (c.passed _)

theorem fork {next : α → Action σ α'} {other : β → Action τ β'} {handle : Failure → Action σ α'}
    {otherHandle : Failure → Action τ β'} (hx : x.Alike c R y)
    (hNext : ∀ a b, R a b → (next a).Alike c Q (other b))
    (hHandle : ∀ f, (handle f).Alike c Q (otherHandle f)) :
    (x.fork next handle).Alike c Q (y.fork other otherHandle) := by
  intro ahead s t hStates
  cases hResult : (x s).result with
  | ok a =>
      rw [fork_of_ok _ _ hResult] at hStates ⊢
      rw [Done.events_after, List.append_assoc] at hStates
      have hFirst := hx _ s t hStates
      have hOther := hFirst.result
      rw [hResult] at hOther
      generalize hEnd : (y t).result = result at hOther
      cases hOther with
      | ok related =>
          rw [fork_of_ok _ _ hEnd]
          exact (hNext _ _ related _ _ _ hFirst.states).after hFirst.events
  | error f =>
      rw [fork_of_error _ _ hResult] at hStates ⊢
      rw [Done.events_after, List.append_assoc] at hStates
      have hFirst := hx _ s t hStates
      have hOther := hFirst.result
      rw [hResult] at hOther
      generalize hEnd : (y t).result = result at hOther
      cases hOther with
      | error =>
          rw [fork_of_error _ _ hEnd]
          exact (hHandle f _ _ _ hFirst.states).after hFirst.events

/-- An action that goes on after success only is one that fails after failure. -/
theorem bind_eq_fork (x : Action σ α) (next : α → Action σ α') :
    (x >>= next) = x.fork next Action.fail := by
  refine Action.ext fun s => ?_
  cases hResult : (x s).result with
  | ok a => rw [bind_of_ok _ hResult, fork_of_ok _ _ hResult]
  | error f =>
      rw [bind_of_error _ hResult, fork_of_error _ _ hResult]
      simp [Done.after]

theorem orElse_eq_fork (x : Action σ α) (handle : Failure → Action σ α) :
    x.orElse handle = x.fork Action.succeed handle := by
  refine Action.ext fun s => ?_
  cases hResult : (x s).result with
  | ok a =>
      rw [orElse_of_ok hResult, fork_of_ok _ _ hResult]
      simp [Done.after, ← hResult]
  | error f => rw [orElse_of_error hResult, fork_of_error _ _ hResult]

theorem bind {next : α → Action σ α'} {other : β → Action τ β'} (hx : x.Alike c R y)
    (hNext : ∀ a b, R a b → (next a).Alike c Q (other b)) :
    (x >>= next).Alike c Q (y >>= other) := by
  rw [bind_eq_fork, bind_eq_fork]
  exact hx.fork hNext fail

theorem orElse {handle : Failure → Action σ α} {otherHandle : Failure → Action τ β}
    (hx : x.Alike c R y) (hHandle : ∀ f, (handle f).Alike c R (otherHandle f)) :
    (x.orElse handle).Alike c R (y.orElse otherHandle) := by
  rw [orElse_eq_fork, orElse_eq_fork]
  exact hx.fork (fun _ _ => succeed) hHandle

/-- The rest of two actions whose first parts give the same value. -/
theorem bindEq {x : Action σ α} {y : Action τ α} {next : α → Action σ α'} {other : α → Action τ β'}
    (hx : x.Alike c Eq y) (hNext : ∀ a, (next a).Alike c Q (other a)) :
    (x >>= next).Alike c Q (y >>= other) := by
  refine hx.bind ?_
  rintro a _ rfl
  exact hNext a

theorem forkEq {x : Action σ α} {y : Action τ α} {next : α → Action σ α'} {other : α → Action τ β'}
    {handle : Failure → Action σ α'} {otherHandle : Failure → Action τ β'} (hx : x.Alike c Eq y)
    (hNext : ∀ a, (next a).Alike c Q (other a))
    (hHandle : ∀ f, (handle f).Alike c Q (otherHandle f)) :
    (x.fork next handle).Alike c Q (y.fork other otherHandle) := by
  refine hx.fork ?_ hHandle
  rintro a _ rfl
  exact hNext a

theorem ite {p : Prop} [Decidable p] {x' : Action σ α} {y' : Action τ β} (hx : x.Alike c R y)
    (hx' : x'.Alike c R y') : (if p then x else x').Alike c R (if p then y else y') := by
  split
  · exact hx
  · exact hx'

end Action.Alike

end Flowline
