import Flowline.Flow.State
import Mathlib.Data.Set.Defs

/-!
How the state of a run grows. All that changes it is the recording of productions, each a value and
perhaps the name of a variable. What is set stays set, and a state with variables has an output.
-/

namespace Flowline

/-- A value that a step produced, and the variable that takes it. -/
structure Production where
  value : String
  name : Option String
  deriving DecidableEq, Repr

namespace Variables

theorem get?_set_self (vars : Variables) (name value : String) :
    (vars.set name value).get? name = some value := by
  induction vars with
  | nil => simp [set, get?]
  | cons pair rest ih =>
      obtain ⟨own, old⟩ := pair
      by_cases hName : own = name
      · simp [set, get?, hName]
      · have hBeq : (name == own) = false := beq_false_of_ne fun h => hName h.symm
        rw [set, if_neg hName, get?, List.lookup_cons, hBeq]
        exact ih

theorem get?_set_of_ne {name other : String} (hNe : other ≠ name) (vars : Variables)
    (value : String) : (vars.set name value).get? other = vars.get? other := by
  induction vars with
  | nil =>
      have hBeq : (other == name) = false := beq_false_of_ne hNe
      simp [set, get?, hBeq]
  | cons pair rest ih =>
      obtain ⟨own, old⟩ := pair
      by_cases hName : own = name
      · have hBeq : (other == own) = false := beq_false_of_ne fun h => hNe (h.trans hName)
        rw [set, if_pos hName, get?, get?, List.lookup_cons, List.lookup_cons, hBeq]
      · rw [set, if_neg hName, get?, get?, List.lookup_cons, List.lookup_cons]
        split
        · rfl
        · exact ih

end Variables

namespace RunState

/-- A state after a production, if there is one. -/
def record (state : RunState) : Option Production → RunState
  | some p => state.setOutput p.value p.name
  | none => state

/-- A state after productions, one after another. -/
def replay (state : RunState) (productions : List Production) : RunState :=
  productions.foldl (fun state p => state.setOutput p.value p.name) state

@[simp] theorem replay_nil (state : RunState) : state.replay [] = state := rfl

@[simp] theorem replay_cons (state : RunState) (p : Production) (rest : List Production) :
    state.replay (p :: rest) = (state.setOutput p.value p.name).replay rest := rfl

/-- A variable after a production: it has the value, if the production names it, and is as before
otherwise. -/
theorem get?_setOutput (state : RunState) (value : String) (name : Option String) (other : String) :
    (state.setOutput value name).vars.get? other =
      if name = some other then some value else state.vars.get? other := by
  cases name with
  | none => rfl
  | some own =>
      by_cases hName : own = other
      · subst hName
        rw [if_pos rfl]
        exact state.vars.get?_set_self own value
      · rw [if_neg fun h => hName (Option.some.inj h)]
        exact Variables.get?_set_of_ne (fun h => hName h.symm) state.vars value

/-- What is set in a state is set in a later one. -/
structure Extends (earlier later : RunState) : Prop where
  vars : ∀ name, (earlier.vars.get? name).isSome → (later.vars.get? name).isSome
  lastOutput : earlier.lastOutput.isSome → later.lastOutput.isSome

namespace Extends

theorem refl (state : RunState) : state.Extends state := ⟨fun _ => id, id⟩

theorem trans {a b c : RunState} (hFirst : a.Extends b) (hSecond : b.Extends c) : a.Extends c :=
  ⟨fun name h => hSecond.vars name (hFirst.vars name h),
    fun h => hSecond.lastOutput (hFirst.lastOutput h)⟩

theorem record (state : RunState) (p : Option Production) : state.Extends (state.record p) := by
  cases p with
  | none => exact refl state
  | some p =>
      refine ⟨fun name hSet => ?_, fun _ => rfl⟩
      change ((state.setOutput p.value p.name).vars.get? name).isSome
      rw [get?_setOutput]
      split
      · rfl
      · exact hSet

theorem replay (state : RunState) (productions : List Production) :
    state.Extends (state.replay productions) := by
  induction productions generalizing state with
  | nil => exact refl state
  | cons p rest ih => exact (record state (some p)).trans (ih (state.setOutput p.value p.name))

end Extends

/-- A variable that is set was set before, or a production names it. -/
theorem isSome_get?_replay {state : RunState} {productions : List Production} {name : String}
    (hSet : ((state.replay productions).vars.get? name).isSome) :
    (state.vars.get? name).isSome ∨ some name ∈ productions.map Production.name := by
  induction productions generalizing state with
  | nil => exact .inl hSet
  | cons p rest ih =>
      rcases ih hSet with hBefore | hRest
      · rw [get?_setOutput] at hBefore
        split at hBefore
        · rename_i hName
          exact .inr (List.mem_cons.mpr (.inl hName.symm))
        · exact .inl hBefore
      · exact .inr (List.mem_cons_of_mem _ hRest)

/-- Every production leaves an output, so that there is none only where nothing was produced. -/
theorem lastOutput_replay (state : RunState) (productions : List Production) :
    (state.replay productions).lastOutput =
      ((productions.getLast?).map Production.value).or state.lastOutput := by
  induction productions generalizing state with
  | nil => rfl
  | cons p rest ih =>
      rw [replay_cons, ih]
      cases rest with
      | nil => rfl
      | cons next others =>
          rw [List.getLast?_cons_cons]
          cases hLast : (next :: others).getLast? with
          | none => simp at hLast
          | some last => rfl

/-- From a state without variables no run comes to variables without an output. -/
theorem isSome_lastOutput_replay {state : RunState} {productions : List Production}
    (hStart : state.vars ≠ [] → state.lastOutput.isSome)
    (hVars : (state.replay productions).vars ≠ []) :
    (state.replay productions).lastOutput.isSome := by
  rw [lastOutput_replay]
  cases hLast : productions.getLast? with
  | some last => rfl
  | none =>
      rw [List.getLast?_eq_none_iff] at hLast
      subst hLast
      exact hStart hVars

/-- A variable that no production names is as before; the last production that names it decides its
value, whatever the state was. -/
theorem get?_replay_cases (productions : List Production) (name : String) :
    ((∀ p ∈ productions, p.name ≠ some name) ∧
      ∀ state : RunState, (state.replay productions).vars.get? name = state.vars.get? name) ∨
    ∃ p ∈ productions, p.name = some name ∧
      ∀ state : RunState, (state.replay productions).vars.get? name = some p.value := by
  induction productions with
  | nil => exact .inl ⟨List.forall_mem_nil _, fun _ => rfl⟩
  | cons p rest ih =>
      rcases ih with ⟨hUnnamed, hKept⟩ | ⟨last, hMem, hNamed, hValue⟩
      · by_cases hName : p.name = some name
        · refine .inr ⟨p, List.mem_cons_self, hName, fun state => ?_⟩
          rw [replay_cons, hKept, get?_setOutput, if_pos hName]
        · refine .inl ⟨List.forall_mem_cons.mpr ⟨hName, hUnnamed⟩, fun state => ?_⟩
          rw [replay_cons, hKept, get?_setOutput, if_neg hName]
      · exact .inr ⟨last, List.mem_cons_of_mem _ hMem, hNamed, fun state => hValue _⟩

/-! ## Stages -/

/-- Each stage of a history is the replay of its first productions. -/
theorem exists_replay_of_mem_scanl {state t : RunState} {steps : List (Option Production)}
    (hMem : t ∈ steps.scanl record state) :
    ∃ productions, productions <+: steps.filterMap id ∧ t = state.replay productions := by
  induction steps generalizing state with
  | nil =>
      rw [List.scanl_nil, List.mem_singleton] at hMem
      exact ⟨[], List.nil_prefix, hMem⟩
  | cons p rest ih =>
      rw [List.scanl_cons, List.mem_cons] at hMem
      rcases hMem with hFirst | hLater
      · exact ⟨[], List.nil_prefix, hFirst⟩
      · obtain ⟨productions, hInitial, hReplay⟩ := ih hLater
        cases p with
        | none => exact ⟨productions, hInitial, hReplay⟩
        | some own =>
            refine ⟨own :: productions, ?_, hReplay⟩
            exact List.cons_prefix_cons.mpr ⟨rfl, hInitial⟩

theorem pairwise_extends_scanl (state : RunState) (steps : List (Option Production)) :
    (steps.scanl record state).Pairwise Extends := by
  induction steps generalizing state with
  | nil =>
      rw [List.scanl_nil]
      exact List.pairwise_singleton _ _
  | cons p rest ih =>
      rw [List.scanl_cons, List.pairwise_cons]
      refine ⟨fun t hMem => ?_, ih (state.record p)⟩
      obtain ⟨productions, -, hReplay⟩ := exists_replay_of_mem_scanl hMem
      rw [hReplay]
      exact (Extends.record state p).trans (.replay _ productions)

/-! ## Agreement -/

/-- States with the same output whose variables are the same, except for those of some names. -/
structure AgreeOutside (names : Set String) (a b : RunState) : Prop where
  lastOutput : a.lastOutput = b.lastOutput
  vars : ∀ name, name ∉ names → a.vars.get? name = b.vars.get? name

namespace AgreeOutside

variable {names : Set String} {a b : RunState}

theorem setOutput (h : a.AgreeOutside names b) (value : String) (name : Option String) :
    (a.setOutput value name).AgreeOutside names (b.setOutput value name) := by
  refine ⟨rfl, fun other hOutside => ?_⟩
  rw [get?_setOutput, get?_setOutput, h.vars other hOutside]

/-- An input is found alike if its name is not among those that may differ. -/
theorem input (h : a.AgreeOutside names b) {name : Option String}
    (hOutside : ∀ own ∈ names, name ≠ some own) : a.input name = b.input name := by
  cases name with
  | none => rw [RunState.input, RunState.input, h.lastOutput]
  | some own =>
      have hSame := h.vars own fun hMem => hOutside own hMem rfl
      rw [RunState.input, RunState.input, hSame]

end AgreeOutside

end RunState

end Flowline
