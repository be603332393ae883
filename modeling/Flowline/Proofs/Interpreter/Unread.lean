import Flowline.Proofs.Flow.Message
import Flowline.Proofs.Interpreter.Comparison
import Flowline.Proofs.Interpreter.Replay

/-!
Variables that no step reads. Two runs of a tree that begin in one world, in states that differ in such
variables alone, cannot be told apart but by the records that show the whole state.
-/

namespace Flowline

namespace Step

/-- The variable that a step takes its input from. -/
def inputVar : Step → Option String
  | extractCapture inputVar _ _ _ _ => inputVar
  | compareVar inputVar _ _ _ _ => inputVar
  | appendText _ inputVar _ _ => inputVar
  | _ => none

/-- The template of the message that a step sends. -/
def template? : Step → Option String
  | notify _ message _ _ => some message
  | _ => none

/-- A step reads a variable: as its input, or for a placeholder of its message. -/
def Reads (step : Step) (name : String) : Prop :=
  step.inputVar = some name ∨ ∃ template ∈ step.template?, Message.HasPlaceholder template name

instance (step : Step) (name : String) : Decidable (step.Reads name) :=
  inferInstanceAs (Decidable (_ ∨ _))

end Step

namespace Interpreter

/-- The record that shows a state. -/
def stateRecord (s : Services) (state : RunState) : Event :=
  .logged ⟨.info, .interpreter, "Execution state", [flowField s, ("state", state.snapshot)], none⟩

/-- Events that are the same, but for a state that is shown and in which some variables may differ. -/
inductive SameButState (s : Services) (names : Set String) : Event → Event → Prop where
  | same (e : Event) : SameButState s names e e
  | shown {a b : RunState} (agree : a.AgreeOutside names b) :
      SameButState s names (stateRecord s a) (stateRecord s b)

/-- Runs in one world, in states in which some variables may differ. -/
def outside (s : Services) (names : Set String) : Comparison Run Run where
  states _ r t := r.world = t.world ∧ r.state.AgreeOutside names t.state
  events := SameButState s names
  logged _ := .same _
  passed _ _ _ _ h := h

variable {s : Services} {names : Set String}

/-- What is done to the world does not depend on the state. -/
theorem alike_outside_inWorld {α : Type} (x : Action World α) :
    (Run.inWorld x).Alike (outside s names) Eq (Run.inWorld x) := by
  intro ahead r t hStates
  have hWorld : x r.world = x t.world := congrArg x hStates.1
  refine ⟨?_, ?_, ?_, hStates.2⟩
  · change ResultsAlike Eq (x r.world).result (x t.world).result
    rw [hWorld]
    exact .refl (fun _ => rfl) _
  · change List.Forall₂ _ (x r.world).events (x t.world).events
    rw [hWorld]
    exact List.forall₂_same.mpr fun e _ => .same e
  · change (x r.world).state = (x t.world).state
    rw [hWorld]

theorem alike_outside_input {name : Option String} (hUnread : ∀ own ∈ names, name ≠ some own) :
    (Run.input name).Alike (outside s names) Eq (Run.input name) := by
  intro ahead r t hStates
  refine ⟨?_, .nil, hStates⟩
  rw [Run.input, Run.input, hStates.2.input hUnread]
  exact .refl (fun _ => rfl) _

theorem alike_outside_rendered {template : String}
    (hUnread : ∀ name ∈ names, ¬ Message.HasPlaceholder template name) :
    (rendered template).Alike (outside s names) Eq (rendered template) := by
  intro ahead r t hStates
  refine ⟨?_, .nil, hStates⟩
  rw [rendered, rendered, Message.render_of_agreeOutside hStates.2 hUnread]
  exact .ok rfl

theorem alike_outside_setOutput (name : Option String) (value : String) :
    (Run.setOutput name value).Alike (outside s names) Eq (Run.setOutput name value) :=
  fun _ _ _ hStates => ⟨.ok rfl, .nil, hStates.1, hStates.2.setOutput value name⟩

/-- The operation of a step comes to the same if the step reads none of the variables. -/
theorem alike_outside_operation {step : Step} (hUnread : ∀ name ∈ names, ¬ step.Reads name) :
    (operation s step).Alike (outside s names) Eq (operation s step) := by
  have hInput : ∀ own ∈ names, step.inputVar ≠ some own :=
    fun own hMem hOwn => hUnread own hMem (.inl hOwn)
  cases step with
  | abortFlow => exact (alike_log _ rfl).bindEq fun _ => .fail _
  | debugState => exact fun _ _ _ hStates => ⟨.ok rfl, .cons (.shown hStates.2) .nil, hStates⟩
  | sleep duration => exact (alike_outside_inWorld _).bindEq fun _ => .pure rfl
  | setVariable outputVar value => exact .pure rfl
  | notify name template retry fallback =>
      have hTemplate : ∀ own ∈ names, ¬ Message.HasPlaceholder template own :=
        fun own hMem hPlace => hUnread own hMem (.inr ⟨template, rfl, hPlace⟩)
      refine (Action.Alike.ofResult (.refl (fun _ => rfl) _)).bindEq fun channel => ?_
      refine (alike_outside_rendered hTemplate).bindEq fun message => ?_
      exact (alike_outside_inWorld _).bindEq fun _ => .pure rfl
  | getUrl url outputVar retry fallback =>
      exact (alike_outside_inWorld _).bindEq fun _ => .pure rfl
  | postUrl url body headers retry fallback =>
      exact (alike_outside_inWorld _).bindEq fun _ => .pure rfl
  | readText path outputVar retry fallback =>
      exact (alike_outside_inWorld _).bindEq fun _ => .pure rfl
  | appendText path inputVar retry fallback =>
      refine (alike_outside_input hInput).bindEq fun text => ?_
      exact (alike_outside_inWorld _).bindEq fun _ => .pure rfl
  | extractCapture inputVar outputVar pattern retry fallback =>
      refine (alike_outside_input hInput).bindEq fun text => ?_
      exact (Action.Alike.ofResult (.refl (fun _ => rfl) _)).bindEq fun _ => .pure rfl
  | compareVar inputVar compareWith compareFor ifTrue ifFalse =>
      exact (alike_outside_input hInput).bindEq fun value => .ite (.fail _) (.pure rfl)

theorem alike_outside_dispatch {step : Step} (hUnread : ∀ name ∈ names, ¬ step.Reads name) :
    (dispatch s step).Alike (outside s names) Eq (dispatch s step) :=
  alike_dispatch_of_operation rfl (alike_outside_operation hUnread) (alike_outside_setOutput _)

/-- A step that reads none of the variables produces the same. -/
theorem production?_of_alike {d e : Dispatch} (hAlike : DispatchedAlike (outside s names) d e)
    (hUnread : ∀ name ∈ names, ¬ d.step.Reads name) : d.production? s = e.production? s := by
  obtain ⟨index, step, before⟩ := d
  obtain ⟨otherIndex, otherStep, other⟩ := e
  obtain ⟨hIndex, hStep, ahead, hWorld, hAgree⟩ := hAlike
  cases hStep
  have hSame : before.world = other.world := hWorld
  cases step with
  | extractCapture inputVar outputVar pattern retry fallback =>
      have hInput : before.state.input inputVar = other.state.input inputVar :=
        hAgree.input fun own hMem hOwn => hUnread own hMem (.inl hOwn)
      simp only [Dispatch.production?, Dispatch.obtained?, hInput]
  | getUrl url outputVar retry fallback =>
      simp only [Dispatch.production?, Dispatch.obtained?, hSame]
  | readText path outputVar retry fallback =>
      simp only [Dispatch.production?, Dispatch.obtained?, hSame]
  | _ => simp only [Dispatch.production?, Dispatch.obtained?]

theorem productions_of_alike {ds es : List Dispatch}
    (hAlike : List.Forall₂ (DispatchedAlike (outside s names)) ds es)
    (hUnread : ∀ d ∈ ds, ∀ name ∈ names, ¬ d.step.Reads name) :
    ds.filterMap (Dispatch.production? s) = es.filterMap (Dispatch.production? s) := by
  induction hAlike with
  | nil => rfl
  | @cons d e ds es hFirst hRest ih =>
      obtain ⟨hHead, hTail⟩ := List.forall_mem_cons.mp hUnread
      rw [List.filterMap_cons, List.filterMap_cons, production?_of_alike hFirst hHead, ih hTail]

/-- Two runs of a tree in one world, from states that agree on the latest output and on all variables
that the tree reads, come to the same: the result, the events but for the state in the records that
show it, the world, the steps dispatched and what they produce. A variable that is not read is left
alone in both, or ends with one value in both. -/
theorem unread_variables_do_not_matter (s : Services) (steps : List Step) (names : Set String)
    (hUnread : ∀ step ∈ Step.walk steps, ∀ name ∈ names, ¬ step.Reads name) (w : World)
    (a b : RunState) (hAgree : a.AgreeOutside names b) :
    (run s steps ⟨w, a⟩).result = (run s steps ⟨w, b⟩).result ∧
    List.Forall₂ (SameButState s names) (run s steps ⟨w, a⟩).events (run s steps ⟨w, b⟩).events ∧
    (run s steps ⟨w, a⟩).state.world = (run s steps ⟨w, b⟩).state.world ∧
    (run s steps ⟨w, a⟩).state.state.AgreeOutside names (run s steps ⟨w, b⟩).state.state ∧
    List.Forall₂ (DispatchedAlike (outside s names)) (dispatches s 0 steps ⟨w, a⟩)
      (dispatches s 0 steps ⟨w, b⟩) ∧
    ∃ productions,
      (dispatches s 0 steps ⟨w, a⟩).filterMap (Dispatch.production? s) = productions ∧
      (dispatches s 0 steps ⟨w, b⟩).filterMap (Dispatch.production? s) = productions ∧
      ∀ name ∈ names,
        ((∀ p ∈ productions, p.name ≠ some name) ∧
          (run s steps ⟨w, a⟩).state.state.vars.get? name = a.vars.get? name ∧
          (run s steps ⟨w, b⟩).state.state.vars.get? name = b.vars.get? name) ∨
        ∃ p ∈ productions, p.name = some name ∧
          (run s steps ⟨w, a⟩).state.state.vars.get? name = some p.value ∧
          (run s steps ⟨w, b⟩).state.state.vars.get? name = some p.value := by
  have hOwn : ∀ step ∈ Step.walk steps,
      (dispatch s step).Alike (outside s names) Eq (dispatch s step) :=
    fun step hMem => alike_outside_dispatch (hUnread step hMem)
  have hStates : (outside s names).states ((run s steps ⟨w, a⟩).events ++ []) ⟨w, a⟩ ⟨w, b⟩ :=
    ⟨rfl, hAgree⟩
  obtain ⟨hResult, hEvents, hWorld, hLeft⟩ := alike_run rfl steps hOwn [] _ _ hStates
  have hCourse := alike_dispatches rfl steps hOwn 0 [] _ _ hStates
  have hProduced := productions_of_alike hCourse fun d hMem =>
    hUnread d.step (mem_walk_of_mem_dispatches hMem)
  refine ⟨hResult.eq, hEvents, hWorld, hLeft, hCourse, _, rfl, hProduced.symm, fun name _ => ?_⟩
  have hFirst := (linked_dispatches s 0 steps ⟨w, a⟩).replay
  have hSecond := (linked_dispatches s 0 steps ⟨w, b⟩).replay
  rw [← hProduced] at hSecond
  rw [hFirst, hSecond]
  rcases RunState.get?_replay_cases
    ((dispatches s 0 steps ⟨w, a⟩).filterMap (Dispatch.production? s)) name with
    ⟨hUnnamed, hKept⟩ | ⟨p, hMem, hNamed, hValue⟩
  · exact .inl ⟨hUnnamed, hKept a, hKept b⟩
  · exact .inr ⟨p, hMem, hNamed, hValue a, hValue b⟩

/-- Services with a notifier that takes every message. -/
def openServices : Services := ⟨[("desk", .scripted none)], "nightly", ⟨.int 30, "m7m"⟩⟩

/-- Steps that show the state, read one variable twice, and set another one. -/
def announcing : List Step :=
  [.debugState,
    .compareVar (some "title") "news" equality [.setVariable (some "draft") "sent"] [],
    .notify "desk" "about \x7btitle\x7d, \x7bdraft" .standard []]

/-- With a draft or without one the steps announce the same, and both runs end with one draft. -/
theorem unread_variables_do_not_matter_draft :
    let names : Set String := { name | name = "draft" }
    let bare : RunState := ⟨[("title", "news")], none⟩
    let drafted : RunState := ⟨[("title", "news"), ("draft", "old")], none⟩
    let first := run openServices announcing { stillRun with state := bare }
    let second := run openServices announcing { stillRun with state := drafted }
    (∀ step ∈ Step.walk announcing, ∀ name ∈ names, ¬ step.Reads name) ∧
    bare.AgreeOutside names drafted ∧
    first.result = second.result ∧
    List.Forall₂ (SameButState openServices names) first.events second.events ∧
    first.state.state.vars.get? "draft" = some "sent" ∧
    second.state.state.vars.get? "draft" = some "sent" := by
  intro names bare drafted first second
  have hUnread : ∀ step ∈ Step.walk announcing, ∀ name ∈ names, ¬ step.Reads name := by
    rintro step hMem name rfl
    revert step
    decide +kernel
  have hAgree : bare.AgreeOutside names drafted := by
    refine ⟨rfl, fun name hOutside => ?_⟩
    have hBeq : (name == "draft") = false := beq_false_of_ne hOutside
    simp [bare, drafted, Variables.get?, List.lookup_cons, hBeq]
  obtain ⟨hResult, hEvents, -⟩ :=
    unread_variables_do_not_matter openServices announcing names hUnread stillRun.world bare drafted
      hAgree
  exact ⟨hUnread, hAgree, hResult, hEvents, rfl, rfl⟩

end Interpreter

end Flowline
