import Flowline.Proofs.Collaborators
import Flowline.Proofs.Interpreter.Course

/-!
The records of a run. The record that a step is run is written once for each dispatched step and by
nothing else, so the steps of a course can be read off the log.
-/

namespace Flowline

/-- The records of the own part of a step: those of its collaborators, and those of the interpreter
that are not about the start of a step. -/
def Log.Entry.OfOwnPart (entry : Log.Entry) : Prop :=
  entry.logger.isCollaborator = true ∨
    (entry.logger = .interpreter ∧ entry.message ≠ "Running step")

/-- An event of the own part of a step. -/
def Event.OfOwnPart (e : Event) : Prop := ∀ entry, e.entry? = some entry → entry.OfOwnPart

/-- The kind of the step whose start a record tells. -/
def Event.startedKind? (e : Event) : Option String :=
  e.entry?.bind fun entry =>
    if entry.logger = .interpreter ∧ entry.message = "Running step" then
      (entry.fields.lookup "step").bind fun
        | .text kind => some kind
        | _ => none
    else none

/-- The records of the operation of a step: those of its collaborators, and the two that the interpreter
writes in place of an operation. -/
def Log.Entry.OfOperation (entry : Log.Entry) : Prop :=
  entry.OfCollaborator ∨ (entry.logger = .interpreter ∧ entry.level = .info ∧
    entry.message ∈ ["Aborting flow", "Execution state"])

/-- An event of the operation of a step. -/
def Event.OfOperation (e : Event) : Prop := ∀ entry, e.entry? = some entry → entry.OfOperation

theorem Event.OfOperation.ofOwnPart {e : Event} (h : e.OfOperation) : e.OfOwnPart := by
  intro entry hEntry
  rcases h entry hEntry with hCollaborator | ⟨hLogger, -, hMessage⟩
  · exact .inl hCollaborator.logger
  · refine .inr ⟨hLogger, fun hStarted => ?_⟩
    rw [hStarted] at hMessage
    exact absurd hMessage (by decide)

namespace Interpreter

theorem ofOperation_logged {entry : Log.Entry} (h : entry.OfOperation) :
    (Event.logged entry).OfOperation := by
  intro other hEntry
  cases hEntry
  exact h

theorem ofOperation_silent {e : Event} (h : e.entry? = none) : e.OfOperation := by
  intro entry hEntry
  rw [h] at hEntry
  cases hEntry

theorem ofOperation_collaborator (entry : Log.Entry) (h : entry.OfCollaborator) :
    (Event.logged entry).OfOperation := ofOperation_logged (.inl h)

theorem ofOperation_message {message : String} {fields : List (String × Value)}
    (h : message ∈ ["Aborting flow", "Execution state"]) :
    (Event.logged ⟨.info, .interpreter, message, fields, none⟩).OfOperation :=
  ofOperation_logged (.inr ⟨rfl, rfl, h⟩)

theorem ofOwnPart_message {level : Log.Level} {message : String} {fields : List (String × Value)}
    (h : message ≠ "Running step") :
    (Event.logged ⟨level, .interpreter, message, fields, none⟩).OfOwnPart := by
  intro other hEntry
  cases hEntry
  exact .inr ⟨rfl, h⟩

/-- A message that begins otherwise is another message. -/
theorem append_ne_of_start {first rest whole : String} (h : ¬ first.toList <+: whole.toList) :
    first ++ rest ≠ whole := by
  rintro rfl
  rw [String.toList_append] at h
  exact h (List.prefix_append _ _)

/-- A step that notifies emits what notifiers emit. -/
theorem emits_notify {P : Event → Prop} (h : Notifier.Emitted P) (s : Services)
    (name template : String) (retry : RetryPolicy) (fallback : List Step) :
    (operation s (.notify name template retry fallback)).Emits P := by
  refine Action.Emits.bind (.ofResult _) fun channel =>
    Action.Emits.bind (.of_silent fun _ => rfl) fun message => ?_
  exact (Notifier.emits_send h message channel).world.bind fun _ => .pure _

theorem emits_operation (s : Services) (step : Step) :
    (operation s step).Emits Event.OfOperation := by
  have hInput (name : Option String) : (Run.input name).Emits Event.OfOperation :=
    .of_silent fun _ => rfl
  have hSleep (seconds : Quantity) : (Event.slept seconds).OfOperation := ofOperation_silent rfl
  have hRequest (q : Request) : (Event.requested q).OfOperation := ofOperation_silent rfl
  cases step with
  | abortFlow =>
      exact (Action.Emits.log (ofOperation_message (by decide))).bind fun _ => .fail _
  | debugState =>
      refine Action.Emits.bind (.of_silent fun _ => rfl) fun _ => ?_
      exact (Action.Emits.log (ofOperation_message (by decide))).bind fun _ => .pure _
  | sleep duration => exact (World.emits_sleep (hSleep _)).world.bind fun _ => .pure _
  | setVariable outputVar value => exact .pure _
  | notify name template retry fallback =>
      exact emits_notify ⟨fun _ => ofOperation_silent rfl, fun _ => ofOperation_silent rfl,
        fun _ _ _ => hRequest _, ofOperation_collaborator⟩ s name template retry fallback
  | getUrl url outputVar retry fallback =>
      exact (HttpClient.emits_getText ofOperation_collaborator (hRequest _) (hSleep _)).world.bind
        fun _ => .pure _
  | postUrl url body headers retry fallback =>
      exact (HttpClient.emits_postText ofOperation_collaborator (fun _ => hRequest _)
        (hSleep _)).world.bind
        fun _ => .pure _
  | readText path outputVar retry fallback =>
      exact (FileAccess.emits_readText ofOperation_collaborator (hSleep _)).world.bind
        fun _ => .pure _
  | appendText path inputVar retry fallback =>
      refine (hInput inputVar).bind fun text => ?_
      exact (FileAccess.emits_appendLine ofOperation_collaborator (hSleep _)).world.bind
        fun _ => .pure _
  | extractCapture inputVar outputVar pattern retry fallback =>
      exact (hInput inputVar).bind fun text => (Action.Emits.ofResult _).bind fun _ => .pure _
  | compareVar inputVar compareWith compareFor ifTrue ifFalse =>
      exact (hInput inputVar).bind fun value => .ite (.fail _) (.pure _)

theorem emits_dispatch (s : Services) (step : Step) :
    (dispatch s step).Emits Event.OfOwnPart :=
  emits_settle ((emits_operation s step).mono fun _ => Event.OfOperation.ofOwnPart)
    (fun f => ofOwnPart_message (append_ne_of_start (by decide))) (ofOwnPart_message (by decide))

theorem startedKind?_of_own {e : Event} (h : e.OfOwnPart) : e.startedKind? = none := by
  rw [Event.startedKind?, Option.bind_eq_none_iff]
  intro entry hEntry
  refine if_neg ?_
  rintro ⟨hLogger, hMessage⟩
  rcases h entry hEntry with hOther | ⟨-, hNot⟩
  · rw [hLogger] at hOther
    cases hOther
  · exact hNot hMessage

theorem startedKind?_of_logger {entry : Log.Entry} (h : entry.logger ≠ .interpreter) :
    (Event.logged entry).startedKind? = none :=
  if_neg fun hBoth => h hBoth.1

theorem startedKind?_starting (s : Services) (step : Step) :
    (starting s step).startedKind? = some step.kind.name := by
  rfl

/-- Of all that a dispatched step writes, one record tells the start of a step: its own. -/
theorem startedKinds_own (s : Services) (d : Dispatch) :
    (starting s d.step :: (d.own s).events).filterMap Event.startedKind? = [d.step.kind.name] := by
  rw [List.filterMap_cons_some (startedKind?_starting s d.step), List.filterMap_eq_nil_iff.mpr]
  exact fun e hMem => startedKind?_of_own (emits_dispatch s d.step d.before e hMem)

/-- The log of a run tells the kinds of the steps of its course, in order. -/
theorem startedKinds_run (s : Services) (first : Nat) (steps : List Step) (r : Run) :
    (run s steps r).events.filterMap Event.startedKind? =
      (dispatches s first steps r).map fun d => d.step.kind.name := by
  rw [filterMap_events_run s Event.startedKind? rfl first, List.map_eq_flatMap]
  congr 1
  funext d
  exact startedKinds_own s d

/-- A run emits what the own parts of steps emit, and the records around them. -/
theorem emits_run {P : Event → Prop} {s : Services} (hStarting : ∀ step, P (starting s step))
    (hClosing : ∀ next, (closing s next).Emits P) (hOwn : ∀ step, (dispatch s step).Emits P)
    (steps : List Step) : (run s steps).Emits P := by
  induction steps using Step.nested_induction with
  | nil => exact .succeed ()
  | cons step rest ihNested ihRest =>
      rw [run, execute_eq]
      refine (Action.Emits.log (hStarting step)).bind fun _ => ?_
      refine ((hOwn step).bind fun next => ?_).bind fun _ => ihRest
      exact (ihNested next).bind fun _ => hClosing next

end Interpreter

end Flowline
