import Flowline.Interpreter
import Flowline.Proofs.Action

/-!
Steps one at a time. The own part of a step is all that it does before one of the lists that it
holds is run: its operation, the recording of the output and, if the operation failed, the decision
whether the fallback is entered. The executor of a step is its own part and then the list that this
part leads to. A run of steps is told by own parts alone.
-/

namespace Flowline

/-- Where the own part of a step leads. -/
inductive Next where
  | finished
  | arm (taken : Bool)
  | fallback
  deriving DecidableEq, Repr

namespace Step

/-- The list that is run when the operation of a step failed. -/
def fallback : Step → List Step
  | notify _ _ _ fallback => fallback
  | getUrl _ _ _ fallback => fallback
  | postUrl _ _ _ _ fallback => fallback
  | extractCapture _ _ _ _ fallback => fallback
  | readText _ _ _ fallback => fallback
  | appendText _ _ _ fallback => fallback
  | _ => []

/-- The variable that takes the output of a step. -/
def outputVar : Step → Option String
  | getUrl _ outputVar _ _ => outputVar
  | extractCapture _ outputVar _ _ _ => outputVar
  | readText _ outputVar _ _ => outputVar
  | setVariable outputVar _ => outputVar
  | _ => none

/-- The list of a step that is run next. -/
def nested : Step → Next → List Step
  | compareVar _ _ _ ifTrue ifFalse, .arm taken => if taken then ifTrue else ifFalse
  | step, .fallback => step.fallback
  | _, _ => []

/-- The failures of its operation that a step recovers from. -/
def recovers (step : Step) (kind : ErrorKind) : Bool :=
  match step.kind with
  | .extractCapture => Interpreter.isCaptureNotFound kind
  | own => own.isFailable && kind.isOperationError

theorem sizeOf_nested_le (step : Step) (next : Next) :
    sizeOf (step.nested next) ≤ sizeOf step := by
  cases step <;> cases next <;> simp only [nested, fallback] <;> simp +arith
  split <;> omega

/-- Induction on a list of steps and on all lists that its steps hold. -/
theorem nested_induction {P : List Step → Prop} (nil : P [])
    (cons : ∀ step rest, (∀ next, P (step.nested next)) → P rest → P (step :: rest))
    (steps : List Step) : P steps := by
  cases hSteps : steps with
  | nil => exact nil
  | cons step rest =>
      exact cons step rest (fun next => nested_induction nil cons (step.nested next))
        (nested_induction nil cons rest)
termination_by sizeOf steps
decreasing_by
  · have hNested := sizeOf_nested_le step next
    simp only [List.cons.sizeOf_spec]
    omega
  · simp +arith

end Step

namespace Interpreter

/-- What the operation of a step gives when it succeeds. -/
inductive Yield where
  | nothing
  | output (text : String)
  | arm (taken : Bool)
  deriving DecidableEq, Repr

/-- The operation of a step, without the recording of its output and without recovery. -/
def operation (s : Services) : Step → Action Run Yield
  | .abortFlow => do
      log s .info "Aborting flow" []
      Action.fail (.flow .aborted "flow aborted")
  | .debugState => do
      let state ← snapshot
      log s .info "Execution state" [("state", state)]
      return .nothing
  | .sleep duration => do
      Run.inWorld (World.sleep (.real duration))
      return .nothing
  | .setVariable _ value => return .output value
  | .notify name template _ _ => do
      let channel ← notifier s name
      let message ← rendered template
      Run.inWorld (channel.send message)
      return .nothing
  | .getUrl url _ retry _ => do
      let text ← Run.inWorld (s.http.getText url retry.retries (.real retry.interval))
      return .output text
  | .postUrl url body headers retry _ => do
      Run.inWorld (s.http.postText url body headers retry.retries (.real retry.interval))
      return .nothing
  | .readText path _ retry _ => do
      let text ← Run.inWorld
        (FileAccess.readText (.ofText path) retry.retries (.real retry.interval))
      return .output text
  | .appendText path inputVar retry _ => do
      let text ← Run.input inputVar
      Run.inWorld
        (FileAccess.appendLine (.ofText path) text retry.retries (.real retry.interval))
      return .nothing
  | .extractCapture inputVar _ pattern _ _ => do
      let text ← Run.input inputVar
      let captured ← Action.ofResult (capture pattern text)
      return .output captured
  | .compareVar inputVar compareWith compareFor _ _ => do
      let value ← Run.input inputVar
      if compareFor ≠ equality then .fail (unsupported compareFor)
      else return .arm (value = compareWith)

/-- What follows the success of an operation. -/
def conclude (step : Step) : Yield → Action Run Next
  | .nothing => return .finished
  | .output text => do
      Run.setOutput step.outputVar text
      return .finished
  | .arm taken => return .arm taken

/-- The way into the fallback of a step; without one the step has failed. -/
def enterFallback (s : Services) (step : Step) (f : Failure) : Action Run Next := do
  log s .warning ("Step failed: " ++ f.text) []
  if step.fallback.length = 0 then .fail (.flowFrom .stepFailed f.text f)
  else do
    log s .info "Entering step fallback" [("steps", .int step.fallback.length)]
    return .fallback

/-- An operation of a step with what follows its success or its failure. -/
def settle (s : Services) (step : Step) (x : Action Run Yield) : Action Run Next :=
  x.fork (conclude step) fun f =>
    if step.recovers f.kind then enterFallback s step f else .fail f

/-- The own part of a step. -/
def dispatch (s : Services) (step : Step) : Action Run Next := settle s step (operation s step)

/-- What follows the list that the own part of a step led to. -/
def closing (s : Services) : Next → Action Run Unit
  | .fallback => log s .info "Step fallback completed" []
  | _ => .succeed ()

/-- All that follows the own part of a step. -/
def follow (s : Services) (step : Step) (next : Next) : Action Run Unit := do
  run s (step.nested next)
  closing s next

@[simp] theorem follow_finished (s : Services) (step : Step) :
    follow s step .finished = .succeed () := by
  cases step <;> rfl

theorem follow_arm (s : Services) (step : Step) (taken : Bool) :
    follow s step (.arm taken) = run s (step.nested (.arm taken)) := by
  refine Action.ext fun r => ?_
  simp only [follow, closing]
  cases h : (run s (step.nested (.arm taken)) r).result with
  | error f =>
      rw [Action.bind_of_error _ h, ← h]
  | ok u =>
      rw [Action.bind_of_ok _ h]
      simp [Done.after, ← h]

theorem settle_pure (s : Services) (step : Step) (y : Yield) :
    settle s step (pure y) = conclude step y :=
  Action.ext fun _ => Action.fork_of_ok _ _ (a := y) rfl

/-- A part before the operation whose failures no step recovers from can stand outside. -/
theorem settle_bind {α : Type} {s : Services} {step : Step} {x : Action Run α}
    {next : α → Action Run Yield}
    (hStays : ∀ r f, (x r).result = .error f → step.recovers f.kind = false) :
    settle s step (x >>= next) = x >>= fun a => settle s step (next a) := by
  refine Action.ext fun r => ?_
  cases hx : (x r).result with
  | error f =>
      have hBoth := Action.bind_of_error next hx
      rw [Action.bind_of_error _ hx, settle, Action.fork_of_error _ _ (by rw [hBoth]), hBoth,
        if_neg (by rw [hStays r f hx]; decide)]
      simp [Done.after]
  | ok a =>
      have hBoth := Action.bind_of_ok next hx
      rw [Action.bind_of_ok _ hx]
      cases hn : (next a (x r).state).result with
      | error f =>
          rw [settle, settle, Action.fork_of_error _ _ hn,
            Action.fork_of_error _ _ (by rw [hBoth]; exact hn), hBoth]
          simp
      | ok y =>
          rw [settle, settle, Action.fork_of_ok _ _ hn,
            Action.fork_of_ok _ _ (by rw [hBoth]; exact hn), hBoth]
          simp

theorem recover_eq (s : Services) (step : Step) (f : Failure) :
    recover s step.fallback.length (run s step.fallback) f =
      enterFallback s step f >>= follow s step := by
  rw [recover, enterFallback, Action.bind_assoc]
  congr 1
  funext _
  split
  · rfl
  · rw [Action.bind_assoc]
    congr 1
    funext _
    cases step <;> rfl

/-- Recovery as the interpreter does it: an own part and what follows it. -/
theorem recovering_eq {α : Type} {s : Services} (step : Step) {x : Action Run α}
    {next : α → Action Run Unit} {y : α → Yield}
    (hNext : ∀ a, next a = conclude step (y a) >>= follow s step) :
    recovering s x next step.recovers step.fallback.length (run s step.fallback) =
      settle s step (do let a ← x; return y a) >>= follow s step := by
  refine Action.ext fun r => ?_
  rw [recovering, settle, Action.fork_bind]
  cases hx : (x r).result with
  | ok a =>
      have hYield := Action.bind_of_ok (fun a => pure (y a)) hx
      rw [Action.fork_of_ok _ _ hx, Action.fork_of_ok _ _ (a := y a) (by rw [hYield]; rfl), hYield,
        hNext]
      simp
  | error f =>
      have hYield := Action.bind_of_error (fun a => pure (y a)) hx
      rw [Action.fork_of_error _ _ hx, Action.fork_of_error _ _ (f := f) (by rw [hYield]), hYield]
      congr 1
      split
      · rw [recover_eq]
      · rfl

/-! ## What an own part comes to -/

/-- The operation of a step sets no variable and no output, not even when it succeeds. -/
theorem operation_keeps_state (s : Services) (step : Step) :
    (operation s step).Keeps Run.state := by
  have hWorld {α : Type} (x : Action World α) : (Run.inWorld x).Keeps Run.state := fun _ => rfl
  have hInput (name : Option String) : (Run.input name).Keeps Run.state := .of_still fun _ => rfl
  cases step with
  | abortFlow => exact Action.Keeps.bind (.of_still fun _ => rfl) fun _ => .fail _
  | debugState =>
      exact Action.Keeps.bind (.of_still fun _ => rfl) fun _ =>
        Action.Keeps.bind (.of_still fun _ => rfl) fun _ => .pure _
  | sleep duration => exact (hWorld _).bind fun _ => .pure _
  | setVariable outputVar value => exact .pure _
  | notify name template retry fallback =>
      exact Action.Keeps.bind (.ofResult _) fun channel =>
        Action.Keeps.bind (.of_still fun _ => rfl) fun message => (hWorld _).bind fun _ => .pure _
  | getUrl url outputVar retry fallback => exact (hWorld _).bind fun _ => .pure _
  | postUrl url body headers retry fallback => exact (hWorld _).bind fun _ => .pure _
  | readText path outputVar retry fallback => exact (hWorld _).bind fun _ => .pure _
  | appendText path inputVar retry fallback =>
      exact (hInput inputVar).bind fun text => (hWorld _).bind fun _ => .pure _
  | extractCapture inputVar outputVar pattern retry fallback =>
      exact (hInput inputVar).bind fun text => (Action.Keeps.ofResult _).bind fun _ => .pure _
  | compareVar inputVar compareWith compareFor ifTrue ifFalse =>
      exact (hInput inputVar).bind fun value => .ite (.fail _) (.pure _)

/-- Where an operation that succeeds leads. -/
def Yield.next : Yield → Next
  | .arm taken => .arm taken
  | _ => .finished

/-- The state after the output of a step is recorded. -/
def Yield.recorded (y : Yield) (step : Step) (r : Run) : Run :=
  match y with
  | .output text => { r with state := r.state.setOutput text step.outputVar }
  | _ => r

/-- The record of a failed operation. -/
def failedRecord (s : Services) (f : Failure) : Event :=
  .logged ⟨.warning, .interpreter, "Step failed: " ++ f.text, [flowField s], none⟩

/-- The record that a fallback is entered. -/
def enteringRecord (s : Services) (step : Step) : Event :=
  .logged ⟨.info, .interpreter, "Entering step fallback",
    [flowField s, ("steps", .int step.fallback.length)], none⟩

/-- An own part emits what its operation emits, and the records of its failure. -/
theorem emits_settle {P : Event → Prop} {s : Services} {step : Step} {x : Action Run Yield}
    (h : x.Emits P) (hFailed : ∀ f, P (failedRecord s f)) (hEntering : P (enteringRecord s step)) :
    (settle s step x).Emits P := by
  refine h.fork (fun y => ?_) fun f => .ite ?_ (.fail f)
  · cases y with
    | output text => exact .of_silent fun _ => rfl
    | nothing => exact .pure _
    | arm taken => exact .pure _
  · refine (Action.Emits.log (hFailed f)).bind fun _ => .ite (.fail _) ?_
    exact (Action.Emits.log hEntering).bind fun _ => .pure _

/-- What an own part makes of an operation depends on nothing but what the operation came to. -/
theorem settle_congr (s : Services) (step : Step) {x y : Action Run Yield} {r t : Run}
    (hResult : (x r).result = (y t).result) (hState : (x r).state = (y t).state) :
    (settle s step x r).result = (settle s step y t).result ∧
      (settle s step x r).state = (settle s step y t).state := by
  simp only [settle, Action.fork]
  rw [hResult, hState]
  exact ⟨rfl, rfl⟩

section

variable {s : Services} {step : Step} {r : Run} {y : Yield} {f : Failure}

theorem dispatch_of_ok (h : (operation s step r).result = .ok y) :
    dispatch s step r = ⟨.ok y.next, (operation s step r).events,
      y.recorded step (operation s step r).state⟩ := by
  rw [dispatch, settle, Action.fork_of_ok _ _ h, Done.after]
  cases y with
  | output text => exact congrArg (Done.mk _ · _) (List.append_nil _)
  | nothing => exact congrArg (Done.mk _ · _) (List.append_nil _)
  | arm taken => exact congrArg (Done.mk _ · _) (List.append_nil _)

theorem dispatch_of_unrecovered (h : (operation s step r).result = .error f)
    (hStays : step.recovers f.kind = false) :
    dispatch s step r =
      ⟨.error f, (operation s step r).events, (operation s step r).state⟩ := by
  rw [dispatch, settle, Action.fork_of_error _ _ h, if_neg (by rw [hStays]; decide)]
  simp [Done.after]

theorem dispatch_of_no_fallback (h : (operation s step r).result = .error f)
    (hRecovers : step.recovers f.kind = true) (hNone : step.fallback = []) :
    dispatch s step r = ⟨.error (.flowFrom .stepFailed f.text f),
      (operation s step r).events ++ [failedRecord s f], (operation s step r).state⟩ := by
  rw [dispatch, settle, Action.fork_of_error _ _ h, if_pos hRecovers, enterFallback, hNone]
  rfl

theorem dispatch_of_fallback (h : (operation s step r).result = .error f)
    (hRecovers : step.recovers f.kind = true) (hSome : step.fallback ≠ []) :
    dispatch s step r = ⟨.ok .fallback,
      (operation s step r).events ++ [failedRecord s f, enteringRecord s step],
      (operation s step r).state⟩ := by
  have hLength : step.fallback.length ≠ 0 := fun h => hSome (List.length_eq_zero_iff.mp h)
  rw [dispatch, settle, Action.fork_of_error _ _ h, if_pos hRecovers, enterFallback, if_neg hLength]
  rfl

/-- The four ways in which an operation can end, by which the own part of its step is told. -/
theorem operation_cases (s : Services) (step : Step) (r : Run) :
    (∃ y, (operation s step r).result = .ok y) ∨
    (∃ f, (operation s step r).result = .error f ∧ step.recovers f.kind = false) ∨
    (∃ f, (operation s step r).result = .error f ∧ step.recovers f.kind = true ∧
      step.fallback = []) ∨
    (∃ f, (operation s step r).result = .error f ∧ step.recovers f.kind = true ∧
      step.fallback ≠ []) := by
  cases hOp : (operation s step r).result with
  | ok y => exact .inl ⟨y, rfl⟩
  | error f =>
      cases hRecovers : step.recovers f.kind with
      | false => exact .inr (.inl ⟨f, rfl, hRecovers⟩)
      | true =>
          by_cases hNone : step.fallback = []
          · exact .inr (.inr (.inl ⟨f, rfl, hRecovers, hNone⟩))
          · exact .inr (.inr (.inr ⟨f, rfl, hRecovers, hNone⟩))

end

/-- Apart from records, the own part of a step does to the world what its operation does. -/
theorem world_dispatch (s : Services) (step : Step) (r : Run) :
    (dispatch s step r).state.world = (operation s step r).state.world ∧
      (dispatch s step r).events.filter (!·.isLogged) =
        (operation s step r).events.filter (!·.isLogged) := by
  rcases operation_cases s step r with ⟨y, hOp⟩ | ⟨f, hOp, hStays⟩ | ⟨f, hOp, hRecovers, hNone⟩ |
    ⟨f, hOp, hRecovers, hSome⟩
  · rw [dispatch_of_ok hOp]
    cases y <;> exact ⟨rfl, rfl⟩
  · rw [dispatch_of_unrecovered hOp hStays]
    exact ⟨rfl, rfl⟩
  · rw [dispatch_of_no_fallback hOp hRecovers hNone]
    exact ⟨rfl, by simp [failedRecord, Event.isLogged, Event.entry?]⟩
  · rw [dispatch_of_fallback hOp hRecovers hSome]
    exact ⟨rfl, by simp [failedRecord, enteringRecord, Event.isLogged, Event.entry?]⟩

/-! ## The executor -/

theorem kind_of_input {name : Option String} {r : Run} {f : Failure}
    (h : (Run.input name r).result = .error f) : f.kind = .flow .missingInput := by
  simp only [Run.input, RunState.input] at h
  split at h <;> split at h <;> cases h <;> rfl

theorem kind_of_notifier {s : Services} {name : String} {r : Run} {f : Failure}
    (h : (notifier s name r).result = .error f) : f.kind = .flow .unknownNotifier := by
  rw [notifier, Action.ofResult_apply] at h
  change NotifierSet.require _ _ = _ at h
  rw [NotifierSet.require] at h
  split at h <;> cases h
  rfl

/-- The input of a step is no operation: no step recovers from the lack of it. -/
theorem recovers_input (step : Step) (name : Option String) (r : Run) (f : Failure)
    (h : (Run.input name r).result = .error f) : step.recovers f.kind = false := by
  rw [kind_of_input h]
  cases step <;> rfl

theorem recovers_notifier (s : Services) (step : Step) (name : String) (r : Run) (f : Failure)
    (h : (notifier s name r).result = .error f) : step.recovers f.kind = false := by
  rw [kind_of_notifier h]
  cases step <;> rfl

/-- The executor of a step is its own part and then the list that this leads to. -/
theorem execute_eq (s : Services) (step : Step) :
    execute s step = dispatch s step >>= follow s step := by
  cases step with
  | abortFlow => rfl
  | debugState => rfl
  | sleep duration => rfl
  | setVariable outputVar value => rfl
  | notify name template retry fallback =>
      rw [execute, dispatch, operation, settle_bind (recovers_notifier s _ name),
        Action.bind_assoc]
      congr 1
      funext channel
      have hRendered : ∀ r f, (rendered template r).result = .error f →
          (Step.notify name template retry fallback).recovers f.kind = false := by
        intro r f h
        simp only [rendered, reduceCtorEq] at h
      rw [settle_bind hRendered, Action.bind_assoc]
      congr 1
      funext message
      exact recovering_eq (.notify name template retry fallback)
        (y := fun _ => .nothing) fun _ => rfl
  | getUrl url outputVar retry fallback =>
      rw [execute]
      exact recovering_eq (.getUrl url outputVar retry fallback) (y := .output)
        fun _ => rfl
  | postUrl url body headers retry fallback =>
      rw [execute]
      exact recovering_eq (.postUrl url body headers retry fallback)
        (y := fun _ => .nothing) fun _ => rfl
  | readText path outputVar retry fallback =>
      rw [execute]
      exact recovering_eq (.readText path outputVar retry fallback) (y := .output)
        fun _ => rfl
  | appendText path inputVar retry fallback =>
      rw [execute, dispatch, operation, settle_bind (recovers_input _ inputVar),
        Action.bind_assoc]
      congr 1
      funext text
      exact recovering_eq (.appendText path inputVar retry fallback)
        (y := fun _ => .nothing) fun _ => rfl
  | extractCapture inputVar outputVar pattern retry fallback =>
      rw [execute, dispatch, operation, settle_bind (recovers_input _ inputVar),
        Action.bind_assoc]
      congr 1
      funext text
      exact recovering_eq (.extractCapture inputVar outputVar pattern retry fallback)
        (y := .output) fun _ => rfl
  | compareVar inputVar compareWith compareFor ifTrue ifFalse =>
      rw [execute, dispatch, operation, settle_bind (recovers_input _ inputVar),
        Action.bind_assoc]
      congr 1
      funext value
      split
      · rfl
      · rw [settle_pure, conclude, Action.pure_bind, follow_arm]
        by_cases hValue : value = compareWith <;> simp [Step.nested, hValue]

/-- The record that a step is run. -/
def starting (s : Services) (step : Step) : Event :=
  .logged ⟨.debug, .interpreter, "Running step",
    [flowField s, ("step", .text step.kind.name)], none⟩

/-- The record that a fallback came to its end. -/
def completedRecord (s : Services) : Event :=
  .logged ⟨.info, .interpreter, "Step fallback completed", [flowField s], none⟩

/-- The records that follow the list that the own part of a step led to. -/
def closingEvents (s : Services) : Next → List Event
  | .fallback => [completedRecord s]
  | _ => []

theorem forall_mem_closingEvents {P : Event → Prop} {s : Services} (h : P (completedRecord s))
    (next : Next) : ∀ e ∈ closingEvents s next, P e := by
  cases next with
  | fallback => exact List.forall_mem_singleton.mpr h
  | finished => exact List.forall_mem_nil _
  | arm taken => exact List.forall_mem_nil _

theorem closing_apply (s : Services) (next : Next) (r : Run) :
    closing s next r = ⟨.ok (), closingEvents s next, r⟩ := by
  cases next <;> rfl

theorem execute_of_error {s : Services} {step : Step} {r : Run} {f : Failure}
    (h : (dispatch s step r).result = .error f) :
    execute s step r = ⟨.error f, (dispatch s step r).events, (dispatch s step r).state⟩ := by
  rw [execute_eq, Action.bind_of_error _ h]

/-- A failure in the list that a step led to is the failure of the step; nothing comes after it. -/
theorem execute_of_nested_error {s : Services} {step : Step} {r : Run} {next : Next} {f : Failure}
    (h : (dispatch s step r).result = .ok next)
    (hNested : (run s (step.nested next) (dispatch s step r).state).result = .error f) :
    execute s step r = ⟨.error f,
      (dispatch s step r).events ++ (run s (step.nested next) (dispatch s step r).state).events,
      (run s (step.nested next) (dispatch s step r).state).state⟩ := by
  rw [execute_eq, Action.bind_of_ok _ h, follow, Action.bind_of_error _ hNested]
  rfl

theorem execute_of_ok {s : Services} {step : Step} {r : Run} {next : Next}
    (h : (dispatch s step r).result = .ok next)
    (hNested : (run s (step.nested next) (dispatch s step r).state).result = .ok ()) :
    execute s step r = ⟨.ok (),
      (dispatch s step r).events ++
        (run s (step.nested next) (dispatch s step r).state).events ++ closingEvents s next,
      (run s (step.nested next) (dispatch s step r).state).state⟩ := by
  rw [execute_eq, Action.bind_of_ok _ h, follow, Action.bind_of_ok _ hNested, closing_apply]
  simp [Done.after]

@[simp] theorem run_nil (s : Services) (r : Run) : run s [] r = ⟨.ok (), [], r⟩ := rfl

theorem run_cons (s : Services) (step : Step) (rest : List Step) (r : Run) :
    run s (step :: rest) r =
      ((execute s step >>= fun _ => run s rest) r).after [starting s step] := rfl

/-- A failure of the own part ends the run of the list, at once. -/
theorem run_cons_of_error {s : Services} {step : Step} {rest : List Step} {r : Run} {f : Failure}
    (h : (dispatch s step r).result = .error f) :
    run s (step :: rest) r =
      ⟨.error f, starting s step :: (dispatch s step r).events, (dispatch s step r).state⟩ := by
  have hExecute := execute_of_error h
  rw [run_cons, Action.bind_of_error _ (by rw [hExecute]), hExecute]
  rfl

/-- So does a failure in the list that the step led to. -/
theorem run_cons_of_nested_error {s : Services} {step : Step} {rest : List Step} {r : Run}
    {next : Next} {f : Failure} (h : (dispatch s step r).result = .ok next)
    (hNested : (run s (step.nested next) (dispatch s step r).state).result = .error f) :
    run s (step :: rest) r = (run s (step.nested next) (dispatch s step r).state).after
      (starting s step :: (dispatch s step r).events) := by
  have hExecute := execute_of_nested_error h hNested
  rw [run_cons, Action.bind_of_error _ (by rw [hExecute]), hExecute, Done.after, Done.after,
    hNested]
  rfl

/-- Otherwise the run of the list goes on from what the step left. -/
theorem run_cons_of_ok {s : Services} {step : Step} {rest : List Step} {r : Run} {next : Next}
    (h : (dispatch s step r).result = .ok next)
    (hNested : (run s (step.nested next) (dispatch s step r).state).result = .ok ()) :
    run s (step :: rest) r =
      (run s rest (run s (step.nested next) (dispatch s step r).state).state).after
        (starting s step :: (dispatch s step r).events ++
          (run s (step.nested next) (dispatch s step r).state).events ++ closingEvents s next) := by
  have hExecute := execute_of_ok h hNested
  rw [run_cons, Action.bind_of_ok _ (by rw [hExecute]), hExecute, Done.after_after]
  simp

/-- Lists run one after another as their concatenation does. -/
theorem run_append (s : Services) (first second : List Step) :
    run s (first ++ second) = run s first >>= fun _ => run s second := by
  induction first with
  | nil => exact (Action.pure_bind () fun _ => run s second).symm
  | cons step rest ih =>
      rw [List.cons_append, run, run, ih, Action.bind_assoc]
      congr 1
      funext _
      rw [Action.bind_assoc]

end Interpreter

end Flowline
