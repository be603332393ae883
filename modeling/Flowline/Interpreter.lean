import Flowline.FileAccess
import Flowline.Flow.Capture
import Flowline.Flow.Message
import Flowline.Flow.State
import Flowline.Flow.Step
import Flowline.Http
import Flowline.Notifier.Basic

/-!
Running of steps. Steps run in order on one state. A step whose operation fails is recovered by its
fallback, which runs on the same state; after that the list goes on. All other failures end the run of
every list around the step.
-/

namespace Flowline

/-- What the steps of a run work with. -/
structure Services where
  notifiers : NotifierSet
  label : String
  http : HttpClient

/-- A run in progress: its world and the state of its own. -/
structure Run where
  world : World
  state : RunState

namespace Run

/-- An action on the world of a run. -/
def inWorld {α : Type} (x : Action World α) : Action Run α :=
  x.onPart Run.world fun world run => { run with world }

/-- Sets the output of a step. -/
def setOutput (name : Option String) (value : String) : Action Run Unit :=
  .modifyState fun run => { run with state := run.state.setOutput value name }

/-- The input of a step. -/
def input (name : Option String) : Action Run String := fun run =>
  ⟨run.state.input name, [], run⟩

end Run

namespace Interpreter

def flowField (s : Services) : String × Value := ("flow", .text s.label)

/-- Log entries of the interpreter name the flow. -/
def log (s : Services) (level : Log.Level) (message : String) (fields : List (String × Value)) :
    Action Run Unit :=
  .log level .interpreter message (flowField s :: fields)

/-- Recovers from the failure of an operation by running a fallback; without one the step has
failed. -/
def recover (s : Services) (count : Nat) (fallback : Action Run Unit) (f : Failure) :
    Action Run Unit := do
  log s .warning ("Step failed: " ++ f.text) []
  if count = 0 then .fail (.flowFrom .stepFailed f.text f)
  else do
    log s .info "Entering step fallback" [("steps", .int count)]
    fallback
    log s .info "Step fallback completed" []

/-- An operation, what follows its success, and the recovery from its failures. Failures of other
kinds than those that are recovered from stay. -/
def recovering {α : Type} (s : Services) (operation : Action Run α) (next : α → Action Run Unit)
    (recovers : ErrorKind → Bool) (count : Nat) (fallback : Action Run Unit) : Action Run Unit :=
  operation.fork next fun f =>
    if recovers f.kind then recover s count fallback f else .fail f

/-- The notifier of a name. -/
def notifier (s : Services) (name : String) : Action Run Notifier :=
  .ofResult (s.notifiers.require name)

/-- A template filled from the state of the run. -/
def rendered (template : String) : Action Run String := fun run =>
  ⟨.ok (Message.render template run.state), [], run⟩

def snapshot : Action Run Value := fun run => ⟨.ok run.state.snapshot, [], run⟩

/-- The only comparison there is. -/
def equality : String := "equality"

def unsupported (comparison : String) : Failure :=
  .flow .unsupportedComparison
    ("unsupported comparison " ++ Text.quoted comparison ++ ", only 'equality' is available")

def isCaptureNotFound (kind : ErrorKind) : Bool := kind = .flow .captureNotFound

mutual

/-- Runs steps in order. -/
def run (s : Services) : List Step → Action Run Unit
  | [] => .succeed ()
  | step :: rest => do
      Action.log .debug .interpreter "Running step"
        [flowField s, ("step", .text step.kind.name)]
      execute s step
      run s rest

/-- Executes one step. -/
def execute (s : Services) : Step → Action Run Unit
  | .abortFlow => do
      log s .info "Aborting flow" []
      Action.fail (.flow .aborted "flow aborted")
  | .debugState => do
      let state ← snapshot
      log s .info "Execution state" [("state", state)]
  | .sleep duration => Run.inWorld (World.sleep (.real duration))
  | .setVariable outputVar value => Run.setOutput outputVar value
  | .notify name template _ fallback => do
      let channel ← notifier s name
      let message ← rendered template
      recovering s (Run.inWorld (channel.send message)) .succeed ErrorKind.isOperationError
        fallback.length (run s fallback)
  | .getUrl url outputVar retry fallback =>
      recovering s (Run.inWorld (s.http.getText url retry.retries (.real retry.interval)))
        (Run.setOutput outputVar) ErrorKind.isOperationError fallback.length (run s fallback)
  | .postUrl url body headers retry fallback =>
      recovering s
        (Run.inWorld (s.http.postText url body headers retry.retries (.real retry.interval)))
        .succeed ErrorKind.isOperationError fallback.length (run s fallback)
  | .readText path outputVar retry fallback =>
      recovering s
        (Run.inWorld (FileAccess.readText (.ofText path) retry.retries (.real retry.interval)))
        (Run.setOutput outputVar) ErrorKind.isOperationError fallback.length (run s fallback)
  | .appendText path inputVar retry fallback => do
      let text ← Run.input inputVar
      recovering s
        (Run.inWorld (FileAccess.appendLine (.ofText path) text retry.retries
          (.real retry.interval)))
        .succeed ErrorKind.isOperationError fallback.length (run s fallback)
  | .extractCapture inputVar outputVar pattern _ fallback => do
      let text ← Run.input inputVar
      recovering s (.ofResult (capture pattern text)) (Run.setOutput outputVar) isCaptureNotFound
        fallback.length (run s fallback)
  | .compareVar inputVar compareWith compareFor ifTrue ifFalse => do
      let value ← Run.input inputVar
      if compareFor ≠ equality then .fail (unsupported compareFor)
      else if value = compareWith then run s ifTrue
      else run s ifFalse

end

end Interpreter

end Flowline
