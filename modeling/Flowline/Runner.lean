import Flowline.Interpreter
import Flowline.Notifier.Build

/-!
Running a flow: its steps once from a fresh state and, if they fail, the fallback of the flow on the
state that they left. Failures do not leave a run; they are logged and tell its outcome.
-/

namespace Flowline

inductive Outcome where
  | completed
  | recovered
  | failed
  deriving DecidableEq, Repr

def Outcome.name : Outcome → String
  | completed => "completed"
  | recovered => "recovered"
  | failed => "failed"

/-- A flow with the settings of its runs. -/
structure Runner where
  flow : FlowDefinition
  settings : Settings

namespace Runner

def label (r : Runner) : String := r.flow.label

/-- The credentials that the notifiers of the flow need are checked before the first run. -/
def check (r : Runner) : Except Failure Unit :=
  r.flow.notifiers.forM (NotifierSet.checkCredentials r.settings)

/-- What sends the requests of the flow. -/
def httpClient (r : Runner) : HttpClient := ⟨.real r.settings.httpTimeout, r.settings.userAgent⟩

def fields (r : Runner) : List (String × Value) := [("flow", .text r.label)]

def log {σ : Type} (r : Runner) (level : Log.Level) (message : String) : Action σ Unit :=
  .log level .runner message r.fields

def logError {σ : Type} (r : Runner) (message : String) (f : Failure) : Action σ Unit :=
  .logError .runner message r.fields f

/-- Runs the fallback of the flow. -/
def runFallback (r : Runner) (s : Services) : Action Run Outcome := do
  r.log .info "Entering flow fallback"
  (Interpreter.run s r.flow.uponFailure).fork
    (fun _ => do
      r.log .info "Flow fallback completed"
      return .recovered)
    (fun f => do
      if f.kind.isFlowError then r.log .error ("Flow fallback failed: " ++ f.text)
      else r.logError "Flow fallback raised an unexpected error" f
      return .failed)

/-- Runs the steps of the flow and, if they fail as steps do, its fallback. -/
def runSteps (r : Runner) (s : Services) : Action Run Outcome :=
  (Interpreter.run s r.flow.steps).fork
    (fun _ => do
      r.log .info "Flow run completed"
      return .completed)
    (fun f => do
      if f.kind.isFlowError then
        r.log .warning ("Flow failed: " ++ f.text)
        if r.flow.uponFailure.isEmpty then
          r.log .error "Flow run failed with no fallback"
          return .failed
        else r.runFallback s
      else
        r.logError "Flow run raised an unexpected error" f
        return .failed)

/-- A run from the fresh state, of which only the world outlives it. -/
def inFreshRun {α : Type} (x : Action Run α) : Action World α := fun w =>
  let d := x ⟨w, .fresh⟩
  ⟨d.result, d.events, d.state.world⟩

/-- Runs the flow once. -/
def runOnce (r : Runner) : Action World Outcome := do
  r.log .info "Flow run started"
  (NotifierSet.setUp r.settings r.flow.notifiers).fork
    (fun notifiers => inFreshRun (r.runSteps ⟨notifiers, r.label, r.httpClient⟩))
    (fun f => do
      r.logError "Could not set up notifiers" f
      return .failed)

end Runner

end Flowline
