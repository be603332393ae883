import Flowline.World.Event

/-!
Actions: computations on a state that others can watch. An action ends with a value or with a failure;
either way the state stays as it was left and all events have happened.
-/

namespace Flowline

/-- How an action ended: its result, the events on the way, and the state that it left. -/
structure Done (σ α : Type) where
  result : Except Failure α
  events : List Event
  state : σ

def Action (σ α : Type) : Type := σ → Done σ α

namespace Action

variable {σ τ α β : Type}

def succeed (a : α) : Action σ α := fun s => ⟨.ok a, [], s⟩

def fail (f : Failure) : Action σ α := fun s => ⟨.error f, [], s⟩

/-- An action and, if it succeeds, another one after it. -/
def andThen (x : Action σ α) (next : α → Action σ β) : Action σ β := fun s =>
  let first := x s
  match first.result with
  | .ok a =>
      let second := next a first.state
      { second with events := first.events ++ second.events }
  | .error f => ⟨.error f, first.events, first.state⟩

instance : Monad (Action σ) where
  pure := succeed
  bind := andThen

/-- An action whose failure leads to another one, which starts in the state that was left. -/
def orElse (x : Action σ α) (handle : Failure → Action σ α) : Action σ α := fun s =>
  let first := x s
  match first.result with
  | .ok _ => first
  | .error f =>
      let second := handle f first.state
      { second with events := first.events ++ second.events }

/-- Two ways to go on, one after success and one after failure. Failures of these are not caught. -/
def fork (x : Action σ α) (next : α → Action σ β) (handle : Failure → Action σ β) : Action σ β :=
  fun s =>
    let first := x s
    let second := match first.result with
      | .ok a => next a first.state
      | .error f => handle f first.state
    { second with events := first.events ++ second.events }

/-- A result that takes no action. -/
def ofResult : Except Failure α → Action σ α
  | .ok a => succeed a
  | .error f => fail f

/-- An event and nothing else. -/
def emit (e : Event) : Action σ Unit := fun s => ⟨.ok (), [e], s⟩

def getState : Action σ σ := fun s => ⟨.ok s, [], s⟩

def setState (s : σ) : Action σ Unit := fun _ => ⟨.ok (), [], s⟩

def modifyState (f : σ → σ) : Action σ Unit := fun s => ⟨.ok (), [], f s⟩

/-- An action on a part of the state. -/
def onPart (read : τ → σ) (write : σ → τ → τ) (x : Action σ α) : Action τ α := fun t =>
  let d := x (read t)
  ⟨d.result, d.events, write d.state t⟩

/-- Writes a log entry. -/
def log (level : Log.Level) (logger : Log.Logger) (message : String)
    (fields : List (String × Value)) : Action σ Unit :=
  emit (.logged ⟨level, logger, message, fields, none⟩)

/-- Writes a log entry with an error attached. -/
def logError (logger : Log.Logger) (message : String) (fields : List (String × Value))
    (error : Failure) : Action σ Unit :=
  emit (.logged ⟨.error, logger, message, fields, some error⟩)

end Action

end Flowline
