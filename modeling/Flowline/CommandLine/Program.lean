import Flowline.CommandLine.Arguments
import Flowline.CommandLine.FlowNames
import Flowline.CommandLine.Transcript
import Flowline.Registry
import Flowline.Schedule
import Flowline.Settings.Sources

/-!
The program: it loads the flows of all files, selects those to run and checks them, starts their
triggers, and waits until all threads have ended or somebody interrupts it. No flow starts before all
files are loaded and all selected flows are checked.
-/

namespace Flowline.CommandLine

/-- A trigger that was started for a flow. -/
structure Handle where
  runner : Runner
  timing : Trigger.Timing
  control : Trigger.Control

/-- How the program ends: by itself with a code, or it goes on because an interval trigger does and
nobody interrupts it. -/
inductive Ending where
  | code (n : Nat)
  | waiting
  deriving DecidableEq, Repr

/-- What a run of the program does: its ending, what it says about errors, the events on its threads,
the handles and the world that it leaves. -/
structure Report where
  ending : Ending
  errors : String
  transcript : Transcript
  handles : List Handle
  world : World

def mainThread : String := "MainThread"

def log (level : Log.Level) (message : String) (fields : List (String × Value)) : Action World Unit :=
  .log level .main message fields

/-! ## Loading -/

/-- The runners of flows, up to the first one whose notifiers lack credentials. -/
def checkedRunners (settings : Settings) (flows : List FlowDefinition) :
    Except Failure (List Runner) :=
  flows.mapM fun flow => do
    let runner : Runner := ⟨flow, settings⟩
    runner.check
    return runner

/-- The runners of the selected flows of the files, or the text of what is wrong with a definition.
Failures that are not about definitions stay failures. -/
def load (settings : Settings) (a : Arguments) : Action World (Except String (List Runner)) := do
  match ← Registry.ofPaths (a.files.map .ofText) with
  | .error (.failure f) => .fail f
  | .error e => return .error e.message
  | .ok flows =>
      let selected ← Registry.select flows (flowNames a.only)
      match checkedRunners settings selected with
      | .error f => return .error f.text
      | .ok runners => return .ok runners

/-! ## Starting and running -/

/-- Starts the triggers of flows; those without one are left out. -/
def startAll : List Runner → Action World (List Handle)
  | [] => .succeed []
  | runner :: rest => do
      match ← runner.schedule with
      | none => startAll rest
      | some (timing, control) =>
          let others ← startAll rest
          return ⟨runner, timing, control⟩ :: others

/-- What came of an action that threads did one after another. -/
structure Played where
  transcript : Transcript
  handles : List Handle
  world : World

/-- The moves of one thread. -/
def Handle.play (moves : Trigger.Timing → List Trigger.Move) (h : Handle) (w : World) : Played :=
  let d := h.runner.follow h.timing (moves h.timing) ⟨h.control, w⟩
  ⟨.onThread h.runner.label d.events, [{ h with control := d.state.control }], d.state.state⟩

/-- The moves of all threads, one thread after another. -/
def playAll (moves : Trigger.Timing → List Trigger.Move) : List Handle → World → Played
  | [], w => ⟨[], [], w⟩
  | h :: rest, w =>
      let first := h.play moves w
      let others := playAll moves rest first.world
      ⟨first.transcript ++ others.transcript, first.handles ++ others.handles, others.world⟩

/-- What comes of a move of one of the threads, if it is possible. -/
def Played.move? (p : Played) (index : Nat) (move : Trigger.Move) : Option Played := do
  let handle ← p.handles[index]?
  let control ← handle.control.move? handle.timing.repeats move
  let own := handle.play (fun _ => [move]) p.world
  return ⟨p.transcript ++ own.transcript, p.handles.set index { handle with control := control },
    own.world⟩

/-- Whether one of the threads is alive. -/
def Played.isAlive (p : Played) (index : Nat) : Bool := p.handles[index]?.any (·.control.isAlive)

/-- In which order threads move while the main thread waits for them. -/
abbrev Turns := List (Nat × Trigger.Move)

/-- Each thread makes one attempt, one thread after another. -/
def inTurn (handles : List Handle) : Turns :=
  handles.zipIdx.flatMap fun (handle, index) => handle.timing.attempt.map fun move => (index, move)

/-- Waits for one thread: threads move as long as it is alive. A move that is not possible is passed
over; the moves that are left come later. -/
def join (index : Nat) : Turns → Played → Turns × Played
  | [], p => ([], p)
  | (turn, move) :: later, p =>
      if p.isAlive index then join index later ((p.move? turn move).getD p)
      else ((turn, move) :: later, p)

/-- Waits for threads, one after another. The wait ends when the last one is over; it goes on if the
moves end while one is alive. -/
def waitFor : List Nat → Turns → Played → Ending × Played
  | [], _, p => (.code 0, p)
  | index :: rest, turns, p =>
      let (later, q) := join index turns p
      if q.isAlive index then (.waiting, q) else waitFor rest later q

/-- How the threads end when they are asked to stop while they wait. -/
def stopping (timing : Trigger.Timing) : List Trigger.Move := .stop :: timing.close

/-- A part of the program on the main thread. -/
def onMain {α : Type} (x : Action World α) (w : World) : Except Failure (α × Transcript × World) :=
  let d := x w
  d.result.map fun a => (a, .onThread mainThread d.events, d.state)

section

variable (schedule : List Handle → Turns)

/-- Waits for all started triggers, unless it is interrupted. -/
def await (interrupted : Bool) (handles : List Handle) (t : Transcript) (w : World) :
    Except Failure Report := do
  let (ending, p) :=
    waitFor (List.range handles.length) (schedule handles) ⟨[], handles, w⟩
  let t := t ++ p.transcript
  if interrupted then
    let ((), stop, w) ← onMain (log .info "Interrupted, stopping triggers" []) p.world
    let last := playAll stopping p.handles w
    return ⟨.code 130, "", t ++ stop ++ last.transcript, last.handles, last.world⟩
  else
    return ⟨ending, "", t, p.handles, p.world⟩

def couldNotLoad (reason : String) : String := "Could not load flows: " ++ reason

def noFlow : String := "No valid flow found in arguments."

/-- Runs the flows of files. -/
def run (settings : Settings) (a : Arguments) (interrupted : Bool) (w : World) :
    Except Failure Report := do
  let (loaded, t, w) ← onMain (load settings a) w
  match loaded with
  | .error reason =>
      let ((), told, w) ← onMain (log .error (couldNotLoad reason) []) w
      return ⟨.code 1, couldNotLoad reason ++ "\n", t ++ told, [], w⟩
  | .ok runners =>
      let (handles, started, w) ← onMain (startAll runners) w
      let t := t ++ started
      if handles.isEmpty then
        let ((), told, w) ← onMain (log .error noFlow []) w
        return ⟨.code 2, noFlow ++ "\n", t ++ told, [], w⟩
      else
        let names := handles.map fun h => Value.text h.runner.label
        let ((), told, w) ← onMain (log .info "Flows scheduled" [("flows", .list names)]) w
        await schedule interrupted handles (t ++ told) w

end

/-! ## Settings -/

/-- The settings that arguments give themselves. -/
def overrides (a : Arguments) : Entries :=
  match a.logLevel with
  | some level => if level.isEmpty then [] else [(.text "log_level", .text level)]
  | none => []

/-- The settings of a run: of the arguments, the environment and the file of variables. -/
def settingsFor (a : Arguments) (environment : List (String × String)) (w : World) :
    Except Failure (Schema.Checked Settings) := do
  let (file, _, _) ← onMain Settings.envFileText w
  return Settings.load (overrides a) environment file

/-- What is written about settings that are wrong. -/
def settingsComplaint (issues : List Schema.Issue) : String :=
  "Configuration error (check your .env):\n" ++
    String.join (issues.map fun i => i.text ++ "\n")

/-- A run that ends before it starts, because its settings are wrong. -/
def refusal (issues : List Schema.Issue) (w : World) : Report :=
  ⟨.code 1, settingsComplaint issues, [], [], w⟩

/-! ## Invocation -/

/-- What comes of an invocation: it exits with texts for the output and for errors, because of what
its arguments say, or it runs with a style of its log. -/
inductive Invocation where
  | exited (code : Nat) (output errors : String)
  | ran (style : LogStyle) (report : Report)

/-- Runs with the settings that are found. -/
def runWith (schedule : List Handle → Turns) (a : Arguments)
    (environment : List (String × String)) (timestamp : String) (interrupted : Bool) (w : World) :
    Except Failure Invocation := do
  match ← settingsFor a environment w with
  | .invalid issues =>
      return .ran ⟨Settings.standard.logLevel, Settings.standard.logFormat, timestamp⟩
        (refusal issues w)
  | .valid settings =>
      let report ← run schedule settings a interrupted w
      return .ran ⟨settings.logLevel, settings.logFormat, timestamp⟩ report

/-- Invokes the program with arguments in an environment, where threads move in some order. -/
def invokeAmong (schedule : List Handle → Turns) (args : List String)
    (environment : List (String × String)) (timestamp : String) (interrupted : Bool) (w : World) :
    Except Failure Invocation :=
  match read args with
  | .error fault => .ok (.exited 2 "" (complaint fault))
  | .ok .help => .ok (.exited 0 helpText "")
  | .ok .version => .ok (.exited 0 versionText "")
  | .ok (.run a) => runWith schedule a environment timestamp interrupted w

/-- Invokes the program with threads that move one after another. An interruption comes when each flow
has run once. -/
def invoke : List String → List (String × String) → String → Bool → World →
    Except Failure Invocation := invokeAmong inTurn

end Flowline.CommandLine
