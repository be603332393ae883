import Flowline.CommandLine.Program
import Std.Time.DateTime.Timestamp

/-!
The command line itself. The files that the arguments and the steps name are read before a run, with
the directories in which they are, and written after it; what the threads write and how long they sleep
is carried out in order. There is no connection to a network, so every request fails as it does without
one.
-/

namespace Flowline.CommandLine

/-- The variables of the environment that are settings. -/
def environmentVariables : IO (List (String × String)) :=
  Settings.names.filterMapM fun name => do
    let key := Text.upper (Settings.variableStart ++ name)
    return (← IO.getEnv key).map (key, ·)

/-- The directory in which the program works, as a place. -/
def workingPlace : IO (List String) := do
  return (FilePath.ofText (← IO.currentDir).toString).parts

/-- The place of a name, where no name on the way is a link to another place. -/
def placeOf (home : List String) (name : String) : List String :=
  let path := FilePath.ofText name
  path.parts.foldl (fun place part => if part = ".." then place.dropLast else place ++ [part])
    (if path.root.isEmpty then home else [])

/-- The name of a place from the root. -/
def nameOf (place : List String) : String := "/" ++ "/".intercalate place

/-- Adds the directory at a place, if there is one. -/
def addDirectory (disk : FileStore) (place : List String) : IO FileStore := do
  try
    let there ← (← IO.FS.realPath (nameOf place)).isDir
    return if there then (disk.makeParents place).put place .directory else disk
  catch _ => return disk

/-- Adds the file at a place, if it can be read, and the directory in which it is. -/
def addFile (disk : FileStore) (place : List String) : IO FileStore := do
  let disk ← addDirectory disk place.dropLast
  try
    let bytes ← IO.FS.readBinFile (nameOf place)
    return disk.write place bytes.toList
  catch _ => addDirectory disk place

/-- A world with the files of some names. -/
def worldWith (names : List String) : IO World := do
  let home ← workingPlace
  let disk ← addDirectory [] home
  let disk ← (names.map (placeOf home)).foldlM addFile disk
  return .starting (fun _ => .error noNetwork) home disk (fun _ => []) .working

/-- The files that steps of flows name. -/
def stepFiles (flows : List FlowDefinition) : List String :=
  (flows.flatMap fun flow => Step.walk (flow.steps ++ flow.uponFailure)).filterMap fun step =>
    match step with
    | .readText path .. => some path
    | .appendText path .. => some path
    | _ => none

/-- The files that a run with some arguments may need. -/
def neededFiles (args : List String) : IO (List String) := do
  let own := ".env" :: args
  let d := Registry.ofPaths (args.map .ofText) (← worldWith own)
  match d.result with
  | .ok (.ok flows) => return own ++ stepFiles flows
  | _ => return own

def toMilliseconds : Quantity → UInt32
  | .int n => (n.toNat * 1000).toUInt32
  | .real x => (x.units * 1000 / Binary64.unitsPerOne).toUInt32

/-- Carries out what a transcript shows. -/
def carryOut (style : LogStyle) (t : Transcript) : IO Unit := do
  let out ← IO.getStdout
  for (thread, event) in t do
    match event with
    | .slept seconds => IO.sleep (toMilliseconds seconds)
    | _ => out.putStr (style.written thread event)
  out.flush

/-- Writes the files that differ from those before. -/
def saveFiles (before after : World) : IO Unit := do
  for (place, bytes) in after.disk.files do
    if before.disk.node? place ≠ some (.file bytes) then
      IO.FS.writeBinFile (nameOf place) ⟨bytes.toArray⟩

/-- The text of the present moment. -/
def presentTimestamp : IO String := do
  let now ← Std.Time.Timestamp.now
  match Log.Timestamp.text (.int now.toSecondsSinceUnixEpoch.val) with
  | .ok text => return text
  | .error _ => return ""

/-- The time between the runs of a handle, in milliseconds. -/
def Handle.period (h : Handle) : Nat :=
  match h.timing with
  | .once => 0
  | .every seconds => (toMilliseconds seconds).toNat

/-- Runs interval triggers for ever, each one when it is due. -/
partial def keepRunning (style : LogStyle) (files : List String) (due : List (Nat × Handle)) :
    IO Unit := do
  match due.mergeSort fun a b => a.1 ≤ b.1 with
  | [] => return ()
  | (time, h) :: rest => do
      let now ← IO.monoMsNow
      IO.sleep (time - now).toUInt32
      let world ← worldWith files
      let played := h.play (fun timing => .timeOut :: timing.attempt) world
      carryOut { style with timestamp := ← presentTimestamp } played.transcript
      saveFiles world played.world
      let next ← IO.monoMsNow
      keepRunning style files (rest ++ played.handles.map fun h => (next + h.period, h))

/-- Carries out a report and gives the code with which the program ends. -/
def finish (style : LogStyle) (files : List String) (before : World) (r : Report) : IO UInt32 := do
  carryOut style r.transcript
  saveFiles before r.world
  (← IO.getStderr).putStr r.errors
  match r.ending with
  | .code n => return n.toUInt32
  | .waiting => do
      let now ← IO.monoMsNow
      let alive := r.handles.filter (·.control.isAlive)
      keepRunning style files (alive.map fun h => (now + h.period, h))
      return 0

end Flowline.CommandLine

open Flowline CommandLine in
/-- The program. -/
def main (args : List String) : IO UInt32 := do
  let files ← neededFiles args
  let world ← worldWith files
  match invoke args (← environmentVariables) (← presentTimestamp) false world with
  | .error f => do
      (← IO.getStderr).putStrLn f.logLine
      return 1
  | .ok (.exited code output errors) => do
      (← IO.getStdout).putStr output
      (← IO.getStderr).putStr errors
      return code.toUInt32
  | .ok (.ran style report) => finish style files world report
