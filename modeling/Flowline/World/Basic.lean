import Flowline.Action
import Flowline.World.FileStore

/-!
The world of a run: a session that answers requests, files that may change while the run sleeps, an
output for printed text, and the logs of notifiers that keep messages in memory.
-/

namespace Flowline

/-- What happens to text that is printed. -/
inductive OutputCondition where
  | working
  | broken
  | asciiOnly
  | full
  | shut
  deriving DecidableEq, Repr

/-- A file that changes while a run sleeps: it is written, or deleted if there are no bytes. -/
structure FileChange where
  place : List String
  bytes : Option (List UInt8)

/-- The world at one time. `requests` and `sleeps` count those that have been; the answers to requests
and the changes during sleeps are looked up by these counts. A path that does not start at the root
starts at the place `home` of the disk. -/
structure World where
  session : Session
  requests : Nat
  changes : Nat → List FileChange
  sleeps : Nat
  output : OutputCondition
  home : List String
  disk : FileStore
  messages : Nat → List String

namespace FileChange

def apply (store : FileStore) (change : FileChange) : FileStore :=
  match change.bytes with
  | some bytes => store.write change.place bytes
  | none => store.erase change.place

/-- The change below a directory. -/
def mounted (change : FileChange) (directory : List String) : FileChange :=
  { change with place := directory ++ change.place }

end FileChange

namespace World

/-- A world in which nothing has happened yet. -/
def starting (session : Session) (home : List String) (disk : FileStore)
    (changes : Nat → List FileChange) (output : OutputCondition) : World :=
  ⟨session, 0, changes, 0, output, home, disk, fun _ => []⟩

/-- The directory in which a run works unless another is given. -/
def standardHome : List String := ["tmp", "run"]

/-- A world in which nothing has happened yet and all files are below the directory in which it
works. -/
def fresh (session : Session) (files : FileStore) (changes : Nat → List FileChange)
    (output : OutputCondition) : World :=
  starting session standardHome (files.mounted standardHome)
    (fun n => (changes n).map (·.mounted standardHome)) output

/-- The files below the directory in which a run works. -/
def files (w : World) : FileStore := w.disk.below w.home

/-- The characters of a text outside ASCII that come first, in a row: where they start and how many
they are. -/
def nonAsciiRun? (cs : List Char) : Option (Nat × List Char) :=
  let start := (cs.takeWhile fun c => c.toNat < 128).length
  let run := (cs.drop start).takeWhile fun c => 128 ≤ c.toNat
  if run.isEmpty then none else some (start, run)

/-- Why a text cannot be printed. -/
def printFailure? (output : OutputCondition) (text : String) : Option Failure :=
  match output with
  | .working => none
  | .broken => some (.general .brokenPipe "stdout closed")
  | .asciiOnly => (nonAsciiRun? text.toList).map fun (start, run) =>
      .general .unicodeEncode
        (Text.unencodable "ascii" "ordinal not in range(128)" start (run.map Char.toNat))
  | .full => some (.general .os "[Errno 28] No space left on device")
  | .shut => some (.general .value "I/O operation on closed file.")

/-- Sends a request and takes the answer to it. -/
def request (r : Request) : Action World Reply := fun w =>
  ⟨w.session w.requests, [.requested r], { w with requests := w.requests + 1 }⟩

def closeSession : Action World Unit := .emit .closed

/-- Sleeps; the files that change meanwhile are changed afterwards. -/
def sleep (seconds : Quantity) : Action World Unit := fun w =>
  ⟨.ok (), [.slept seconds],
    { w with sleeps := w.sleeps + 1, disk := (w.changes w.sleeps).foldl FileChange.apply w.disk }⟩

/-- Prints a line. -/
def printLine (text : String) : Action World Unit := fun w =>
  match printFailure? w.output text with
  | some f => ⟨.error f, [], w⟩
  | none => ⟨.ok (), [.printed (text ++ "\n")], w⟩

/-- Keeps a message in a log of messages. -/
def keepMessage (log : Nat) (message : String) : Action World Unit := fun w =>
  ⟨.ok (), [], { w with
    messages := fun n => if n = log then w.messages n ++ [message] else w.messages n }⟩

/-- The failure to open a file. -/
def fileFailure (fault : FileFault) (path : FilePath) : Failure :=
  let kind := match fault with
    | .missing => GeneralErrorKind.fileNotFound
    | .notDirectory => .notADirectory
    | .isDirectory => .isADirectory
    | .nameTooLong => .os
  .general kind (fault.message path)

/-- No path holds a null character. -/
def checkPath (path : FilePath) : Except Failure Unit :=
  if path.text.toList.contains '\x00' then .error (.general .value "embedded null byte") else .ok ()

/-- The text of the file at a path, with line feeds for line breaks. -/
def readFile (path : FilePath) : Action World String := fun w =>
  let result := do
    checkPath path
    match w.disk.read w.home path with
    | .error fault => .error (fileFailure fault path)
    | .ok bytes => match Text.Utf8.decode bytes with
      | .error fault => .error (.general .unicodeDecode fault.message)
      | .ok text => .ok (Text.Utf8.withLineFeeds text)
  ⟨result, [], w⟩

/-- Adds a text at the end of the file at a path. -/
def appendFile (path : FilePath) (text : String) : Action World Unit := fun w =>
  match checkPath path with
  | .error f => ⟨.error f, [], w⟩
  | .ok () => match w.disk.append w.home path (Text.Utf8.encode text) with
    | .error fault => ⟨.error (fileFailure fault path), [], w⟩
    | .ok disk => ⟨.ok (), [], { w with disk }⟩

end World

end Flowline
