import Flowline.Retry
import Flowline.World.Basic

/-!
Reading a file and adding a line to it, with retries.
-/

namespace Flowline.FileAccess

def failure (text : String) : Failure := .operation .file text

/-- Errors after which a file is tried again. -/
def isRetryable (kind : ErrorKind) : Bool := kind.isKindOf (.operation .file)

/-- The seconds between attempts unless others are given. -/
def standardInterval : Quantity := .real (.ofInt 1)

/-- One attempt to read a file. -/
def readOnce (path : FilePath) : Action World String :=
  (World.readFile path).orElse fun f =>
    .fail (if f.kind.isSystemError || f.kind = .general .unicodeDecode then
      failure s!"could not read file {path.text}: {f.text}" else f)

/-- The text of a file. -/
def readText (path : FilePath) (retries : Int) (interval : Quantity) : Action World String :=
  Retry.run isRetryable ("reading file " ++ path.text) retries interval World.sleep (readOnce path)

/-- One attempt to add a line to a file. -/
def appendOnce (path : FilePath) (text : String) : Action World Unit :=
  (World.appendFile path (text ++ "\n")).orElse fun f =>
    .fail (if f.kind.isSystemError then
      failure s!"could not write to file {path.text}: {f.text}" else f)

/-- Adds a line to a file. -/
def appendLine (path : FilePath) (text : String) (retries : Int) (interval : Quantity) :
    Action World Unit :=
  Retry.run isRetryable ("appending to file " ++ path.text) retries interval World.sleep
    (appendOnce path text)

end Flowline.FileAccess
