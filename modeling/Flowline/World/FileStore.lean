import Flowline.World.FilePath
import Flowline.Text.Utf8

/-!
A store of files and directories, and where paths lead in it from the directory in which a run works.
-/

namespace Flowline

/-- What stands at a place: a file with its bytes, or a directory. -/
inductive FileNode where
  | file (bytes : List UInt8)
  | directory
  deriving DecidableEq, Repr

/-- Files and directories by their place, the names that lead to them from the root. The root itself,
which is always a directory, has no entry. -/
abbrev FileStore := List (List String × FileNode)

/-- Why a path cannot be opened. -/
inductive FileFault where
  | missing
  | notDirectory
  | isDirectory
  | nameTooLong
  deriving DecidableEq, Repr

namespace FileFault

def number : FileFault → Nat
  | missing => 2
  | notDirectory => 20
  | isDirectory => 21
  | nameTooLong => 36

def reason : FileFault → String
  | missing => "No such file or directory"
  | notDirectory => "Not a directory"
  | isDirectory => "Is a directory"
  | nameTooLong => "File name too long"

/-- The message about a path that cannot be opened. -/
def message (f : FileFault) (path : FilePath) : String :=
  s!"[Errno {f.number}] {f.reason}: " ++ Text.quoted path.text

end FileFault

/-- The greatest number of bytes in the name of a file, and in a path. -/
def maxNameBytes : Nat := 255

def maxPathBytes : Nat := 4095

namespace FileStore

/-- What stands at a place. -/
def node? (store : FileStore) (place : List String) : Option FileNode :=
  if place.isEmpty then some .directory else store.lookup place

/-- Puts a node at a place, instead of what stands there. -/
def put : FileStore → List String → FileNode → FileStore
  | [], place, node => [(place, node)]
  | (p, n) :: rest, place, node =>
      if p = place then (p, node) :: rest else (p, n) :: put rest place node

def erase (store : FileStore) (place : List String) : FileStore :=
  store.filter fun entry => entry.1 ≠ place

/-- Makes the directories on the way to a place. -/
def makeParents (store : FileStore) (place : List String) : FileStore :=
  (List.range place.length).foldl (fun store n =>
    let parent := place.take n
    if (store.node? parent).isSome then store else store.put parent .directory) store

/-- Writes a file, with the directories on the way to it. -/
def write (store : FileStore) (place : List String) (bytes : List UInt8) : FileStore :=
  (store.makeParents place).put place (.file bytes)

/-- One step along a path from a place that must be a directory. The root is above itself. -/
def step (store : FileStore) (place : List String) (part : String) :
    Except FileFault (List String) :=
  match store.node? place with
  | none => .error .missing
  | some (.file _) => .error .notDirectory
  | some .directory =>
      if part = ".." then .ok place.dropLast
      else if maxNameBytes < part.utf8ByteSize then .error .nameTooLong
      else .ok (place ++ [part])

/-- Where parts of a path lead from a place; all but the last one must lead to a directory. -/
def follow (store : FileStore) : List String → List String → Except FileFault (List String)
  | place, [] => .ok place
  | place, part :: rest => do
      let next ← store.step place part
      store.follow next rest

/-- Where a path leads: from the root, or from the directory in which a run works. -/
def place (store : FileStore) (home : List String) (path : FilePath) :
    Except FileFault (List String) :=
  if maxPathBytes < path.text.utf8ByteSize then .error .nameTooLong
  else store.follow (if path.root.isEmpty then home else []) path.parts

/-- The bytes of the file at a path. -/
def read (store : FileStore) (home : List String) (path : FilePath) :
    Except FileFault (List UInt8) := do
  match store.node? (← store.place home path) with
  | some (.file bytes) => return bytes
  | some .directory => .error .isDirectory
  | none => .error .missing

/-- The store after bytes are added at the end of the file at a path, which is made if it is not
there. -/
def append (store : FileStore) (home : List String) (path : FilePath) (bytes : List UInt8) :
    Except FileFault FileStore := do
  let place ← store.place home path
  match store.node? place with
  | some (.file old) => return store.put place (.file (old ++ bytes))
  | some .directory => .error .isDirectory
  | none => return store.put place (.file bytes)

/-- A directory, the way to it, and below it all of another store. -/
def mounted (store : FileStore) (directory : List String) : FileStore :=
  (makeParents [] directory).put directory .directory ++
    store.map fun entry => (directory ++ entry.1, entry.2)

/-- What is below a directory, by the names that lead there from it. -/
def below (store : FileStore) (directory : List String) : FileStore :=
  store.filterMap fun entry =>
    if directory.isPrefixOf entry.1 && entry.1 ≠ directory then
      some (entry.1.drop directory.length, entry.2)
    else none

/-- The files with their bytes, in the order of their making. -/
def files (store : FileStore) : List (List String × List UInt8) :=
  store.filterMap fun entry => match entry.2 with
    | .file bytes => some (entry.1, bytes)
    | .directory => none

end FileStore

end Flowline
