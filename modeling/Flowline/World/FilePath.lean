import Flowline.Text.Quoted

/-!
Paths of files in their normal form: without empty parts and without parts that stay where they are.
-/

namespace Flowline

/-- A path: whether it starts at the root, with one slash or with exactly two, and its parts. -/
structure FilePath where
  root : String
  parts : List String
  deriving DecidableEq, Repr

namespace FilePath

/-- The root of a path that starts with a number of slashes: exactly two are kept. -/
def rootOf (slashes : Nat) : String :=
  if slashes = 0 then "" else if slashes = 2 then "//" else "/"

def ofText (s : String) : FilePath where
  root := rootOf (s.toList.takeWhile (· = '/')).length
  parts := (s.splitOn "/").filter fun part => part ≠ "" && part ≠ "."

def text (p : FilePath) : String :=
  if p.root.isEmpty && p.parts.isEmpty then "." else p.root ++ "/".intercalate p.parts

end FilePath

end Flowline
