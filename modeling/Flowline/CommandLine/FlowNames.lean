import Flowline.Text.Blank

/-!
The names of the flows to run, as they are given on the command line.
-/

namespace Flowline.CommandLine

/-- The names in a list with commas between them, without the blanks around them and without empty
ones. -/
def flowNames : Option String → List String
  | none => []
  | some text => ((text.splitOn ",").map Text.trim).filter (!·.isEmpty)

end Flowline.CommandLine
