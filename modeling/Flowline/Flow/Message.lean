import Flowline.Flow.State

/-!
Messages of notify steps. A message template holds placeholders, each an identifier in braces, which
are all replaced at once by values of the state.
-/

namespace Flowline.Message

/-- A piece of a template. -/
inductive Piece where
  | char (c : Char)
  | placeholder (name : List Char)
  deriving DecidableEq, Repr

/-- The name of the placeholder of the latest output. -/
def lastOutputName : String := "_"

def isNameChar (c : Char) : Bool := c.isAlphanum || c == '_'

/-- A letter or a low line, then letters, digits and low lines. -/
def isName : List Char → Bool
  | [] => false
  | c :: rest => !c.isDigit && (c :: rest).all isNameChar

/-- The name and what follows, if a text goes on with a name and a closing brace. -/
def splitName? (cs : List Char) : Option (List Char × List Char) :=
  let name := cs.takeWhile isNameChar
  match cs.dropWhile isNameChar with
  | '\x7d' :: rest => if isName name then some (name, rest) else none
  | _ => none

theorem length_lt_of_splitName? {cs name rest : List Char}
    (h : splitName? cs = some (name, rest)) : rest.length < cs.length := by
  have hdrop := (List.dropWhile_suffix (l := cs) isNameChar).length_le
  simp only [splitName?] at h
  split at h
  · rename_i tail htail
    rw [htail] at hdrop
    split at h
    · simp only [Option.some.injEq, Prod.mk.injEq] at h
      obtain ⟨-, rfl⟩ := h
      simp only [List.length_cons] at hdrop
      omega
    · simp at h
  · simp at h

/-- The pieces of a template from left to right. -/
def pieces : List Char → List Piece
  | [] => []
  | c :: rest =>
      match _h : if c = '\x7b' then splitName? rest else none with
      | some (name, after) => .placeholder name :: pieces after
      | none => .char c :: pieces rest
termination_by cs => cs.length
decreasing_by
  · split at _h
    · have := length_lt_of_splitName? _h
      simp only [List.length_cons]
      omega
    · simp at _h
  · simp

/-- What a placeholder stands for: the latest output or a variable, if there is one. -/
def valueOf? (s : RunState) (name : String) : Option String :=
  match if name = lastOutputName then s.lastOutput else none with
  | some output => some output
  | none => s.vars.get? name

/-- A piece with its value filled in; a placeholder that names nothing known stays as it is. -/
def fill (s : RunState) : Piece → String
  | .char c => String.singleton c
  | .placeholder name =>
      (valueOf? s (String.ofList name)).getD (String.ofList ('\x7b' :: name ++ ['\x7d']))

/-- The message that a template gives in a state. -/
def render (template : String) (s : RunState) : String :=
  String.join ((pieces template.toList).map (fill s))

end Flowline.Message
