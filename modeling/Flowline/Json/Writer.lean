import Flowline.Failure
import Flowline.Value.Literal

/-!
Writing of JSON on one line. Text keeps its characters but for those that must be escaped. Values that
JSON does not know are written as their plain text, and keys as the text that their value has.
-/

namespace Flowline.Json

/-- One character inside quotes. -/
def escapedChar (c : Char) : String :=
  if c = '\"' then "\\\""
  else if c = '\\' then "\\\\"
  else if c = '\n' then "\\n"
  else if c = '\r' then "\\r"
  else if c = '\t' then "\\t"
  else if c = '\x08' then "\\b"
  else if c = '\x0c' then "\\f"
  else if c.toNat < 0x20 then "\\u" ++ Text.hexDigits 4 c.toNat
  else String.singleton c

/-- A text in double quotes. -/
def quoted (s : String) : String := "\"" ++ String.join (s.toList.map escapedChar) ++ "\""

def boolText (b : Bool) : String := if b then "true" else "false"

/-- A real number, or the word for one that has no digits. -/
def realText : Binary64 → String
  | .nan => "NaN"
  | .infinite negative => Binary64.signText negative ++ "Infinity"
  | x => x.text

/-- The text of a key. -/
def keyText : Value → Except Failure String
  | .text s => .ok s
  | .null => .ok "null"
  | .bool b => .ok (boolText b)
  | .int n => .ok (toString n)
  | .real x => .ok (realText x)
  | .torn t => .error (.unencodable t)
  | v => .error (.general .type
      ("keys must be str, int, float, bool or None, not " ++ v.fullKindName))

/-- The failure to write a value that holds itself. -/
def circular : Failure := .general .value "Circular reference detected"

mutual

/-- The text of a value. -/
def write : Value → Except Failure String
  | .null => .ok "null"
  | .bool b => .ok (boolText b)
  | .int n => .ok (toString n)
  | .real x => .ok (realText x)
  | .text s => .ok (quoted s)
  | .torn t => .error (.unencodable t)
  | .list items => do
      let texts ← writeAll items
      return "[" ++ ", ".intercalate texts ++ "]"
  | .tuple items => do
      let texts ← writeAll items
      return "[" ++ ", ".intercalate texts ++ "]"
  | .map entries => do
      let texts ← writeEntries entries
      return "\x7b" ++ ", ".intercalate texts ++ "\x7d"
  | .enclosing _ => .error circular
  | v => .ok (quoted v.display)

def writeAll : List Value → Except Failure (List String)
  | [] => .ok []
  | item :: rest => do
      let text ← write item
      let texts ← writeAll rest
      return text :: texts

def writeEntries : List (Value × Value) → Except Failure (List String)
  | [] => .ok []
  | (key, value) :: rest => do
      let name ← keyText key
      let text ← write value
      let texts ← writeEntries rest
      return (quoted name ++ ": " ++ text) :: texts

end

end Flowline.Json
