import Flowline.Text.Printable

/-!
Quoted text, as messages show it: single quotes unless the text holds one and no double quote, a
backslash before the quote and before a backslash, and an escape for every character that is not
printable.
-/

namespace Flowline.Text

/-- The lower case hexadecimal digits of `n`, at least `width` of them. -/
def hexDigits (width n : Nat) : String :=
  let digits := Nat.toDigits 16 n
  String.ofList (List.replicate (width - digits.length) '0' ++ digits)

/-- The escape that writes a character by its code point, in the shortest of three widths. -/
def codeEscape (n : Nat) : String :=
  if n < 0x100 then "\\x" ++ hexDigits 2 n
  else if n < 0x10000 then "\\u" ++ hexDigits 4 n
  else "\\U" ++ hexDigits 8 n

/-- The quote that needs the fewer escapes: a double one only around text that holds a single quote and
no double quote. -/
def quoteFor (holdsSingle holdsDouble : Bool) : Char :=
  if holdsSingle && !holdsDouble then '\"' else '\''

/-- One character inside quotes; `printable` tells which characters stand for themselves. -/
def quotedChar (printable : Char → Bool) (quote c : Char) : String :=
  if c = quote || c = '\\' then "\\" ++ String.singleton c
  else if c = '\t' then "\\t"
  else if c = '\n' then "\\n"
  else if c = '\r' then "\\r"
  else if printable c then String.singleton c
  else codeEscape c.toNat

def quotedChars (printable : Char → Bool) (cs : List Char) : String :=
  let quote := quoteFor (cs.contains '\'') (cs.contains '\"')
  let body := cs.map (quotedChar printable quote)
  String.singleton quote ++ String.join body ++ String.singleton quote

/-- A text in quotes. -/
def quoted (s : String) : String := quotedChars isPrintable s.toList

/-- Bytes in quotes, each one as the ASCII character of that code or as an escape. -/
def quotedBytes (bs : List UInt8) : String :=
  "b" ++ quotedChars (fun c => 32 ≤ c.toNat && c.toNat < 127) (bs.map fun b => Char.ofNat b.toNat)

end Flowline.Text
