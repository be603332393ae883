import Flowline.Text.Quoted

/-!
Texts that need not be well formed. Beside characters they may hold halves of surrogate pairs, which an
escape can write, but which have no form in bytes.
-/

namespace Flowline.Text

/-- A code point: a character, or one of the halves of surrogate pairs, which are no characters. -/
inductive CodePoint where
  | char (c : Char)
  | half (n : Fin 2048)
  deriving DecidableEq, Repr

namespace CodePoint

/-- The number of the first half. -/
def firstHalf : Nat := 0xd800

def toNat : CodePoint → Nat
  | char c => c.toNat
  | half n => firstHalf + n

def ofNat (n : Nat) : CodePoint :=
  if h : firstHalf ≤ n ∧ n - firstHalf < 2048 then half ⟨n - firstHalf, h.2⟩ else char (Char.ofNat n)

def isHalf : CodePoint → Bool
  | char _ => false
  | half _ => true

def char? : CodePoint → Option Char
  | char c => some c
  | half _ => none

/-- A code point inside quotes. -/
def quoted (quote : Char) : CodePoint → String
  | char c => quotedChar isPrintable quote c
  | half n => codeEscape (firstHalf + n)

end CodePoint

/-- The message about code points in a row that an encoding cannot write. -/
def unencodable (encoding reason : String) (start : Nat) (codes : List Nat) : String :=
  let what := match codes with
    | [code] => "character '" ++ codeEscape code ++ s!"' in position {start}"
    | _ => s!"characters in position {start}-{start + codes.length - 1}"
  s!"'{encoding}' codec can't encode {what}: " ++ reason

/-- A text that holds a half of a pair. -/
structure Torn where
  points : List CodePoint
  torn : points.any CodePoint.isHalf = true
  deriving DecidableEq, Repr

namespace Torn

/-- The text in quotes. -/
def quoted (t : Torn) : String :=
  let quote := quoteFor (t.points.contains (.char '\'')) (t.points.contains (.char '\"'))
  String.singleton quote ++ String.join (t.points.map (CodePoint.quoted quote)) ++
    String.singleton quote

/-- The text with the replacement character for every half. -/
def patched (t : Torn) : String :=
  String.ofList (t.points.map fun point => point.char?.getD '\ufffd')

/-- Why the text has no form in bytes: the halves in a row that come first. -/
def unencodable (t : Torn) : String :=
  let start := (t.points.takeWhile fun point => !point.isHalf).length
  Text.unencodable "utf-8" "surrogates not allowed" start
    (((t.points.drop start).takeWhile CodePoint.isHalf).map CodePoint.toNat)

end Torn

/-- A text, well formed or not. -/
inductive Loose where
  | whole (s : String)
  | torn (t : Torn)
  deriving DecidableEq, Repr

namespace Loose

instance : Coe String Loose := ⟨whole⟩

/-- The text of some code points. -/
def ofPoints (points : List CodePoint) : Loose :=
  if h : points.any CodePoint.isHalf = true then torn ⟨points, h⟩
  else whole (String.ofList (points.filterMap CodePoint.char?))

/-- The text as it can be shown, with the replacement character for every half. -/
def shown : Loose → String
  | whole s => s
  | torn t => t.patched

/-- Where characters are asked for, a text stands as it can be shown. -/
instance : CoeOut Loose String := ⟨shown⟩

end Loose

end Flowline.Text
