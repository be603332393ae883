import Flowline.Number.Decimal
import Flowline.Text.Blank
import Flowline.Text.DecimalDigit

/-!
Reading of numbers from text. A real literal is an optional sign, digits with an optional point among
them and an optional exponent, or a word for an infinity or for not a number. Digits may be of any
script, and a low line may stand between two of them.
-/

namespace Flowline.Number

/-- Every digit as the ASCII digit of the same value. -/
def asciiDigits (cs : List Char) : List Char :=
  cs.map fun c => match Text.digitValue? c with
    | some d => Char.ofNat (48 + d)
    | none => c

/-- The characters without their low lines, each of which must stand between two ASCII digits. The
first argument is the character before. -/
def dropSeparators : Option Char → List Char → Option (List Char)
  | previous, [] => if previous = some '_' then none else some []
  | previous, '_' :: rest =>
      if previous.any Text.isAsciiDigit then dropSeparators (some '_') rest else none
  | previous, c :: rest =>
      if previous = some '_' && !Text.isAsciiDigit c then none
      else (dropSeparators (some c) rest).map (c :: ·)

/-- An optional sign, true for minus, and the rest. -/
def splitSign : List Char → Bool × List Char
  | '-' :: rest => (true, rest)
  | '+' :: rest => (false, rest)
  | cs => (false, cs)

/-- The value of an integer literal: an optional sign and digits, with blanks around them allowed. -/
def intLiteral? (cs : List Char) : Option Int :=
  (dropSeparators none (asciiDigits (Text.trimChars cs))).bind fun plain =>
    let (negative, digits) := splitSign plain
    if digits.isEmpty || !digits.all Text.isAsciiDigit then none
    else
      let n : Int := Text.digitsValue digits
      some (if negative then -n else n)

/-- A signed row of ASCII digits and nothing else. -/
def exponentValue? (cs : List Char) : Option Int :=
  let (negative, digits) := splitSign cs
  if digits.isEmpty || !digits.all Text.isAsciiDigit then none
  else
    let n : Int := Text.digitsValue digits
    some (if negative then -n else n)

/-- The exponent after its mark, zero if there is nothing left. -/
def exponentPart? : List Char → Option Int
  | [] => some 0
  | c :: rest => if c = 'e' || c = 'E' then exponentValue? rest else none

/-- An unsigned decimal number with an optional point and an optional exponent. -/
def unsignedDecimal? (negative : Bool) (cs : List Char) : Option Binary64 :=
  let whole := cs.takeWhile Text.isAsciiDigit
  let afterWhole := cs.dropWhile Text.isAsciiDigit
  let (places, rest) := match afterWhole with
    | '.' :: rest => (rest.takeWhile Text.isAsciiDigit, rest.dropWhile Text.isAsciiDigit)
    | rest => ([], rest)
  if whole.isEmpty && places.isEmpty then none
  else (exponentPart? rest).map fun e =>
    Binary64.ofDecimal negative (Text.digitsValue (whole ++ places)) (e - places.length)

/-- The value of a real literal that has no blanks around it. -/
def realLiteral? (cs : List Char) : Option Binary64 :=
  (dropSeparators none (asciiDigits cs)).bind fun plain =>
    let (negative, unsigned) := splitSign plain
    let word := String.ofList (unsigned.map Char.toLower)
    if word = "inf" || word = "infinity" then some (.infinite negative)
    else if word = "nan" then some .nan
    else unsignedDecimal? negative unsigned

/-- The value of a real literal with any blanks around it. -/
def realText? (s : String) : Option Binary64 := realLiteral? (Text.trimChars s.toList)

end Flowline.Number
