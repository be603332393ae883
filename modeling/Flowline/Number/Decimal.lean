import Flowline.Number.Binary64

/-!
Decimal texts of binary64 numbers. The text of a number has the fewest digits that read back as that
number, the nearest such digits if there are several, and is positional unless the decimal exponent is
below -4 or at least 16. A text with a fixed number of places rounds the exact value.
-/

namespace Flowline

/-- A decimal: `digits * 10 ^ exponent`. -/
structure Decimal where
  digits : Nat
  exponent : Int
  deriving DecidableEq, Repr

namespace Decimal

/-- The decimal digits of the coefficient, leading digit first. -/
def digitChars (d : Decimal) : List Char := Nat.toDigits 10 d.digits

/-- The same decimal without up to `fuel` zeros at the end of its coefficient. -/
def dropZeros (d : Decimal) : Nat → Decimal
  | 0 => d
  | fuel + 1 =>
      if d.digits ≠ 0 && d.digits % 10 = 0 then dropZeros ⟨d.digits / 10, d.exponent + 1⟩ fuel else d

/-- The exponent of the leading digit. -/
def leadingExponent (d : Decimal) : Int := d.exponent + d.digitChars.length - 1

end Decimal

namespace Binary64

/-- The least `n` up to `fuel` with `den ≤ num * 10 ^ n`. -/
def zerosAfterPoint (num den : Nat) : Nat → Nat
  | 0 => 0
  | fuel + 1 => if den ≤ num then 0 else zerosAfterPoint (num * 10) den fuel + 1

/-- The exponent of the leading decimal digit of a positive quotient. -/
def leadingExponentOf (num den : Nat) : Int :=
  if den ≤ num then (Number.digitCount (num / den) : Int) - 1 else -(zerosAfterPoint num den 400 : Int)

/-- `num / den` divided by `10 ^ exponent`, as a quotient. -/
def scaled (num den : Nat) (exponent : Int) : Nat × Nat :=
  match exponent with
  | .ofNat e => (num, den * Number.tenTo e)
  | .negSucc e => (num * Number.tenTo (e + 1), den)

/-- The ends of the reals that round to a magnitude, in quarter units, and whether they do so too. -/
structure RoundingInterval where
  low : Nat
  high : Nat
  closed : Bool

def roundingInterval (significand exponent : Nat) : RoundingInterval :=
  let quarter := Number.twoTo exponent
  let middle := 4 * significand * quarter
  let below := if significand = Number.twoTo 52 && exponent ≠ 0 then quarter else 2 * quarter
  ⟨middle - below, middle + 2 * quarter, significand % 2 = 0⟩

/-- Whether `digits * 10 ^ exponent` rounds to the magnitude of the interval. -/
def RoundingInterval.contains (r : RoundingInterval) (digits : Nat) (exponent : Int) : Bool :=
  let (num, den) := match exponent with
    | .ofNat e => (digits * Number.tenTo e * (4 * unitsPerOne), 1)
    | .negSucc e => (digits * (4 * unitsPerOne), Number.tenTo (e + 1))
  if r.closed then r.low * den ≤ num && num ≤ r.high * den
  else r.low * den < num && num < r.high * den

/-- The first grid of decimals, from the coarsest on, with a neighbour of the magnitude that reads
back; of two such neighbours the nearer one. -/
def shortestFrom (r : RoundingInterval) (units : Nat) : Nat → Int → Decimal
  | 0, exponent =>
      let (num, den) := scaled units unitsPerOne exponent
      ⟨Number.roundHalfEven num den, exponent⟩
  | fuel + 1, exponent =>
      let (num, den) := scaled units unitsPerOne exponent
      let low := num / den
      let nearer := Number.roundHalfEven num den
      let other := if nearer = low then low + 1 else low
      if r.contains nearer exponent then ⟨nearer, exponent⟩
      else if r.contains other exponent then ⟨other, exponent⟩
      else shortestFrom r units fuel (exponent - 1)

/-- The decimal with the fewest digits that reads back as the magnitude of a finite number. -/
def shortest (significand exponent : Nat) : Decimal :=
  let units := significand * Number.twoTo exponent
  if units = 0 then ⟨0, 0⟩
  else (shortestFrom (roundingInterval significand exponent) units 17
    (leadingExponentOf units unitsPerOne)).dropZeros 17

/-- The digits of a decimal with its point, at least one digit on either side of it. -/
def positional (d : Decimal) : String :=
  let chars := d.digitChars
  match d.exponent with
  | .ofNat e => String.ofList (chars ++ List.replicate e '0') ++ ".0"
  | .negSucc e =>
      let places := e + 1
      let padded := List.replicate (places + 1 - chars.length) '0' ++ chars
      let whole := padded.length - places
      String.ofList (padded.take whole) ++ "." ++ String.ofList (padded.drop whole)

/-- An exponent with its sign and at least two digits. -/
def exponentText (mark : String) (e : Int) : String :=
  let sign := if e < 0 then "-" else "+"
  let digits := toString e.natAbs
  mark ++ sign ++ (if digits.length < 2 then "0" ++ digits else digits)

/-- One digit, the other digits after a point if there are any, and the exponent. -/
def scientific (d : Decimal) : String :=
  let mantissa := match d.digitChars with
    | [] => "0"
    | [c] => String.singleton c
    | c :: rest => String.singleton c ++ "." ++ String.ofList rest
  mantissa ++ exponentText "e" d.leadingExponent

def signText (negative : Bool) : String := if negative then "-" else ""

/-- The text of a number. -/
def text : Binary64 → String
  | nan => "nan"
  | infinite negative => signText negative ++ "inf"
  | finite negative significand exponent _ =>
      let d := shortest significand exponent
      let positionalRange := -4 ≤ d.leadingExponent && d.leadingExponent < 16
      signText negative ++ (if positionalRange then positional d else scientific d)

/-- The digits of a magnitude rounded to a number of places after the point. -/
def fixedDigits (units places : Nat) : String :=
  let rounded := Number.roundHalfEven (units * Number.tenTo places) unitsPerOne
  let chars := Nat.toDigits 10 rounded
  let padded := List.replicate (places + 1 - chars.length) '0' ++ chars
  let whole := padded.length - places
  let fraction := padded.drop whole
  String.ofList (padded.take whole) ++ (if fraction.isEmpty then "" else "." ++ String.ofList fraction)

/-- The text of a number with a fixed number of places after the point. -/
def fixed (places : Nat) : Binary64 → String
  | nan => "nan"
  | infinite negative => signText negative ++ "inf"
  | x@(finite negative ..) => signText negative ++ fixedDigits x.units places

end Binary64

end Flowline
