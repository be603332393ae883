import Flowline.Number.Decimal

/-!
Notations of numbers with a chosen precision: with a fixed number of places, with an exponent, and the
general one, which is the shorter-ranged of the two. All of them round the exact value.
-/

namespace Flowline.Binary64

/-- The digits of a magnitude, one before the point and a number of places after it, and the exponent of
the first one. -/
def significantDigits (units places : Nat) : Nat × Int :=
  if units = 0 then (0, 0)
  else
    let leading := leadingExponentOf units unitsPerOne
    let (num, den) := scaled units unitsPerOne (leading - places)
    let digits := Number.roundHalfEven num den
    if digits = Number.tenTo (places + 1) then (Number.tenTo places, leading + 1) else (digits, leading)

/-- A point is put after a whole number only if it is asked for. -/
def withPoint (pointed : Bool) (whole fraction : List Char) : String :=
  String.ofList whole ++ (if fraction.isEmpty && !pointed then "" else "." ++ String.ofList fraction)

/-- A magnitude with a fixed number of places. -/
def fixedNotation (pointed : Bool) (places units : Nat) : String :=
  fixedDigits units places ++ (if places = 0 && pointed then "." else "")

def exponentNotation (pointed : Bool) (places units : Nat) : String :=
  let (digits, exponent) := significantDigits units places
  let chars := Nat.toDigits 10 digits
  let padded := chars ++ List.replicate (places + 1 - chars.length) '0'
  withPoint pointed (padded.take 1) (padded.drop 1) ++ exponentText "e" exponent

/-- A decimal without the zeros at the end of its fraction. -/
def withoutFinalZeros (s : String) : String :=
  let whole := s.toList.takeWhile (· ≠ '.')
  let fraction := (s.toList.dropWhile (· ≠ '.')).drop 1
  withPoint false whole (fraction.reverse.dropWhile (· = '0')).reverse

/-- A magnitude with a number of digits: with an exponent where that is below -4 or there are too few
digits to reach the point. -/
def generalNotation (full : Bool) (precision units : Nat) : String :=
  let count := max 1 precision
  let (digits, exponent) := significantDigits units (count - 1)
  if -4 ≤ exponent && exponent < count then
    let text := fixedNotation full (count - 1 - exponent).toNat units
    if full then text else withoutFinalZeros text
  else
    let chars := Nat.toDigits 10 digits
    let fraction := chars.drop 1
    let kept := if full then fraction else (fraction.reverse.dropWhile (· = '0')).reverse
    withPoint full (chars.take 1) kept ++ exponentText "e" exponent

/-- A number in one of the notations, without its sign. -/
def unsigned (format : Nat → String) : Binary64 → String
  | nan => "nan"
  | infinite _ => "inf"
  | x@(finite ..) => format x.units

end Flowline.Binary64
