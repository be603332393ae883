import Flowline.Number.Power
import Flowline.Number.Rounding

/-!
Binary64 numbers, held exactly: a sign, a significand below `2 ^ 53` and an exponent counted from the
least power `2 ^ (-1074)`, or an infinity, or not a number. Every operation computes its exact result
and rounds it once, to the nearest number with ties to the even significand.
-/

namespace Flowline

/-- A significand and an exponent that a binary64 number can hold. The leading bit is set unless the
exponent is the least one, so that each magnitude has one such pair. -/
def Binary64.Canonical (significand exponent : Nat) : Prop :=
  significand < Number.twoTo 53 ∧ (exponent = 0 ∨ Number.twoTo 52 ≤ significand) ∧ exponent ≤ 2045

instance (significand exponent : Nat) : Decidable (Binary64.Canonical significand exponent) :=
  inferInstanceAs (Decidable (_ ∧ _))

/-- A binary64 number. The magnitude of a finite one is `significand * 2 ^ (exponent - 1074)`. -/
inductive Binary64 where
  | nan
  | infinite (negative : Bool)
  | finite (negative : Bool) (significand exponent : Nat)
      (canonical : Binary64.Canonical significand exponent)
  deriving DecidableEq

namespace Binary64

/-- A magnitude is an exact multiple of this fraction of one. -/
def unitsPerOne : Nat := Number.twoTo 1074

/-- The number nearest to `num / den` units, infinite beyond the greatest finite one. -/
def ofUnits (negative : Bool) (num den : Nat) : Binary64 :=
  let exponent := Nat.log2 (num / den) - 52
  let significand := Number.roundHalfEven num (den * Number.twoTo exponent)
  let carried := significand == Number.twoTo 53
  let significand := if carried then Number.twoTo 52 else significand
  let exponent := if carried then exponent + 1 else exponent
  if h : Canonical significand exponent then finite negative significand exponent h
  else infinite negative

/-- The number nearest to the quotient `num / den`. -/
def ofRatio (negative : Bool) (num den : Nat) : Binary64 :=
  ofUnits negative (num * unitsPerOne) den

/-- Zero, with a sign. -/
def zeroOf (negative : Bool) : Binary64 := finite negative 0 0 (by decide)

def zero : Binary64 := zeroOf false

instance : Inhabited Binary64 := ⟨zero⟩

/-- The number nearest to `digits * 10 ^ exponent`. A decimal far outside the range is not multiplied
out: it is infinite or zero whatever its digits are. -/
def ofDecimal (negative : Bool) (digits : Nat) (exponent : Int) : Binary64 :=
  let magnitude := exponent + Number.digitCount digits
  if digits = 0 then zeroOf negative
  else if magnitude > 400 then infinite negative
  else if magnitude < -400 then zeroOf negative
  else match exponent with
    | .ofNat e => ofRatio negative (digits * Number.tenTo e) 1
    | .negSucc e => ofRatio negative digits (Number.tenTo (e + 1))

/-- The number nearest to an integer. -/
def ofInt (n : Int) : Binary64 := ofRatio (n < 0) n.natAbs 1

def isNaN : Binary64 → Bool
  | nan => true
  | _ => false

def isFinite : Binary64 → Bool
  | finite .. => true
  | _ => false

/-- The sign bit; a negative zero has it too. -/
def isNegative : Binary64 → Bool
  | nan => false
  | infinite negative => negative
  | finite negative .. => negative

/-- The magnitude of a finite number in units, zero for any other. -/
def units : Binary64 → Nat
  | finite _ significand exponent _ => significand * Number.twoTo exponent
  | _ => 0

/-- The signed value of a finite number in units. -/
def signedUnits (x : Binary64) : Int := if x.isNegative then -(x.units : Int) else x.units

/-- The order of the numbers; not a number is in no order with anything. -/
def le : Binary64 → Binary64 → Bool
  | nan, _ => false
  | _, nan => false
  | infinite true, _ => true
  | _, infinite false => true
  | infinite false, _ => false
  | _, infinite true => false
  | x@(finite ..), y@(finite ..) => x.signedUnits ≤ y.signedUnits

/-- Numeric equality: the two zeros are equal and not a number differs from itself. -/
def eqv (x y : Binary64) : Bool := x.le y && y.le x

def lt (x y : Binary64) : Bool := x.le y && !y.le x

/-- The nearest number to a signed count of units; `negativeZero` tells the sign of a zero result. -/
def ofSignedUnits (n : Int) (negativeZero : Bool) : Binary64 :=
  if n = 0 then zeroOf negativeZero else ofUnits (n < 0) n.natAbs 1

protected def add : Binary64 → Binary64 → Binary64
  | nan, _ => nan
  | _, nan => nan
  | infinite a, infinite b => if a = b then infinite a else nan
  | infinite a, _ => infinite a
  | _, infinite b => infinite b
  | x@(finite ..), y@(finite ..) =>
      ofSignedUnits (x.signedUnits + y.signedUnits) (x.isNegative && y.isNegative)

protected def mul : Binary64 → Binary64 → Binary64
  | nan, _ => nan
  | _, nan => nan
  | x@(finite ..), y@(finite ..) =>
      ofUnits (x.isNegative != y.isNegative) (x.units * y.units) unitsPerOne
  | x, y =>
      if (x.isFinite && x.units = 0) || (y.isFinite && y.units = 0) then nan
      else infinite (x.isNegative != y.isNegative)

instance : Add Binary64 := ⟨Binary64.add⟩
instance : Mul Binary64 := ⟨Binary64.mul⟩

/-- The integer part, toward zero; `none` for an infinity or not a number. -/
def truncate? : Binary64 → Option Int
  | x@(finite negative ..) =>
      let whole : Int := x.units / unitsPerOne
      some (if negative then -whole else whole)
  | _ => none

/-- Whether a finite number is a whole one. -/
def isWhole (x : Binary64) : Bool := x.isFinite && x.units % unitsPerOne = 0

/-- The part after the point, with the number's sign. -/
def fraction (x : Binary64) : Binary64 := ofUnits x.isNegative (x.units % unitsPerOne) 1

end Binary64

end Flowline
