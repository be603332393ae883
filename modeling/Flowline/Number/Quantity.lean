import Flowline.Number.Decimal
import Flowline.Value.Basic

/-!
Quantities: numbers of seconds that are kept as they are given, as an integer or as a real number.
-/

namespace Flowline

inductive Quantity where
  | int (n : Int)
  | real (x : Binary64)
  deriving DecidableEq

namespace Quantity

/-- Whether a quantity is below zero; a negative zero is not. -/
def isNegative : Quantity → Bool
  | int n => n < 0
  | real x => x.lt .zero

/-- Whether a quantity is above zero and no more than a limit. -/
def isWithin (limit : Nat) : Quantity → Bool
  | int n => 0 < n && n ≤ limit
  | real x => Binary64.zero.lt x && x.le (.ofInt limit)

/-- A quantity rounded to two places after the point. -/
def twoPlaces : Quantity → String
  | int n => (Binary64.ofInt n).fixed 2
  | real x => x.fixed 2

def toValue : Quantity → Value
  | int n => .int n
  | real x => .real x

end Quantity

end Flowline
