import Flowline.Number.Power

/-!
Limits on the numbers that texts and escapes can write, with the messages about numbers beyond them.
-/

namespace Flowline.Number

/-- A decimal integer with more digits than these is not read, and no integer is written with more. -/
def maxDigits : Nat := 4300

def longNumber (digits : Nat) : String :=
  s!"Exceeds the limit ({maxDigits} digits) for integer string conversion: " ++
    s!"value has {digits} digits; use sys.set_int_max_str_digits() to increase the limit"

/-- Whether an integer has so few digits that it can be written. -/
def isWritable (n : Int) : Bool := n.natAbs < tenTo maxDigits

/-- The message about an integer that cannot be written. -/
def unwritable : String :=
  s!"Exceeds the limit ({maxDigits} digits) for integer string conversion; " ++
    "use sys.set_int_max_str_digits() to increase the limit"

/-- Code points from here on do not fit a machine integer. -/
def codeLimit : Nat := twoTo 31

def intTooLarge : String := "Python int too large to convert to C int"

end Flowline.Number
