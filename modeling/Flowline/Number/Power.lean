/-!
Powers of the bases in which numbers are held and written.
-/

namespace Flowline.Number

def twoTo (exponent : Nat) : Nat := Nat.pow 2 exponent

def tenTo (exponent : Nat) : Nat := Nat.pow 10 exponent

end Flowline.Number
