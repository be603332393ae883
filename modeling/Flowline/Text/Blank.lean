/-!
Blank characters and the trimming of text. A blank is a white space or a separator of the Unicode
character database, or one of the four information separators.
-/

namespace Flowline.Text

/-- Whether a character counts as white space. -/
def isBlank (c : Char) : Bool :=
  let n := c.toNat
  (0x09 ≤ n && n ≤ 0x0d) || (0x1c ≤ n && n ≤ 0x20) || n == 0x85 || n == 0xa0 || n == 0x1680 ||
    (0x2000 ≤ n && n ≤ 0x200a) || n == 0x2028 || n == 0x2029 || n == 0x202f || n == 0x205f ||
    n == 0x3000

/-- Whether a character is one of the four information separators, which are no white space in
Unicode. -/
def isSeparator (c : Char) : Bool := 0x1c ≤ c.toNat && c.toNat ≤ 0x1f

/-- A list of characters without those of some kind at its two ends. -/
def stripChars (isPadding : Char → Bool) (cs : List Char) : List Char :=
  ((cs.dropWhile isPadding).reverse.dropWhile isPadding).reverse

/-- A list of characters without the blanks at its two ends. -/
def trimChars (cs : List Char) : List Char := stripChars isBlank cs

/-- A text without the blanks at its two ends. -/
def trim (s : String) : String := String.ofList (trimChars s.toList)

end Flowline.Text
