import Flowline.Markup.Cursor
import Flowline.Number.Limits
import Flowline.Number.Reading
import Flowline.Value.Basic

/-!
Reading of JSON: a value with blanks around it and nothing else. Besides the numbers of the standard
the words for not a number and for the infinities are read. Of several members of one name the last
one holds.
-/

namespace Flowline.Json

def isSpace (c : Char) : Bool := c = ' ' || c = '\t' || c = '\n' || c = '\r'

def skipSpaces (cs : List Char) : List Char := cs.dropWhile isSpace

/-- What is left after a word. -/
def afterWord? (word : String) (cs : List Char) : Option (List Char) :=
  if word.toList.isPrefixOf cs then some (cs.drop word.length) else none

/-! ## Text -/

def simpleEscape? : Char → Option Char
  | '"' => some '"'
  | '\\' => some '\\'
  | '/' => some '/'
  | 'b' => some '\x08'
  | 'f' => some '\x0c'
  | 'n' => some '\n'
  | 'r' => some '\r'
  | 't' => some '\t'
  | _ => none

/-- The code unit that four hexadecimal digits write. -/
def codeUnit? (cs : List Char) : Option (Nat × List Char) :=
  let digits := cs.take 4
  if digits.length = 4 && digits.all Markup.isHexDigit then
    some (Markup.hexValue digits, cs.drop 4)
  else none

def isHighSurrogate (n : Nat) : Bool := 0xd800 ≤ n && n ≤ 0xdbff

def isLowSurrogate (n : Nat) : Bool := 0xdc00 ≤ n && n ≤ 0xdfff

/-- The character of a code unit; half of a pair that stands alone is none, and is replaced. -/
def unitChar (n : Nat) : Char :=
  if isHighSurrogate n || isLowSurrogate n then '\ufffd' else Char.ofNat n

/-- The character of an escape that gives a code unit, and of a second one that makes a pair with
it. -/
def codeEscape? (cs : List Char) : Option (Char × List Char) := do
  let (high, rest) ← codeUnit? cs
  match rest with
  | '\\' :: 'u' :: more => match codeUnit? more with
    | some (low, after) =>
        if isHighSurrogate high && isLowSurrogate low then
          return (Char.ofNat (0x10000 + (high - 0xd800) * 0x400 + (low - 0xdc00)), after)
        else return (unitChar high, rest)
    | none => return (unitChar high, rest)
  | _ => return (unitChar high, rest)

/-- The characters up to a quote, which is passed over too. -/
def chars? : Nat → List Char → Option (List Char × List Char)
  | 0, _ => none
  | n + 1, cs =>
      match cs with
      | [] => none
      | '"' :: rest => some ([], rest)
      | '\\' :: 'u' :: rest => do
          let (c, rest) ← codeEscape? rest
          let (more, rest) ← chars? n rest
          return (c :: more, rest)
      | '\\' :: e :: rest => do
          let c ← simpleEscape? e
          let (more, rest) ← chars? n rest
          return (c :: more, rest)
      | c :: rest =>
          if c.toNat < 0x20 || c = '\\' then none
          else do
            let (more, rest) ← chars? n rest
            return (c :: more, rest)

/-- A text in quotes. -/
def text? (cs : List Char) : Option (String × List Char) :=
  match cs with
  | '"' :: rest => do
      let (chars, rest) ← chars? (rest.length + 1) rest
      return (String.ofList chars, rest)
  | _ => none

/-! ## Numbers -/

/-- The digits before the point: zero, or digits that do not start with it. -/
def wholeDigits? (cs : List Char) : Option (List Char × List Char) :=
  match cs with
  | '0' :: rest => some (['0'], rest)
  | c :: _ => if c.isDigit then some (cs.takeWhile Char.isDigit, cs.dropWhile Char.isDigit) else none
  | [] => none

/-- The digits after a point, none if there is no point with digits after it. -/
def fractionDigits (cs : List Char) : List Char × List Char :=
  match cs with
  | '.' :: rest =>
      let digits := rest.takeWhile Char.isDigit
      if digits.isEmpty then ([], cs) else (digits, rest.drop digits.length)
  | _ => ([], cs)

/-- An exponent, if there is one with digits. -/
def exponent (cs : List Char) : Option Int × List Char :=
  match cs with
  | e :: rest =>
      if e ≠ 'e' && e ≠ 'E' then (none, cs)
      else
        let (negative, unsigned) := Number.splitSign rest
        let digits := unsigned.takeWhile Char.isDigit
        if digits.isEmpty then (none, cs)
        else
          let size : Int := Text.digitsValue digits
          (some (if negative then -size else size), unsigned.drop digits.length)
  | [] => (none, [])

/-- A number, real if it has a point or an exponent. -/
def number? (cs : List Char) : Option (Value × List Char) := do
  let (negative, unsigned) := match cs with
    | '-' :: rest => (true, rest)
    | _ => (false, cs)
  let (whole, rest) ← wholeDigits? unsigned
  let (fraction, rest) := fractionDigits rest
  let (power, rest) := exponent rest
  if fraction.isEmpty && power.isNone then
    if Number.maxDigits < whole.length then none
    else
      let size : Int := Text.digitsValue whole
      return (.int (if negative then -size else size), rest)
  else
    return (.real (.ofDecimal negative (Text.digitsValue (whole ++ fraction))
      (power.getD 0 - fraction.length)), rest)

/-! ## Values -/

def words : List (String × Value) :=
  [("null", .null), ("true", .bool true), ("false", .bool false), ("NaN", .real .nan),
    ("Infinity", .real (.infinite false)), ("-Infinity", .real (.infinite true))]

/-- A word that is a value. -/
def word? (cs : List Char) : Option (Value × List Char) :=
  words.findSome? fun (word, v) => (afterWord? word cs).map (v, ·)

mutual

/-- A value at the start of characters; the first argument bounds how many more steps it may take. -/
def value? : Nat → List Char → Option (Value × List Char)
  | 0, _ => none
  | n + 1, cs =>
      match cs with
      | '"' :: _ => (text? cs).map fun (s, rest) => (.text s, rest)
      | '[' :: rest =>
          let rest := skipSpaces rest
          if rest.head? = some ']' then some (.list [], rest.tail)
          else (items? n rest).map fun (items, rest) => (.list items, rest)
      | '\x7b' :: rest =>
          let rest := skipSpaces rest
          if rest.head? = some '\x7d' then some (.map [], rest.tail)
          else (members? n rest).map fun (members, rest) => (.map (Entries.ofList members), rest)
      | _ => match word? cs with
        | some found => some found
        | none => number? cs

/-- The items of a list and the bracket after them. -/
def items? : Nat → List Char → Option (List Value × List Char)
  | 0, _ => none
  | n + 1, cs => do
      let (item, rest) ← value? n cs
      match skipSpaces rest with
      | ']' :: rest => return ([item], rest)
      | ',' :: rest => do
          let (items, rest) ← items? n (skipSpaces rest)
          return (item :: items, rest)
      | _ => none

/-- The members of an object and the brace after them. -/
def members? : Nat → List Char → Option (List (Value × Value) × List Char)
  | 0, _ => none
  | n + 1, cs => do
      let (name, rest) ← text? cs
      match skipSpaces rest with
      | ':' :: rest => do
          let (value, rest) ← value? n (skipSpaces rest)
          match skipSpaces rest with
          | '\x7d' :: rest => return ([(.text name, value)], rest)
          | ',' :: rest => do
              let (members, rest) ← members? n (skipSpaces rest)
              return ((.text name, value) :: members, rest)
          | _ => none
      | _ => none

end

/-- The value that a text writes. -/
def read? (s : String) : Option Value := do
  let cs := skipSpaces s.toList
  let (value, rest) ← value? (cs.length + 1) cs
  if (skipSpaces rest).isEmpty then return value else none

end Flowline.Json
