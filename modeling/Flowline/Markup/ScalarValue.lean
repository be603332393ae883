import Flowline.Markup.Tag
import Flowline.Markup.Token
import Flowline.Number.Limits
import Flowline.Text.LetterCase
import Flowline.Value.Literal

/-!
The values that scalars write, by their tag. What a text of a tag must look like is judged here once
more, since a tag can be given to any text.
-/

namespace Flowline.Markup.ScalarValue

def fail {α : Type} (kind : GeneralErrorKind) (text : String) : Except Fault α :=
  .error (.failure (.general kind text))

def invalid {α : Type} (text : String) : Except Fault α := .error (.invalid .values text)

/-! ## Integers -/

/-- The value of a digit in a base of at most sixteen. -/
def digitIn? (base : Nat) (c : Char) : Option Nat :=
  let digit :=
    if c.isDigit then some (c.toNat - 48)
    else if 'a' ≤ c.toLower && c.toLower ≤ 'f' then some (c.toLower.toNat - 87)
    else none
  digit.filter (· < base)

/-- The mark that may stand before the digits of a base, in either case. -/
def baseMark? : Nat → Option Char
  | 2 => some 'b'
  | 8 => some 'o'
  | 16 => some 'x'
  | _ => none

/-- The digits after the mark of their base, if there is one. -/
def dropBaseMark (base : Nat) (cs : List Char) : List Char :=
  match cs, baseMark? base with
  | '0' :: c :: rest, some mark => if c.toLower = mark then rest else cs
  | _, _ => cs

/-- An integer in a base, with blanks around it and a sign before it allowed. -/
def intIn (base : Nat) (cs : List Char) : Except Fault Int :=
  let trimmed := Text.trimChars (Number.asciiDigits cs)
  let (negative, unsigned) := Number.splitSign trimmed
  let digits := dropBaseMark base unsigned
  match digits.mapM (digitIn? base) with
  | none | some [] =>
      fail .value s!"invalid literal for int() with base {base}: {Text.quoted (String.ofList cs)}"
  | some ds =>
      if base = 10 && Number.maxDigits < ds.length then fail .value (Number.longNumber ds.length)
      else
        let n := ds.foldl (fun n d => base * n + d) 0
        .ok (if negative then -(n : Int) else n)

/-- Numbers with colons between them as one of the last place, sixty of which make one of the place
before. -/
def sexagesimal (parts : List Int) : Int := parts.foldl (fun n part => 60 * n + part) 0

/-- The parts of a text between its colons. -/
def colonParts (cs : List Char) : List (List Char) :=
  ((String.ofList cs).splitOn ":").map String.toList

def withoutLows (text : String) : List Char := text.toList.filter (· ≠ '_')

/-- The sign of a number and the rest of it, of which there must be something. -/
def signed (cs : List Char) : Except Fault (Bool × List Char) :=
  if cs.isEmpty then fail .index "string index out of range" else .ok (Number.splitSign cs)

def int (text : String) : Except Fault Value := do
  let (negative, unsigned) ← signed (withoutLows text)
  let n ← match unsigned with
    | [] => fail .index "string index out of range"
    | ['0'] => pure 0
    | '0' :: 'b' :: digits => intIn 2 digits
    | '0' :: 'x' :: digits => intIn 16 digits
    | '0' :: _ => intIn 8 unsigned
    | _ =>
        if unsigned.contains ':' then sexagesimal <$> (colonParts unsigned).mapM (intIn 10)
        else intIn 10 unsigned
  return .int (if negative then -n else n)

/-! ## Real numbers -/

def realPart (cs : List Char) : Except Fault Binary64 :=
  match Number.realText? (String.ofList cs) with
  | some x => .ok x
  | none => fail .value ("could not convert string to float: " ++ Text.quoted (String.ofList cs))

/-- The weight of a place that has so many places after it. -/
def placeWeight (places : Nat) : Except Fault Binary64 :=
  let weight := Binary64.ofInt (Nat.pow 60 places)
  if weight.isFinite then .ok weight else fail .overflow "int too large to convert to float"

/-- Numbers with colons between them, the last one first. -/
def realSexagesimal : Nat → Binary64 → List Binary64 → Except Fault Binary64
  | _, sum, [] => .ok sum
  | places, sum, part :: parts => do
      let weight ← placeWeight places
      realSexagesimal (places + 1) (sum + part * weight) parts

def negate (negative : Bool) (x : Binary64) : Binary64 :=
  Binary64.ofInt (if negative then -1 else 1) * x

def real (text : String) : Except Fault Value := do
  let (negative, unsigned) ← signed (Text.lower (String.ofList (withoutLows text))).toList
  let x ←
    if unsigned = ".inf".toList then pure (.infinite false)
    else if unsigned = ".nan".toList then pure .nan
    else if unsigned.contains ':' then do
      let parts ← (colonParts unsigned).mapM realPart
      realSexagesimal 0 .zero parts.reverse
    else realPart unsigned
  return .real (negate negative x)

/-! ## Truth values, bytes, dates -/

def bool (text : String) : Except Fault Value :=
  let word := Text.lower text
  if ["yes", "true", "on"].contains word then .ok (.bool true)
  else if ["no", "false", "off"].contains word then .ok (.bool false)
  else fail .key (Text.quoted word)

/-- The six bits that a character of the base 64 alphabet writes. -/
def sixBits? (c : Char) : Option Nat :=
  if 'A' ≤ c && c ≤ 'Z' then some (c.toNat - 65)
  else if 'a' ≤ c && c ≤ 'z' then some (c.toNat - 71)
  else if c.isDigit then some (c.toNat + 4)
  else if c = '+' then some 62
  else if c = '/' then some 63
  else none

/-- Bytes from characters of the base 64 alphabet; others are passed over. `filled` counts the
characters of the present four, of which `bits` are not yet in a byte, and `pads` the signs for
missing ones. The end of the four must be reached, by characters or by such signs. -/
def base64From (filled bits pads : Nat) : List Char → Option (List UInt8)
  | [] => if filled = 0 then some [] else none
  | '=' :: rest =>
      if 2 ≤ filled && 4 ≤ filled + (pads + 1) then some []
      else base64From filled bits (if 2 ≤ filled then pads + 1 else pads) rest
  | c :: rest => match sixBits? c with
      | none => base64From filled bits pads rest
      | some six =>
          if filled = 0 then base64From 1 six 0 rest
          else
            let wide := 64 * bits + six
            let spare := Number.twoTo (6 - 2 * filled)
            (base64From ((filled + 1) % 4) (wide % spare) 0 rest).map
              (UInt8.ofNat (wide / spare) :: ·)

def binary (text : String) : Except Fault Value :=
  if text.toList.any fun c => 127 < c.toNat then invalid "failed to convert base64 data into ascii"
  else match base64From 0 0 0 text.toList with
    | some bytes => .ok (.bytes bytes)
    | none => invalid "failed to decode base64 data"

def rangeError {α : Type} : Except Calendar.RangeError α → Except Fault α
  | .ok x => .ok x
  | .error e => fail .value e.message

/-- The microseconds that the digits of a fraction write. -/
def microseconds (fraction : List Char) : Nat :=
  Text.digitsValue ((fraction ++ List.replicate 6 '0').take 6)

/-- The offset of a zone in minutes; a day or more is too much. -/
def zoneOffset (negative : Bool) (hours minutes : List Char) : Except Calendar.RangeError Int :=
  let size : Int := 60 * Text.digitsValue hours + Text.digitsValue minutes
  let offset := if negative then -size else size
  if size < 1440 then .ok offset else .error (.offset (Calendar.offsetLength offset))

def stamp (s : Stamp) : Except Calendar.RangeError Value := do
  let date := Calendar.Date.of? (Text.digitsValue s.year) (Text.digitsValue s.month)
    (Text.digitsValue s.day)
  match s.time with
  | none => return .date (← date)
  | some (hour, minute, second, fraction) => do
      let offset ← match s.zone with
        | none => pure none
        | some none => pure (some 0)
        | some (some (negative, hours, minutes)) => some <$> zoneOffset negative hours minutes
      return .moment (← Calendar.Moment.of? (← date) (Text.digitsValue hour)
        (Text.digitsValue minute) (Text.digitsValue second) (microseconds fraction) offset)

def timestamp (text : String) : Except Fault Value :=
  match Stamp.read? (Tag.dropFinalBreak text.toList) with
  | none => fail .missingAttribute "'NoneType' object has no attribute 'groupdict'"
  | some s => rangeError (stamp s)

end ScalarValue

/-- The value of a scalar; only tags of scalars have one. With a half of a surrogate pair in it, it
writes a text or nothing. -/
def scalarValue (tag : Tag) (text : Text.Loose) : Except Fault Value :=
  match tag with
  | .null => .ok .null
  | .bool => ScalarValue.bool text.shown
  | .int => ScalarValue.int text.shown
  | .real => ScalarValue.real text.shown
  | .binary => ScalarValue.binary text.shown
  | .timestamp => ScalarValue.timestamp text.shown
  | .text => .ok (.ofLoose text)
  | _ => ScalarValue.invalid "could not determine a constructor for the tag"

end Flowline.Markup
