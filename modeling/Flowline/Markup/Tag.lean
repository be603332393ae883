import Flowline.Number.Reading
import Flowline.Text.Torn

/-!
Tags of nodes, and the tag that a plain scalar has by its text: numbers, truth values, dates and the
words for nothing are told from texts by how they are written.
-/

namespace Flowline.Markup

/-- What kind of value a node writes. -/
inductive Tag where
  | null
  | bool
  | int
  | real
  | binary
  | timestamp
  | orderedMapping
  | pairs
  | set
  | text
  | sequence
  | mapping
  | merge
  | default
  | other (name : String)
  deriving DecidableEq, Repr

namespace Tag

/-- The name before those of the tags of the markup itself. -/
def standard : String := "tag:yaml.org,2002:"

def standardNames : List (String × Tag) :=
  [("null", null), ("bool", bool), ("int", int), ("float", real), ("binary", binary),
    ("timestamp", timestamp), ("omap", orderedMapping), ("pairs", pairs), ("set", set),
    ("str", text), ("seq", sequence), ("map", mapping), ("merge", merge), ("value", default)]

def ofName (name : String) : Tag :=
  ((standardNames.find? fun entry => standard ++ entry.1 = name).map (·.2)).getD (other name)

/-! ## Plain scalars -/

def isDigitOrLow (c : Char) : Bool := c.isDigit || c = '_'

def isOctalOrLow (c : Char) : Bool := ('0' ≤ c && c ≤ '7') || c = '_'

def isHexOrLow (c : Char) : Bool :=
  c.isDigit || ('a' ≤ c && c ≤ 'f') || ('A' ≤ c && c ≤ 'F') || c = '_'

/-- Whether characters are at least one, all of a class. -/
def isRow (p : Char → Bool) (cs : List Char) : Bool := !cs.isEmpty && cs.all p

/-- The words for truth and falsehood. -/
def boolWords : List String :=
  ["yes", "Yes", "YES", "no", "No", "NO", "true", "True", "TRUE", "false", "False", "FALSE",
    "on", "On", "ON", "off", "Off", "OFF"]

/-- The words for nothing. -/
def nullWords : List String := ["", "~", "null", "Null", "NULL"]

/-- Minutes or seconds between colons. -/
def isSixtieth (part : List Char) : Bool :=
  match part with
  | [c] => c.isDigit
  | [tens, c] => '0' ≤ tens && tens ≤ '5' && c.isDigit
  | _ => false

/-- Whether characters are numbers with colons between, of which the first one starts with a digit of
a class. -/
def isSexagesimal (first : Char → Bool) (cs : List Char) : Bool :=
  match ((String.ofList cs).splitOn ":").map String.toList with
  | (c :: whole) :: parts =>
      first c && whole.all isDigitOrLow && !parts.isEmpty && parts.all isSixtieth
  | _ => false

/-- Whether characters are nothing, or an exponent with its sign. -/
def isExponent (cs : List Char) : Bool :=
  match cs with
  | [] => true
  | mark :: sign :: digits =>
      (mark = 'e' || mark = 'E') && (sign = '-' || sign = '+') && isRow Char.isDigit digits
  | _ => false

/-- Whether characters without a sign are a number with a point. -/
def isPointed (unsigned : List Char) : Bool :=
  match unsigned.dropWhile isDigitOrLow with
  | '.' :: rest =>
      (unsigned.head?).any Char.isDigit && isExponent (rest.dropWhile isDigitOrLow)
  | _ => false

/-- Whether characters are a number with a point before its digits. -/
def isFraction (cs : List Char) : Bool :=
  match cs with
  | '.' :: c :: rest => c.isDigit && isExponent (rest.dropWhile isDigitOrLow)
  | _ => false

/-- Whether characters without a sign are a number with colons and a point. -/
def isPointedSexagesimal (unsigned : List Char) : Bool :=
  match unsigned.dropWhile (· ≠ '.') with
  | '.' :: rest =>
      rest.all isDigitOrLow && isSexagesimal Char.isDigit (unsigned.takeWhile (· ≠ '.'))
  | _ => false

def isReal (cs : List Char) : Bool :=
  let unsigned := (Number.splitSign cs).2
  isPointed unsigned || isFraction cs || isPointedSexagesimal unsigned ||
    [".inf", ".Inf", ".INF"].contains (String.ofList unsigned) ||
    [".nan", ".NaN", ".NAN"].contains (String.ofList cs)

def isInt (cs : List Char) : Bool :=
  match (Number.splitSign cs).2 with
  | ['0'] => true
  | '0' :: 'b' :: digits => isRow (fun c => c = '0' || c = '1' || c = '_') digits
  | '0' :: 'x' :: digits => isRow isHexOrLow digits
  | '0' :: digits => isRow isOctalOrLow digits
  | unsigned@(c :: rest) =>
      c.isDigit && (rest.all isDigitOrLow || isSexagesimal Char.isDigit unsigned)
  | [] => false

end Tag

/-! ## Dates and times -/

/-- A date and a time as they are written. The time is an hour, a minute and a second with their
fraction; the zone is a sign with hours and minutes, or neither for the zone of Greenwich. -/
structure Stamp where
  year : List Char
  month : List Char
  day : List Char
  time : Option (List Char × List Char × List Char × List Char)
  zone : Option (Option (Bool × List Char × List Char))
  deriving DecidableEq, Repr

namespace Stamp

/-- Between some and so many digits, as many as there are. -/
def digits? (least most : Nat) (cs : List Char) : Option (List Char × List Char) :=
  let row := (cs.take most).takeWhile Char.isDigit
  if row.length < least then none else some (row, cs.drop row.length)

def mark? (c : Char) (cs : List Char) : Option (List Char) :=
  if cs.head? = some c then some cs.tail else none

def isSpace (c : Char) : Bool := c = ' ' || c = '\t'

/-- The zone of a time, and nothing after it. -/
def zone? (cs : List Char) : Option (Option (Option (Bool × List Char × List Char))) :=
  match cs with
  | [] => some none
  | _ => match cs.dropWhile isSpace with
    | ['Z'] => some (some none)
    | sign :: rest =>
        if sign ≠ '-' && sign ≠ '+' then none
        else do
          let (hours, rest) ← digits? 1 2 rest
          match rest with
          | [] => return some (some (sign = '-', hours, []))
          | ':' :: rest => do
              let (minutes, rest) ← digits? 2 2 rest
              if rest.isEmpty then return some (some (sign = '-', hours, minutes)) else none
          | _ => none
    | [] => none

/-- The time after a date, and nothing after it. -/
def time? (cs : List Char) : Option ((List Char × List Char × List Char × List Char) ×
    Option (Option (Bool × List Char × List Char))) := do
  let afterGap ← match cs with
    | c :: rest =>
        if c = 'T' || c = 't' then some rest
        else if isSpace c then some (rest.dropWhile isSpace)
        else none
    | [] => none
  let (hour, rest) ← digits? 1 2 afterGap
  let (minute, rest) ← digits? 2 2 (← mark? ':' rest)
  let (second, rest) ← digits? 2 2 (← mark? ':' rest)
  let (fraction, rest) := match rest with
    | '.' :: rest => (rest.takeWhile Char.isDigit, rest.dropWhile Char.isDigit)
    | rest => ([], rest)
  return ((hour, minute, second, fraction), ← zone? rest)

/-- A date, with or without a time. -/
def read? (cs : List Char) : Option Stamp := do
  let (year, rest) ← digits? 4 4 cs
  let (month, rest) ← digits? 1 2 (← mark? '-' rest)
  let (day, rest) ← digits? 1 2 (← mark? '-' rest)
  match rest with
  | [] => return ⟨year, month, day, none, none⟩
  | _ =>
      let (time, zone) ← time? rest
      return ⟨year, month, day, some time, zone⟩

/-- Whether a plain scalar is a date: without a time it has two digits for month and day. -/
def isPlain (stamp : Stamp) : Bool :=
  stamp.time.isSome || (stamp.month.length = 2 && stamp.day.length = 2)

end Stamp

namespace Tag

/-- The characters without a line break at the end, unless there is nothing else. -/
def dropFinalBreak (cs : List Char) : List Char :=
  if 1 < cs.length && cs.getLast? = some '\n' then cs.dropLast else cs

/-- The tag of a scalar that has none and no quotes. -/
def ofPlain (text : String) : Tag :=
  let cs := dropFinalBreak text.toList
  let text := String.ofList cs
  if boolWords.contains text then bool
  else if isReal cs then real
  else if isInt cs then int
  else if text = "<<" then merge
  else if nullWords.contains text then null
  else if (Stamp.read? cs).any Stamp.isPlain then timestamp
  else if text = "=" then default
  else if ["!", "&", "*"].contains text then other (standard ++ "yaml")
  else .text

/-- The tag of a scalar by its text, where the text tells it. -/
def ofScalar : Text.Loose → Tag
  | .whole s => ofPlain s
  | .torn _ => text

end Tag

end Flowline.Markup
