import Flowline.Failure
import Flowline.Number.Limits
import Flowline.Number.Notation
import Flowline.Text.DecimalDigit
import Flowline.Value.Literal

/-!
Message templates. A directive in a template starts with a percent sign and is filled with the next
argument, or with the one under its key. Directives are filled in order, and the first thing wrong, in
the template or in an argument, is the failure of the whole.
-/

namespace Flowline.Log.Template

/-! ## Directives -/

structure Flags where
  leftAligned : Bool
  signed : Bool
  blankSign : Bool
  alternate : Bool
  zeroFilled : Bool
  deriving DecidableEq, Repr

/-- A width or a precision: given in the template, or by an argument. -/
inductive Count where
  | fixed (n : Nat)
  | argument
  deriving DecidableEq, Repr

/-- What can be wrong with a directive by itself. -/
inductive Fault where
  | incompleteKey
  | incomplete
  | wideWidth
  | widePrecision
  deriving DecidableEq, Repr

/-- A directive up to the first thing wrong with it, or up to its conversion character, of which the
index in the template is known. -/
structure Directive where
  key : Option String
  flags : Flags
  width : Option Count
  precision : Option Count
  conversion : Except Fault (Char × Nat)

inductive Piece where
  | text (s : String)
  | percent
  | directive (d : Directive)

def noFlags : Flags := ⟨false, false, false, false, false⟩

def isFlag (c : Char) : Bool := "-+ #0".toList.contains c

def flagsOf (cs : List Char) : Flags :=
  ⟨cs.contains '-', cs.contains '+', cs.contains ' ', cs.contains '#', cs.contains '0'⟩

/-- The characters of a key up to the parenthesis that closes it; parentheses inside a key come in
pairs. -/
def keyChars? (depth : Nat) : List Char → Option (List Char)
  | [] => none
  | ')' :: rest => if depth = 0 then some [] else (keyChars? (depth - 1) rest).map (')' :: ·)
  | '(' :: rest => (keyChars? (depth + 1) rest).map ('(' :: ·)
  | c :: rest => (keyChars? depth rest).map (c :: ·)

/-- The greatest width and the greatest precision. -/
def maxWidth : Nat := Number.twoTo 63 - 1

def maxPrecision : Nat := Number.twoTo 31 - 1

/-- A count at the start of characters: a star or digits. Also the characters that it takes. -/
def countOf (cs : List Char) : Option Count × Nat :=
  match cs with
  | '*' :: _ => (some .argument, 1)
  | _ =>
      let digits := cs.takeWhile Text.isAsciiDigit
      if digits.isEmpty then (none, 0)
      else (some (.fixed (Text.digitsValue digits)), digits.length)

def exceeds (limit : Nat) : Option Count → Bool
  | some (.fixed n) => limit < n
  | _ => false

/-- A precision after its point; without a number it is zero. -/
def precisionOf (cs : List Char) : Option Count × Nat :=
  match cs with
  | '.' :: rest =>
      let (count, size) := countOf rest
      (some (count.getD (.fixed 0)), size + 1)
  | _ => (none, 0)

/-- A letter that tells the size of an argument, which has no effect. -/
def sizeMark (cs : List Char) : Nat :=
  match cs with
  | c :: _ => if c = 'h' || c = 'l' || c = 'L' then 1 else 0
  | [] => 0

/-- The directive after its key, and how many characters it takes. -/
def afterKey (index : Nat) (key : Option String) (cs : List Char) : Directive × Nat :=
  let flags := cs.takeWhile isFlag
  let rest := cs.drop flags.length
  let (width, widthSize) := countOf rest
  if exceeds maxWidth width then (⟨key, flagsOf flags, none, none, .error .wideWidth⟩, cs.length)
  else
    let rest := rest.drop widthSize
    let (precision, precisionSize) := precisionOf rest
    if exceeds maxPrecision precision then
      (⟨key, flagsOf flags, width, none, .error .widePrecision⟩, cs.length)
    else
      let rest := rest.drop precisionSize
      let mark := sizeMark rest
      let before := flags.length + widthSize + precisionSize + mark
      match rest.drop mark with
      | c :: _ => (⟨key, flagsOf flags, width, precision, .ok (c, index + before)⟩, before + 1)
      | [] => (⟨key, flagsOf flags, width, precision, .error .incomplete⟩, cs.length)

/-- The directive after a percent sign, and how many characters it takes. -/
def directiveOf (index : Nat) (cs : List Char) : Directive × Nat :=
  match cs with
  | '(' :: rest => match keyChars? 0 rest with
    | none => (⟨none, noFlags, none, none, .error .incompleteKey⟩, cs.length)
    | some key =>
        let size := key.length + 2
        let (directive, more) := afterKey (index + size) (some (String.ofList key)) (cs.drop size)
        (directive, size + more)
  | _ => afterKey index none cs

/-- The pieces of characters that start at an index; the first argument bounds their number. -/
def piecesFrom : Nat → Nat → List Char → List Piece
  | 0, _, _ => []
  | _, _, [] => []
  | n + 1, index, '%' :: '%' :: rest => .percent :: piecesFrom n (index + 2) rest
  | n + 1, index, '%' :: rest =>
      let (directive, size) := directiveOf (index + 1) rest
      .directive directive :: piecesFrom n (index + 1 + size) (rest.drop size)
  | n + 1, index, cs =>
      let plain := cs.takeWhile (· ≠ '%')
      .text (String.ofList plain) :: piecesFrom n (index + plain.length) (cs.drop plain.length)

def pieces (template : String) : List Piece :=
  piecesFrom (template.length + 1) 0 template.toList

/-! ## Arguments -/

def typeFailure (text : String) : Failure := .general .type text

def overflowFailure (text : String) : Failure := .general .overflow text

/-- Where directives take their arguments from: those that are left, and the value whose items can be
named by keys, if there is one. -/
structure Supply where
  pending : List Value
  keyed : Option Value

/-- A tuple gives its items; anything else is a single argument. -/
def Supply.of : Value → Supply
  | .tuple items => ⟨items, none⟩
  | v@(.map _) | v@(.list _) | v@(.bytes _) => ⟨[v], some v⟩
  | v => ⟨[v], none⟩

def leftOver : Failure := typeFailure "not all arguments converted during string formatting"

def next (s : Supply) : Except Failure (Value × Supply) :=
  match s.pending with
  | v :: rest => .ok (v, { s with pending := rest })
  | [] => .error (typeFailure "not enough arguments for format string")

/-- The item of a value under a key. -/
def item (key : String) : Value → Except Failure Value
  | .map entries => match Entries.field? entries key with
    | some v => .ok v
    | none => .error (.ofMessage (.general .key) key)
  | .bytes _ => .error (typeFailure "byte indices must be integers or slices, not str")
  | v => .error (typeFailure s!"{v.kindName} indices must be integers or slices, not str")

/-- The arguments after a key is read: the item under it alone. -/
def byKey (s : Supply) (key : String) : Except Failure Supply :=
  match s.keyed with
  | none => .error (typeFailure "format requires a mapping")
  | some v => (item key v).map fun found => { s with pending := [found] }

/-- A count that an argument gives. -/
def countArgument (limit : Nat) (tooLarge : String) (s : Supply) : Except Failure (Int × Supply) := do
  let (v, s) ← next s
  match v.asInt? with
  | none => .error (typeFailure "* wants int")
  | some n =>
      if n < -(limit : Int) - 1 || (limit : Int) < n then .error (overflowFailure tooLarge)
      else return (n, s)

/-- The width: a negative one that an argument gives means alignment to the left. -/
def takeWidth (d : Directive) (s : Supply) : Except Failure (Option Nat × Bool × Supply) :=
  match d.width with
  | none => .ok (none, d.flags.leftAligned, s)
  | some (.fixed n) => .ok (some n, d.flags.leftAligned, s)
  | some .argument => do
      let (n, s) ← countArgument maxWidth "Python int too large to convert to C ssize_t" s
      return (some n.natAbs, d.flags.leftAligned || n < 0, s)

def takePrecision (d : Directive) (s : Supply) : Except Failure (Option Nat × Supply) :=
  match d.precision with
  | none => .ok (none, s)
  | some (.fixed n) => .ok (some n, s)
  | some .argument => do
      let (n, s) ← countArgument maxPrecision Number.intTooLarge s
      return (some n.toNat, s)

/-! ## Conversions -/

/-- What an argument is turned into: text, or a number with its sign, the mark of its base, and its
digits. -/
inductive Converted where
  | text (s : String)
  | number (negative : Bool) (mark digits : String)

def wrongKind (conversion : Char) (wanted : String) (v : Value) : Failure :=
  typeFailure ("%" ++ String.singleton conversion ++ " format: " ++ wanted ++
    " is required, not " ++ v.fullKindName)

/-- The integer that an argument gives; a real number loses its fraction where that is allowed. -/
def integer (conversion : Char) (allowsReal : Bool) (v : Value) : Except Failure Int :=
  let wanted := if allowsReal then "a real number" else "an integer"
  match v with
  | .int n => .ok n
  | .bool b => .ok (if b then 1 else 0)
  | .real x =>
      if !allowsReal then .error (wrongKind conversion wanted v)
      else match x.truncate? with
        | some n => .ok n
        | none =>
            if x.isNaN then .error (.general .value "cannot convert float NaN to integer")
            else .error (overflowFailure "cannot convert float infinity to integer")
  | _ => .error (wrongKind conversion wanted v)

/-- An integer in a base, with at least as many digits as the precision. -/
def inBase (base : Nat) (mark : String) (precision : Option Nat) (n : Int) : Converted :=
  let digits := Nat.toDigits base n.natAbs
  let padded := List.replicate (precision.getD 0 - digits.length) '0' ++ digits
  .number (n < 0) mark (String.ofList padded)

/-- The real number that an argument gives. -/
def real (v : Value) : Except Failure Binary64 :=
  let ofInt (n : Int) : Except Failure Binary64 :=
    let x := Binary64.ofInt n
    if x.isFinite then .ok x else .error (overflowFailure "int too large to convert to float")
  match v with
  | .real x => .ok x
  | .int n => ofInt n
  | .bool b => ofInt (if b then 1 else 0)
  | _ => .error (typeFailure ("must be real number, not " ++ v.fullKindName))

/-- The notation of a real number that a conversion letter of either case means. -/
def realFormat (conversion : Char) (alternate : Bool) (precision : Nat) (units : Nat) : String :=
  match conversion.toLower with
  | 'e' => Binary64.exponentNotation alternate precision units
  | 'f' => Binary64.fixedNotation alternate precision units
  | _ => Binary64.generalNotation alternate precision units

/-- The character that an argument is or has as its code. -/
def character (v : Value) : Except Failure Char :=
  match v with
  | .text s => match s.toList with
    | [c] => .ok c
    | _ => .error (typeFailure "%c requires int or char")
  | _ => match v.asInt? with
    | none => .error (typeFailure "%c requires int or char")
    | some n =>
        if n < 0 || 0x10ffff < n then
          .error (overflowFailure "%c arg not in range(0x110000)")
        else .ok (Char.ofNat n.toNat)

/-- A text with all characters outside ASCII escaped. -/
def asciiOnly (s : String) : String :=
  String.join (s.toList.map fun c =>
    if c.toNat < 128 then String.singleton c else Text.codeEscape c.toNat)

def cut (precision : Option Nat) (s : String) : Converted :=
  .text (match precision with
    | some n => String.ofList (s.toList.take n)
    | none => s)

/-- The failure to convert by a character that is no conversion. -/
def unsupported (c : Char) (index : Nat) : Failure :=
  let shown := if 31 ≤ c.toNat && c.toNat ≤ 126 then String.singleton c else "?"
  .general .value
    (s!"unsupported format character '{shown}' (0x" ++ Text.hexDigits 1 c.toNat ++
      s!") at index {index}")

/-- An argument as a conversion character and the precision turn it. -/
def convert (flags : Flags) (precision : Option Nat) (conversion : Char) (index : Nat) (v : Value) :
    Except Failure Converted :=
  let mark (text : String) : String := if flags.alternate then text else ""
  match conversion with
  | 's' => .ok (cut precision v.display)
  | 'r' => .ok (cut precision v.literal)
  | 'a' => .ok (cut precision (asciiOnly v.literal))
  | 'd' | 'i' | 'u' => (integer conversion true v).map (inBase 10 "" precision)
  | 'o' => (integer conversion false v).map (inBase 8 (mark "0o") precision)
  | 'x' => (integer conversion false v).map (inBase 16 (mark "0x") precision)
  | 'X' => (integer conversion false v).map fun n =>
      match inBase 16 (mark "0X") precision n with
      | .number negative mark digits => .number negative mark digits.toUpper
      | other => other
  | 'e' | 'f' | 'g' | 'E' | 'F' | 'G' => (real v).map fun x =>
      let text := x.unsigned (realFormat conversion flags.alternate (precision.getD 6))
      .number x.isNegative "" (if conversion.isUpper then text.toUpper else text)
  | 'c' => (character v).map fun c => .text (String.singleton c)
  | _ => .error (unsupported conversion index)

/-- The sign of a number; one that is not negative has none unless a flag asks for it. -/
def signOf (flags : Flags) (negative : Bool) : String :=
  if negative then "-" else if flags.signed then "+" else if flags.blankSign then " " else ""

/-- Text of at least a width. Zeros fill a number between its sign and its digits. -/
def aligned (flags : Flags) (leftAligned : Bool) (width : Option Nat) : Converted → String
  | .text s =>
      let fill := String.ofList (List.replicate (width.getD 0 - s.length) ' ')
      if leftAligned then s ++ fill else fill ++ s
  | .number negative mark digits =>
      let start := signOf flags negative ++ mark
      let missing := width.getD 0 - (start.length + digits.length)
      if leftAligned then start ++ digits ++ String.ofList (List.replicate missing ' ')
      else if flags.zeroFilled then
        start ++ String.ofList (List.replicate missing '0') ++ digits
      else String.ofList (List.replicate missing ' ') ++ start ++ digits

/-! ## Filling -/

/-- The failure that a fault of a directive is. A key is not looked at where no keys are known. -/
def faultFailure (s : Supply) : Fault → Failure
  | .incompleteKey =>
      if s.keyed.isNone then typeFailure "format requires a mapping"
      else .general .value "incomplete format key"
  | .incomplete => .general .value "incomplete format"
  | .wideWidth => .general .value "width too big"
  | .widePrecision => .general .value "precision too big"

/-- The text of a directive and the arguments after it. Where keys are known nothing may be left. -/
def fillDirective (d : Directive) (s : Supply) : Except Failure (String × Supply) := do
  let s ← match d.key with
    | some key => byKey s key
    | none => .ok s
  let (width, leftAligned, s) ← takeWidth d s
  let (precision, s) ← takePrecision d s
  match d.conversion with
  | .error fault => .error (faultFailure s fault)
  | .ok (conversion, index) =>
      let (v, s) ← next s
      let converted ← convert d.flags precision conversion index v
      if s.keyed.isSome && !s.pending.isEmpty then .error leftOver
      else return (aligned d.flags leftAligned width converted, s)

def fillPieces (s : Supply) : List Piece → Except Failure String
  | [] => if s.keyed.isNone && !s.pending.isEmpty then .error leftOver else .ok ""
  | .text plain :: rest => (fillPieces s rest).map (plain ++ ·)
  | .percent :: rest => (fillPieces s rest).map ("%" ++ ·)
  | .directive d :: rest => do
      let (text, s) ← fillDirective d s
      let more ← fillPieces s rest
      return text ++ more

/-- The text of a template filled with arguments. -/
def fill (template : String) (arguments : Value) : Except Failure String :=
  fillPieces (.of arguments) (pieces template)

end Flowline.Log.Template
