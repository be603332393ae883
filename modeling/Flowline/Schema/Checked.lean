import Flowline.Number.Limits
import Flowline.Number.Reading
import Flowline.Schema.Issue

/-!
Checking of values against a model. A check gives the checked value or all its issues: parts are checked
side by side, and the issues of each are listed in order.
-/

namespace Flowline.Schema

inductive Checked (α : Type) where
  | valid (a : α)
  | invalid (issues : List Issue)

namespace Checked

/-- A check that fails with one issue at the place that is checked. -/
def fail {α : Type} (kind : IssueKind) : Checked α := .invalid [⟨[], kind⟩]

def issues {α : Type} : Checked α → List Issue
  | valid _ => []
  | invalid issues => issues

def map {α β : Type} (f : α → β) : Checked α → Checked β
  | valid a => valid (f a)
  | invalid issues => invalid issues

/-- Two checks side by side; the issues of both are kept. -/
def apply {α β : Type} : Checked (α → β) → Checked α → Checked β
  | valid f, valid a => valid (f a)
  | valid _, invalid issues => invalid issues
  | invalid issues, valid _ => invalid issues
  | invalid first, invalid second => invalid (first ++ second)

instance : Functor Checked where
  map := map

instance : Seq Checked where
  seq f a := apply f (a ())

/-- Two checks of which only the first one's value is wanted. -/
def keeping {α : Type} (a : Checked α) (more : List Issue) : Checked α :=
  if more.isEmpty then a else .invalid (a.issues ++ more)

/-- A check one after another: the second one runs only on a valid value. -/
def andThen {α β : Type} : Checked α → (α → Checked β) → Checked β
  | valid a, f => f a
  | invalid issues, _ => invalid issues

/-- A check of a part, whose issues lie below that part. -/
def within {α : Type} (part : LocationPart) : Checked α → Checked α
  | valid a => valid a
  | invalid issues => invalid (issues.map fun i => ⟨part :: i.location, i.kind⟩)

/-- The checks of the items of a list, whose issues lie below their indexes. -/
def sequenceFrom {α : Type} : Nat → List (Checked α) → Checked (List α)
  | _, [] => .valid []
  | n, check :: rest => List.cons <$> check.within (.index n) <*> sequenceFrom (n + 1) rest

end Checked

/-- The items of a value that is taken for a tuple. -/
def tupleItems : Value → Checked (List Value)
  | .list items => .valid items
  | .tuple items => .valid items
  | .set items => .valid items
  | _ => .fail .tupleType

/-- The text that bytes write, if they are valid UTF-8. -/
def bytesText? (bytes : List UInt8) : Option String := String.fromUTF8? ⟨bytes.toArray⟩

/-- A text, as it is or as the bytes that write it. -/
def text : Value → Checked String
  | .text s => .valid s
  | .bytes bs => match bytesText? bs with
      | some s => .valid s
      | none => .fail .stringUnicode
  | .torn _ => .fail .stringUnicode
  | _ => .fail .stringType

/-- A text that need not be well formed. -/
def looseText : Value → Checked Text.Loose
  | .torn t => .valid (.torn t)
  | v => (text v).map .whole

def optionalText : Value → Checked (Option String)
  | .null => .valid none
  | v => some <$> text v

/-- A text without the white space at its two ends. -/
def unpadded (s : String) : List Char :=
  Text.stripChars (fun c => Text.isBlank c && !Text.isSeparator c) s.toList

/-- The integer that a text writes: digits with an optional sign, low lines between digits, and a point
with nothing but zeros after it. -/
def intOfText? (s : String) : Option Int :=
  let cs := unpadded s
  let (negative, unsigned) := Number.splitSign cs
  let whole := unsigned.takeWhile (· ≠ '.')
  let plain := match unsigned.dropWhile (· ≠ '.') with
    | '.' :: zeros => if zeros.all (· = '0') then some whole else none
    | _ => some whole
  plain.bind fun digits =>
    (Number.dropSeparators none digits).bind fun digits =>
      if digits.isEmpty || !digits.all Text.isAsciiDigit then none
      else
        let n : Int := Text.digitsValue digits
        some (if negative then -n else n)

def intFromText (s : String) : Checked Int :=
  match intOfText? s with
  | some n => if Number.maxDigits < s.length then .fail .intParsingSize else .valid n
  | none => .fail .intParsing

/-- An integer, also from a truth value, a whole number that fits 64 bits or a text. -/
def int : Value → Checked Int
  | .int n => .valid n
  | .bool b => .valid (if b then 1 else 0)
  | .real x => match x.truncate? with
      | some n => if x.isWhole && isLong n then .valid n else .fail .intFromFloat
      | none => .fail .finiteNumber
  | .text s => intFromText s
  | .bytes bs => match bytesText? bs with
      | some s => intFromText s
      | none => .fail .intParsing
  | .torn _ => .fail .stringUnicode
  | _ => .fail .intType

/-- The characters without their low lines, none of which may stand at either end or beside another. -/
def withoutLows? (cs : List Char) : Option (List Char) :=
  let single := (cs.zip cs.tail).all fun (c, after) => !(c = '_' && after = '_')
  if single && cs.head? ≠ some '_' && cs.getLast? ≠ some '_' then some (cs.filter (· ≠ '_'))
  else none

/-- The number that a text writes. All digits are of the ASCII characters. -/
def realOfText? (s : String) : Option Binary64 :=
  let cs := unpadded s
  if cs.all (·.toNat < 128) then (withoutLows? cs).bind Number.realLiteral? else none

def realFromText (s : String) : Checked Binary64 :=
  match realOfText? s with
  | some x => .valid x
  | none => .fail .floatParsing

/-- A real number, also from a truth value, an integer or a text. -/
def real : Value → Checked Binary64
  | .real x => .valid x
  | .int n =>
      let x := Binary64.ofInt n
      if x.isFinite then .valid x else .fail .floatType
  | .bool b => .valid (.ofInt (if b then 1 else 0))
  | .text s => realFromText s
  | .bytes bs => match bytesText? bs with
      | some s => realFromText s
      | none => .fail .floatParsing
  | .torn _ => .fail .stringUnicode
  | _ => .fail .floatType

def atLeast (bound : Nat) (n : Int) : Checked Int :=
  if (bound : Int) ≤ n then .valid n else .fail (.greaterThanEqual bound)

def realAtMost (bound : Nat) (x : Binary64) : Checked Binary64 :=
  if x.le (.ofInt bound) then .valid x else .fail (.lessThanEqual bound)

def realAtLeast (bound : Nat) (x : Binary64) : Checked Binary64 :=
  if (Binary64.ofInt bound).le x then .valid x else .fail (.greaterThanEqual bound)

def realAbove (bound : Nat) (x : Binary64) : Checked Binary64 :=
  if (Binary64.ofInt bound).lt x then .valid x else .fail (.greaterThan bound)

/-- One of some words. -/
def literalOf (words : List String) : Value → Checked String
  | .text s => if words.contains s then .valid s else .fail (.literalError words)
  | _ => .fail (.literalError words)

/-- A mapping of texts to texts. The issues of a key lie below it, marked as such. -/
def textEntries : List (Value × Value) → Checked (List (String × String))
  | [] => .valid []
  | (key, value) :: rest =>
      let part := LocationPart.ofKey key
      let entry := Prod.mk <$> ((text key).within (.name "[key]")).within part <*>
        (text value).within part
      List.cons <$> entry <*> textEntries rest

/-- Puts a text under a name, in the place of one that is there already. -/
def putText : List (String × String) → String × String → List (String × String)
  | [], entry => [entry]
  | (name, text) :: rest, entry =>
      if name = entry.1 then (name, entry.2) :: rest else (name, text) :: putText rest entry

/-- The texts of a mapping by their names. Different keys can be one name, of which the later text
holds. -/
def textMap : Value → Checked (List (String × String))
  | .map entries => (textEntries entries).map fun texts => texts.foldl putText []
  | _ => .fail .dictType

/-- A field that must be there. -/
def required {α : Type} (entries : Entries) (name : String) (check : Value → Checked α) : Checked α :=
  match entries.field? name with
  | some v => (check v).within (.name name)
  | none => (Checked.fail .missing).within (.name name)

/-- A field with a value to take if it is not there. -/
def optional {α : Type} (entries : Entries) (name : String) (absent : α)
    (check : Value → Checked α) : Checked α :=
  match entries.field? name with
  | some v => (check v).within (.name name)
  | none => .valid absent

/-- What is wrong with a key of a model, if it is none of its fields. -/
def keyIssue? (fields : List String) (key : Value) : Option Issue :=
  match text key with
  | .valid name =>
      if fields.contains name then none else some ⟨[.ofKey key], .extraForbidden⟩
  | .invalid _ => some ⟨[.ofKey key], .invalidKey⟩

/-- The issues of keys that are no fields of a model, in the order of the keys. A key in bytes is let
through only beside the field that it spells. -/
def keyIssues (fields : List String) (entries : Entries) : List Issue :=
  entries.filterMap fun e => keyIssue? (fields.filter entries.hasField) e.1

end Flowline.Schema
