import Flowline.Markup.Token
import Flowline.Text.Quoted

/-!
A place in a text of markup, with its line and its column.
-/

namespace Flowline.Markup

/-- Whether a character ends a line. -/
def isBreak (c : Char) : Bool :=
  c = '\n' || c = '\r' || c = '\x85' || c = '\u2028' || c = '\u2029'

/-- The end of the text or of a line. -/
def endsLine : Option Char → Bool
  | none => true
  | some c => isBreak c

/-- The end of the text or of a line, or a space. -/
def endsWord : Option Char → Bool
  | some ' ' => true
  | c => endsLine c

/-- The end of the text or of a line, a space or a tab. -/
def isGap : Option Char → Bool
  | some '\t' => true
  | c => endsWord c

/-- Characters of names of anchors, handles and directives. -/
def isNameChar (c : Char) : Bool := c.isAlphanum || c = '-' || c = '_'

def isHexDigit (c : Char) : Bool :=
  c.isDigit || ('a' ≤ c && c ≤ 'f') || ('A' ≤ c && c ≤ 'F')

/-- The number that hexadecimal digits write. -/
def hexValue (cs : List Char) : Nat :=
  cs.foldl (fun n c => 16 * n + (if c.isDigit then c.toNat - 48 else c.toLower.toNat - 87)) 0

/-- What is left of a text and where it starts. -/
structure Cursor where
  rest : List Char
  index : Nat
  line : Nat
  column : Nat
  deriving Repr

namespace Cursor

def peek (cur : Cursor) : Option Char := cur.rest.head?

def peekAt (cur : Cursor) (n : Nat) : Option Char := cur.rest[n]?

def isAt (cur : Cursor) (c : Char) : Bool := cur.peek = some c

/-- Passes over a character. A carriage return before a line feed ends no line by itself, and a byte
order mark takes no column. -/
def next (cur : Cursor) : Cursor :=
  match cur.rest with
  | [] => cur
  | c :: rest =>
      if isBreak c && !(c = '\r' && rest.head? = some '\n') then
        ⟨rest, cur.index + 1, cur.line + 1, 0⟩
      else ⟨rest, cur.index + 1, cur.line, if c = '\ufeff' then cur.column else cur.column + 1⟩

/-- Passes over a number of characters. -/
def skip : Nat → Cursor → Cursor
  | 0, cur => cur
  | n + 1, cur => skip n cur.next

/-- The characters up to the first one that does not pass a test, and the cursor after them. -/
def takeWhile (p : Char → Bool) (cur : Cursor) : List Char × Cursor :=
  let cs := cur.rest.takeWhile p
  (cs, skip cs.length cur)

def skipWhile (p : Char → Bool) (cur : Cursor) : Cursor := (cur.takeWhile p).2

def skipSpaces (cur : Cursor) : Cursor := cur.skipWhile (· = ' ')

/-- Passes over spaces as long as they stand before a column. -/
def skipIndent (column : Nat) (cur : Cursor) : Cursor :=
  let spaces := (cur.rest.takeWhile (· = ' ')).length
  skip (min spaces (column - cur.column)) cur

/-- Passes over a line break, with the text that it stands for: a line feed, or the separator itself;
the empty text if there is none. -/
def lineBreak (cur : Cursor) : List Char × Cursor :=
  match cur.rest with
  | '\r' :: '\n' :: _ => (['\n'], cur.next.next)
  | '\r' :: _ | '\n' :: _ | '\x85' :: _ => (['\n'], cur.next)
  | '\u2028' :: _ => (['\u2028'], cur.next)
  | '\u2029' :: _ => (['\u2029'], cur.next)
  | _ => ([], cur)

/-- Whether three characters and a gap after them are at the cursor. -/
def isMark (c : Char) (cur : Cursor) : Bool :=
  cur.rest.take 3 = [c, c, c] && isGap (cur.peekAt 3)

/-- Whether a document is started or ended at the cursor, if it is at the start of a line. -/
def isSeparator (cur : Cursor) : Bool := cur.isMark '-' || cur.isMark '.'

/-- A fault in the tokens at the cursor. -/
def fault (cur : Cursor) (text : String) : Fault :=
  .invalid .tokens s!"{text} (line {cur.line + 1}, column {cur.column + 1})"

/-- A fault because of the character at the cursor. -/
def unexpected (cur : Cursor) (wanted : String) : Fault :=
  cur.fault ("expected " ++ wanted ++ ", but found " ++
    (match cur.peek with
      | some c => Text.quoted (String.singleton c)
      | none => "the end"))

end Cursor

end Flowline.Markup
