import Flowline.Markup.Cursor
import Flowline.Number.Limits
import Flowline.Text.Torn

/-!
Reading of scalars: plain ones, quoted ones and blocks of lines. Line breaks in a scalar are folded:
a single one becomes a space and of several all but the first are kept.
-/

namespace Flowline.Markup

/-- A text that is read, and the cursor after it. -/
abbrev ScalarResult := Except Fault (List Char × Cursor)

/-- A text that is read from quotes, where an escape can stand for a half of a surrogate pair. -/
abbrev QuotedResult := Except Fault (List Text.CodePoint × Cursor)

/-- The text of a line break and of the empty lines after it. -/
def folded (lineBreak breaks : List Char) : List Char :=
  (if lineBreak ≠ ['\n'] then lineBreak else if breaks.isEmpty then [' '] else []) ++ breaks

/-! ## Quoted scalars -/

/-- What an escaped character stands for. -/
def escapedChar? : Char → Option Char
  | '0' => some '\x00'
  | 'a' => some '\x07'
  | 'b' => some '\x08'
  | 't' => some '\t'
  | '\t' => some '\t'
  | 'n' => some '\n'
  | 'v' => some '\x0b'
  | 'f' => some '\x0c'
  | 'r' => some '\r'
  | 'e' => some '\x1b'
  | ' ' => some ' '
  | '"' => some '"'
  | '\\' => some '\\'
  | '/' => some '/'
  | 'N' => some '\x85'
  | '_' => some '\xa0'
  | 'L' => some '\u2028'
  | 'P' => some '\u2029'
  | _ => none

/-- The number of hexadecimal digits after an escaped letter. -/
def escapedDigits? : Char → Option Nat
  | 'x' => some 2
  | 'u' => some 4
  | 'U' => some 8
  | _ => none

/-- The code point that an escape gives by its digits. -/
def escapedCode (digits : List Char) (after : Cursor) : QuotedResult :=
  let code := hexValue digits
  if Number.codeLimit ≤ code then .error (.failure (.general .overflow Number.intTooLarge))
  else if 0x10ffff < code then
    .error (.failure (.general .value "chr() arg not in range(0x110000)"))
  else .ok ([.ofNat code], after)

/-- The empty lines in a quoted scalar, with the blanks before them left out. -/
def quotedBreaks : Nat → Cursor → ScalarResult
  | 0, cur => .ok ([], cur)
  | n + 1, cur =>
      if cur.isSeparator then .error (cur.fault "found unexpected document separator")
      else
        let cur := cur.skipWhile fun c => c = ' ' || c = '\t'
        match cur.lineBreak with
        | ([], _) => .ok ([], cur)
        | (lineBreak, cur) => do
            let (breaks, cur) ← quotedBreaks n cur
            return (lineBreak ++ breaks, cur)

/-- What an escape in a quoted scalar stands for; the cursor is after the backslash. -/
def quotedEscape (cur : Cursor) : QuotedResult :=
  match cur.peek with
  | none => .error (cur.unexpected "an escape character")
  | some c => match escapedChar? c, escapedDigits? c with
      | some escaped, _ => .ok ([.char escaped], cur.next)
      | none, some count =>
          let digits := cur.next.rest.take count
          if digits.length = count && digits.all isHexDigit then
            escapedCode digits (cur.next.skip count)
          else .error (cur.next.unexpected s!"an escape of {count} hexadecimal numbers")
      | none, none =>
          if isBreak c then do
            let (breaks, cur) ← quotedBreaks (cur.rest.length + 1) cur.lineBreak.2
            return (breaks.map .char, cur)
          else .error (cur.fault "found unknown escape character")

/-- The blanks and line breaks in a quoted scalar. -/
def quotedSpaces (cur : Cursor) : QuotedResult :=
  let (blanks, after) := cur.takeWhile fun c => c = ' ' || c = '\t'
  match after.peek with
  | none => .error (after.fault "found unexpected end of stream")
  | some c =>
      if isBreak c then do
        let (lineBreak, after) := after.lineBreak
        let (breaks, after) ← quotedBreaks (after.rest.length + 1) after
        return ((folded lineBreak breaks).map .char, after)
      else .ok (blanks.map .char, after)

/-- A quoted scalar from after its opening quote to after its closing one. -/
def quotedFrom (double : Bool) : Nat → Cursor → QuotedResult
  | 0, cur => .error (cur.fault "found unexpected end of stream")
  | n + 1, cur =>
      let quote := if double then '"' else '\''
      match cur.peek with
      | none => quotedSpaces cur
      | some c =>
          if !double && c = '\'' && cur.peekAt 1 = some '\'' then do
            let (points, cur) ← quotedFrom double n (cur.skip 2)
            return (.char '\'' :: points, cur)
          else if c = quote then .ok ([], cur.next)
          else if double && c = '\\' then do
            let (escaped, cur) ← quotedEscape cur.next
            let (points, cur) ← quotedFrom double n cur
            return (escaped ++ points, cur)
          else if c = ' ' || c = '\t' || isBreak c then do
            let (spaces, cur) ← quotedSpaces cur
            let (points, cur) ← quotedFrom double n cur
            return (spaces ++ points, cur)
          else do
            let (points, cur) ← quotedFrom double n cur.next
            return (.char c :: points, cur)

/-- A quoted scalar; the cursor is at its opening quote. -/
def quotedScalar (double : Bool) (cur : Cursor) : Except Fault (Text.Loose × Cursor) := do
  let (points, cur) ← quotedFrom double (cur.rest.length + 1) cur.next
  return (.ofPoints points, cur)

/-! ## Plain scalars -/

/-- Characters that end a plain scalar inside brackets. -/
def isFlowIndicator (c : Char) : Bool :=
  c = ',' || c = '[' || c = ']' || c = '\x7b' || c = '\x7d'

/-- Whether a plain scalar ends before a character, given the one after it. -/
def endsPlain (inFlow : Bool) (c : Char) (after : Option Char) : Bool :=
  isGap (some c) ||
    (c = ':' && (isGap after || (inFlow && after.any isFlowIndicator))) ||
    (inFlow && (c = '?' || isFlowIndicator c))

/-- The characters of a plain scalar up to a blank or its end. -/
def plainWord (inFlow : Bool) : List Char → List Char
  | [] => []
  | c :: rest => if endsPlain inFlow c rest.head? then [] else c :: plainWord inFlow rest

/-- The empty lines in a plain scalar; `none` before a document separator. -/
def plainBreaks : Nat → Cursor → Option (List Char) × Cursor
  | 0, cur => (some [], cur)
  | n + 1, cur =>
      let cur := cur.skipSpaces
      match cur.lineBreak with
      | ([], _) => (some [], cur)
      | (lineBreak, cur) =>
          if cur.isSeparator then (none, cur)
          else
            let (breaks, cur) := plainBreaks n cur
            (breaks.map (lineBreak ++ ·), cur)

/-- What stands between two words of a plain scalar, `none` if nothing does or a document is
separated here, and whether a line ends. -/
def plainSpaces (cur : Cursor) : Option (List Char) × Bool × Cursor :=
  let (blanks, after) := cur.takeWhile (· = ' ')
  match after.lineBreak with
  | ([], _) => (if blanks.isEmpty then none else some blanks, false, after)
  | (lineBreak, after) =>
      if after.isSeparator then (none, true, after)
      else
        let (breaks, after) := plainBreaks (after.rest.length + 1) after
        (breaks.map (folded lineBreak), true, after)

/-- A plain scalar that is read. -/
structure PlainScalar where
  chars : List Char
  after : Cursor
  endsAfterLine : Bool

/-- A plain scalar whose further lines are indented to a column; `spaces` stands before the next
word. -/
def plainFrom (inFlow : Bool) (indent : Nat) :
    Nat → List Char → Bool → Cursor → PlainScalar
  | 0, _, newLine, cur => ⟨[], cur, newLine⟩
  | n + 1, spaces, newLine, cur =>
      let word := plainWord inFlow cur.rest
      if cur.isAt '#' || word.isEmpty then ⟨[], cur, newLine⟩
      else match plainSpaces (cur.skip word.length) with
        | (none, newLine, cur) => ⟨spaces ++ word, cur, newLine⟩
        | (some more, newLine, cur) =>
            if cur.isAt '#' || (!inFlow && cur.column < indent) then
              ⟨spaces ++ word, cur, newLine⟩
            else
              let tail := plainFrom inFlow indent n more newLine cur
              ⟨spaces ++ word ++ tail.chars, tail.after, tail.endsAfterLine⟩

/-- A plain scalar. -/
def plainScalar (inFlow : Bool) (indent : Nat) (cur : Cursor) : PlainScalar :=
  plainFrom inFlow indent (cur.rest.length + 1) [] false cur

/-! ## Blocks of lines -/

/-- How the lines at the end of a block are kept. -/
inductive Chomping where
  | clip
  | strip
  | keep
  deriving DecidableEq, Repr

def chomping? : Char → Option Chomping
  | '+' => some .keep
  | '-' => some .strip
  | _ => none

/-- The sign for the end of a block, if it is at the cursor. -/
def chompingAt (cur : Cursor) : Option Chomping × Cursor :=
  match (cur.peek).bind chomping? with
  | some c => (some c, cur.next)
  | none => (none, cur)

/-- The digit for the indent of a block, if it is at the cursor. -/
def incrementAt (cur : Cursor) : Except Fault (Option Nat × Cursor) :=
  match (cur.peek).filter Char.isDigit with
  | some '0' => .error (cur.fault "expected indentation indicator in the range 1-9")
  | some c => .ok (some (c.toNat - 48), cur.next)
  | none => .ok (none, cur)

/-- The signs after the mark of a block, in either order. -/
def blockIndicators (cur : Cursor) : Except Fault (Chomping × Option Nat × Cursor) := do
  let (first, cur) := chompingAt cur
  let (increment, cur) ← incrementAt cur
  let (second, cur) :=
    if first.isNone && increment.isSome then chompingAt cur else (none, cur)
  if endsWord cur.peek then return ((first.or second).getD .clip, increment, cur)
  else .error (cur.unexpected "chomping or indentation indicators")

/-- Passes over the rest of a line that may hold a comment only. -/
def commentLine (cur : Cursor) : Except Fault Cursor :=
  let cur := cur.skipSpaces
  let cur := if cur.isAt '#' then cur.skipWhile (!isBreak ·) else cur
  if endsLine cur.peek then .ok cur.lineBreak.2
  else .error (cur.unexpected "a comment or a line break")

/-- The empty lines before a block and the greatest column in them. -/
def blockIndent : Nat → Nat → Cursor → List Char × Nat × Cursor
  | 0, greatest, cur => ([], greatest, cur)
  | n + 1, greatest, cur =>
      let cur := cur.skipSpaces
      let greatest := max greatest cur.column
      match cur.lineBreak with
      | ([], _) => ([], greatest, cur)
      | (lineBreak, cur) =>
          let (breaks, greatest, cur) := blockIndent n greatest cur
          (lineBreak ++ breaks, greatest, cur)

/-- The empty lines in a block of an indent, and the indent of the next line. -/
def blockBreaks (indent : Nat) : Nat → Cursor → List Char × Cursor
  | 0, cur => ([], cur)
  | n + 1, cur =>
      let cur := cur.skipIndent indent
      match cur.lineBreak with
      | ([], _) => ([], cur)
      | (lineBreak, cur) =>
          let (breaks, cur) := blockBreaks indent n cur
          (lineBreak ++ breaks, cur)

/-- Whether a line is more indented than its block. -/
def startsBlank (cur : Cursor) : Bool := cur.isAt ' ' || cur.isAt '\t'

/-- The lines of a block, each with the text before it: its text, its last line break and the empty
lines at its end. -/
def blockLines (fold : Bool) (indent : Nat) :
    Nat → List Char → Cursor → List Char × List Char × List Char × Cursor
  | 0, breaks, cur => ([], [], breaks, cur)
  | n + 1, breaks, cur =>
      let blank := startsBlank cur
      let (line, cur) := cur.takeWhile (!isBreak ·)
      let (lineBreak, cur) := cur.lineBreak
      let (after, cur) := blockBreaks indent (cur.rest.length + 1) cur
      if cur.column = indent && cur.peek.isSome then
        let joint :=
          if fold && lineBreak = ['\n'] && !blank && !startsBlank cur then
            (if after.isEmpty then [' '] else [])
          else lineBreak
        let (text, last, tail, cur) := blockLines fold indent n after cur
        (breaks ++ line ++ joint ++ text, last, tail, cur)
      else (breaks ++ line, lineBreak, after, cur)

/-- A block of lines; the cursor is at its mark. `parent` is the column from which on a block lies
inside the collection around it. -/
def blockScalar (fold : Bool) (parent : Nat) (cur : Cursor) : ScalarResult := do
  let (chomping, increment, cur) ← blockIndicators cur.next
  let cur ← commentLine cur
  let least := max 1 parent
  let (breaks, indent, cur) := match increment with
    | none =>
        let (breaks, greatest, cur) := blockIndent (cur.rest.length + 1) 0 cur
        (breaks, max least greatest, cur)
    | some n =>
        let indent := least + n - 1
        let (breaks, cur) := blockBreaks indent (cur.rest.length + 1) cur
        (breaks, indent, cur)
  let (text, last, tail, cur) :=
    if cur.column = indent && cur.peek.isSome then
      blockLines fold indent (cur.rest.length + 1) breaks cur
    else ([], [], breaks, cur)
  return match chomping with
    | .strip => (text, cur)
    | .clip => (text ++ last, cur)
    | .keep => (text ++ last ++ tail, cur)

end Flowline.Markup
