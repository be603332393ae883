import Flowline.Markup.Scalar

/-!
Reading of tokens. Indentation is turned into tokens that open and close block collections. A scalar
may turn out to be a key only when the colon after it is read, so tokens wait as long as they may
still have to be preceded by the tokens of a key.
-/

namespace Flowline.Markup

/-- A place where a key may start: the number of its first token, and whether it must be one. -/
structure KeyStart where
  token : Nat
  required : Bool
  index : Nat
  line : Nat
  column : Nat
  deriving Repr

/-- How far the tokens of a text are read. `indent` is the column of the innermost block collection,
minus one outside of any, and `indents` those of the ones around it. `keys` has the places where a key
may start, at most one for each depth of brackets. -/
structure Lexer where
  cursor : Cursor
  tokens : List Token
  flowDepth : Nat
  indent : Int
  indents : List Int
  keyAllowed : Bool
  keys : List (Nat × KeyStart)
  done : Bool

/-- A key on one line is at most this long. -/
def maxKeyLength : Nat := 1024

namespace Lexer

def start (text : List Char) : Lexer where
  cursor := ⟨text, 0, 0, 0⟩
  tokens := []
  flowDepth := 0
  indent := -1
  indents := []
  keyAllowed := true
  keys := []
  done := false

def inFlow (l : Lexer) : Bool := l.flowDepth ≠ 0

def push (l : Lexer) (t : Token) : Lexer := { l with tokens := l.tokens ++ [t] }

/-- Puts a token before the one of a number. -/
def insert (l : Lexer) (n : Nat) (t : Token) : Lexer :=
  { l with tokens := l.tokens.take n ++ t :: l.tokens.drop n }

def moveTo (l : Lexer) (cur : Cursor) : Lexer := { l with cursor := cur }

def fail {α : Type} (l : Lexer) (text : String) : Except Fault α := .error (l.cursor.fault text)

def missingColon : String := "could not find expected ':'"

/-- The place where a key may start at the present depth. -/
def currentKey? (l : Lexer) : Option KeyStart := l.keys.lookup l.flowDepth

/-- Gives up the key that may start at the present depth. -/
def dropKey (l : Lexer) : Except Fault Lexer :=
  match l.currentKey? with
  | some k =>
      if k.required then l.fail missingColon
      else .ok { l with keys := l.keys.filter (·.1 ≠ l.flowDepth) }
  | none => .ok l

/-- Notes that a key may start at the cursor. Where a collection goes on there must be one. -/
def noteKey (l : Lexer) : Except Fault Lexer :=
  if !l.keyAllowed then .ok l
  else do
    let l ← l.dropKey
    let cur := l.cursor
    let required := !l.inFlow && l.indent = cur.column
    let k : KeyStart := ⟨l.tokens.length, required, cur.index, cur.line, cur.column⟩
    return { l with keys := l.keys ++ [(l.flowDepth, k)] }

/-- A key must end on its line, and within a distance. -/
def isStale (l : Lexer) (k : KeyStart) : Bool :=
  k.line ≠ l.cursor.line || maxKeyLength < l.cursor.index - k.index

/-- Gives up the keys that can no longer be ones. -/
def dropStaleKeys (l : Lexer) : Except Fault Lexer :=
  if l.keys.any fun k => l.isStale k.2 && k.2.required then l.fail missingColon
  else .ok { l with keys := l.keys.filter fun k => !l.isStale k.2 }

/-- Closes the block collections that are indented deeper than a column. -/
def closeBlocks (column : Int) : Nat → Lexer → Lexer
  | 0, l => l
  | n + 1, l =>
      if l.inFlow || l.indent ≤ column then l
      else
        closeBlocks column n
          { l with
            tokens := l.tokens ++ [.blockEnd]
            indent := l.indents.head?.getD (-1)
            indents := l.indents.tail }

def unwind (l : Lexer) (column : Int) : Lexer := closeBlocks column (l.indents.length + 1) l

/-- Opens a block collection if a column is deeper than the present one; tells whether it was. -/
def openBlock (l : Lexer) (column : Nat) : Bool × Lexer :=
  if l.indent < column then
    (true, { l with indent := column, indents := l.indent :: l.indents })
  else (false, l)

/-- Passes over spaces, comments and line breaks. After a line break a key may start, unless brackets
are open. -/
def skipToToken : Nat → Lexer → Lexer
  | 0, l => l
  | n + 1, l =>
      let cur := l.cursor.skipSpaces
      let cur := if cur.isAt '#' then cur.skipWhile (!isBreak ·) else cur
      match cur.lineBreak with
      | ([], _) => l.moveTo cur
      | (_, cur) => skipToToken n { l with cursor := cur, keyAllowed := l.keyAllowed || !l.inFlow }

/-! ## Tokens of one or three characters -/

def streamEnd (l : Lexer) : Except Fault Lexer := do
  let l ← (l.unwind (-1)).dropKey
  return { l.push .streamEnd with keyAllowed := false, keys := [], done := true }

/-- The mark of the start or the end of a document. -/
def documentMark (l : Lexer) (t : Token) : Except Fault Lexer := do
  let l ← (l.unwind (-1)).dropKey
  return { (l.moveTo (l.cursor.skip 3)).push t with keyAllowed := false }

def openFlow (l : Lexer) (t : Token) : Except Fault Lexer := do
  let l ← l.noteKey
  return { (l.moveTo l.cursor.next).push t with keyAllowed := true, flowDepth := l.flowDepth + 1 }

def closeFlow (l : Lexer) (t : Token) : Except Fault Lexer := do
  let l ← l.dropKey
  return { (l.moveTo l.cursor.next).push t with keyAllowed := false, flowDepth := l.flowDepth - 1 }

def flowEntry (l : Lexer) : Except Fault Lexer := do
  let l ← l.dropKey
  return { (l.moveTo l.cursor.next).push .flowEntry with keyAllowed := true }

/-- Opens a block collection at the cursor if it is indented deeper. Where no key may start, neither
may such a collection. -/
def openBlockHere (l : Lexer) (what : String) (t : Token) : Except Fault Lexer :=
  if l.inFlow then .ok l
  else if !l.keyAllowed then l.fail (what ++ " are not allowed here")
  else
    let (opened, l) := l.openBlock l.cursor.column
    .ok (if opened then l.push t else l)

def blockEntry (l : Lexer) : Except Fault Lexer := do
  let l ← l.openBlockHere "sequence entries" .blockSequenceStart
  let l ← l.dropKey
  return { (l.moveTo l.cursor.next).push .blockEntry with keyAllowed := true }

def key (l : Lexer) : Except Fault Lexer := do
  let l ← l.openBlockHere "mapping keys" .blockMappingStart
  let l ← l.dropKey
  return { (l.moveTo l.cursor.next).push .key with keyAllowed := !l.inFlow }

/-- The colon before a value. If a key may have started before it, one did. -/
def value (l : Lexer) : Except Fault Lexer := do
  let l ← match l.currentKey? with
    | some k =>
        let l := { l with keys := l.keys.filter (·.1 ≠ l.flowDepth) }
        let l := l.insert k.token .key
        let (opened, l) := if l.inFlow then (false, l) else l.openBlock k.column
        let l := if opened then l.insert k.token .blockMappingStart else l
        pure { l with keyAllowed := false }
    | none => do
        let l ← l.openBlockHere "mapping values" .blockMappingStart
        pure { l with keyAllowed := !l.inFlow }
  return (l.moveTo l.cursor.next).push .value

/-! ## Directives, names and tags -/

/-- A name of at least one character. -/
def name (cur : Cursor) : Except Fault (String × Cursor) :=
  match cur.takeWhile isNameChar with
  | ([], _) => .error (cur.unexpected "alphabetic or numeric character")
  | (cs, after) => .ok (String.ofList cs, after)

/-- Whether the name of an anchor can end before a character. -/
def endsAnchor (c : Option Char) : Bool :=
  isGap c || c.any fun c => ['?', ':', ',', ']', '\x7d', '%', '@', '`'].contains c

/-- An anchor or an alias. -/
def anchor (l : Lexer) (token : String → Token) : Except Fault Lexer := do
  let l ← l.noteKey
  let (anchorName, cur) ← name l.cursor.next
  if endsAnchor cur.peek then
    return { (l.moveTo cur).push (token anchorName) with keyAllowed := false }
  else .error (cur.unexpected "alphabetic or numeric character")

def number (cur : Cursor) : Except Fault (Nat × Cursor) :=
  match cur.takeWhile Char.isDigit with
  | ([], _) => .error (cur.unexpected "a digit")
  | (cs, after) => .ok (cs.foldl (fun n c => 10 * n + (c.toNat - 48)) 0, after)

/-- The version of the markup. -/
def versionDirective (cur : Cursor) : Except Fault (Directive × Cursor) := do
  let (major, cur) ← number cur.skipSpaces
  if !cur.isAt '.' then .error (cur.unexpected "a digit or '.'")
  let (minor, cur) ← number cur.next
  if endsWord cur.peek then return (.version major minor, cur)
  else .error (cur.unexpected "a digit or ' '")

/-- The handle of a tag: an exclamation mark, or a name between two of them. -/
def handle (cur : Cursor) : Except Fault (String × Cursor) :=
  if !cur.isAt '!' then .error (cur.unexpected "'!'")
  else
    let (cs, after) := cur.next.takeWhile isNameChar
    if cur.peekAt 1 = some ' ' then .ok ("!", cur.next)
    else if after.isAt '!' then .ok (String.ofList ('!' :: cs ++ ['!']), after.next)
    else .error (after.unexpected "'!'")

def isUriChar (c : Char) : Bool :=
  c.isAlphanum || ['-', ';', '/', '?', ':', '@', '&', '=', '+', '$', ',', '_', '.', '!', '~', '*',
    '\'', '(', ')', '[', ']'].contains c

/-- The bytes of escapes that follow each other, each of two hexadecimal digits. -/
def uriBytes : Nat → Cursor → Except Fault (List UInt8 × Cursor)
  | 0, cur => .ok ([], cur)
  | n + 1, cur =>
      if !cur.isAt '%' then .ok ([], cur)
      else do
        let digits := cur.next.rest.take 2
        if digits.length ≠ 2 || !digits.all isHexDigit then
          .error (cur.next.unexpected "URI escape sequence of 2 hexadecimal numbers")
        let (bytes, after) ← uriBytes n (cur.skip 3)
        return (UInt8.ofNat (hexValue digits) :: bytes, after)

def uriFrom : Nat → Cursor → Except Fault (List Char × Cursor)
  | 0, cur => .ok ([], cur)
  | n + 1, cur =>
      match cur.peek with
      | none => .ok ([], cur)
      | some c =>
          if c = '%' then do
            let (bytes, after) ← uriBytes (cur.rest.length + 1) cur
            match String.fromUTF8? ⟨bytes.toArray⟩ with
            | none => .error (cur.fault "an escape sequence is not valid UTF-8")
            | some s => do
                let (cs, after) ← uriFrom n after
                return (s.toList ++ cs, after)
          else if isUriChar c then do
            let (cs, after) ← uriFrom n cur.next
            return (c :: cs, after)
          else .ok ([], cur)

/-- The part of a tag after its handle, of at least one character. -/
def uri (cur : Cursor) : Except Fault (String × Cursor) :=
  if cur.isAt '%' || (cur.peek).any isUriChar then do
    let (cs, after) ← uriFrom (cur.rest.length + 1) cur
    return (String.ofList cs, after)
  else .error (cur.unexpected "URI")

def tagDirective (cur : Cursor) : Except Fault (Directive × Cursor) := do
  let (tagHandle, cur) ← handle cur.skipSpaces
  if !cur.isAt ' ' then .error (cur.unexpected "' '")
  let (start, cur) ← uri cur.skipSpaces
  if endsWord cur.peek then return (.tag tagHandle start, cur)
  else .error (cur.unexpected "' '")

def directive (l : Lexer) : Except Fault Lexer := do
  let l ← (l.unwind (-1)).dropKey
  let (directiveName, cur) ← name l.cursor.next
  if !endsWord cur.peek then .error (cur.unexpected "alphabetic or numeric character")
  let (d, cur) ←
    if directiveName = "YAML" then versionDirective cur
    else if directiveName = "TAG" then tagDirective cur
    else pure (.other directiveName, cur.skipWhile (!isBreak ·))
  let cur ← commentLine cur
  return { (l.moveTo cur).push (.directive d) with keyAllowed := false }

/-- Whether a second exclamation mark stands before the next space. -/
def hasHandle (cur : Cursor) : Bool :=
  (cur.next.rest.takeWhile fun c => !endsWord (some c)).contains '!'

/-- The handle and the rest of a tag; the cursor is at its exclamation mark. -/
def tagParts (cur : Cursor) : Except Fault (Option String × String × Cursor) := do
  if cur.peekAt 1 = some '<' then
    let (suffix, cur) ← uri (cur.skip 2)
    if cur.isAt '>' then return (none, suffix, cur.next)
    else .error (cur.unexpected "'>'")
  else if isGap (cur.peekAt 1) then return (none, "!", cur.next)
  else
    let (tagHandle, cur) ← if hasHandle cur then handle cur else pure ("!", cur.next)
    let (suffix, cur) ← uri cur
    return (some tagHandle, suffix, cur)

def tag (l : Lexer) : Except Fault Lexer := do
  let l ← l.noteKey
  let (tagHandle, suffix, cur) ← tagParts l.cursor
  if endsWord cur.peek then
    return { (l.moveTo cur).push (.tag tagHandle suffix) with keyAllowed := false }
  else .error (cur.unexpected "' '")

/-! ## Scalars -/

def quoted (l : Lexer) (double : Bool) : Except Fault Lexer := do
  let l ← l.noteKey
  let (text, cur) ← quotedScalar double l.cursor
  return { (l.moveTo cur).push (.scalar text false) with keyAllowed := false }

def block (l : Lexer) (fold : Bool) : Except Fault Lexer := do
  let l ← l.dropKey
  let (cs, cur) ← blockScalar fold (l.indent + 1).toNat l.cursor
  return { (l.moveTo cur).push (.scalar (String.ofList cs) false) with keyAllowed := true }

def plain (l : Lexer) : Except Fault Lexer := do
  let l ← l.noteKey
  let s := plainScalar l.inFlow (l.indent + 1).toNat l.cursor
  return { (l.moveTo s.after).push (.scalar (String.ofList s.chars) true) with
    keyAllowed := s.endsAfterLine }

/-- Whether a plain scalar can start with a character, given the one after it. -/
def startsPlain (l : Lexer) (c : Char) (after : Option Char) : Bool :=
  if ['-', '?', ':'].contains c then !isGap after && (c = '-' || !l.inFlow)
  else !isGap (some c) && !isFlowIndicator c &&
    !(['#', '&', '*', '!', '|', '>', '\'', '"', '%', '@', '`'].contains c)

/-- The token at the cursor, given its first character. -/
def token (l : Lexer) (c : Char) : Except Fault Lexer :=
  let after := l.cursor.peekAt 1
  let lineStart := l.cursor.column = 0
  if c = '%' && lineStart then l.directive
  else if lineStart && l.cursor.isMark '-' then l.documentMark .documentStart
  else if lineStart && l.cursor.isMark '.' then l.documentMark .documentEnd
  else match c with
    | '[' => l.openFlow .flowSequenceStart
    | '\x7b' => l.openFlow .flowMappingStart
    | ']' => l.closeFlow .flowSequenceEnd
    | '\x7d' => l.closeFlow .flowMappingEnd
    | ',' => l.flowEntry
    | '*' => l.anchor .reference
    | '&' => l.anchor .anchor
    | '!' => l.tag
    | '\'' => l.quoted false
    | '"' => l.quoted true
    | _ =>
        if c = '-' && isGap after then l.blockEntry
        else if c = '?' && (l.inFlow || isGap after) then l.key
        else if c = ':' && (l.inFlow || isGap after) then l.value
        else if c = '|' && !l.inFlow then l.block false
        else if c = '>' && !l.inFlow then l.block true
        else if l.startsPlain c after then l.plain
        else l.fail ("found character " ++ Text.quoted (String.singleton c) ++
          " that cannot start any token")

/-- Reads one more token, with those that its indentation opens and closes. -/
def step (l : Lexer) : Except Fault Lexer := do
  let l := if l.cursor.index = 0 && l.cursor.isAt '\ufeff' then l.moveTo l.cursor.next else l
  let l ← (skipToToken (l.cursor.rest.length + 1) l).dropStaleKeys
  let l := l.unwind l.cursor.column
  let l ← match l.cursor.peek with
    | none => l.streamEnd
    | some c => l.token c
  l.dropStaleKeys

/-- The tokens that no longer wait for a key. -/
def ready (l : Lexer) : List Token :=
  match (l.keys.map (·.2.token)).min? with
  | some n => l.tokens.take n
  | none => l.tokens

/-- Reads tokens to the end of the text or to a fault. Every token takes at least one character. -/
def run : Nat → Lexer → TokenStream
  | 0, l => ⟨l.tokens, none⟩
  | n + 1, l =>
      if l.done then ⟨l.tokens, none⟩
      else match l.step with
        | .ok next => run n next
        | .error fault => ⟨l.ready, some fault⟩

end Lexer

/-- Whether a text of markup may hold a character. -/
def isAllowed (c : Char) : Bool :=
  c = '\t' || c = '\n' || c = '\r' || (0x20 ≤ c.toNat && c.toNat ≤ 0x7e) || c = '\x85' ||
    (0xa0 ≤ c.toNat && c.toNat ≤ 0xd7ff) || (0xe000 ≤ c.toNat && c.toNat ≤ 0xfffd) ||
    0x10000 ≤ c.toNat

/-- The tokens of a text. -/
def tokens (text : String) : TokenStream :=
  let cs := text.toList
  if cs.all isAllowed then Lexer.run (cs.length + 2) (Lexer.start cs)
  else ⟨[], some (.invalid .characters "special characters are not allowed")⟩

end Flowline.Markup
