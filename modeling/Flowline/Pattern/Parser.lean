import Flowline.Number.Reading
import Flowline.Pattern.CharacterName
import Flowline.Pattern.Cursor
import Flowline.Text.Identifier

/-!
Reading of patterns. The reader goes over the tokens once and keeps the groups that are still open on a
stack, so that it needs no recursion into groups.
-/

namespace Flowline.Pattern

/-- Repeat counts from here on cannot be told from no bound. -/
def repeatLimit : Nat := 4294967295

/-- Group numbers from here on are too great. -/
def groupLimit : Nat := 1073741823

/-- The greatest distance that a condition on the text before can look back. -/
def lookbehindLimit : Nat := 4294967295

/-- How a group that is still open was opened. -/
inductive Opener where
  | group (index : Option Nat) (on off : Flags)
  | atomic
  | look (ahead positive : Bool) (outerLimit : Option Nat)
  | conditional (group : Nat) (yes : Option (List Item))

/-- An open group, with what was read in the group around it. -/
structure Frame where
  start : Nat
  opener : Opener
  branches : List (List Item)
  items : List Item
  verbose : Bool

/-- How far a pattern is read. Branches and items of the innermost open group stand backwards.
`widths` has an entry for each group so far, empty while the group is open. Inside a condition on the
text before, `limit` is the first group that was opened in it. -/
structure Reading where
  cursor : Cursor
  flags : Flags
  names : List (String × Nat)
  widths : List (Option Width)
  limit : Option Nat
  references : List (Nat × Nat)
  frames : List Frame
  branches : List (List Item)
  items : List Item
  verbose : Bool

namespace Reading

def fail {α : Type} (r : Reading) (f : Fault) (back : Nat) : Except Error α :=
  .error (r.cursor.fault f back)

def push (r : Reading) (item : Item) : Reading := { r with items := item :: r.items }

def moveTo (r : Reading) (cur : Cursor) : Reading := { r with cursor := cur }

def groupCount (r : Reading) : Nat := r.widths.length

/-- Whether a group is known and closed. -/
def isClosed (r : Reading) (group : Nat) : Bool := ((r.widths[group]?).bind id).isSome

def widthOf (r : Reading) (group : Nat) : Width := ((r.widths[group]?).bind id).getD ⟨0, 0⟩

/-- A condition on the text before may refer only to groups that were closed before it. -/
def checkLookbehind (r : Reading) (group : Nat) : Except Error Unit :=
  match r.limit with
  | none => .ok ()
  | some limit =>
      if !r.isClosed group then r.fail .openGroup 0
      else if limit ≤ group then r.fail .groupOfLookbehind 0
      else .ok ()

end Reading

def isHexDigit (c : Char) : Bool :=
  Text.isAsciiDigit c || ('a' ≤ c && c ≤ 'f') || ('A' ≤ c && c ≤ 'F')

def isOctalDigit (c : Char) : Bool := '0' ≤ c && c ≤ '7'

def hexValue (cs : List Char) : Nat :=
  cs.foldl (fun n c =>
    16 * n + (if Text.isAsciiDigit c then c.toNat - 48 else c.toLower.toNat - 87)) 0

def octalValue (cs : List Char) : Nat := cs.foldl (fun n c => 8 * n + (c.toNat - 48)) 0

/-- Escapes that name a control character or the backslash. -/
def controlEscape? : Char → Option Nat
  | 'a' => some 7
  | 'b' => some 8
  | 'f' => some 12
  | 'n' => some 10
  | 'r' => some 13
  | 't' => some 9
  | 'v' => some 11
  | '\\' => some 92
  | _ => none

/-- Escapes that name a class of characters. -/
def classEscape? : Char → Option SetMember
  | 'd' => some (.ofClass .digit false)
  | 'D' => some (.ofClass .digit true)
  | 's' => some (.ofClass .blank false)
  | 'S' => some (.ofClass .blank true)
  | 'w' => some (.ofClass .word false)
  | 'W' => some (.ofClass .word true)
  | _ => none

def anchorEscape? : Char → Option Anchor
  | 'A' => some .textStart
  | 'b' => some .wordBoundary
  | 'B' => some .insideWord
  | 'Z' => some .textEnd
  | _ => none

/-- The code point of an escape with so many hexadecimal digits after its letter. -/
def hexEscape (letter : Char) (digits : Nat) (cur : Cursor) : Except Error (Nat × Cursor) := do
  let (hex, after) ← cur.getWhile isHexDigit digits
  let escape := String.ofList ('\\' :: letter :: hex)
  if hex.length ≠ digits then .error (after.fault (.incompleteEscape escape) (hex.length + 2))
  else if Number.codeLimit ≤ hexValue hex then .error .codeTooLarge
  else if 0x10ffff < hexValue hex then .error (after.fault (.badEscape escape) (hex.length + 2))
  else return (hexValue hex, after)

/-- The code point of an escape by the name of a character. -/
def nameEscape (cur : Cursor) : Except Error (Nat × Cursor) := do
  let (opened, cur) ← cur.accept '\x7b'
  if !opened then .error (cur.fault (.missing "\x7b") 0)
  else
    let (name, after) ← cur.getUntil '\x7d' "character name"
    match characterNamed? name with
    | some code => return (code, after)
    | none => .error (after.fault (.unknownCharacterName name) (name.length + 4))

/-- An escape by code point, letter or punctuation: what sets and other parts have in common. -/
def plainEscape (c : Char) (cur : Cursor) : Except Error (Nat × Cursor) :=
  match c with
  | 'x' => hexEscape 'x' 2 cur
  | 'u' => hexEscape 'u' 4 cur
  | 'U' => hexEscape 'U' 8 cur
  | 'N' => nameEscape cur
  | _ =>
      if c.isAlpha || Text.isAsciiDigit c then
        .error (cur.fault (.badEscape (String.ofList ['\\', c])) 2)
      else .ok (c.toNat, cur)

/-- An escape of up to three octal digits, of which the first ones are read. -/
def octalEscape (digits : List Char) (cur : Cursor) : Except Error (Nat × Cursor) :=
  if 0o377 < octalValue digits then
    .error (cur.fault (.octalRange (String.ofList ('\\' :: digits))) (digits.length + 1))
  else .ok (octalValue digits, cur)

/-- The member that an escape inside a set names. -/
def setEscape (c : Char) (cur : Cursor) : Except Error (SetMember × Cursor) :=
  match controlEscape? c, classEscape? c with
  | some code, _ => .ok (.code code, cur)
  | _, some member => .ok (member, cur)
  | _, _ => do
      if isOctalDigit c then
        let (more, after) ← cur.getWhile isOctalDigit 2
        let (code, after) ← octalEscape (c :: more) after
        return (.code code, after)
      else
        let (code, after) ← plainEscape c cur
        return (.code code, after)

/-- A group reference by the digits of an escape. -/
def referenceTo (r : Reading) (digits : List Char) (after : Cursor) :
    Except Error (Item × Cursor) :=
  let group := Text.digitsValue digits
  let there := { r with cursor := after }
  if r.groupCount ≤ group then there.fail (.unknownGroup group) digits.length
  else if !r.isClosed group then there.fail .openGroup (digits.length + 1)
  else do
    there.checkLookbehind group
    return (.backreference group, after)

/-- An escape of digits: three octal ones are a code point, others refer to a group. -/
def digitEscape (r : Reading) (c : Char) (cur : Cursor) : Except Error (Item × Cursor) := do
  match ← cur.getWhile Text.isAsciiDigit 1 with
  | ([], after) => referenceTo r [c] after
  | (second, after) =>
      let digits := c :: second
      let (third, after) ←
        if digits.all isOctalDigit then after.getWhile isOctalDigit 1 else pure ([], after)
      if third.isEmpty then referenceTo r digits after
      else
        let (code, after) ← octalEscape (digits ++ third) after
        return (.code code, after)

/-- The item that an escape outside a set stands for. -/
def itemEscape (r : Reading) (c : Char) (cur : Cursor) : Except Error (Item × Cursor) :=
  match anchorEscape? c, classEscape? c, controlEscape? c with
  | some a, _, _ => .ok (.anchor a, cur)
  | _, some member, _ => .ok (.set false [member], cur)
  | _, _, some code => .ok (.code code, cur)
  | _, _, _ => do
      if c = '0' then
        let (more, after) ← cur.getWhile isOctalDigit 2
        return (.code (octalValue (c :: more)), after)
      else if Text.isAsciiDigit c then digitEscape r c cur
      else
        let (code, after) ← plainEscape c cur
        return (.code code, after)

/-- One end of a range in a set, or a member of its own. -/
def setMember (token : Token) (cur : Cursor) : Except Error (SetMember × Cursor) :=
  match token with
  | .plain c => .ok (.code c.toNat, cur)
  | .escaped c => setEscape c cur

/-- The range between two members, or why there is none. The tokens are those that the ends start
with. -/
def rangeOf (low high : SetMember) (lowToken highToken : Token) (cur : Cursor) :
    Except Error SetMember :=
  let fault := cur.fault (.badRange lowToken.text highToken.text)
    (lowToken.chars.length + 1 + highToken.chars.length)
  match low, high with
  | .code l, .code h => if h < l then .error fault else .ok (.range l h)
  | _, _ => .error fault

/-- The members of a set up to its closing bracket. `start` is where the set starts, `members` what is
read of it, backwards. -/
def setMembers (start : Nat) :
    Nat → List SetMember → Cursor → Except Error (List SetMember × Cursor)
  | 0, _, _ => .error (.invalid .unterminatedSet (some start))
  | n + 1, members, cur => do
      let unterminated := Error.invalid .unterminatedSet (some start)
      match ← cur.get with
      | (none, _) => .error unterminated
      | (some token, cur) =>
          if token = .plain ']' && !members.isEmpty then return (members.reverse, cur)
          else
            let (member, cur) ← setMember token cur
            let (dashed, cur) ← cur.accept '-'
            if !dashed then setMembers start n (member :: members) cur
            else match ← cur.get with
              | (none, _) => .error unterminated
              | (some (.plain ']'), cur) =>
                  return ((SetMember.code '-'.toNat :: member :: members).reverse, cur)
              | (some high, cur) =>
                  let (highMember, cur) ← setMember high cur
                  let range ← rangeOf member highMember token high cur
                  setMembers start n (range :: members) cur

def Reading.readSet (r : Reading) : Except Error Reading := do
  let start := r.cursor.position - 1
  let (negated, cur) ← r.cursor.accept '^'
  let (members, cur) ← setMembers start (cur.rest.length + 1) [] cur
  return { r with cursor := cur, items := .set negated members :: r.items }

/-- The flag of a letter. -/
def flagOf? : Char → Option Flags
  | 'i' => some { ignoreCase := true }
  | 'm' => some { multiline := true }
  | 's' => some { dotAll := true }
  | 'x' => some { verbose := true }
  | 'a' => some { ascii := true }
  | 't' => some { template := true }
  | 'u' => some { unicode := true }
  | 'L' => some {}
  | _ => none

def isLetterToken : Token → Bool
  | .plain c => Text.startsIdentifier c && c ≠ '_'
  | .escaped _ => false

/-- Flags up to a token that ends them. `done` tells which tokens do so and `wanted` what is missing
where there is another one; `add` joins a flag to those before it, or refuses it. -/
def flagLetters (done : Char → Bool) (wanted : String)
    (add : Flags → Char → Flags → Cursor → Except Error Flags) :
    Nat → Flags → Char → Cursor → Except Error (Flags × Char × Cursor)
  | 0, _, _, cur => .error (cur.fault (.missing wanted) 0)
  | n + 1, flags, letter, cur => do
      let flags ← add flags letter ((flagOf? letter).getD {}) cur
      match ← cur.get with
      | (none, cur) => .error (cur.fault (.missing wanted) 0)
      | (some token, cur) =>
          let bad := cur.fault (if isLetterToken token then .unknownFlag else .missing wanted)
            token.chars.length
          match token with
          | .plain c =>
              if done c then return (flags, c, cur)
              else if (flagOf? c).isNone then .error bad
              else flagLetters done wanted add n flags c cur
          | .escaped _ => .error bad

/-- Joins a flag that is turned on. -/
def turnOn (flags : Flags) (letter : Char) (flag : Flags) (cur : Cursor) : Except Error Flags :=
  let joined := flags.union flag
  if letter = 'L' then .error (cur.fault .byteFlag 0)
  else if joined.ascii && joined.unicode then .error (cur.fault .incompatibleFlags 0)
  else .ok joined

/-- Joins a flag that is turned off. -/
def turnOff (flags : Flags) (letter : Char) (flag : Flags) (cur : Cursor) : Except Error Flags :=
  if letter = 'L' || flag.ascii || flag.unicode then .error (cur.fault .classFlagOff 0)
  else .ok (flags.union flag)

/-- The flags that a group turns on and off, `none` for flags of the whole pattern. -/
def groupFlags (letter : Char) (cur : Cursor) :
    Except Error (Flags × Option Flags × Cursor) := do
  let endsOn := fun c => c = ')' || c = '-' || c = ':'
  let (on, last, cur) ←
    if letter = '-' then pure ({}, '-', cur)
    else flagLetters endsOn "-, : or )" turnOn (cur.rest.length + 1) {} letter cur
  if last = ')' then return (on, none, cur)
  if on.template then .error (cur.fault .globalFlagOn 1)
  if last = ':' then return (on, some {}, cur)
  match ← cur.get with
  | (none, cur) => .error (cur.fault (.missing "flag") 0)
  | (some token, cur) =>
      let bad := cur.fault (if isLetterToken token then .unknownFlag else .missing "flag")
        token.chars.length
      match token with
      | .escaped _ => .error bad
      | .plain c =>
          if (flagOf? c).isNone then .error bad
          let (off, _, cur) ← flagLetters (· = ':') ":" turnOff (cur.rest.length + 1) {} c cur
          if off.template then .error (cur.fault .globalFlagOff 1)
          if on.overlaps off then .error (cur.fault .flagOnAndOff 1)
          return (on, some off, cur)

namespace Reading

/-- Opens a group whose content is read next. -/
def openFrame (r : Reading) (start : Nat) (opener : Opener) (verbose : Bool) : Reading :=
  { r with
    frames := ⟨start, opener, r.branches, r.items, r.verbose⟩ :: r.frames,
    branches := [], items := [], verbose := verbose }

/-- Opens a group that captures, by its name if it has one. -/
def openCapture (r : Reading) (start : Nat) (name : Option String) : Except Error Reading := do
  let index := r.groupCount
  let r := { r with widths := r.widths ++ [none] }
  let r ← match name with
    | none => pure r
    | some n => match r.names.lookup n with
        | some old => r.fail (.redefinedGroup n index old) (n.length + 1)
        | none => pure { r with names := (n, index) :: r.names }
  return r.openFrame start (.group (some index) {} {}) r.verbose

/-- A name of a group up to its terminator. -/
def groupName (r : Reading) (terminator : Char) : Except Error (String × Reading) := do
  let (name, cur) ← r.cursor.getUntil terminator "group name"
  return (name, r.moveTo cur)

def checkGroupName (r : Reading) (name : String) : Except Error Unit :=
  if Text.isIdentifier name.toList then .ok () else r.fail (.badGroupName name) (name.length + 1)

/-- A group with a name, or a reference to one. -/
def readNamed (r : Reading) (start : Nat) : Except Error Reading := do
  match ← r.cursor.get with
  | (none, cur) => (r.moveTo cur).fail .unexpectedEnd 0
  | (some token, cur) =>
      let r := r.moveTo cur
      match token with
      | .plain '<' =>
          let (name, r) ← r.groupName '>'
          r.checkGroupName name
          r.openCapture start (some name)
      | .plain '=' =>
          let (name, r) ← r.groupName ')'
          r.checkGroupName name
          match r.names.lookup name with
          | none => r.fail (.unknownGroupName name) (name.length + 1)
          | some group =>
              if !r.isClosed group then r.fail .openGroup (name.length + 1)
              r.checkLookbehind group
              return r.push (.backreference group)
      | _ => r.fail (.unknownExtension ("P" ++ token.text)) (token.chars.length + 2)

/-- Passes over a comment. -/
def skipComment (start : Nat) : Nat → Cursor → Except Error Cursor
  | 0, _ => .error (.invalid .unterminatedComment (some start))
  | n + 1, cur => do
      match ← cur.get with
      | (none, _) => .error (.invalid .unterminatedComment (some start))
      | (some token, cur) => if token = .plain ')' then return cur else skipComment start n cur

/-- Opens a condition on the text after or before. -/
def openLook (r : Reading) (start : Nat) (ahead positive : Bool) : Reading :=
  let opened := r.openFrame start (.look ahead positive r.limit) r.verbose
  if ahead then opened else { opened with limit := some (r.limit.getD r.groupCount) }

/-- Opens a condition on the text before, by the token after its mark. -/
def readLookbehind (r : Reading) (start : Nat) : Except Error Reading := do
  match ← r.cursor.get with
  | (none, cur) => (r.moveTo cur).fail .unexpectedEnd 0
  | (some token, cur) =>
      let r := r.moveTo cur
      match token with
      | .plain '=' => return r.openLook start false true
      | .plain '!' => return r.openLook start false false
      | _ => r.fail (.unknownExtension ("<" ++ token.text)) (token.chars.length + 2)

/-- The group that a choice depends on, by name or by number. -/
def conditionGroup (r : Reading) (name : String) : Except Error (Nat × Reading) :=
  let back := name.length + 1
  if Text.isIdentifier name.toList then
    match r.names.lookup name with
    | none => r.fail (.unknownGroupName name) back
    | some group => .ok (group, r)
  else match Number.intLiteral? name.toList with
    | none | some (.negSucc _) => r.fail (.badGroupName name) back
    | some (.ofNat group) =>
        if group = 0 then r.fail .badGroupNumber back
        else if groupLimit ≤ group then r.fail (.unknownGroup group) back
        else if (r.references.lookup group).isSome then .ok (group, r)
        else .ok (group, { r with references := r.references ++ [(group, r.cursor.position - back)] })

def readConditional (r : Reading) (start : Nat) : Except Error Reading := do
  let (name, r) ← r.groupName ')'
  let (group, r) ← r.conditionGroup name
  r.checkLookbehind group
  return r.openFrame start (.conditional group none) r.verbose

/-- Flags of the whole pattern, which must stand before all else, or a group with flags. -/
def readFlags (r : Reading) (start : Nat) (letter : Char) : Except Error Reading := do
  let (on, off, cur) ← groupFlags letter r.cursor
  let r := r.moveTo cur
  match off with
  | none =>
      if !r.frames.isEmpty || !r.branches.isEmpty || !r.items.isEmpty then
        .error (.invalid .lateGlobalFlags (some start))
      else
        let flags := r.flags.union on
        return { r with flags := flags, verbose := flags.verbose }
  | some off =>
      return r.openFrame start (.group none on off) ((r.verbose || on.verbose) && !off.verbose)

/-- What follows an opening parenthesis with a question mark. -/
def readExtension (r : Reading) (start : Nat) : Except Error Reading := do
  match ← r.cursor.get with
  | (none, cur) => (r.moveTo cur).fail .unexpectedEnd 0
  | (some token, cur) =>
      let r := r.moveTo cur
      let unknown : Except Error Reading :=
        r.fail (.unknownExtension token.text) (token.chars.length + 1)
      match token with
      | .escaped _ => unknown
      | .plain 'P' => r.readNamed start
      | .plain ':' => return r.openFrame start (.group none {} {}) r.verbose
      | .plain '#' => return { r with cursor := ← skipComment start (cur.rest.length + 1) cur }
      | .plain '=' => return r.openLook start true true
      | .plain '!' => return r.openLook start true false
      | .plain '<' => r.readLookbehind start
      | .plain '(' => r.readConditional start
      | .plain '>' => return r.openFrame start .atomic r.verbose
      | .plain c => if c = '-' || (flagOf? c).isSome then r.readFlags start c else unknown

def readParenthesis (r : Reading) : Except Error Reading := do
  let start := r.cursor.position - 1
  let (extended, cur) ← r.cursor.accept '?'
  let r := r.moveTo cur
  if extended then r.readExtension start else r.openCapture start none

/-- The bounds of a repetition in braces, `none` if the brace stands for itself. -/
def repeatBounds (cur : Cursor) : Except Error (Option (Nat × Option Nat × Cursor)) := do
  let start := cur.position
  if cur.next? = some (.plain '\x7d') then return none
  let (low, cur) ← cur.getWhile Text.isAsciiDigit (cur.rest.length + 1)
  let (ranged, cur) ← cur.accept ','
  let (high, cur) ←
    if ranged then cur.getWhile Text.isAsciiDigit (cur.rest.length + 1) else pure (low, cur)
  let (closed, cur) ← cur.accept '\x7d'
  if !closed then return none
  let least := Text.digitsValue low
  if Number.maxDigits < low.length then .error (.longNumber low.length)
  if repeatLimit ≤ least then .error .tooManyRepeats
  if high.isEmpty then return some (least, none, cur)
  let most := Text.digitsValue high
  if Number.maxDigits < high.length then .error (.longNumber high.length)
  if repeatLimit ≤ most then .error .tooManyRepeats
  if most < least then .error (.invalid .minimumAboveMaximum (some start))
  return some (least, some most, cur)

/-- Repeats the item before. `start` is where the sign of the repetition stands. -/
def repeatLast (r : Reading) (start least : Nat) (most : Option Nat) : Except Error Reading := do
  match r.items with
  | [] | .anchor _ :: _ => .error (.invalid .nothingToRepeat (some start))
  | .repeated .. :: _ => .error (.invalid .multipleRepeat (some start))
  | item :: before =>
      let (reluctant, cur) ← r.cursor.accept '?'
      let (possessive, cur) ← if reluctant then pure (false, cur) else cur.accept '+'
      let greed :=
        if reluctant then Greed.reluctant else if possessive then Greed.possessive else Greed.greedy
      return { r with cursor := cur, items := .repeated least most greed item :: before }

/-- A brace: a repetition if it is one, else a character. -/
def readBrace (r : Reading) : Except Error Reading := do
  match ← repeatBounds r.cursor with
  | none => return r.push (.code '\x7b'.toNat)
  | some (least, most, cur) =>
      (r.moveTo cur).repeatLast (r.cursor.position - 1) least most

/-- Passes over the rest of a line. -/
def skipLine : Nat → Cursor → Except Error Cursor
  | 0, cur => .ok cur
  | n + 1, cur => do
      match ← cur.get with
      | (none, cur) => return cur
      | (some token, cur) => if token = .plain '\n' then return cur else skipLine n cur

/-- Reads what starts with a token that is passed over and is neither a bar nor a closing
parenthesis. -/
def readItem (r : Reading) (token : Token) : Except Error Reading :=
  let start := r.cursor.position - 1
  match token with
  | .escaped c => do
      let (item, cur) ← itemEscape r c r.cursor
      return { r with cursor := cur, items := item :: r.items }
  | .plain c =>
      if r.verbose && [' ', '\t', '\n', '\r', '\x0b', '\x0c'].contains c then .ok r
      else if r.verbose && c = '#' then do
        return { r with cursor := ← skipLine (r.cursor.rest.length + 1) r.cursor }
      else match c with
        | '[' => r.readSet
        | '*' => r.repeatLast start 0 none
        | '+' => r.repeatLast start 1 none
        | '?' => r.repeatLast start 0 (some 1)
        | '\x7b' => r.readBrace
        | '.' => .ok (r.push .any)
        | '(' => r.readParenthesis
        | '^' => .ok (r.push (.anchor .lineStart))
        | '$' => .ok (r.push (.anchor .lineEnd))
        | _ => .ok (r.push (.code c.toNat))

/-- The items of the innermost open group as one row. -/
def body (r : Reading) : List Item :=
  if r.branches.isEmpty then r.items.reverse
  else [.alternatives (r.items.reverse :: r.branches).reverse]

/-- Starts another branch. A choice has two, and the flags of the whole pattern hold again in each
branch of the whole pattern. -/
def readBar (r : Reading) : Except Error Reading :=
  match r.frames with
  | ⟨_, .conditional _ (some _), _, _, _⟩ :: _ => r.fail .extraBranch 0
  | frame :: frames => do
      let (_, cur) ← r.cursor.get
      match frame.opener with
      | .conditional group none =>
          let frame := { frame with opener := .conditional group (some r.items.reverse) }
          return { r with cursor := cur, frames := frame :: frames, items := [] }
      | _ => return { r with cursor := cur, branches := r.items.reverse :: r.branches, items := [] }
  | [] => do
      let (_, cur) ← r.cursor.get
      return { r with
        cursor := cur, branches := r.items.reverse :: r.branches, items := [],
        verbose := r.flags.verbose }

/-- Closes the innermost open group. -/
def close (r : Reading) (frame : Frame) (frames : List Frame) : Except Error Reading := do
  let (_, cur) ← r.cursor.get
  let body := r.body
  let outer := { r with
    cursor := cur, frames := frames, branches := frame.branches, items := frame.items,
    verbose := frame.verbose }
  match frame.opener with
  | .group none on off => return outer.push (.group none on off body)
  | .group (some index) on off =>
      let widths := r.widths.set index (some (width r.widthOf body))
      return ({ outer with widths := widths }).push (.group (some index) on off body)
  | .atomic => return outer.push (.atomic body)
  | .look ahead positive outerLimit =>
      let behind := if ahead then none else some (width r.widthOf body)
      return ({ outer with limit := outerLimit }).push (.look behind positive body)
  | .conditional group none => return outer.push (.conditional group body [])
  | .conditional group (some yes) => return outer.push (.conditional group yes body)

/-- One more token of the pattern, `none` at its end or at a parenthesis that closes nothing. -/
def step (r : Reading) : Except Error (Option Reading) :=
  match r.cursor.next?, r.frames with
  | none, [] => .ok none
  | none, frame :: _ => .error (.invalid .unterminatedGroup (some frame.start))
  | some (.plain ')'), [] => .ok none
  | some (.plain ')'), frame :: frames => (r.close frame frames).map some
  | some (.plain '|'), _ => r.readBar.map some
  | some token, _ => do
      let (_, cur) ← r.cursor.get
      return some (← (r.moveTo cur).readItem token)

/-- Reads to the end, or to a parenthesis that closes nothing. Every step leaves less to read. -/
def finish (r : Reading) : Except Error Reading :=
  match r.step with
  | .error e => .error e
  | .ok none => .ok r
  | .ok (some next) =>
      if next.cursor.rest.length < r.cursor.rest.length then finish next else .ok next
termination_by r.cursor.rest.length

end Reading

mutual

/-- What is wrong with an item although it is well written: a condition on a text before it whose
length is not fixed, or a repetition where there may be none. -/
def itemFault (template : Bool) : Item → Option Fault
  | .code _ | .any | .set .. | .anchor _ | .backreference _ => none
  | .alternatives branches => branchesFault template branches
  | .group _ _ _ body => faultOf template body
  | .atomic body => faultOf template body
  | .look none _ body => faultOf template body
  | .look (some width) _ body =>
      if lookbehindLimit < width.least then some .farLookbehind
      else if width.least ≠ width.most then some .variableLookbehind
      else faultOf template body
  | .conditional _ yes no => (faultOf template yes).or (faultOf template no)
  | .repeated _ _ greed body =>
      if template then some (.repeatInTemplate greed) else itemFault template body

/-- The first thing wrong with a row of items. -/
def faultOf (template : Bool) : List Item → Option Fault
  | [] => none
  | item :: rest => (itemFault template item).or (faultOf template rest)

def branchesFault (template : Bool) : List (List Item) → Option Fault
  | [] => none
  | branch :: rest => (faultOf template branch).or (branchesFault template rest)

end

end Flowline.Pattern

namespace Flowline

/-- A search pattern: its items, the flags of the whole, and the number of its groups. -/
structure Pattern where
  items : List Pattern.Item
  flags : Pattern.Flags
  groupCount : Nat

namespace Pattern

/-- The pattern that a text writes. -/
def parse (source : String) : Except Error Pattern := do
  let cursor ← Cursor.settle ⟨source.toList, 0⟩
  let r ← Reading.finish ⟨cursor, {}, [], [none], none, [], [], [], [], false⟩
  if r.flags.ascii && r.flags.unicode then .error .classFlagsClash
  if !r.cursor.rest.isEmpty then r.fail .unbalancedParenthesis 0
  match r.references.find? fun reference => r.groupCount ≤ reference.1 with
  | some (group, position) => .error (.invalid (.unknownGroup group) (some position))
  | none => pure ()
  match faultOf r.flags.template r.body with
  | some fault => .error (.invalid fault none)
  | none => return ⟨r.body, { r.flags with unicode := !r.flags.ascii }, r.groupCount - 1⟩

end Pattern

end Flowline
