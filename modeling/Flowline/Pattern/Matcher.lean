import Flowline.Pattern.Parser
import Flowline.Text.LetterCase

/-!
Matching of patterns by backtracking. Every function takes what is to be matched afterwards as its last
part, tries its choices in order, and answers with the marks of the first one with which all matches.
-/

namespace Flowline.Pattern

/-- A text that is searched. -/
structure Subject where
  chars : Array Char

/-- Where the groups start and end, at `2 * index - 2` and `2 * index - 1`. -/
abbrev Marks := Array (Option Nat)

/-- Where a match ends, with its marks. -/
abbrev Found := Nat × Marks

/-- What is matched after a part, from a position on. -/
abbrev Continuation := Nat → Marks → Option Found

namespace Marks

/-- The start and the end of a group that is complete. -/
def span? (marks : Marks) (group : Nat) : Option (Nat × Nat) :=
  match (marks[2 * group - 2]?).bind id, (marks[2 * group - 1]?).bind id with
  | some start, some stop => if start ≤ stop then some (start, stop) else none
  | _, _ => none

def setMark (marks : Marks) (index position : Nat) : Marks := marks.setIfInBounds index (some position)

end Marks

/-- Whether a letter has another case. -/
def isCased (c : Char) : Bool := Text.lowerChar c ≠ c || Text.upperChar c ≠ c

/-- A character as it is compared where case is ignored. -/
def foldCase (flags : Flags) (c : Char) : Char :=
  if flags.ascii then (if c.toNat < 128 then c.toLower else c) else Text.lowerChar c

/-- All characters that count as the same as a character where case is ignored. -/
def variants (flags : Flags) (c : Char) : List Char :=
  if flags.ascii then (if c.toNat < 128 then [c.toLower, c.toUpper] else [c])
  else Text.caseVariants c

/-- Whether a character is the one with a code point. -/
def matchesCode (flags : Flags) (code : Nat) (c : Char) : Bool :=
  if !flags.ignoreCase then c.toNat = code
  else
    let wanted := Char.ofNat code
    if wanted.toNat ≠ code then false
    else if flags.ascii then foldCase flags c = foldCase flags wanted
    else if !isCased wanted then c = wanted
    else (Text.sameLowerCase (Text.lowerChar wanted)).contains (Text.lowerChar c)

def inClass (flags : Flags) (c : Char) : CharClass → Bool
  | .digit => if flags.ascii then Text.isAsciiDigit c else Text.isDecimalDigit c
  | .blank => if flags.ascii then (9 ≤ c.toNat && c.toNat ≤ 13) || c = ' ' else Text.isBlank c
  | .word => if flags.ascii then Text.isAsciiWord c else Text.isWord c

def matchesMember (flags : Flags) (c : Char) : SetMember → Bool
  | .code code => matchesCode flags code c
  | .range low high =>
      let inside := fun d : Char => low ≤ d.toNat && d.toNat ≤ high
      inside c || (flags.ignoreCase && (variants flags c).any inside)
  | .ofClass cls negated => inClass flags c cls != negated

/-- The condition on a character of an item that matches exactly one. -/
def charTest? (flags : Flags) : Item → Option (Char → Bool)
  | .code code => some (matchesCode flags code)
  | .any => some fun c => flags.dotAll || c ≠ '\n'
  | .set negated members => some fun c => members.any (matchesMember flags c) != negated
  | _ => none

def isWordAt (flags : Flags) (s : Subject) (position : Nat) : Bool :=
  (s.chars[position]?).any (inClass flags · .word)

/-- Whether the words before and after a position are told apart there. -/
def atBoundary (flags : Flags) (s : Subject) (position : Nat) : Bool :=
  (0 < position && isWordAt flags s (position - 1)) != isWordAt flags s position

/-- Whether an anchor holds at a position. No word boundary and no place inside a word is in the empty
text. -/
def holdsAt (flags : Flags) (s : Subject) (position : Nat) : Anchor → Bool
  | .lineStart =>
      position = 0 || (flags.multiline && s.chars[position - 1]? = some '\n')
  | .lineEnd =>
      position = s.chars.size ||
        ((flags.multiline || position + 1 = s.chars.size) && s.chars[position]? = some '\n')
  | .textStart => position = 0
  | .textEnd => position = s.chars.size
  | .wordBoundary => !s.chars.isEmpty && atBoundary flags s position
  | .insideWord => !s.chars.isEmpty && !atBoundary flags s position

/-- Whether the text at a position repeats a part of the text. -/
def repeatsText (flags : Flags) (s : Subject) (start stop position : Nat) : Bool :=
  (List.range (stop - start)).all fun i =>
    match s.chars[start + i]?, s.chars[position + i]? with
    | some c, some d =>
        if flags.ignoreCase then foldCase flags c = foldCase flags d else c = d
    | _, _ => false

/-- How many characters from a position on pass a test, at most so many. -/
def countWhile (s : Subject) (test : Char → Bool) : Nat → Nat → Nat
  | 0, _ => 0
  | n + 1, position =>
      if (s.chars[position]?).any test then countWhile s test n (position + 1) + 1 else 0

/-- Goes on after `least + n` characters, or after one less, down to `least`. -/
def longestFirst (next : Continuation) (position least : Nat) : Nat → Marks → Option Found
  | 0, marks => next (position + least) marks
  | n + 1, marks =>
      match next (position + least + (n + 1)) marks with
      | some found => some found
      | none => longestFirst next position least n marks

/-- Goes on at a position, or after one more character, for `n` characters. -/
def shortestFirst (next : Continuation) : Nat → Nat → Marks → Option Found
  | 0, position, marks => next position marks
  | n + 1, position, marks =>
      match next position marks with
      | some found => some found
      | none => shortestFirst next n (position + 1) marks

/-- Repeats an item that matches exactly one character. -/
def repeatChar (s : Subject) (test : Char → Bool) (least : Nat) (most : Option Nat) (greed : Greed)
    (next : Continuation) (position : Nat) (marks : Marks) : Option Found :=
  let left := s.chars.size - position
  let count := countWhile s test (min left (most.getD left)) position
  if count < least then none
  else match greed with
    | .greedy => longestFirst next position least (count - least) marks
    | .reluctant => shortestFirst next (count - least) (position + least) marks
    | .possessive => next (position + count) marks

/-- Repeats a part that is matched by `part`. After the least number of rounds, another one is tried
only if the last such round has moved on: `last` is where it started. `fuel` bounds the rounds. -/
def repeatPart (part : Continuation → Continuation) (least : Nat) (most : Option Nat)
    (reluctant : Bool) (next : Continuation) :
    Nat → Nat → Option Nat → Continuation
  | 0, _, _, _, _ => none
  | fuel + 1, count, last, position, marks =>
      if count < least then
        part (repeatPart part least most reluctant next fuel (count + 1) last) position marks
      else
        let again := fun _ : Unit =>
          if most.all (count < ·) && last ≠ some position then
            part (repeatPart part least most reluctant next fuel (count + 1) (some position))
              position marks
          else none
        if reluctant then
          match next position marks with
          | some found => some found
          | none => again ()
        else
          match again () with
          | some found => some found
          | none => next position marks

/-- Repeats a part as often as it goes, each round in the first way in which it matches. -/
def repeatFirst (round : Nat → Marks → Option Found) (least : Nat) (most : Option Nat) :
    Nat → Nat → Option Nat → Nat → Marks → Option Found
  | 0, _, _, position, marks => some (position, marks)
  | fuel + 1, count, last, position, marks =>
      if count < least then
        match round position marks with
        | some (position, marks) =>
            repeatFirst round least most fuel (count + 1) last position marks
        | none => none
      else if most.all (count < ·) && last ≠ some position then
        match round position marks with
        | some (after, marks) =>
            repeatFirst round least most fuel (count + 1) (some position) after marks
        | none => some (position, marks)
      else some (position, marks)

/-- A part on its own, in the first way in which it matches. -/
def firstMatch (part : Continuation → Continuation) (position : Nat) (marks : Marks) :
    Option Found :=
  part (fun stop marks => some (stop, marks)) position marks

mutual

/-- Matches an item at a position and then `next`. -/
def matchItem (s : Subject) (flags : Flags) (item : Item)
    (next : Continuation) (position : Nat) (marks : Marks) : Option Found :=
  match item with
  | .code code =>
      if (s.chars[position]?).any (matchesCode flags code) then next (position + 1) marks else none
  | .any =>
      if (s.chars[position]?).any fun c => flags.dotAll || c ≠ '\n' then next (position + 1) marks
      else none
  | .set negated members =>
      if (s.chars[position]?).any fun c => members.any (matchesMember flags c) != negated then
        next (position + 1) marks
      else none
  | .anchor a => if holdsAt flags s position a then next position marks else none
  | .alternatives branches => matchFirst s flags branches next position marks
  | .group none on off body => matchItems s (flags.within on off) body next position marks
  | .group (some index) on off body =>
      matchItems s (flags.within on off) body
        (fun stop marks => next stop (Marks.setMark marks (2 * index - 1) stop))
        position (Marks.setMark marks (2 * index - 2) position)
  | .atomic body =>
      match firstMatch (matchItems s flags body) position marks with
      | some (stop, marks) => next stop marks
      | none => none
  | .look behind positive body =>
      let back := (behind.map (·.least)).getD 0
      let found := if position < back then none
        else firstMatch (matchItems s flags body) (position - back) marks
      match found, positive with
      | some (_, marks), true => next position marks
      | none, false => next position marks
      | _, _ => none
  | .backreference group =>
      match Marks.span? marks group with
      | some (start, stop) =>
          if repeatsText flags s start stop position then next (position + (stop - start)) marks
          else none
      | none => none
  | .conditional group yes no =>
      if (Marks.span? marks group).isSome then matchItems s flags yes next position marks
      else matchItems s flags no next position marks
  | .repeated least most greed body =>
      let fuel := least + (s.chars.size - position) + 2
      match charTest? flags body, greed with
      | some test, _ => repeatChar s test least most greed next position marks
      | none, .possessive =>
          match repeatFirst (firstMatch (matchItem s flags body)) least most fuel 0 none position
            marks with
          | some (stop, marks) => next stop marks
          | none => none
      | none, _ =>
          repeatPart (matchItem s flags body) least most (greed = .reluctant) next fuel 0 none
            position marks

/-- Matches the items of a row one after another and then `next`. -/
def matchItems (s : Subject) (flags : Flags) (items : List Item)
    (next : Continuation) (position : Nat) (marks : Marks) : Option Found :=
  match items with
  | [] => next position marks
  | item :: rest =>
      matchItem s flags item (matchItems s flags rest next) position marks

/-- Matches the first of several branches with which all matches. -/
def matchFirst (s : Subject) (flags : Flags) (branches : List (List Item))
    (next : Continuation) (position : Nat) (marks : Marks) : Option Found :=
  match branches with
  | [] => none
  | branch :: rest =>
      match matchItems s flags branch next position marks with
      | some found => some found
      | none => matchFirst s flags rest next position marks

end

/-- The first match at a position or at one of the `n` after it. -/
def searchFrom (s : Subject) (p : Pattern) : Nat → Nat → Option Found
  | n, position =>
      let found := firstMatch (matchItems s p.flags p.items) position
        (Array.replicate (2 * p.groupCount) none)
      match found, n with
      | some found, _ => some found
      | none, 0 => none
      | none, n + 1 => searchFrom s p n (position + 1)

/-- The part of a text between two positions. -/
def Subject.slice (s : Subject) (start stop : Nat) : String :=
  String.ofList (s.chars.extract start stop).toList

/-- What the first group of the first match captures: `none` if there is no match, and nothing in it if
the group takes no part in the match. -/
def firstGroup (p : Pattern) (text : String) : Option (Option String) :=
  let s : Subject := ⟨text.toList.toArray⟩
  (searchFrom s p s.chars.size 0).map fun (_, marks) =>
    if p.groupCount = 0 then none
    else (Marks.span? marks 1).map fun (start, stop) => s.slice start stop

end Flowline.Pattern
