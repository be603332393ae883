import Flowline.Number.Limits
import Flowline.Text.Quoted

/-!
Search patterns: what they are made of, the widths of the texts they match, and what can be wrong with a
written one.
-/

namespace Flowline.Pattern

/-- Ways in which a part of a pattern is matched. -/
structure Flags where
  ignoreCase : Bool := false
  multiline : Bool := false
  dotAll : Bool := false
  verbose : Bool := false
  ascii : Bool := false
  unicode : Bool := false
  template : Bool := false
  deriving DecidableEq, Repr

/-- The flags set in either. -/
def Flags.union (f g : Flags) : Flags where
  ignoreCase := f.ignoreCase || g.ignoreCase
  multiline := f.multiline || g.multiline
  dotAll := f.dotAll || g.dotAll
  verbose := f.verbose || g.verbose
  ascii := f.ascii || g.ascii
  unicode := f.unicode || g.unicode
  template := f.template || g.template

/-- The flags inside a group that turns some on and some off. A group that chooses the character
classes leaves nothing of an outer choice. -/
def Flags.within (f on off : Flags) : Flags where
  ignoreCase := (f.ignoreCase || on.ignoreCase) && !off.ignoreCase
  multiline := (f.multiline || on.multiline) && !off.multiline
  dotAll := (f.dotAll || on.dotAll) && !off.dotAll
  verbose := (f.verbose || on.verbose) && !off.verbose
  ascii := if on.ascii || on.unicode then on.ascii else f.ascii
  unicode := if on.ascii || on.unicode then on.unicode else f.unicode
  template := f.template

/-- Whether some flag is set in both. -/
def Flags.overlaps (f g : Flags) : Bool :=
  (f.ignoreCase && g.ignoreCase) || (f.multiline && g.multiline) || (f.dotAll && g.dotAll) ||
    (f.verbose && g.verbose) || (f.ascii && g.ascii) || (f.unicode && g.unicode)

inductive Anchor where
  | lineStart
  | lineEnd
  | textStart
  | textEnd
  | wordBoundary
  | insideWord
  deriving DecidableEq, Repr

inductive CharClass where
  | digit
  | blank
  | word
  deriving DecidableEq, Repr

/-- A member of a character set. Code points stand as numbers because a pattern can name any of them. -/
inductive SetMember where
  | code (code : Nat)
  | range (low high : Nat)
  | ofClass (c : CharClass) (negated : Bool)
  deriving DecidableEq, Repr

inductive Greed where
  | greedy
  | reluctant
  | possessive
  deriving DecidableEq, Repr

/-- The least and the greatest number of characters that something matches. -/
structure Width where
  least : Nat
  most : Nat
  deriving DecidableEq, Repr

/-- One part of a pattern. A condition on the text before has the width of what it looks for. -/
inductive Item where
  | code (code : Nat)
  | any
  | set (negated : Bool) (members : List SetMember)
  | anchor (a : Anchor)
  | alternatives (branches : List (List Item))
  | group (index : Option Nat) (on off : Flags) (body : List Item)
  | atomic (body : List Item)
  | look (behind : Option Width) (positive : Bool) (body : List Item)
  | backreference (group : Nat)
  | conditional (group : Nat) (yes no : List Item)
  | repeated (least : Nat) (most : Option Nat) (greed : Greed) (body : Item)

/-- Widths are not told apart from here on. -/
def Width.limit : Nat := Number.twoTo 64

def Width.add (v w : Width) : Width := ⟨v.least + w.least, v.most + w.most⟩

/-- The width of a choice between two. -/
def Width.or (v w : Width) : Width := ⟨min v.least w.least, max v.most w.most⟩

def Width.capped (w : Width) : Width := ⟨min w.least limit, min w.most limit⟩

/-- The width of a repetition. -/
def Width.times (w : Width) (least : Nat) (most : Option Nat) : Width where
  least := w.least * least
  most := match most with
    | some m => w.most * m
    | none => if w.most = 0 then 0 else limit

mutual

/-- The width of an item, given the widths of the groups. -/
def itemWidth (groups : Nat → Width) : Item → Width
  | .code _ | .any | .set .. => ⟨1, 1⟩
  | .anchor _ | .look .. => ⟨0, 0⟩
  | .alternatives branches => branchesWidth groups branches
  | .group _ _ _ body => width groups body
  | .atomic body => width groups body
  | .backreference g => groups g
  | .conditional _ yes no => (width groups yes).or (width groups no)
  | .repeated least most _ body => (itemWidth groups body).capped.times least most

/-- The width of a row of items. -/
def width (groups : Nat → Width) (items : List Item) : Width := (widthSum groups items).capped

def widthSum (groups : Nat → Width) : List Item → Width
  | [] => ⟨0, 0⟩
  | item :: rest => (itemWidth groups item).add (widthSum groups rest)

def branchesWidth (groups : Nat → Width) : List (List Item) → Width
  | [] => ⟨Width.limit, 0⟩
  | branch :: rest => (width groups branch).or (branchesWidth groups rest)

end

/-- What can be wrong with a written pattern. -/
inductive Fault where
  | trailingBackslash
  | missing (what : String)
  | unterminatedName (terminator : Char)
  | unterminatedSet
  | unterminatedGroup
  | unterminatedComment
  | unbalancedParenthesis
  | unexpectedEnd
  | incompleteEscape (escape : String)
  | badEscape (escape : String)
  | octalRange (escape : String)
  | badRange (low high : String)
  | unknownCharacterName (name : String)
  | badGroupName (name : String)
  | unknownGroupName (name : String)
  | redefinedGroup (name : String) (index old : Nat)
  | badGroupNumber
  | unknownGroup (index : Nat)
  | openGroup
  | groupOfLookbehind
  | extraBranch
  | unknownExtension (text : String)
  | nothingToRepeat
  | multipleRepeat
  | minimumAboveMaximum
  | unknownFlag
  | lateGlobalFlags
  | byteFlag
  | incompatibleFlags
  | globalFlagOn
  | globalFlagOff
  | classFlagOff
  | flagOnAndOff
  | farLookbehind
  | variableLookbehind
  | repeatInTemplate (greed : Greed)
  deriving DecidableEq, Repr

def Fault.message : Fault → String
  | trailingBackslash => "bad escape (end of pattern)"
  | missing what => "missing " ++ what
  | unterminatedName terminator => "missing " ++ String.singleton terminator ++ ", unterminated name"
  | unterminatedSet => "unterminated character set"
  | unterminatedGroup => "missing ), unterminated subpattern"
  | unterminatedComment => "missing ), unterminated comment"
  | unbalancedParenthesis => "unbalanced parenthesis"
  | unexpectedEnd => "unexpected end of pattern"
  | incompleteEscape escape => "incomplete escape " ++ escape
  | badEscape escape => "bad escape " ++ escape
  | octalRange escape => "octal escape value " ++ escape ++ " outside of range 0-0o377"
  | badRange low high => "bad character range " ++ low ++ "-" ++ high
  | unknownCharacterName name => "undefined character name " ++ Text.quoted name
  | badGroupName name => "bad character in group name " ++ Text.quoted name
  | unknownGroupName name => "unknown group name " ++ Text.quoted name
  | redefinedGroup name index old =>
      "redefinition of group name " ++ Text.quoted name ++ s!" as group {index}; was group {old}"
  | badGroupNumber => "bad group number"
  | unknownGroup index => s!"invalid group reference {index}"
  | openGroup => "cannot refer to an open group"
  | groupOfLookbehind => "cannot refer to group defined in the same lookbehind subpattern"
  | extraBranch => "conditional backref with more than two branches"
  | unknownExtension text => "unknown extension ?" ++ text
  | nothingToRepeat => "nothing to repeat"
  | multipleRepeat => "multiple repeat"
  | minimumAboveMaximum => "min repeat greater than max repeat"
  | unknownFlag => "unknown flag"
  | lateGlobalFlags => "global flags not at the start of the expression"
  | byteFlag => "bad inline flags: cannot use 'L' flag with a str pattern"
  | incompatibleFlags => "bad inline flags: flags 'a', 'u' and 'L' are incompatible"
  | globalFlagOn => "bad inline flags: cannot turn on global flag"
  | globalFlagOff => "bad inline flags: cannot turn off global flag"
  | classFlagOff => "bad inline flags: cannot turn off flags 'a', 'u' and 'L'"
  | flagOnAndOff => "bad inline flags: flag turned on and off"
  | farLookbehind => "looks too much behind"
  | variableLookbehind => "look-behind requires fixed-width pattern"
  | repeatInTemplate .greedy => "internal: unsupported template operator MAX_REPEAT"
  | repeatInTemplate .reluctant => "internal: unsupported template operator MIN_REPEAT"
  | repeatInTemplate .possessive => "internal: unsupported template operator POSSESSIVE_REPEAT"

/-- Why a text is no pattern. -/
inductive Error where
  | invalid (fault : Fault) (position : Option Nat)
  | tooManyRepeats
  | classFlagsClash
  | codeTooLarge
  | longNumber (digits : Nat)
  deriving DecidableEq, Repr

/-- The line of a position and its column, both counted from one. -/
def lineAndColumn (pattern : List Char) (position : Nat) : Nat × Nat :=
  let before := pattern.take position
  (before.count '\n' + 1, (before.reverse.takeWhile (· ≠ '\n')).length + 1)

/-- The text of an error. The position of a fault is told also by line and column where the pattern has
more than one line. -/
def Error.message (pattern : String) : Error → String
  | invalid fault none => fault.message
  | invalid fault (some position) =>
      let place := if pattern.toList.contains '\n' then
          let (line, column) := lineAndColumn pattern.toList position
          s!" (line {line}, column {column})"
        else ""
      fault.message ++ s!" at position {position}" ++ place
  | tooManyRepeats => "the repetition number is too large"
  | classFlagsClash => "ASCII and UNICODE flags are incompatible"
  | codeTooLarge => Number.intTooLarge
  | longNumber digits => Number.longNumber digits

end Flowline.Pattern
