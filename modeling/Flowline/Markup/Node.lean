import Flowline.Markup.Tag
import Flowline.Markup.Lexer

/-!
Nodes and how tokens build them. A node is a scalar, a sequence or a mapping, each with a tag. An
anchor gives a node a name for the rest of its document, and an alias stands for the node of a name.
-/

namespace Flowline.Markup

/-- A node of a document. `enclosing` stands for a sequence or a mapping inside of itself, by the name
that it has. -/
inductive Node where
  | scalar (tag : Tag) (text : Text.Loose)
  | sequence (tag : Tag) (items : List Node)
  | mapping (tag : Tag) (entries : List (Node × Node))
  | enclosing (name : String) (isMapping : Bool)
  deriving Inhabited

namespace Node

/-- The node where none is written. -/
def empty : Node := scalar .null ""

/-! ## Nodes inside of themselves -/

mutual

/-- The names of the nodes that a node holds inside of themselves. -/
def enclosingNames : Node → List String
  | scalar .. => []
  | sequence _ items => itemNames items
  | mapping _ entries => entryNames entries
  | enclosing name _ => [name]

def itemNames : List Node → List String
  | [] => []
  | item :: rest => enclosingNames item ++ itemNames rest

def entryNames : List (Node × Node) → List String
  | [] => []
  | (key, value) :: rest => enclosingNames key ++ enclosingNames value ++ entryNames rest

end

mutual

/-- Puts the nodes that have a name in the places where they are inside of themselves. -/
def opened (named : List (String × Node)) : Node → Node
  | scalar tag text => scalar tag text
  | sequence tag items => sequence tag (openedItems named items)
  | mapping tag entries => mapping tag (openedEntries named entries)
  | enclosing name isMapping => (named.lookup name).getD (enclosing name isMapping)

def openedItems (named : List (String × Node)) : List Node → List Node
  | [] => []
  | item :: rest => opened named item :: openedItems named rest

def openedEntries (named : List (String × Node)) : List (Node × Node) → List (Node × Node)
  | [] => []
  | (key, value) :: rest => (opened named key, opened named value) :: openedEntries named rest

end

/-- How often nodes that are inside of themselves are opened: more often than the steps in them have
ways to go on. A sequence has one, as a list of steps. A mapping has two: it is a step or the fields of
one, and among its fields are fallbacks or the arms of a comparison. So steps that are still inside of
themselves after that have no end. -/
def rounds (node : Node) : Nat :=
  match node.enclosingNames.eraseDups with
  | [] => 0
  | names => 2 * names.length + 1

/-- The node with all that is inside of itself opened. -/
def unfolded (node : Node) (named : List (String × Node)) : Node :=
  node.rounds.repeat (opened named) node

end Node

/-- The tokens that are left, the nodes that have a name, and what the handles of tags stand for. -/
structure Composer where
  tokens : List Token
  fault : Option Fault
  anchors : List (String × Node)
  handles : List (String × String)

abbrev Composing := StateT Composer (Except Fault)

namespace Composer

def broken {α : Type} (text : String) : Composing α :=
  throw (.invalid .nesting text)

/-- The next token. -/
def peek : Composing Token := do
  let c ← get
  match c.tokens, c.fault with
  | t :: _, _ => return t
  | [], some fault => throw fault
  | [], none => broken "no more tokens"

/-- Passes over a token. -/
def drop : Composing Unit := modify fun c => { c with tokens := c.tokens.tail }

/-- Passes over the next token if it is a certain one. -/
def accept (t : Token) : Composing Bool := do
  if (← peek) = t then
    drop
    return true
  else return false

/-- Passes over the next token, which must be a certain one. -/
def expect (t : Token) : Composing Unit := do
  let found ← peek
  if found = t then drop
  else broken ("expected " ++ Text.quoted t.shown ++ ", but found " ++ Text.quoted found.shown)

/-- Whether the next token is one of some. -/
def isBefore (ts : List Token) : Composing Bool := return ts.contains (← peek)

/-! ## Properties of a node -/

def anchor? : Composing (Option String) := do
  match ← peek with
  | .anchor name =>
      drop
      return some name
  | _ => return none

def tag? : Composing (Option (Option String × String)) := do
  match ← peek with
  | .tag handle suffix =>
      drop
      return some (handle, suffix)
  | _ => return none

/-- The name of a tag with what its handle stands for. -/
def tagName (handle : Option String) (suffix : String) : Composing String := do
  match handle with
  | none => return suffix
  | some h => match (← get).handles.lookup h with
    | some start => return start ++ suffix
    | none => broken ("found undefined tag handle " ++ Text.quoted h)

/-- The anchor and the tag before a node, in either order. -/
def properties : Composing (Option String × Option String) := do
  let early ← anchor?
  let tag ← tag?
  let late ← if early.isNone && tag.isSome then anchor? else pure none
  let name ← match tag with
    | some (handle, suffix) => some <$> tagName handle suffix
    | none => pure none
  return (early.or late, name)

/-- The tag of a node, given the one that it has by itself. -/
def tagOr (tag : Option String) (byItself : Tag) : Tag :=
  match tag with
  | none | some "!" => byItself
  | some name => .ofName name

/-- The tag of a scalar. One without quotes, or with the tag of no name, has it by its text. -/
def scalarTag (tag : Option String) (text : Text.Loose) (plain : Bool) : Tag :=
  match tag with
  | none => if plain then .ofScalar text else .text
  | some "!" => .ofScalar text
  | some name => .ofName name

/-- Gives a node a name that is not taken. -/
def setAnchor (anchor : Option String) (node : Node) : Composing Unit := do
  match anchor with
  | none => return
  | some name =>
      if ((← get).anchors.lookup name).isSome then
        throw (.invalid .names ("found duplicate anchor " ++ Text.quoted name))
      else modify fun c => { c with anchors := (name, node) :: c.anchors }

/-- Puts the finished node under a name that stood for it while it was open. -/
def resetAnchor (anchor : Option String) (node : Node) : Composing Unit := do
  match anchor with
  | none => return
  | some name => modify fun c =>
      { c with anchors := c.anchors.map fun entry => if entry.1 = name then (name, node) else entry }

/-- The node of a name. -/
def named (name : String) : Composing Node := do
  match (← get).anchors.lookup name with
  | some node => return node
  | none => throw (.invalid .names ("found undefined alias " ++ Text.quoted name))

/-! ## Nodes -/

/-- Where a node stands: inside brackets, in a block, or in a block where the entries of a sequence
need no indent. -/
inductive Place where
  | flow
  | block
  | indentless
  deriving DecidableEq, Repr

/-- A collection, named while it is open and after. -/
def collection (anchor : Option String) (isMapping : Bool) (contents : Composing Node) :
    Composing Node := do
  setAnchor anchor (.enclosing (anchor.getD "") isMapping)
  let node ← contents
  resetAnchor anchor node
  return node

mutual

/-- A node; the first argument bounds how many more steps its tokens may take. -/
def node (place : Place) : Nat → Composing Node
  | 0 => broken "no more tokens"
  | n + 1 => do
      match ← peek with
      | .reference name => do
          drop
          named name
      | _ => do
          let (anchor, tag) ← properties
          match ← peek, place with
          | .blockEntry, .indentless =>
              collection anchor false
                (.sequence (tagOr tag .sequence) <$> indentlessItems n)
          | .scalar text plain, _ => do
              drop
              let node := Node.scalar (scalarTag tag text plain) text
              setAnchor anchor node
              return node
          | .flowSequenceStart, _ =>
              collection anchor false
                (.sequence (tagOr tag .sequence) <$> (drop *> flowItems true n))
          | .flowMappingStart, _ =>
              collection anchor true
                (.mapping (tagOr tag .mapping) <$> (drop *> flowEntries true n))
          | found, _ =>
              if place ≠ .flow && found = .blockSequenceStart then
                collection anchor false
                  (.sequence (tagOr tag .sequence) <$> (drop *> blockItems n))
              else if place ≠ .flow && found = .blockMappingStart then
                collection anchor true
                  (.mapping (tagOr tag .mapping) <$> (drop *> blockEntries n))
              else if anchor.isSome || tag.isSome then do
                let node := Node.scalar (tagOr tag .null) ""
                setAnchor anchor node
                return node
              else broken ("expected the node content, but found " ++ Text.quoted found.shown)

/-- A node, or the empty one if the next token is one of some. -/
def nodeUnless (stops : List Token) (place : Place) : Nat → Composing Node
  | 0 => broken "no more tokens"
  | n + 1 => do
      if ← isBefore stops then return .empty
      else node place n

/-- The items of a sequence in a block. -/
def blockItems : Nat → Composing (List Node)
  | 0 => broken "no more tokens"
  | n + 1 => do
      if ← accept .blockEntry then
        let item ← nodeUnless [.blockEntry, .blockEnd] .block n
        let items ← blockItems n
        return item :: items
      else
        expect .blockEnd
        return []

/-- The items of a sequence whose entries are not indented in the mapping around it. -/
def indentlessItems : Nat → Composing (List Node)
  | 0 => broken "no more tokens"
  | n + 1 => do
      if ← accept .blockEntry then
        let item ← nodeUnless [.blockEntry, .key, .value, .blockEnd] .block n
        let items ← indentlessItems n
        return item :: items
      else return []

/-- The entries of a mapping in a block. -/
def blockEntries : Nat → Composing (List (Node × Node))
  | 0 => broken "no more tokens"
  | n + 1 => do
      if ← accept .key then
        let key ← nodeUnless [.key, .value, .blockEnd] .indentless n
        blockValue key n
      else
        expect .blockEnd
        return []

/-- The value of a key in a block, and the entries after it. -/
def blockValue (key : Node) : Nat → Composing (List (Node × Node))
  | 0 => broken "no more tokens"
  | n + 1 => do
      let value ←
        if ← accept .value then nodeUnless [.key, .value, .blockEnd] .indentless n
        else pure .empty
      let entries ← blockEntries n
      return (key, value) :: entries

/-- The items of a sequence in brackets, with commas between them. -/
def flowItems (first : Bool) : Nat → Composing (List Node)
  | 0 => broken "no more tokens"
  | n + 1 => do
      if ← accept .flowSequenceEnd then return []
      else
        if !first then expect .flowEntry
        match ← peek with
        | .flowSequenceEnd =>
            drop
            return []
        | .key => do
            drop
            let stops := [.flowEntry, .flowSequenceEnd]
            let key ← nodeUnless (.value :: stops) .flow n
            let value ← flowValue stops n
            let items ← flowItems false n
            return .mapping .mapping [(key, value)] :: items
        | _ => do
            let item ← node .flow n
            let items ← flowItems false n
            return item :: items

/-- The value of a key in brackets, the empty node if there is none. -/
def flowValue (stops : List Token) : Nat → Composing Node
  | 0 => broken "no more tokens"
  | n + 1 => do
      if ← accept .value then nodeUnless stops .flow n
      else return .empty

/-- The entries of a mapping in braces, with commas between them. -/
def flowEntries (first : Bool) : Nat → Composing (List (Node × Node))
  | 0 => broken "no more tokens"
  | n + 1 => do
      if ← accept .flowMappingEnd then return []
      else
        if !first then expect .flowEntry
        match ← peek with
        | .flowMappingEnd =>
            drop
            return []
        | .key => do
            drop
            let stops := [.flowEntry, .flowMappingEnd]
            let key ← nodeUnless (.value :: stops) .flow n
            let value ← flowValue stops n
            let entries ← flowEntries false n
            return (key, value) :: entries
        | _ => do
            let key ← node .flow n
            let _ ← peek
            let entries ← flowEntries false n
            return (key, .empty) :: entries

end

end Composer

end Flowline.Markup
