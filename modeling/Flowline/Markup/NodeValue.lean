import Flowline.Markup.Node
import Flowline.Markup.ScalarValue

/-!
The value that a node writes. Values are made in rounds: a collection is first made empty and filled in
the round after, together with all others of its depth. So of several faults the one in the lowest
round is reported, and of these the first one.
-/

namespace Flowline.Markup

/-- A value, or the fault that is reported first and its round. -/
abbrev Attempt (α : Type) := Except (Nat × Fault) α

namespace Attempt

def now {α : Type} : Except Fault α → Attempt α
  | .ok a => .ok a
  | .error fault => .error (0, fault)

/-- A fault of the values, in the round when a collection is filled. -/
def invalid {α : Type} (text : String) : Attempt α := .error (1, .invalid .values text)

/-- What takes place one round later. -/
def later {α : Type} : Attempt α → Attempt α
  | .ok a => .ok a
  | .error (round, fault) => .error (round + 1, fault)

/-- Two values, or the fault of the lower round. -/
def both {α β γ : Type} (f : α → β → γ) : Attempt α → Attempt β → Attempt γ
  | .ok a, .ok b => .ok (f a b)
  | .error e, .ok _ => .error e
  | .ok _, .error e => .error e
  | .error e, .error e' => .error (if e'.1 < e.1 then e' else e)

def toExcept {α : Type} : Attempt α → Except Fault α
  | .ok a => .ok a
  | .error (_, fault) => .error fault

end Attempt

namespace Node

def tag : Node → Tag
  | scalar tag _ => tag
  | sequence tag _ => tag
  | mapping tag _ => tag
  | enclosing _ isMapping => if isMapping then .mapping else .sequence

/-- Whether a node writes a collection, which cannot be a key. -/
def isCollection (node : Node) : Bool :=
  [Tag.sequence, .mapping, .set, .orderedMapping, .pairs].contains node.tag

/-- The tag that a node has as a key: the one of the default value is that of a text. -/
def keyTag (node : Node) : Tag := if node.tag = .default then .text else node.tag

mutual

/-- The text of a scalar, or that of the default value of a mapping. -/
def scalarText : Node → Except Fault Text.Loose
  | scalar _ text => .ok text
  | mapping _ entries => defaultText entries
  | _ => .error (.invalid .values "expected a scalar node")

def defaultText : List (Node × Node) → Except Fault Text.Loose
  | [] => .error (.invalid .values "expected a scalar node")
  | (key, value) :: rest => if key.tag = .default then scalarText value else defaultText rest

end

/-- An entry of a mapping whose key and value are made. -/
structure Member where
  isKey : Bool
  key : Attempt Value
  value : Attempt Value

/-- The key and the value of an entry, made in the round when its mapping is filled. -/
def Member.entry (m : Member) : Attempt (Value × Value) :=
  Attempt.both Prod.mk (if m.isKey then m.key.later else .invalid "found unhashable key") m.value.later

def Member.entries : List Member → Attempt (List (Value × Value))
  | [] => .ok []
  | m :: rest => Attempt.both List.cons m.entry (entries rest)

/-- The entries of a mapping, those that are merged into it first. -/
def Member.toEntries : Except Fault (List Member × List Member) → Attempt Entries
  | .ok (merged, own) => Entries.ofList <$> entries (merged ++ own)
  | .error fault => .error (1, fault)

def badMerge {α : Type} : Except Fault α :=
  .error (.invalid .values "expected a mapping or list of mappings for merging")

mutual

/-- The value of a node as one of a tag. -/
def valueAs (tag : Tag) (node : Node) : Attempt Value :=
  match node with
  | enclosing _ isMapping => .ok (.enclosing isMapping)
  | scalar own text => match tag with
      | .sequence | .mapping | .set | .orderedMapping | .pairs => .invalid "expected a collection"
      | _ => Attempt.now (do scalarValue tag (← scalarText (scalar own text)))
  | sequence own items => match tag with
      | .sequence => Value.list <$> itemValues items
      | .orderedMapping | .pairs => Value.list <$> pairValues items
      | .mapping | .set => .invalid "expected a mapping node"
      | _ => Attempt.now (do scalarValue tag (← scalarText (sequence own items)))
  | mapping own entries => match tag with
      | .mapping => Value.map <$> Member.toEntries (members entries)
      | .set => (fun es => Value.set (es.map (·.1))) <$> Member.toEntries (members entries)
      | .sequence | .orderedMapping | .pairs => .invalid "expected a sequence node"
      | _ => Attempt.now (do scalarValue tag (← scalarText (mapping own entries)))

def itemValues : List Node → Attempt (List Value)
  | [] => .ok []
  | item :: rest => Attempt.both List.cons (valueAs item.tag item).later (itemValues rest)

/-- The keys and values of mappings that have one entry each. -/
def pairValues : List Node → Attempt (List Value)
  | [] => .ok []
  | item :: rest => Attempt.both List.cons (pairValue item) (pairValues rest)

def pairValue : Node → Attempt Value
  | mapping _ [(key, value)] =>
      Attempt.both (fun k v => Value.tuple [k, v]) (valueAs key.tag key).later
        (valueAs value.tag value).later
  | _ => .invalid "expected a mapping of length 1"

/-- The entries of a mapping: those that its merge keys bring, and its own ones. -/
def members : List (Node × Node) → Except Fault (List Member × List Member)
  | [] => .ok ([], [])
  | (key, value) :: rest =>
      if key.tag = .merge then do
        let brought ← broughtMembers value
        let (merged, own) ← members rest
        return (brought ++ merged, own)
      else do
        let (merged, own) ← members rest
        let m : Member := ⟨!key.isCollection, valueAs key.keyTag key, valueAs value.tag value⟩
        return (merged, m :: own)

/-- The entries that a value brings to the mapping that merges it. -/
def broughtMembers : Node → Except Fault (List Member)
  | mapping _ entries => mappingMembers entries
  | sequence _ items => itemMembers items
  | enclosing .. => .ok []
  | scalar .. => badMerge

def mappingMembers (entries : List (Node × Node)) : Except Fault (List Member) := do
  let (merged, own) ← members entries
  return merged ++ own

/-- The entries that mappings in a sequence bring; those of the first one stand last and so hold. -/
def itemMembers : List Node → Except Fault (List Member)
  | [] => .ok []
  | item :: rest => do
      let brought ← match item with
        | mapping _ entries => mappingMembers entries
        | enclosing _ true => pure []
        | _ => badMerge
      let others ← itemMembers rest
      return others ++ brought

end

/-- The value that a node writes. -/
def value (node : Node) : Except Fault Value := (valueAs node.tag node).toExcept

end Node

end Flowline.Markup
