import Flowline.Notifier.Build

/-!
Looking into a set of notifiers: what stands under a name, how long a chain is, which messages are kept.
What a notifier cannot do is a failure that names its kind.
-/

namespace Flowline

namespace Notifier

/-- The failure to use a part that notifiers of a kind do not have. -/
def lacks (notifier : Notifier) (part : String) : Failure :=
  .general .missingAttribute
    s!"'{notifier.kindName}' object has no attribute '{part}'"

/-- The number of members of a chain. -/
def length : Notifier → Except Failure Nat
  | chain _ members => .ok members.length
  | notifier =>
      .error (.general .type s!"object of type '{notifier.kindName}' has no len()")

/-- The messages that a notifier of the memory keeps. -/
def savedMessages (w : World) : Notifier → Except Failure (List String)
  | memory log => .ok (w.messages log)
  | notifier => .error (notifier.lacks "saved_messages")

end Notifier

namespace NotifierSet

/-- The notifier under a name. -/
def at? (set : NotifierSet) (name : String) : Except Failure Notifier :=
  match set.get? name with
  | some notifier => .ok notifier
  | none => .error (.ofMessage (.general .key) name)

/-- The set after the notifier of one name is added to the chain of another, and the new number of
its members. -/
def chainWith (set : NotifierSet) (chain added : String) :
    Except Failure (Nat × NotifierSet) := do
  match ← set.at? chain with
  | .chain _ members =>
      let notifier ← set.at? added
      return (members.length + 1, set.grow chain notifier)
  | other => .error (other.lacks "chain_with")

end NotifierSet

end Flowline
