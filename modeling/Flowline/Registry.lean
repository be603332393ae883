import Flowline.Flow.File

/-!
The flows that are loaded at the start, in the order of their files and of their documents.
-/

namespace Flowline.Registry

/-- The flows of files, up to the first file that does not load. -/
def ofPaths : List FilePath → Action World (Except Source.Error (List FlowDefinition))
  | [] => .succeed (.ok [])
  | path :: rest => do
      match ← FlowFile.load path with
      | .error e => return .error e
      | .ok flows => match ← ofPaths rest with
        | .error e => return .error e
        | .ok others => return .ok (flows ++ others)

/-- Whether the name of a flow is one of some. A flow without a name is never meant. -/
def isNamed (names : List String) (flow : FlowDefinition) : Bool := flow.name.any names.contains

/-- The names that no flow has, in order and each once. -/
def missing (names : List String) (flows : List FlowDefinition) : List String :=
  (names.filter fun name => !flows.any fun flow => flow.name = some name).eraseDups.mergeSort (· ≤ ·)

/-- The flows to run: all of them, or those of some names. Empty names do not count. -/
def select {σ : Type} (flows : List FlowDefinition) (names : List String) :
    Action σ (List FlowDefinition) := do
  let wanted := names.filter (!·.isEmpty)
  if wanted.isEmpty then return flows
  else
    let unknown := missing wanted flows
    if !unknown.isEmpty then
      Action.log .warning .registry "Requested flows not found"
        [("names", .list (unknown.map .text))]
    return flows.filter (isNamed wanted)

end Flowline.Registry
