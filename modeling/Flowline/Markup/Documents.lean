import Flowline.Markup.NodeValue

/-!
The documents of a text. Each one is built and valued before the next one is read.
-/

namespace Flowline.Markup

/-- What stands for a handle of tags unless a directive says otherwise. -/
def defaultHandles : List (String × String) := [("!", "!"), ("!!", Tag.standard)]

/-- What directives say: whether a version is given, and the handles of tags. -/
structure Directives where
  hasVersion : Bool
  handles : List (String × String)

namespace Directives

/-- Adds what one more directive says. -/
def add (ds : Directives) : Directive → Except Fault Directives
  | .version major _ =>
      if ds.hasVersion then .error (.invalid .nesting "found duplicate YAML directive")
      else if major ≠ 1 then
        .error (.invalid .nesting
          "found incompatible YAML document (version 1.* is required)")
      else .ok { ds with hasVersion := true }
  | .tag handle start =>
      if (ds.handles.lookup handle).isSome then
        .error (.invalid .nesting ("duplicate tag handle " ++ Text.quoted handle))
      else .ok { ds with handles := (handle, start) :: ds.handles }
  | .other _ => .ok ds

end Directives

namespace Composer

/-- Passes over the directives before a document. -/
def directives (ds : Directives) : Nat → Composing Directives
  | 0 => broken "no more tokens"
  | n + 1 => do
      match ← peek with
      | .directive d => do
          drop
          directives (← ds.add d) n
      | _ => return ds

/-- Passes over the marks of the ends of documents. -/
def skipDocumentEnds : Nat → Composing Unit
  | 0 => broken "no more tokens"
  | n + 1 => do if ← accept .documentEnd then skipDocumentEnds n

/-- Starts a document, in which no node has a name yet. -/
def startDocument (handles : List (String × String)) : Composing Unit :=
  modify fun c => { c with anchors := [], handles := handles ++ defaultHandles }

/-- Whether the next token starts or ends a document. -/
def isAtDocumentEdge : Composing Bool := do
  match ← peek with
  | .directive _ | .documentStart | .documentEnd | .streamEnd => return true
  | _ => return false

/-- The node of a document that needs no mark before it, if there is one. -/
def bareDocument (fuel : Nat) : Composing (Option Node) := do
  match ← peek with
  | .directive _ | .documentStart | .streamEnd => return none
  | _ => do
      startDocument []
      some <$> node .block fuel

/-- The node of the next document that has a mark before it, if there is one. -/
def markedDocument (fuel : Nat) : Composing (Option Node) := do
  skipDocumentEnds fuel
  if (← peek) = .streamEnd then return none
  else do
    let ds ← directives ⟨false, []⟩ fuel
    expect .documentStart
    startDocument ds.handles
    if ← isAtDocumentEdge then return some .empty
    else some <$> node .block fuel

/-- The value of a document that is read, once it has come to its end. -/
def finish (node : Node) : Composing Value := do
  let _ ← accept .documentEnd
  (node.unfolded (← get).anchors).value

/-- The values of the documents that have a mark before them. -/
def markedDocuments (fuel : Nat) : Nat → Composing (List Value)
  | 0 => broken "no more tokens"
  | n + 1 => do
      match ← markedDocument fuel with
      | none => return []
      | some node => do
          let value ← finish node
          let values ← markedDocuments fuel n
          return value :: values

/-- The values of all documents. -/
def documents (fuel : Nat) : Composing (List Value) := do
  match ← bareDocument fuel with
  | none => markedDocuments fuel fuel
  | some node => do
      let value ← finish node
      let values ← markedDocuments fuel fuel
      return value :: values

end Composer

/-- The values of the documents of a text, empty ones among them. Reading a token takes at most four
steps. -/
def documents (text : String) : Except Fault (List Value) :=
  let stream := tokens text
  let fuel := 4 * (stream.tokens.length + 2)
  ((Composer.documents fuel).run ⟨stream.tokens, stream.fault, [], []⟩).map (·.1)

end Flowline.Markup
