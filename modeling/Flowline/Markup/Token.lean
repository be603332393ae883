import Flowline.Failure
import Flowline.Text.Torn

/-!
Tokens of the markup in which flow documents are written, and what can be wrong with a text of it.
-/

namespace Flowline.Markup

/-- The level at which a text is no markup: its characters, its tokens, the structure that they build,
the names of nodes, or the values of nodes. -/
inductive Level where
  | characters
  | tokens
  | nesting
  | names
  | values
  deriving DecidableEq, Repr

/-- Why a text is no markup, or a failure of a value that is not one of the markup. -/
inductive Fault where
  | invalid (level : Level) (text : String)
  | failure (f : Failure)
  deriving DecidableEq, Repr

/-- What a document says about itself before it starts. -/
inductive Directive where
  | version (major minor : Nat)
  | tag (handle start : String)
  | other (name : String)
  deriving DecidableEq, Repr

inductive Token where
  | streamEnd
  | directive (d : Directive)
  | documentStart
  | documentEnd
  | blockSequenceStart
  | blockMappingStart
  | blockEnd
  | flowSequenceStart
  | flowSequenceEnd
  | flowMappingStart
  | flowMappingEnd
  | blockEntry
  | flowEntry
  | key
  | value
  | reference (name : String)
  | anchor (name : String)
  | tag (handle : Option String) (suffix : String)
  | scalar (text : Text.Loose) (plain : Bool)
  deriving DecidableEq, Repr

def Token.shown : Token → String
  | streamEnd => "<stream end>"
  | directive _ => "<directive>"
  | documentStart => "<document start>"
  | documentEnd => "<document end>"
  | blockSequenceStart => "<block sequence start>"
  | blockMappingStart => "<block mapping start>"
  | blockEnd => "<block end>"
  | flowSequenceStart => "["
  | flowSequenceEnd => "]"
  | flowMappingStart => "\x7b"
  | flowMappingEnd => "\x7d"
  | blockEntry => "-"
  | flowEntry => ","
  | key => "?"
  | value => ":"
  | reference _ => "<alias>"
  | anchor _ => "<anchor>"
  | tag .. => "<tag>"
  | scalar .. => "<scalar>"

/-- Tokens in order and, if no more of them can be read, why. -/
structure TokenStream where
  tokens : List Token
  fault : Option Fault
  deriving DecidableEq, Repr

end Flowline.Markup
