import Flowline.Number.Binary64
import Flowline.Text.Torn
import Flowline.Calendar.Date

/-!
Values of documents: what a document of the markup, a line of JSON or a log field can hold.
-/

namespace Flowline

/-- A document value. The entries of a mapping stand in the order in which their keys came first.
`enclosing` stands for a list or a mapping that holds itself, at a place inside of it. -/
inductive Value where
  | null
  | bool (b : Bool)
  | int (n : Int)
  | real (x : Binary64)
  | text (s : String)
  | torn (t : Text.Torn)
  | bytes (bs : List UInt8)
  | date (d : Calendar.Date)
  | moment (m : Calendar.Moment)
  | list (items : List Value)
  | tuple (items : List Value)
  | set (items : List Value)
  | map (entries : List (Value × Value))
  | enclosing (isMap : Bool)
  deriving Inhabited

namespace Value

def ofLoose : Text.Loose → Value
  | .whole s => text s
  | .torn t => torn t

/-- The name of the kind of a value, as messages give it. -/
def kindName : Value → String
  | null => "NoneType"
  | bool _ => "bool"
  | int _ => "int"
  | real _ => "float"
  | text _ => "str"
  | torn _ => "str"
  | bytes _ => "bytes"
  | date _ => "date"
  | moment _ => "datetime"
  | list _ => "list"
  | tuple _ => "tuple"
  | set _ => "set"
  | map _ => "dict"
  | enclosing isMap => if isMap then "dict" else "list"

/-- The name of the kind of a value with that of the family before it, for the kinds that have one. -/
def fullKindName : Value → String
  | date _ => "datetime.date"
  | moment _ => "datetime.datetime"
  | v => v.kindName

/-- Whether a value counts as true: neither zero, empty, false nor null. -/
def isTruthy : Value → Bool
  | null => false
  | bool b => b
  | int n => n ≠ 0
  | real x => !x.eqv .zero
  | text s => !s.isEmpty
  | torn _ => true
  | bytes bs => !bs.isEmpty
  | date _ => true
  | moment _ => true
  | list items => !items.isEmpty
  | tuple items => !items.isEmpty
  | set items => !items.isEmpty
  | map entries => !entries.isEmpty
  | enclosing _ => true

/-- A truth value or an integer as an integer. -/
def asInt? : Value → Option Int
  | bool b => some (if b then 1 else 0)
  | int n => some n
  | _ => none

/-- Whether a real number equals an integer exactly. -/
def realEqualsInt (x : Binary64) (n : Int) : Bool :=
  x.isFinite && x.signedUnits = n * Binary64.unitsPerOne

/-- Whether two values are the same key of a mapping: numbers by their value, whatever their kind. -/
def sameKey : Value → Value → Bool
  | null, null => true
  | text s, text t => s = t
  | torn s, torn t => s = t
  | bytes a, bytes b => a = b
  | date d, date e => d = e
  | moment m, moment n => m = n
  | real x, real y => x.eqv y
  | real x, v => v.asInt?.any (realEqualsInt x)
  | v, real x => v.asInt?.any (realEqualsInt x)
  | v, w => match v.asInt?, w.asInt? with
      | some m, some n => m = n
      | _, _ => false

/-- Whether a value can be a key: it has no parts that could change. -/
def isKey : Value → Bool
  | list _ | set _ | map _ | enclosing _ => false
  | _ => true

end Value

/-- Entries of a mapping, in the order in which the keys came first. -/
abbrev Entries := List (Value × Value)

namespace Entries

def get? (entries : Entries) (key : Value) : Option Value :=
  (entries.find? fun e => e.1.sameKey key).map (·.2)

/-- Puts a value under a key: in the place of the same key, which stays as it is written, or at the
end. -/
def put : Entries → Value → Value → Entries
  | [], key, value => [(key, value)]
  | (k, v) :: rest, key, value =>
      if k.sameKey key then (k, value) :: rest else (k, v) :: put rest key value

def ofList (pairs : List (Value × Value)) : Entries :=
  pairs.foldl (fun entries pair => entries.put pair.1 pair.2) []

/-- The value under a text key. -/
def field? (entries : Entries) (name : String) : Option Value := entries.get? (.text name)

/-- Whether a text key is present. -/
def hasField (entries : Entries) (name : String) : Bool := (entries.field? name).isSome

def putField (entries : Entries) (name : String) (value : Value) : Entries :=
  entries.put (.text name) value

/-- The entries without those under a text key. -/
def eraseField (entries : Entries) (name : String) : Entries :=
  entries.filter fun e => !e.1.sameKey (.text name)

end Entries

end Flowline
