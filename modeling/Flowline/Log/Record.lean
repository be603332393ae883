import Flowline.Log.Entry
import Flowline.Log.Template

/-!
Log records: named attributes, some of them standard, and an error that may be attached. Attributes
that are neither standard nor hidden are the extra fields of a record.
-/

namespace Flowline.Log

/-- The attributes of a record in the order in which they came first, each name once. -/
structure Record where
  attributes : List (String × Value)
  error : Option Failure

namespace Record

/-- The names of standard attributes. -/
def standardNames : List String :=
  ["args", "asctime", "created", "exc_info", "exc_text", "filename", "funcName", "levelname",
    "levelno", "lineno", "module", "msecs", "message", "msg", "name", "pathname", "process",
    "processName", "relativeCreated", "stack_info", "taskName", "thread", "threadName"]

/-- Whether an attribute is an extra field. -/
def isExtraName (name : String) : Bool :=
  !standardNames.contains name && name.toList.head? ≠ some '_'

/-- The arguments of a message. A mapping that stands alone is the argument itself, so that its items
can be named. -/
def arguments : List Value → Value
  | [.map (entry :: rest)] => .map (entry :: rest)
  | items => .tuple items

def of (created : Value) (level logger thread message : String) (args : List Value)
    (error : Option Failure) : Record where
  attributes := [("name", .text logger), ("msg", .text message), ("args", arguments args),
    ("levelname", .text level), ("created", created), ("threadName", .text thread)]
  error := error

def putIn : List (String × Value) → String → Value → List (String × Value)
  | [], name, v => [(name, v)]
  | (n, w) :: rest, name, v =>
      if n = name then (n, v) :: rest else (n, w) :: putIn rest name v

/-- The record with an attribute instead of the one of that name. An error goes with its attribute. -/
def put (r : Record) (name : String) (v : Value) : Record where
  attributes := putIn r.attributes name v
  error := if name = "exc_info" then none else r.error

def putAll (r : Record) (fields : List (String × Value)) : Record :=
  fields.foldl (fun r field => r.put field.1 field.2) r

/-- An attribute, null if the record has none of that name. -/
def value (r : Record) (name : String) : Value := (r.attributes.lookup name).getD .null

def extra (r : Record) : List (String × Value) := r.attributes.filter fun a => isExtraName a.1

/-- The message with its arguments filled in. Without arguments it is no template. -/
def message (r : Record) : Except Failure String :=
  let text := (r.value "msg").display
  let args := r.value "args"
  if args.isTruthy then Template.fill text args else .ok text

/-- The record of an entry that a thread writes. -/
def ofEntry (created : Value) (thread : String) (e : Entry) : Record :=
  (of created e.level.name e.logger.name thread e.message [] e.error).putAll e.fields

end Record

end Flowline.Log
