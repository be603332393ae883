import Flowline.Json.Writer
import Flowline.Log.Record
import Flowline.Log.Timestamp

/-!
Lines of a log. In JSON a record is one line and one object. As text it is its level, the flow, the
message and the other extra fields by name, with an attached error on lines of its own.
-/

namespace Flowline.Log.Record

/-! ## JSON -/

/-- The members of the object of a record; extra fields and an error only if there are any. -/
def members (r : Record) (timestamp message : String) : List (String × Value) :=
  [("timestamp", .text timestamp), ("level", r.value "levelname"),
    ("logger", r.value "name"), ("thread", r.value "threadName"),
    ("message", .text message)] ++
  (if r.extra.isEmpty then []
    else [("extra", .map (r.extra.map fun a => (.text a.1, a.2)))]) ++
  (match r.error with
    | some f => [("exception", .text f.logLine)]
    | none => [])

/-- The line of a record whose timestamp is given as text. -/
def jsonLineAt (r : Record) (timestamp : String) : Except Failure String := do
  let message ← r.message
  Json.write (.map ((r.members timestamp message).map fun m => (.text m.1, m.2)))

/-- The line of a record in JSON. -/
def jsonLine (r : Record) : Except Failure String := do
  let timestamp ← Timestamp.text (r.value "created")
  r.jsonLineAt timestamp

/-! ## Text -/

/-- The width to which the name of a level is filled up. -/
def levelWidth : Nat := 7

def filledUp (s : String) : String :=
  s ++ String.ofList (List.replicate (levelWidth - s.length) ' ')

/-- A value filled up with blanks to the width of a level. Only text and numbers can be, among them
truth values. -/
def levelText : Value → Except Failure String
  | v@(.text _) | v@(.int _) | v@(.real _) => .ok (filledUp v.display)
  | .bool b => .ok (filledUp (if b then "1" else "0"))
  | .date _ | .moment _ => .ok s!"<{levelWidth}"
  | v => .error (.general .type
      s!"unsupported format string passed to {v.kindName}.__format__")

/-- The mark of the flow that a record is about. -/
def flowMark (r : Record) : String :=
  match r.extra.lookup "flow" with
  | none | some .null => ""
  | some flow => "[" ++ flow.display ++ "] "

/-- The extra fields besides the flow, by name. -/
def otherFields (r : Record) : List (String × Value) :=
  (r.extra.filter fun a => a.1 ≠ "flow").mergeSort fun a b => a.1 ≤ b.1

/-- A record as text. -/
def textLine (r : Record) : Except Failure String := do
  let level ← levelText (r.value "levelname")
  let message ← r.message
  let fields := String.join (r.otherFields.map fun a => " " ++ a.1 ++ "=" ++ a.2.display)
  let error := match r.error with
    | some f => "\n" ++ f.logLine
    | none => ""
  return level ++ " " ++ r.flowMark ++ message ++ fields ++ error

end Flowline.Log.Record
