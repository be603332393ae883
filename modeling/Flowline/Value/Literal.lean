import Flowline.Value.Basic
import Flowline.Number.Decimal
import Flowline.Number.Limits

/-!
The literal notation in which messages show values, and the plain text of a value, which differs from it
for text and dates alone.
-/

namespace Flowline.Value

def boolLiteral (b : Bool) : String := if b then "True" else "False"

def dateLiteral (d : Calendar.Date) : String := s!"datetime.date({d.year}, {d.month}, {d.day})"

/-- A moment by its numbers; seconds and microseconds are left out while they are zero. -/
def momentLiteral (m : Calendar.Moment) : String :=
  let numbers := [m.date.year, m.date.month, m.date.day, m.hour, m.minute] ++
    (if m.microsecond ≠ 0 then [m.second, m.microsecond]
      else if m.second ≠ 0 then [m.second] else [])
  let zone := match m.offset with
    | some minutes => [s!"tzinfo={Calendar.offsetZone minutes}"]
    | none => []
  "datetime.datetime(" ++ ", ".intercalate (numbers.map toString ++ zone) ++ ")"

mutual

/-- The literal notation of a value. -/
def literal : Value → String
  | null => "None"
  | bool b => boolLiteral b
  | int n => toString n
  | real x => x.text
  | text s => Text.quoted s
  | torn t => t.quoted
  | bytes bs => Text.quotedBytes bs
  | date d => dateLiteral d
  | moment m => momentLiteral m
  | list items => "[" ++ ", ".intercalate (literals items) ++ "]"
  | tuple [item] => "(" ++ literal item ++ ",)"
  | tuple items => "(" ++ ", ".intercalate (literals items) ++ ")"
  | set [] => "set()"
  | set items => "\x7b" ++ ", ".intercalate (literals items) ++ "\x7d"
  | map entries => "\x7b" ++ ", ".intercalate (entryLiterals entries) ++ "\x7d"
  | enclosing true => "\x7b...\x7d"
  | enclosing false => "[...]"

def literals : List Value → List String
  | [] => []
  | item :: rest => literal item :: literals rest

def entryLiterals : List (Value × Value) → List String
  | [] => []
  | (key, value) :: rest => (literal key ++ ": " ++ literal value) :: entryLiterals rest

end

mutual

/-- Whether a value can be shown: all integers in it can be written. -/
def isShowable : Value → Bool
  | int n => Number.isWritable n
  | list items => areShowable items
  | tuple items => areShowable items
  | set items => areShowable items
  | map entries => entriesShowable entries
  | _ => true

def areShowable : List Value → Bool
  | [] => true
  | item :: rest => isShowable item && areShowable rest

def entriesShowable : List (Value × Value) → Bool
  | [] => true
  | (key, value) :: rest => isShowable key && isShowable value && entriesShowable rest

end

/-- The plain text of a value: text as it is, dates by their numbers, all else in literal notation. -/
def display : Value → String
  | text s => s
  | torn t => t.patched
  | date d => d.text
  | moment m => m.text " "
  | v => v.literal

end Flowline.Value
