import Flowline.Number.Reading
import Flowline.Value.Literal

/-!
Durations in seconds. A duration is written as a number of seconds or as a row of parts, each an amount
and a unit, such as `1h 30m`. It is finite, not negative and at most one year.
-/

namespace Flowline.Duration

/-- Why a value is not a duration. `shown` is the value in literal notation. -/
inductive Error where
  | invalid (shown : String)
  | empty
  | wrongKind (kindName : String)
  | unknownUnit (unit shown : String)
  | overflow (shown : String)
  | longInteger
  | notFinite (shown : String)
  | negative (shown : String)
  | tooLong (shown : String)
  deriving DecidableEq, Repr

/-- The number of seconds of the longest duration: one year of 365 days. -/
def limit : Nat := 31536000

/-- The longest duration. -/
def maxSeconds : Binary64 := .ofInt limit

def Error.message : Error → String
  | invalid shown => "invalid duration: " ++ shown
  | empty => "empty duration"
  | wrongKind kindName => "duration must be a string or a number, got " ++ kindName
  | unknownUnit unit shown => "unknown duration unit " ++ Text.quoted unit ++ " in " ++ shown
  | overflow shown => "duration is too long: " ++ shown
  | longInteger => Number.unwritable
  | notFinite shown => "duration must be finite: " ++ shown
  | negative shown => "duration must be non-negative: " ++ shown
  | tooLong shown => "duration is too long (max " ++ maxSeconds.fixed 0 ++ "s): " ++ shown

/-- The units with their names and their lengths in seconds. -/
def units : List (List String × Binary64) :=
  [(["ms", "msec", "msecs", "millisecond", "milliseconds"], .ofDecimal false 1 (-3)),
    (["s", "sec", "secs", "second", "seconds"], .ofInt 1),
    (["m", "min", "mins", "minute", "minutes"], .ofInt 60),
    (["h", "hr", "hrs", "hour", "hours"], .ofInt 3600),
    (["d", "day", "days"], .ofInt 86400)]

/-- The length of the unit of a name in any letter case. -/
def unitSeconds? (name : String) : Option Binary64 :=
  (units.find? fun unit => unit.1.contains name.toLower).map (·.2)

/-- An amount and the name of its unit, as they are written. -/
structure Part where
  amount : List Char
  unit : List Char
  deriving DecidableEq, Repr

/-- The digits of an amount, with a fraction if a point and a digit follow, and the rest. -/
def splitAmount (cs : List Char) : List Char × List Char :=
  let whole := cs.takeWhile Text.isDecimalDigit
  match cs.dropWhile Text.isDecimalDigit with
  | '.' :: rest =>
      let places := rest.takeWhile Text.isDecimalDigit
      if whole.isEmpty || places.isEmpty then (whole, '.' :: rest)
      else (whole ++ '.' :: places, rest.dropWhile Text.isDecimalDigit)
  | rest => (whole, rest)

/-- The part at the start of a text, with the blanks around it, and the rest. -/
def splitPart (cs : List Char) : Option (Part × List Char) :=
  let (amount, afterAmount) := splitAmount (cs.dropWhile Text.isBlank)
  let atUnit := afterAmount.dropWhile Text.isBlank
  let unit := atUnit.takeWhile Char.isAlpha
  if amount.isEmpty || unit.isEmpty then none
  else some (⟨amount, unit⟩, (atUnit.dropWhile Char.isAlpha).dropWhile Text.isBlank)

private theorem length_dropWhile_le (p : Char → Bool) (cs : List Char) :
    (cs.dropWhile p).length ≤ cs.length :=
  (List.dropWhile_suffix p).length_le

private theorem length_dropWhile_lt {p : Char → Bool} {cs : List Char}
    (h : (cs.takeWhile p).isEmpty = false) : (cs.dropWhile p).length < cs.length := by
  have hsplit := congrArg List.length (List.takeWhile_append_dropWhile (p := p) (l := cs))
  have hpos : 0 < (cs.takeWhile p).length := by
    cases hcs : cs.takeWhile p with
    | nil => simp [hcs] at h
    | cons => simp
  simp only [List.length_append] at hsplit
  omega

private theorem length_splitAmount_le (cs : List Char) : (splitAmount cs).2.length ≤ cs.length := by
  have hdrop := length_dropWhile_le Text.isDecimalDigit cs
  simp only [splitAmount]
  split
  · rename_i rest hrest
    have hplaces := length_dropWhile_le Text.isDecimalDigit rest
    rw [hrest] at hdrop
    simp only [List.length_cons] at hdrop
    split <;> simp <;> omega
  · simpa using hdrop

/-- What is left after a part is shorter. -/
theorem length_lt_of_splitPart {cs rest : List Char} {part : Part}
    (h : splitPart cs = some (part, rest)) : rest.length < cs.length := by
  simp only [splitPart] at h
  split at h
  · simp at h
  · rename_i hne
    simp only [Bool.or_eq_true, not_or, Bool.not_eq_true] at hne
    simp only [Option.some.injEq, Prod.mk.injEq] at h
    obtain ⟨-, rfl⟩ := h
    have h1 := length_dropWhile_le Text.isBlank cs
    have h2 := length_splitAmount_le (cs.dropWhile Text.isBlank)
    have h3 := length_dropWhile_le Text.isBlank (splitAmount (cs.dropWhile Text.isBlank)).2
    have h4 := length_dropWhile_lt hne.2
    have h5 := length_dropWhile_le Text.isBlank
      (((splitAmount (cs.dropWhile Text.isBlank)).2.dropWhile Text.isBlank).dropWhile Char.isAlpha)
    omega

/-- The parts at the start of a text, as many as there are, and the rest. -/
def splitParts (cs : List Char) : List Part × List Char :=
  match _h : splitPart cs with
  | none => ([], cs)
  | some (part, rest) =>
      let (parts, tail) := splitParts rest
      (part :: parts, tail)
termination_by cs.length
decreasing_by exact length_lt_of_splitPart _h

def Part.seconds? (p : Part) : Option Binary64 :=
  match Number.realLiteral? p.amount, unitSeconds? (String.ofList p.unit) with
  | some amount, some factor => some (amount * factor)
  | _, _ => none

/-- The sum of the parts, added from left to right, or the name of the first unknown unit. -/
def sumFrom (total : Binary64) : List Part → Except String Binary64
  | [] => .ok total
  | part :: rest => match part.seconds? with
      | some seconds => sumFrom (total + seconds) rest
      | none => .error (String.ofList part.unit)

/-- A number of seconds within the bounds of a duration. -/
def checked (seconds : Binary64) (shown : String) : Except Error Binary64 :=
  if !seconds.isFinite then .error (.notFinite shown)
  else if seconds.lt .zero then .error (.negative shown)
  else if maxSeconds.lt seconds then .error (.tooLong shown)
  else .ok seconds

/-- The duration that a text writes. -/
def ofText (s : String) : Except Error Binary64 :=
  let shown := Text.quoted s
  let cs := Text.trimChars s.toList
  if cs.isEmpty then .error .empty
  else match Number.realLiteral? cs with
    | some seconds => checked seconds shown
    | none =>
        let (parts, tail) := splitParts cs
        match sumFrom .zero parts with
        | .error unit => .error (.unknownUnit unit shown)
        | .ok total => if tail.isEmpty then checked total shown else .error (.invalid shown)

/-- The duration that a document value gives: a text or a number, but no truth value. -/
def ofValue : Value → Except Error Binary64
  | .bool b => .error (.invalid (Value.boolLiteral b))
  | .int n =>
      let seconds := Binary64.ofInt n
      if seconds.isFinite then checked seconds (toString n)
      else if Number.isWritable n then .error (.overflow (toString n))
      else .error .longInteger
  | .real x => checked x x.text
  | .text s => ofText s
  | .torn t => .error (.invalid t.quoted)
  | v => .error (.wrongKind v.kindName)

end Flowline.Duration
