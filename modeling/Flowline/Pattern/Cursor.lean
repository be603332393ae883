import Flowline.Pattern.Basic

/-!
A place in a written pattern. A pattern is read in tokens: single characters, and a backslash together
with the character after it.
-/

namespace Flowline.Pattern

inductive Token where
  | plain (c : Char)
  | escaped (c : Char)
  deriving DecidableEq, Repr

def Token.chars : Token → List Char
  | plain c => [c]
  | escaped c => ['\\', c]

def Token.text (t : Token) : String := String.ofList t.chars

/-- What is left of a pattern and where it starts. -/
structure Cursor where
  rest : List Char
  position : Nat
  deriving Repr

namespace Cursor

/-- An error that lies some characters before the cursor. -/
def fault (cur : Cursor) (f : Fault) (back : Nat) : Error :=
  .invalid f (some (cur.position - back))

/-- A cursor may not come to stand before a backslash that ends the pattern. -/
def settle (cur : Cursor) : Except Error Cursor :=
  if cur.rest = ['\\'] then .error (cur.fault .trailingBackslash 0) else .ok cur

def next? (cur : Cursor) : Option Token :=
  match cur.rest with
  | [] => none
  | '\\' :: c :: _ => some (.escaped c)
  | c :: _ => some (.plain c)

/-- The token at the cursor, if there is one, and the cursor after it. -/
def get (cur : Cursor) : Except Error (Option Token × Cursor) :=
  match cur.next? with
  | none => .ok (none, cur)
  | some token =>
      let width := token.chars.length
      (settle ⟨cur.rest.drop width, cur.position + width⟩).map (some token, ·)

/-- Passes over a character if it is the next token; tells whether it was. -/
def accept (cur : Cursor) (c : Char) : Except Error (Bool × Cursor) :=
  if cur.next? = some (.plain c) then cur.get.map fun (_, after) => (true, after)
  else .ok (false, cur)

/-- The characters of a class at the cursor, at most so many. -/
def getWhile (p : Char → Bool) : Nat → Cursor → Except Error (List Char × Cursor)
  | 0, cur => .ok ([], cur)
  | n + 1, cur =>
      match cur.next? with
      | some (.plain c) =>
          if p c then do
            let (_, after) ← cur.get
            let (cs, after) ← getWhile p n after
            return (c :: cs, after)
          else .ok ([], cur)
      | _ => .ok ([], cur)

/-- A name up to its terminator. `taken` holds what is read of it, backwards. -/
def getUntilFrom (terminator : Char) (what : String) :
    Nat → List Char → Cursor → Except Error (String × Cursor)
  | 0, _, cur => .error (cur.fault (.missing what) 0)
  | n + 1, taken, cur => do
      match ← cur.get with
      | (none, after) =>
          if taken.isEmpty then .error (after.fault (.missing what) 0)
          else .error (after.fault (.unterminatedName terminator) taken.length)
      | (some token, after) =>
          if token ≠ .plain terminator then
            getUntilFrom terminator what n (token.chars.reverse ++ taken) after
          else if taken.isEmpty then .error (after.fault (.missing what) 1)
          else return (String.ofList taken.reverse, after)

/-- A name that is not empty, with its terminator passed over. `what` is what the name is called. -/
def getUntil (terminator : Char) (what : String) (cur : Cursor) : Except Error (String × Cursor) :=
  getUntilFrom terminator what (cur.rest.length + 1) [] cur

end Cursor

end Flowline.Pattern
