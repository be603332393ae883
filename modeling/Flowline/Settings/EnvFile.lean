import Flowline.Text.Blank

/-!
Files of environment variables. A line binds a name to a value, which may be in quotes and may refer to
other variables. What is no such line is passed over.
-/

namespace Flowline.EnvFile

/-- A name with its value; a name alone has none. -/
structure Binding where
  name : String
  value : Option String
  deriving DecidableEq, Repr

def isLineEnd (c : Char) : Bool := c = '\n' || c = '\r'

/-- A blank inside a line. -/
def isGap (c : Char) : Bool := Text.isBlank c && !isLineEnd c

def skipGaps (cs : List Char) : List Char := cs.dropWhile isGap

/-- What is left after the line. -/
def skipLine (cs : List Char) : List Char :=
  match cs.dropWhile (!isLineEnd ·) with
  | [] => []
  | _ :: rest => rest

/-- What is left after the word that may stand before a name. -/
def skipExport (cs : List Char) : List Char :=
  if "export".toList.isPrefixOf cs then
    let rest := cs.drop 6
    if (rest.head?).any isGap then skipGaps rest else cs
  else cs

/-- The characters up to a quote that has no backslash right before it, and what is left after it. -/
def closed? (quote : Char) : List Char → Option (List Char × List Char)
  | [] => none
  | '\\' :: c :: rest =>
      if c = quote then (closed? quote rest).map fun (cs, after) => ('\\' :: c :: cs, after)
      else (closed? quote (c :: rest)).map fun (cs, after) => ('\\' :: cs, after)
  | c :: rest =>
      if c = quote then some ([], rest)
      else (closed? quote rest).map fun (cs, after) => (c :: cs, after)

/-- The characters up to the last quote, and what is left after it. -/
def closedByLast? (quote : Char) (cs : List Char) : Option (List Char × List Char) :=
  let after := (cs.reverse.takeWhile (· ≠ quote)).reverse
  if after.length = cs.length then none
  else some (cs.take (cs.length - after.length - 1), after)

/-- A text in quotes from after the first quote, and what is left after the last one. A quote with a
backslash before it ends the text only if no other does. -/
def quoted? (quote : Char) (cs : List Char) : Option (List Char × List Char) :=
  match closed? quote cs with
  | some found => some found
  | none => closedByLast? quote cs

/-- What a letter stands for after a backslash, in double quotes. -/
def escaped? : Char → Option Char
  | '\\' => some '\\'
  | '\'' => some '\''
  | '"' => some '"'
  | 'a' => some '\x07'
  | 'b' => some '\x08'
  | 'f' => some '\x0c'
  | 'n' => some '\n'
  | 'r' => some '\r'
  | 't' => some '\t'
  | 'v' => some '\x0b'
  | _ => none

/-- What a letter stands for after a backslash, in single quotes. -/
def escapedInSingle? : Char → Option Char
  | '\\' => some '\\'
  | '\'' => some '\''
  | _ => none

def unescape (escape? : Char → Option Char) : List Char → List Char
  | '\\' :: c :: rest => match escape? c with
      | some e => e :: unescape escape? rest
      | none => '\\' :: unescape escape? (c :: rest)
  | c :: rest => c :: unescape escape? rest
  | [] => []

/-- The characters before a comment, which has a blank before its mark. The first argument tells
whether a blank stands before. -/
def beforeComment : Bool → List Char → List Char
  | _, [] => []
  | afterBlank, c :: rest =>
      if c = '#' && afterBlank then [] else c :: beforeComment (Text.isBlank c) rest

/-- A value without quotes. -/
def plainValue (line : List Char) : String :=
  String.ofList ((beforeComment false line).reverse.dropWhile Text.isBlank).reverse

/-- A value and what is left after it, none if a quote is not closed. -/
def value? (cs : List Char) : Option (String × List Char) :=
  match cs with
  | '\'' :: rest => (quoted? '\'' rest).map fun (inner, after) =>
      (String.ofList (unescape escapedInSingle? inner), after)
  | '"' :: rest => (quoted? '"' rest).map fun (inner, after) =>
      (String.ofList (unescape escaped? inner), after)
  | _ => some (plainValue (cs.takeWhile (!isLineEnd ·)), cs.dropWhile (!isLineEnd ·))

/-- What is left after the end of a line, which may have a comment before it. -/
def lineEnd? (cs : List Char) : Option (List Char) :=
  let cs := match skipGaps cs with
    | '#' :: rest => rest.dropWhile (!isLineEnd ·)
    | _ => cs
  match skipGaps cs with
  | [] => some []
  | '\r' :: '\n' :: rest => some rest
  | c :: rest => if isLineEnd c then some rest else none

/-- A name and what is left after it. -/
def name? (cs : List Char) : Option (String × List Char) :=
  match cs with
  | '\'' :: rest =>
      let inner := rest.takeWhile (· ≠ '\'')
      match rest.dropWhile (· ≠ '\'') with
      | _ :: after => if inner.isEmpty then none else some (String.ofList inner, after)
      | [] => none
  | _ =>
      let isName (c : Char) : Bool := c ≠ '=' && c ≠ '#' && !Text.isBlank c
      let inner := cs.takeWhile isName
      if inner.isEmpty then none else some (String.ofList inner, cs.dropWhile isName)

/-- The binding on a line, if there is one, and what is left after the line. A line that is none is
left out from where that shows. -/
def binding (cs : List Char) : Option Binding × List Char :=
  let cs := skipExport cs
  if cs.head? = some '#' then (none, skipLine cs)
  else match name? cs with
    | none => (none, skipLine cs)
    | some (name, rest) =>
        let found := match skipGaps rest with
          | '=' :: rest =>
              let rest := skipGaps rest
              match value? rest with
              | some (value, after) => (some (some value), after)
              | none => (none, rest)
          | rest => (some none, rest)
        match found with
        | (none, rest) => (none, skipLine rest)
        | (some value, rest) => match lineEnd? rest with
          | some after => (some ⟨name, value⟩, after)
          | none => (none, skipLine rest)

def bindingsFrom : Nat → List Char → List Binding
  | 0, _ => []
  | n + 1, cs =>
      match cs.dropWhile Text.isBlank with
      | [] => []
      | cs =>
          let (found, rest) := binding cs
          found.toList ++ bindingsFrom n rest

/-- The bindings in a text. -/
def bindings (text : String) : List Binding :=
  let cs := text.toList
  bindingsFrom (cs.length + 1) cs

/-! ## References -/

/-- What a text between braces refers to: a name and, after a mark, what stands for it otherwise. -/
def reference (inner : List Char) : Option (String × String) :=
  let name := String.ofList (inner.takeWhile (· ≠ ':'))
  match inner.dropWhile (· ≠ ':') with
  | [] => some (name, "")
  | ':' :: '-' :: fallback => some (name, String.ofList fallback)
  | _ => none

/-- The text with the references in it replaced. -/
def resolved (lookUp : String → Option String) : Nat → List Char → List Char
  | 0, cs => cs
  | _, [] => []
  | n + 1, c :: rest =>
      match c, rest with
      | '$', '\x7b' :: more =>
          match more.dropWhile (· ≠ '\x7d') with
          | _ :: after => match reference (more.takeWhile (· ≠ '\x7d')) with
            | some (name, fallback) =>
                ((lookUp name).getD fallback).toList ++ resolved lookUp n after
            | none => c :: resolved lookUp n rest
          | [] => c :: resolved lookUp n rest
      | _, _ => c :: resolved lookUp n rest

/-- Puts a value under a name, in its place if it is there already. -/
def put : List (String × Option String) → String → Option String →
    List (String × Option String)
  | [], name, value => [(name, value)]
  | (n, v) :: rest, name, value =>
      if n = name then (n, value) :: rest else (n, v) :: put rest name value

/-- The variable of a name: of those bound so far, or else of the environment. One that is bound
without a value is empty. -/
def lookUp (environment : List (String × String)) (bound : List (String × Option String))
    (name : String) : Option String :=
  match bound.lookup name with
  | some value => some (value.getD "")
  | none => environment.lookup name

/-- The values of names after all references are replaced; a name that is bound twice has its later
value. -/
def values (environment : List (String × String)) (bindings : List Binding) :
    List (String × Option String) :=
  bindings.foldl (fun bound b =>
    let value := b.value.map fun v =>
      String.ofList (resolved (lookUp environment bound) (v.length + 1) v.toList)
    put bound b.name value) []

end Flowline.EnvFile
