import Flowline.Text.DecimalDigit
import Flowline.Text.Quoted

/-!
Arguments of the command line: files of flows, and switches. Long switches may be shortened as long as
it is clear which one is meant, and a value may follow its switch or be written together with it. After
two hyphens all words are files.
-/

namespace Flowline.CommandLine

inductive Switch where
  | help
  | version
  | only
  | logLevel
  deriving DecidableEq, Repr

namespace Switch

/-- All switches by the words that write them, in order. -/
def words : List (String × Switch) :=
  [("-h", help), ("--help", help), ("--version", version), ("-o", only), ("--only", only),
    ("--log-level", logLevel)]

def ofWord? (word : String) : Option Switch := words.lookup word

/-- The words of a switch as messages give them. -/
def label (s : Switch) : String := "/".intercalate ((words.filter (·.2 = s)).map (·.1))

def takesValue : Switch → Bool
  | help | version => false
  | only | logLevel => true

end Switch

/-- What is wrong with arguments. -/
inductive ArgumentFault where
  | ambiguous (word : String) (matching : List String)
  | valueMissing (s : Switch)
  | valueIgnored (s : Switch) (value : String)
  | filesMissing
  | unrecognized (words : List String)
  deriving DecidableEq, Repr

def ArgumentFault.message : ArgumentFault → String
  | ambiguous word matching =>
      "ambiguous option: " ++ word ++ " could match " ++ ", ".intercalate matching
  | valueMissing s => "argument " ++ s.label ++ ": expected one argument"
  | valueIgnored s value =>
      "argument " ++ s.label ++ ": ignored explicit argument " ++ Text.quoted value
  | filesMissing => "the following arguments are required: FILE"
  | unrecognized words => "unrecognized arguments: " ++ " ".intercalate words

/-! ## Words -/

/-- A word of the command line. A switch may have a value written together with it, after an equals
sign or, if it is a short one, right after its letter. -/
inductive Word where
  | operand (s : String)
  | separator
  | unknown (s : String)
  | switch (s : Switch)
  | switchWith (s : Switch) (value : String)
  | cluster (s : Switch) (letters : List Char)
  deriving DecidableEq, Repr

/-- A word before and after its first equals sign. -/
def splitValue (word : String) : String × Option String :=
  let cs := word.toList
  let name := cs.takeWhile (· ≠ '=')
  match cs.drop name.length with
  | _ :: value => (String.ofList name, some (String.ofList value))
  | [] => (word, none)

/-- A word that writes a negative number. -/
def isNegativeNumber (cs : List Char) : Bool :=
  match cs with
  | '-' :: rest =>
      let unbroken := if rest.getLast? = some '\n' then rest.dropLast else rest
      let whole := unbroken.takeWhile Text.isDecimalDigit
      match unbroken.drop whole.length with
      | [] => !whole.isEmpty
      | '.' :: fraction => !fraction.isEmpty && fraction.all Text.isDecimalDigit
      | _ => false
  | _ => false

def switchWord (s : Switch) : Option String → Word
  | none => .switch s
  | some value => .switchWith s value

/-- A word that starts with a hyphen and is no switch: it may still be a file. -/
def plainWord (word : String) : Word :=
  if isNegativeNumber word.toList || word.toList.contains ' ' then .operand word else .unknown word

/-- A word that starts with two hyphens: it is the switch whose word it starts. -/
def longWord (word : String) : Except ArgumentFault Word :=
  let (name, value) := splitValue word
  match Switch.words.filter fun entry => name.toList.isPrefixOf entry.1.toList with
  | [] => .ok (plainWord word)
  | [entry] => .ok (switchWord entry.2 value)
  | entries => .error (.ambiguous word (entries.map (·.1)))

/-- A word that starts with one hyphen and another character: a short switch and what follows it. -/
def shortWord (word : String) (letter : Char) (rest : List Char) : Word :=
  match Switch.ofWord? (String.ofList ['-', letter]) with
  | none => plainWord word
  | some s => if s.takesValue then .switchWith s (String.ofList rest) else .cluster s rest

/-- What a word before two hyphens is. -/
def wordOf (word : String) : Except ArgumentFault Word :=
  match word.toList with
  | '-' :: letter :: rest =>
      match Switch.ofWord? word, splitValue word with
      | some s, _ => .ok (.switch s)
      | none, (name, value) => match Switch.ofWord? name with
        | some s => .ok (switchWord s value)
        | none => if letter = '-' then longWord word else .ok (shortWord word letter rest)
  | _ => .ok (.operand word)

/-- The words of the command line. -/
def wordsOf : List String → Except ArgumentFault (List Word)
  | [] => .ok []
  | word :: rest =>
      if word = "--" then .ok (.separator :: rest.map .operand)
      else do
        let first ← wordOf word
        let others ← wordsOf rest
        return first :: others

/-! ## Reading -/

structure Arguments where
  files : List String
  only : Option String
  logLevel : Option String
  deriving DecidableEq, Repr

/-- What the command line asks for. -/
inductive Command where
  | run (a : Arguments)
  | help
  | version
  deriving DecidableEq, Repr

/-- What is read so far. Files stand in one row; `inFiles` tells whether it goes on. -/
structure Progress where
  files : List String
  inFiles : Bool
  only : Option String
  logLevel : Option String
  unrecognized : List String

namespace Progress

def fresh : Progress := ⟨[], false, none, none, []⟩

def operand (p : Progress) (s : String) : Progress :=
  if p.files.isEmpty || p.inFiles then { p with files := p.files ++ [s], inFiles := true }
  else { p with unrecognized := p.unrecognized ++ [s] }

/-- Two hyphens belong to the row of files if that can start or go on. -/
def separator (p : Progress) : Progress :=
  if p.files.isEmpty || p.inFiles then p
  else { p with unrecognized := p.unrecognized ++ ["--"] }

def unknown (p : Progress) (s : String) : Progress :=
  { p with unrecognized := p.unrecognized ++ [s], inFiles := false }

def put (p : Progress) (s : Switch) (value : String) : Progress :=
  match s with
  | .only => { p with only := some value, inFiles := false }
  | .logLevel => { p with logLevel := some value, inFiles := false }
  | .help | .version => { p with inFiles := false }

def finish (p : Progress) : Except ArgumentFault Command :=
  if p.files.isEmpty then .error .filesMissing
  else if !p.unrecognized.isEmpty then .error (.unrecognized p.unrecognized)
  else .ok (.run ⟨p.files, p.only, p.logLevel⟩)

end Progress

/-- The command of a switch without a value. -/
def Switch.command : Switch → Command
  | version => .version
  | _ => .help

/-- What is wrong with the letters written together after a short switch, of which each one may be a
switch again; `followed` tells whether a word that can be a value comes next. -/
def clusterFault? (s : Switch) (followed : Bool) : List Char → Option ArgumentFault
  | [] => none
  | letter :: rest =>
      if letter = '-' then some (.valueIgnored s (String.ofList (letter :: rest)))
      else match Switch.ofWord? (String.ofList ['-', letter]) with
        | none => none
        | some next =>
            if next.takesValue then
              if rest.isEmpty && !followed then some (.valueMissing next) else none
            else match rest with
              | '=' :: value => some (.valueIgnored next (String.ofList value))
              | _ => clusterFault? next followed rest

/-- Whether the next word can be a value. -/
def isFollowed : List Word → Bool
  | .operand _ :: _ => true
  | _ => false

/-- Reads words in order. A switch that asks for information ends the reading. -/
def readFrom (p : Progress) : List Word → Except ArgumentFault Command
  | [] => p.finish
  | .operand s :: rest => readFrom (p.operand s) rest
  | .separator :: rest => readFrom p.separator rest
  | .unknown s :: rest => readFrom (p.unknown s) rest
  | .switchWith s value :: rest =>
      if s.takesValue then readFrom (p.put s value) rest else .error (.valueIgnored s value)
  | .cluster s letters :: rest => match clusterFault? s (isFollowed rest) letters with
    | some fault => .error fault
    | none => .ok s.command
  | .switch s :: rest =>
      if !s.takesValue then .ok s.command
      else match rest with
        | .operand value :: rest => readFrom (p.put s value) rest
        | _ => .error (.valueMissing s)

/-- The command that arguments write. -/
def read (args : List String) : Except ArgumentFault Command := do
  let words ← wordsOf args
  readFrom .fresh words

/-! ## Texts -/

def programName : String := "m7m"

def usage : String :=
  "usage: m7m [-h] [--version] [-o ONLY] [--log-level LOG_LEVEL] FILE [FILE ...]\n"

/-- The version of the program. -/
def versionText : String := programName ++ " 0.1.0\n"

def helpText : String :=
  usage ++
  "\nRun declarative automation flows defined in YAML files\n" ++
  "\npositional arguments:\n" ++
  "  FILE                  Flow definition files (YAML, one flow per document)\n" ++
  "\noptions:\n" ++
  "  -h, --help            show this help message and exit\n" ++
  "  --version             show program's version number and exit\n" ++
  "  -o ONLY, --only ONLY  Comma-separated names of the flows to run (default:\n" ++
  "                        all)\n" ++
  "  --log-level LOG_LEVEL\n" ++
  "                        Override M7M_LOG_LEVEL (e.g. DEBUG, INFO, WARNING)\n"

/-- What is written about arguments that are wrong. -/
def complaint (fault : ArgumentFault) : String :=
  usage ++ programName ++ ": error: " ++ fault.message ++ "\n"

end Flowline.CommandLine
