import SecretEnv.FileTree
import SecretEnv.Shell.Parser
import SecretEnv.Shell.Pattern
import SecretEnv.Shell.Format

/-!
# What a running shell knows

**A shell is a state, and commands change it until one ends the script.** What is written is kept in
pieces, the latest first. Time passes only where a command waits.
-/

namespace SecretEnv.Shell

/-- Where what is written to a channel goes. -/
inductive Sink where
  | output
  | errors
  | nowhere
  | file (place : Place)
  deriving Repr, DecidableEq

/-- A running shell. -/
structure State where
  values : Std.ExtTreeMap Text Text
  /-- The names that children see. -/
  exported : List Text
  /-- The name the shell goes by. -/
  self : Text
  args : List Text
  /-- The exit code of the last command. -/
  status : Nat
  functions : List (Text × Command)
  /-- How many line ends the script has, and the line that is being run. -/
  lineEnds : Nat
  line : Nat
  files : FileTree
  /-- What channels 1 and 2 write to. -/
  outSink : Sink
  errSink : Sink
  /-- What was written, in pieces, the latest first. -/
  output : List Text
  errors : List Text
  /-- What is still to be read. -/
  input : Text
  /-- How many nanoseconds have passed. -/
  elapsed : Nat

/-- Why a script does not go on. -/
inductive Halt where
  /-- It ends, with the last exit code. -/
  | exit
  /-- A signal ends it. -/
  | killed
  /-- So many loops end. -/
  | leave (loops : Nat)
  /-- A loop goes on with its next round, after so many inside it end. -/
  | again (loops : Nat)
  /-- A function ends. -/
  | returned
  /-- It has run for longer than is waited for. -/
  | tooLong
  deriving Repr, DecidableEq

/-- A step of a script. -/
abbrev Action := EStateM Halt State

namespace State

/-- Whether the shell takes a variable of this name from its environment. -/
def isName (name : Text) : Bool :=
  name.all (fun c => c.isAlphanum || c = '_') && !name.isEmpty && !(name.headD ' ').isDigit

/-- The text of the directory at a place. -/
def dirText (place : Place) : Text := ofString ("/" ++ "/".intercalate place)

/-- A process that begins in an environment. -/
def start (files : FileTree) (self : Text) (args : List Text) (env : List (Text × Text))
    (input : Text) : State where
  values := env.foldl (fun values entry => values.insert entry.1 entry.2) ∅
  exported := (env.map (·.1)).eraseDups
  self := self
  args := args
  status := 0
  functions := []
  lineEnds := 0
  line := 1
  files := files
  outSink := .output
  errSink := .errors
  output := []
  errors := []
  input := input
  elapsed := 0

/-- A process that becomes a shell. It takes the variables that it has names for, and knows the
directory it is in. -/
def asShell (s : State) : State :=
  let pwd : Text := "PWD".toList
  { s with
    values := s.values.insert pwd (dirText s.files.workingDir)
    exported := (s.exported.filter fun name => isName name && name != pwd) ++ [pwd] }

/-- What a channel writes to. -/
def sink (s : State) (channel : Nat) : Sink :=
  if channel = 1 then s.outSink else if channel = 2 then s.errSink else .nowhere

/-- The shell with a channel that writes somewhere else. -/
def withSink (s : State) (channel : Nat) (sink : Sink) : State :=
  if channel = 1 then { s with outSink := sink }
  else if channel = 2 then { s with errSink := sink }
  else s

/-- The shell after something was written. -/
def write (s : State) (sink : Sink) (text : Text) : State :=
  match sink with
  | .output => { s with output := text :: s.output }
  | .errors => { s with errors := text :: s.errors }
  | .nowhere => s
  | .file place =>
    let node : Node :=
      match s.files.nodeAt? place with
      | some (.file content readable executable) =>
        .file (content ++ toOctets text) readable executable
      | _ => .file (toOctets text) true false
    { s with files := s.files.addNode place node }

/-- The value of a variable. -/
def value? (s : State) (name : Text) : Option Text := s.values[name]?

/-- The shell with a variable set. -/
def assign (s : State) (name value : Text) : State :=
  { s with values := s.values.insert name value }

/-- Everything in pieces put together. -/
def joined (pieces : List Text) : Text := pieces.foldl (fun text piece => piece ++ text) []

/-- The number by which a script knows itself. -/
def processNumber : Text := "4711".toList

/-- The value of a parameter: a variable, an argument, or what a sign stands for. -/
def parameter? (s : State) (name : Text) : Option Text :=
  match name with
  | ['?'] => some (Nat.toDigits 10 s.status)
  | ['#'] => some (Nat.toDigits 10 s.args.length)
  | ['$'] => some processNumber
  | ['-'] => some []
  | ['!'] => none
  | ['0'] => some s.self
  | ['@'] => if s.args.isEmpty then none else some ([' '].intercalate s.args)
  | ['*'] => if s.args.isEmpty then none else some ([' '].intercalate s.args)
  | _ =>
    match Arithmetic.number?.digitsValue? name with
    | some n => s.args[n - 1]?
    | none => s.value? name

/-- The shell after a command of its own, run apart: what it wrote, did to files and took stays. -/
def afterApart (before after : State) : State :=
  { before with
    status := after.status
    files := { after.files with workingDir := before.files.workingDir }
    output := after.output
    errors := after.errors
    input := after.input
    elapsed := after.elapsed }

/-- The variables that children see. -/
def childValues (s : State) : List (Text × Text) :=
  s.exported.filterMap fun name => (s.value? name).map fun value => (name, value)

end State

/-! ### Words -/

/-- A piece of a word that has been put together. -/
inductive Fragment where
  /-- Text, which is taken apart at blanks unless it is quoted. -/
  | text (cs : Text) (quoted : Bool)
  /-- The border between two words. -/
  | border
  deriving Repr

namespace Fragment

/-- Whether words are taken apart at a character. -/
def splits (c : Char) : Bool := c = ' ' || c = '\t' || c = '\n'

/-- Adds text that is not quoted to a word that may have begun; the words that it completes come
first, in order. -/
def splitText (word : Option Text) : Text → List Text × Option Text
  | [] => ([], word)
  | c :: rest =>
    if splits c then
      let (words, last) := splitText none rest
      match word with
      | some word => (word :: words, last)
      | none => (words, last)
    else splitText (some (word.getD [] ++ [c])) rest

/-- The words in fragments, after one that may have begun. -/
def wordsAfter (word : Option Text) : List Fragment → List Text
  | [] => word.toList
  | .border :: rest => word.toList ++ wordsAfter none rest
  | .text cs true :: rest => wordsAfter (some (word.getD [] ++ cs)) rest
  | .text cs false :: rest =>
    let (words, last) := splitText word cs
    words ++ wordsAfter last rest

/-- The words in fragments. -/
def words (fragments : List Fragment) : List Text := wordsAfter none fragments

/-- The fragments as one text. -/
def joined (fragments : List Fragment) : Text :=
  fragments.flatMap fun
    | .text cs _ => cs
    | .border => [' ']

/-- The fragments as the characters of a pattern. -/
def patternChars (fragments : List Fragment) : List (Char × Bool) :=
  fragments.flatMap fun
    | .text cs quoted => cs.map fun c => (c, quoted)
    | .border => [(' ', true)]

end Fragment

end SecretEnv.Shell
