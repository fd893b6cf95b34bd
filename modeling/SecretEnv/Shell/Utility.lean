import SecretEnv.Shell.State

/-!
# Commands of the shell and of the system

**What a command does that is no script**: it writes, sets its exit code and may change the shell.
Commands that only compare and write are the same whether the shell or the system provides them.
-/

namespace SecretEnv.Shell

/-- Sets the exit code. -/
def setStatus (status : Nat) : Action Unit := modify fun s => { s with status := status }

/-- Writes to a channel. -/
def writeTo (channel : Nat) (text : Text) : Action Unit :=
  modify fun s => s.write (s.sink channel) text

/-- Says what is wrong, as the shell does: with its name and the line. Sets the exit code. -/
def complain (status : Nat) (text : Text) : Action Unit := do
  let s ← get
  writeTo 2 (s.self ++ ": ".toList ++ Nat.toDigits 10 s.line ++ ": ".toList ++ text ++ ['\n'])
  setStatus status

/-- What is at a path, for the shell. -/
def nodeOf? (s : State) (path : Text) : Option Node :=
  ((Utf8.decode? (toOctets path)).bind fun path => (s.files.find path).toOption)

namespace Utility

/-! ### Tests -/

/-- A test of one text. -/
def testText (s : State) (operator : String) (text : Text) : Bool :=
  let node := nodeOf? s text
  if operator = "-n" then !text.isEmpty
  else if operator = "-z" then text.isEmpty
  else if operator = "-d" then node == some .directory
  else if operator = "-e" || operator = "-r" || operator = "-w" then node.isSome
  else if operator = "-f" then node.isSome && node != some .directory
  else if operator = "-s" then
    match node with
    | some (.file content _ _) => !content.isEmpty
    | other => other.isSome
  else if operator = "-x" then
    match node with
    | some (.file _ _ executable) => executable
    | other => other.isSome
  else false

/-- A comparison of two texts; none for what is no operator, or compares no numbers. -/
def compareTexts (first : Text) (operator : String) (second : Text) : Option Bool :=
  let numbers (compare : Int → Int → Bool) : Option Bool :=
    match Arithmetic.number? first, Arithmetic.number? second with
    | some a, some b => some (compare a b)
    | _, _ => none
  if operator = "=" || operator = "==" then some (first == second)
  else if operator = "!=" then some (first != second)
  else if operator = "-eq" then numbers (· == ·)
  else if operator = "-ne" then numbers (· != ·)
  else if operator = "-lt" then numbers (decide <| · < ·)
  else if operator = "-le" then numbers (decide <| · ≤ ·)
  else if operator = "-gt" then numbers (decide <| · > ·)
  else if operator = "-ge" then numbers (decide <| · ≥ ·)
  else none

/-- Whether a test holds; none for a text that is no test. -/
def holds? (s : State) : Nat → List Text → Option Bool
  | 0, _ => none
  | _, [] => some false
  | _, [text] => some (!text.isEmpty)
  | fuel + 1, ['!'] :: rest => (holds? s fuel rest).map (!·)
  | _, [operator, text] => some (testText s (String.ofList operator) text)
  | fuel + 1, first :: operator :: second :: rest =>
    match compareTexts first (String.ofList operator) second, rest with
    | some result, [] => some result
    | some result, ['-', 'a'] :: more => (holds? s fuel more).map (result && ·)
    | some result, ['-', 'o'] :: more => (holds? s fuel more).map (result || ·)
    | _, _ => none

/-- The exit code of a test: zero where it holds, two for what is no test. -/
def testStatus (s : State) (args : List Text) : Nat :=
  match holds? s (args.length + 1) args with
  | some true => 0
  | some false => 1
  | none => 2

/-! ### Reading and waiting -/

/-- The content of files, or the input for none or `-`. -/
def catText (s : State) : List Text → Text
  | [] => s.input
  | paths => paths.flatMap fun path =>
    if path = ['-'] then s.input
    else
      match nodeOf? s path with
      | some (.file content _ _) => ofOctets content
      | _ => []

/-- The paths among some that cannot be read. -/
def unreadable (s : State) (paths : List Text) : List Text :=
  paths.filter fun path =>
    path != ['-'] &&
      match nodeOf? s path with
      | some (.file _ _ _) => false
      | _ => true

/-- The nanoseconds in a number of seconds with up to nine digits behind the point. -/
def waitTime (text : Text) : Nat :=
  let whole := text.takeWhile Char.isDigit
  let fraction := ((text.dropWhile Char.isDigit).drop 1).takeWhile Char.isDigit
  let value (digits : Text) : Nat := (Arithmetic.number?.digitsValue? digits).getD 0
  value whole * 1000000000 + value ((fraction ++ List.replicate 9 '0').take 9)

/-- Variables on lines of their own, with their names. -/
def listing (values : List (Text × Text)) : Text :=
  values.flatMap fun entry => entry.1 ++ '=' :: entry.2 ++ ['\n']

/-- The names of the commands that the shell runs by itself, of those that the system provides
too. -/
def sharedNames : List String := ["true", "false", "echo", "printf", "test", "[", "pwd"]

/-- The names of the commands that the system provides. -/
def systemNames : List String := sharedNames ++ ["cat", "sleep", "env", "printenv"]

/-- Runs a command that needs nothing of the shell but its state. Says whether there is one. The
system's `echo` takes options where that of the shell takes escapes. -/
def runSystem (inShell : Bool) (name : String) (args : List Text) : Action Bool := do
  let s ← get
  match name with
  | "true" => setStatus 0; return true
  | "false" => setStatus 1; return true
  | "echo" =>
    writeTo 1 (if inShell then Format.echo args else Format.echoWithOptions args)
    setStatus 0
    return true
  | "printf" =>
    match args with
    | [] => complain 2 "printf: usage: printf format [arg ...]".toList
    | format :: rest => writeTo 1 (Format.printf format rest); setStatus 0
    return true
  | "test" => setStatus (testStatus s args); return true
  | "[" =>
    setStatus (if args.getLast? == some [']'] then testStatus s args.dropLast else 2)
    return true
  | "cat" =>
    let missing := unreadable s args
    writeTo 1 (catText s args)
    modify fun s => if args.isEmpty || args.contains ['-'] then { s with input := [] } else s
    writeTo 2 (missing.flatMap fun path =>
      "cat: ".toList ++ path ++ ": No such file or directory\n".toList)
    setStatus (if missing.isEmpty then 0 else 1)
    return true
  | "sleep" =>
    modify fun s => { s with elapsed := args.foldl (fun time arg => time + waitTime arg) s.elapsed }
    setStatus 0
    return true
  | "pwd" =>
    writeTo 1 (State.dirText s.files.workingDir ++ ['\n'])
    setStatus 0
    return true
  | "env" =>
    writeTo 1 (listing s.childValues)
    setStatus 0
    return true
  | "printenv" =>
    if args.isEmpty then
      writeTo 1 (listing s.childValues)
      setStatus 0
    else
      let shown := args.filterMap fun name => s.childValues.lookup name
      writeTo 1 (shown.flatMap fun value => value ++ ['\n'])
      setStatus (if shown.length = args.length then 0 else 1)
    return true
  | _ => return false

/-! ### Commands of the shell alone -/

/-- Whether a signal, by number or name, leaves a process as it is. -/
def isHarmless (signal : Text) : Bool :=
  let name := String.ofList signal
  ["0", "17", "18", "23", "28", "CHLD", "CONT", "URG", "WINCH"].contains name

/-- Sends a signal. Only the shell itself is there to take one. -/
def kill (args : List Text) : Action Unit := do
  let (signal, targets) :=
    match args with
    | ['-', 's'] :: signal :: rest => (signal, rest)
    | ('-' :: signal) :: rest => (signal, rest)
    | _ => ("TERM".toList, args)
  if targets.contains State.processNumber then
    if isHarmless signal then setStatus 0 else throw .killed
  else complain 1 "kill: No such process".toList

/-- What names stand for when words are dealt out to them: the last one takes all that are left. -/
def dealOut : List Text → List Text → List (Text × Text)
  | [], _ => []
  | [name], words => [(name, [' '].intercalate words)]
  | name :: names, words => (name, words.headD []) :: dealOut names words.tail

/-- Takes one line off the input, and says whether there was a whole one. -/
def readLine (names : List Text) : Action Unit := do
  let s ← get
  let line := s.input.takeWhile (· != '\n')
  let rest := s.input.dropWhile (· != '\n')
  let s := (dealOut names (Fragment.words [.text line false])).foldl
    (fun s entry => s.assign entry.1 entry.2) s
  set { s with input := rest.drop 1, status := if rest.isEmpty then 1 else 0 }

/-- The name in an argument that may give a value too. -/
def nameIn (arg : Text) : Text := arg.takeWhile (· != '=')

/-- Sets variables for which arguments give a value. -/
def assignNames (args : List Text) : Action Unit := do
  modify fun s => args.foldl (fun s arg =>
    match arg.dropWhile (· != '=') with
    | _ :: value => s.assign (nameIn arg) value
    | [] => s) s
  setStatus 0

/-- Makes variables visible to children; an argument may give a value too. -/
def exportNames (args : List Text) : Action Unit := do
  modify fun s =>
    { s with exported := s.exported ++ (args.map nameIn).filter (!s.exported.contains ·) }
  assignNames args

/-- Changes the directory. -/
def changeDirectory (path : Text) : Action Unit := do
  let s ← get
  match nodeOf? s path, (Utf8.decode? (toOctets path)) with
  | some .directory, some path =>
    let dir := FileTree.named s.files.workingDir path
    set ({ s with files := { s.files with workingDir := dir } }.assign "PWD".toList
      (State.dirText dir))
    setStatus 0
  | _, _ => complain 2 ("cd: can't cd to ".toList ++ path)

/-- The number in the first argument of a command, or another without one. An argument that is no
number ends the script. -/
def numberArg (name : String) (args : List Text) (default : Nat) : Action Nat :=
  match args with
  | [] => return default
  | arg :: _ =>
    match Arithmetic.number?.digitsValue? arg with
    | some n => return n
    | none => do
      complain 2 (name.toList ++ ": Illegal number: ".toList ++ arg)
      throw .exit

/-- The names of commands that here have nothing to do. -/
def idleNames : List String := ["trap", "wait", "umask", "ulimit", "hash"]

/-- Runs a command that changes the shell or ends the script. Says whether there is one. -/
def runOwn (name : String) (args : List Text) : Action Bool := do
  let s ← get
  match name with
  | ":" => setStatus 0; return true
  | "exit" =>
    setStatus ((← numberArg name args s.status) % 256)
    throw .exit
  | "return" =>
    setStatus ((← numberArg name args s.status) % 256)
    throw .returned
  | "break" =>
    let loops ← numberArg name args 1
    setStatus 0
    throw (.leave loops)
  | "continue" =>
    let loops ← numberArg name args 1
    setStatus 0
    throw (.again loops)
  | "kill" => kill args; return true
  | "read" => readLine (args.filter fun arg => arg.head? != some '-'); return true
  | "export" => exportNames args; return true
  | "local" => assignNames args; return true
  | "readonly" => assignNames args; return true
  | "unset" =>
    modify fun s => { s with values := args.foldl (fun values name => values.erase name) s.values }
    setStatus 0
    return true
  | "shift" =>
    let count ← numberArg name args 1
    modify fun s => { s with args := s.args.drop count }
    setStatus 0
    return true
  | "cd" => changeDirectory (args.headD ['/']); return true
  | "set" =>
    match args with
    | ['-', '-'] :: rest => modify fun s => { s with args := rest }
    | _ => pure ()
    setStatus 0
    return true
  | _ =>
    if idleNames.contains name then
      setStatus 0
      return true
    else return false

end Utility

end SecretEnv.Shell
