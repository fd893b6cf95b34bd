import SecretEnv.Shell.Expansion
import SecretEnv.Shell.Launch

/-!
# Running scripts

**One function a kind of command, each told how the commands inside it are run.** `runCommand` joins
them, and `run` closes the circle: commands are run by `runCommand`, up to a depth at which a system
would end the shell. A loop has a bound too, beyond which nobody waits for it.
-/

namespace SecretEnv.Shell

/-- The most rounds of a loop that anyone waits for. -/
def mostRounds : Nat := 200000

/-- The most commands that may be inside each other. -/
def mostLevels : Nat := 4000

/-- Ends as something else was ended, if it was. -/
def endAs : Option Halt → Action Unit
  | some halt => throw halt
  | none => pure ()

/-! ### Redirections -/

/-- Opens a file for writing to a channel. Says whether it could. -/
def openForWriting (channel : Nat) (append : Bool) (path : Text) : Action Bool := do
  let s ← get
  let refuse (reason : String) : Action Bool := do
    complain 2 ("cannot create ".toList ++ path ++ ": ".toList ++ reason.toList)
    return false
  if path = "/dev/null".toList then
    set (s.withSink channel .nowhere)
    return true
  else if path = "/dev/stderr".toList then
    set (s.withSink channel (s.sink 2))
    return true
  else
    match Utf8.decode? (toOctets path) with
    | none => refuse "Invalid argument"
    | some text =>
      let place := FileTree.named s.files.workingDir text
      let openNode (node : Node) : Action Bool := do
        set ({ s with files := s.files.addNode place node }.withSink channel (.file place))
        return true
      match s.files.nodeAt? place with
      | some .directory => refuse "Is a directory"
      | some (.program _) => refuse "Permission denied"
      | some (.file content readable executable) =>
        openNode (.file (if append then content else []) readable executable)
      | none =>
        if s.files.nodeAt? place.dropLast == some .directory then openNode (.file [] true false)
        else refuse "Directory nonexistent"

/-- Opens a file as input. Says whether it could. -/
def openForReading (path : Text) : Action Bool := do
  let s ← get
  match nodeOf? s path with
  | some (.file content true _) =>
    set { s with input := ofOctets content }
    return true
  | _ =>
    if path = "/dev/null".toList then
      set { s with input := [] }
      return true
    else
      complain 2 ("cannot open ".toList ++ path ++ ": No such file".toList)
      return false

/-- Carries out a redirection. Says whether it could. -/
def redirect (run : Runner) : Redirect → Action Bool
  | .same channel other => do
    modify fun s => s.withSink channel (s.sink other)
    return true
  | .toFile channel append path => do openForWriting channel append (← expandText run path)
  | .fromFile path => do openForReading (← expandText run path)
  | .fromText text => do
    let input ← expandText run text
    modify fun s => { s with input := input }
    return true

/-- Whether a redirection changes the input. -/
def Redirect.isInput : Redirect → Bool
  | .fromFile _ => true
  | .fromText _ => true
  | _ => false

/-- Runs an action under redirections, and ends them with it. -/
def redirected (run : Runner) (redirects : List Redirect) (action : Action Unit) : Action Unit := do
  let before ← get
  let opened ← redirects.allM (redirect run)
  let halt ← halted (if opened then action else setStatus 2)
  modify fun s => { s with
    outSink := before.outSink
    errSink := before.errSink
    input := if redirects.any Redirect.isInput then before.input else s.input }
  endAs halt

/-! ### Programs -/

/-- Runs an action as a process of its own, which begins with the variables that children see. -/
def asChild (self : Text) (args : List Text) (action : Action Unit) : Action Unit := do
  let before ← get
  set { State.start before.files self args before.childValues before.input with
    outSink := before.outSink
    errSink := before.errSink
    output := before.output
    errors := before.errors
    elapsed := before.elapsed }
  let halt ← halted action
  modify before.afterApart
  match halt with
  | some .killed => setStatus 137
  | some .tooLong => throw .tooLong
  | _ => pure ()

/-- Runs a script in this shell, up to its end. -/
def runScript (run : Runner) (script : Text) : Action Unit := do
  let before ← get
  set { before with lineEnds := script.count '\n' }
  let halt ← halted do
    match parse? script with
    | some command => run command
    | none => complain 2 "Syntax error".toList
  modify fun s => { s with lineEnds := before.lineEnds }
  endAs halt

/-- What the program `sh` does with its arguments. -/
def runShell (run : Runner) (args : List Text) : Action Unit := do
  modify State.asShell
  let s ← get
  match args with
  | [] =>
    set { s with input := [] }
    runScript run s.input
  | ['-', 'c'] :: script :: rest =>
    set { s with self := rest.headD s.self, args := rest.tail }
    runScript run script
  | path :: rest =>
    match nodeOf? s path with
    | some (.file content true _) =>
      set { s with self := path, args := rest }
      runScript run (ofOctets content)
    | _ =>
      set { s with line := 0 }
      complain 2 ("cannot open ".toList ++ path ++ ": No such file".toList)

/-- A command that consists of given words. -/
def plainCommand (linesBelow : Nat) (assignments : List (Text × Text)) (words : List Text) :
    Command :=
  .simple linesBelow (assignments.map fun entry => (entry.1, [.literal entry.2 true]))
    (words.map fun word => [.literal word true]) []

/-- The assignments at the front of some words, and the other words. -/
def takeAssignments (words : List Text) : List (Text × Text) × List Text :=
  let isAssignment (word : Text) : Bool :=
    word.contains '=' && State.isName (word.takeWhile (· != '='))
  ((words.takeWhile isAssignment).map fun word =>
      (word.takeWhile (· != '='), (word.dropWhile (· != '=')).drop 1),
    words.dropWhile isAssignment)

/-- Runs a program of the system as the process that this is. -/
def runProgram (run : Runner) (launch : Launch) : Action Unit := do
  if launch.program = "sh" then
    modify fun s => { s with self := launch.self }
    runShell run launch.args
  else if launch.program = "env" && !launch.args.isEmpty then
    let (assignments, words) := takeAssignments launch.args
    run (plainCommand 0 assignments words)
  else if ← Utility.runSystem false launch.program launch.args then pure ()
  else setStatus 127

/-- The search path of a shell that is given none. -/
def defaultSearchPath : String := "/usr/local/sbin:/usr/local/bin:/usr/sbin:/usr/bin:/sbin:/bin"

/-- Runs a command that is a file. What is said where there is none begins as given. -/
def runFile (run : Runner) (complaint : String) (name : Text) (args : List Text) :
    Action Unit := do
  let s ← get
  let searchPath :=
    match s.value? "PATH".toList with
    | some value => Utf8.decodeLossy (toOctets value)
    | none => defaultSearchPath
  let launch :=
    match Utf8.decode? (toOctets name) with
    | some command => Launch.ofCommand s.files searchPath command args
    | none => .error (.path .missing)
  match launch with
  | .ok launch => asChild launch.self launch.args (runProgram run launch)
  | .error .denied => complain 126 (complaint.toList ++ name ++ ": Permission denied".toList)
  | .error .badFormat => asChild name args (runShell run (name :: args))
  | .error _ => complain 127 (complaint.toList ++ name ++ ": not found".toList)

/-! ### Simple commands -/

/-- Runs the body of a function with arguments. -/
def callFunction (run : Runner) (body : Command) (args : List Text) : Action Unit := do
  let before ← get
  set { before with args := args }
  let halt ← halted (run body)
  modify fun s => { s with args := before.args }
  endAs (halt.filter (· != .returned))

/-- Runs a command by its name: a function, a command of the shell, or a file. -/
def runNamed (run : Runner) (name : Text) (args : List Text) : Action Unit := do
  let s ← get
  let word := String.ofList name
  match s.functions.lookup name with
  | some body => callFunction run body args
  | none =>
    if word = "eval" then runScript run ([' '].intercalate args)
    else if word = "exec" then
      match args with
      | [] => setStatus 0
      | file :: rest =>
        runFile run "exec: " file rest
        throw .exit
    else if word = "command" then
      match args with
      | [] => setStatus 0
      | file :: rest => run (plainCommand (s.lineEnds + 1 - s.line) [] (file :: rest))
    else if ← Utility.runOwn word args then pure ()
    else if Utility.sharedNames.contains word then
      let _ ← Utility.runSystem true word args
      pure ()
    else runFile run "" name args

/-- Whether a command is among the parts of a word. -/
def hasOutput (word : Word) : Bool :=
  word.any fun
    | .output _ _ => true
    | _ => false

/-- The values of assignments, each made before the next is put together. -/
def assignAll (run : Runner) : List (Text × Word) → Action (List Text)
  | [] => return []
  | (name, word) :: rest => do
    let value ← expandText run word
    modify (·.assign name value)
    return name :: (← assignAll run rest)

/-- The shell with variables as they were before. -/
def restoreValues (before : State) (names : List Text) (after : State) : State :=
  { after with
    values := names.foldl (fun values name =>
      match before.value? name with
      | some value => values.insert name value
      | none => values.erase name) after.values
    exported := if names.isEmpty then after.exported else before.exported }

/-- Runs words with assignments in front. Assignments alone stay; others end with the command. -/
def runWords (run : Runner) (assignments : List (Text × Word)) (words : List Text)
    (keepsStatus : Bool) : Action Unit := do
  let before ← get
  let names ← assignAll run assignments
  match words with
  | [] => if keepsStatus then pure () else setStatus 0
  | name :: args =>
    modify fun s => { s with exported := s.exported ++ names.filter (!s.exported.contains ·) }
    let halt ← halted (runNamed run name args)
    modify (restoreValues before names)
    endAs halt

/-- Runs assignments, words and redirections. Redirections of `exec` alone stay. -/
def runSimple (run : Runner) (linesBelow : Nat) (assignments : List (Text × Word))
    (words : List Word) (redirects : List Redirect) : Action Unit := do
  modify fun s => { s with line := s.lineEnds - linesBelow + 1 }
  let args ← expandWords run words
  let keepsStatus := (words ++ assignments.map (·.2)).any hasOutput
  if args = ["exec".toList] then
    let opened ← redirects.allM (redirect run)
    setStatus (if opened then 0 else 2)
  else redirected run redirects (runWords run assignments args keepsStatus)

/-! ### Loops and choices -/

/-- Whether a loop goes on after a round, or what else ends. -/
def afterRound : Option Halt → Except Halt Bool
  | none => .ok true
  | some (.leave loops) => if loops ≤ 1 then .ok false else .error (.leave (loops - 1))
  | some (.again loops) => if loops ≤ 1 then .ok true else .error (.again (loops - 1))
  | some halt => .error halt

/-- One round of a loop with a test, after one that ended with an exit code: the exit code of this
one, or nothing where the loop is over. Then the exit code of the last round stays. -/
def testedRound (run : Runner) (untilTrue : Bool) (test body : Command) (last : Nat) :
    Action (Option Nat) := do
  let halt ← halted (run test)
  match afterRound halt with
  | .error halt => throw halt
  | .ok false => setStatus 0; return none
  | .ok true =>
    if ((← get).status == 0) == untilTrue then
      setStatus last
      return none
    else
      match afterRound (← halted (run body)) with
      | .error halt => throw halt
      | .ok true => return some (← get).status
      | .ok false => return none

/-- A loop with a test, for at most so many rounds, after one that ended with an exit code. -/
def runLoop (run : Runner) (untilTrue : Bool) (test body : Command) : Nat → Nat → Action Unit
  | 0, _ => throw .tooLong
  | rounds + 1, last => do
    match ← testedRound run untilTrue test body last with
    | some status => runLoop run untilTrue test body rounds status
    | none => pure ()

/-- A loop over words. -/
def runEach (run : Runner) (name : Text) (body : Command) : List Text → Action Unit
  | [] => pure ()
  | word :: rest => do
    modify (·.assign name word)
    match afterRound (← halted (run body)) with
    | .error halt => throw halt
    | .ok true => runEach run name body rest
    | .ok false => pure ()

/-- The commands of the first clause with a pattern that a text matches. -/
def clauseFor? (run : Runner) (text : Text) :
    List (List Word × Command) → Action (Option Command)
  | [] => return none
  | (patterns, body) :: rest => do
    let matched ← patterns.anyM fun word =>
      return Wildcard.matchesAll (← expandPattern run word) text
    if matched then return some body else clauseFor? run text rest

/-! ### Commands -/

/-- Runs one command after another has written its input. -/
def runPipe (run : Runner) (first second : Command) : Action Unit := do
  let text ← captured (run first)
  let before ← get
  set { before with input := text }
  let halt ← halted (apart (run second))
  modify fun s => { s with input := before.input }
  endAs halt

/-- Whether no command is there. -/
def Command.isNothing : Command → Bool
  | .nothing => true
  | _ => false

/-- Runs a command that may not be there; then nothing fails. -/
def runOptional (run : Runner) (command : Command) : Action Unit :=
  if command.isNothing then setStatus 0 else run command

/-- Runs a command, when it is known how the commands inside it are run. -/
def runCommand (run : Runner) : Command → Action Unit
  | .nothing => pure ()
  | .simple linesBelow assignments words redirects =>
    runSimple run linesBelow assignments words redirects
  | .sequence first second => do run first; run second
  | .andThen first second => do
    run first
    if (← get).status = 0 then run second
  | .orElse first second => do
    run first
    if (← get).status ≠ 0 then run second
  | .negated command => do
    run command
    setStatus (if (← get).status = 0 then 1 else 0)
  | .pipe first second => runPipe run first second
  | .group isolated body redirects =>
    redirected run redirects (if isolated then apart (run body) else run body)
  | .conditional test yes no => do
    run test
    if (← get).status = 0 then run yes else runOptional run no
  | .loop untilTrue test body => runLoop run untilTrue test body mostRounds 0
  | .forEach name words body => do
    let values ←
      match words with
      | some words => expandWords run words
      | none => pure (← get).args
    setStatus 0
    runEach run name body values
  | .choose word clauses => do
    match ← clauseFor? run (← expandText run word) clauses with
    | some body => runOptional run body
    | none => setStatus 0
  | .define name body => do
    modify fun s => { s with functions := (name, body) :: s.functions }
    setStatus 0

/-- Runs a command with at most so many others inside each other. -/
def runWithin : Nat → Runner
  | 0, _ => throw .killed
  | levels + 1, command => runCommand (runWithin levels) command

/-- Runs a command. -/
def run : Runner := runWithin mostLevels

end SecretEnv.Shell
