import SecretEnv.CommandLine.Help
import SecretEnv.CommandLine.Options

/-!
# Commands

**There are three commands: to print variables, to run a program with them, and to print the
resolver's path.** Each has its own options.
-/

namespace SecretEnv.CommandLine

/-- A command. -/
inductive Command where
  /-- Prints the variables. -/
  | fetch (credential : Option String) (cache : Option Bool) (memCache : Bool)
      (overrideFile : Option String) (permitted : List String)
  /-- Runs a program with the variables in its environment. -/
  | exec (cache : Option Bool) (overrideFile : Option String) (program : String)
      (args : List String)
  /-- Prints the path of the resolver. -/
  | locate
  deriving Repr, DecidableEq

namespace Command

/-- What the command line of `fetch` may hold. -/
def fetchForm : Form where
  options :=
    [("envkey", .value), ("cache", .nothing), ("no-cache", .nothing), ("mem-cache", .nothing),
      ("env-file", .path), ("permitted", .values)]
  takesWords := false
  help := Help.onFetch

/-- What the command line of `exec` may hold. -/
def execForm : Form where
  options := [("cache", .nothing), ("env-file", .path)]
  takesWords := true
  help := Help.onExec

/-- What the command line of `locate` may hold. -/
def locateForm : Form where
  options := []
  takesWords := false
  help := Help.onLocate

/-- What two flags say about the cache: that it may be used, that it may not, or nothing. -/
def cacheChoice (given : Given) : Option Bool :=
  if given.has "cache" then some true
  else if given.has "no-cache" then some false
  else none

/-- The `fetch` that was given. It takes no words, and only one of the flags for the cache. -/
def ofFetch (given : Given) : Except Stop Command :=
  if !given.words.isEmpty || (given.has "cache" && given.has "no-cache") then .error .misuse
  else
    .ok (.fetch (given.value? "envkey") (cacheChoice given) (given.has "mem-cache")
      (given.value? "env-file") ((given.values "permitted").flatMap (·.splitOn ",")))

/-- The `exec` that was given. The program is its first word. -/
def ofExec (given : Given) : Except Stop Command :=
  match given.words with
  | [] => .error .misuse
  | program :: args =>
    .ok (.exec (cacheChoice given) (given.value? "env-file") program args)

/-- The `locate` that was given. It takes nothing. -/
def ofLocate (given : Given) : Except Stop Command :=
  if given.words.isEmpty then .ok .locate else .error .misuse

/-- What a call for help comes to, given what it names: nothing or one command. -/
def helpOn : List String → Stop
  | [] => .help Help.onProgram
  | ["fetch"] => .help Help.onFetch
  | ["exec"] => .help Help.onExec
  | ["locate"] => .help Help.onLocate
  | ["help"] => .help Help.onHelp
  | _ => .misuse

/-- What an argument comes to that stands where a command should. -/
def noCommand (arg : String) : Stop :=
  if arg = "--version" then .version
  else if arg = "--help" then .help Help.onProgram
  else
    match arg.toList with
    | '-' :: 'V' :: _ => .version
    | '-' :: 'h' :: _ => .help Help.onProgram
    | _ => .misuse

/-- Reads a command line. -/
def read : List String → Except Stop Command
  | "fetch" :: rest => do ofFetch (← Given.read fetchForm rest)
  | "exec" :: rest => do ofExec (← Given.read execForm rest)
  | "locate" :: rest => do ofLocate (← Given.read locateForm rest)
  | "help" :: rest => .error (helpOn rest)
  | arg :: _ => .error (noCommand arg)
  | [] => .error .misuse

end Command

end SecretEnv.CommandLine
