import SecretEnv.Child.Run
import SecretEnv.Shell.Evaluation

/-!
# Children of the system

**A child is a program of the system in a directory, with an environment and no input.** Whether it
starts is decided before anything runs: no text may hold a NUL, the directory must be one, and the
command must lead to a program from there. A child that is waited for no longer than its time is
killed when the time is over.
-/

namespace SecretEnv.Child

open Shell (Text Launch)

/-- Where the system's programs are: the shell and the commands that it provides, in both
directories of the usual search path. -/
def systemPrograms : List Place :=
  ("sh" :: Shell.Utility.systemNames).flatMap fun name => [["bin", name], ["usr", "bin", name]]

/-- What a child did: how it ended unless it would run for ever, what it wrote, and how many
nanoseconds it took. -/
structure Course where
  ending : Option Ending
  stdout : Octets
  stderr : Octets
  elapsed : Nat
  deriving Repr, DecidableEq

/-- The search path of a child that is given none. -/
def defaultSearchPath : String := "/bin:/usr/bin"

/-- Whether a text holds a NUL, which ends texts for the system. -/
def hasNul (text : String) : Bool := text.toList.contains '\x00'

/-- An entry of an environment as the child reads it: its name ends at the first `=`. -/
def readEntry (entry : Octets × Octets) : Text × Text :=
  let octets := entry.1 ++ Environment.equalsSign :: entry.2
  (Shell.ofOctets (octets.takeWhile (· != Environment.equalsSign)),
    Shell.ofOctets ((octets.dropWhile (· != Environment.equalsSign)).drop 1))

/-- The files as a child sees them that works in a directory. -/
def filesIn (files : FileTree) : Option String → Except PathFault FileTree
  | none => .ok files
  | some dir =>
    match files.resolveFrom files.workingDir dir with
    | .error fault => .error fault
    | .ok place =>
      match files.nodeAt? place with
      | some .directory => .ok { files with workingDir := place }
      | some _ => .error .notDirectory
      | none => .error .missing

/-- What a program does from its start to its end. -/
def course (files : FileTree) (launch : Launch) (env : Environment) : Course :=
  let start := Shell.State.start files launch.self launch.args (env.toList.map readEntry) []
  let (ending, s) : Option Ending × Shell.State :=
    match (Shell.runProgram Shell.run launch).run start with
    | .ok _ s => (some (.exited s.status), s)
    | .error .killed s => (some .killed, s)
    | .error .tooLong s => (none, s)
    | .error _ s => (some (.exited s.status), s)
  { ending := ending
    stdout := Shell.toOctets (Shell.State.joined s.output)
    stderr := Shell.toOctets (Shell.State.joined s.errors)
    elapsed := s.elapsed }

/-- Starts a command in a directory, and says what it does; or why it cannot be started. -/
def start (files : FileTree) (command : String) (args : List String) (env : Environment)
    (cwd : Option String) : Except String Course :=
  if hasNul command || args.any hasNul || cwd.any hasNul ||
      env.toList.any (fun entry => entry.1.contains 0 || entry.2.contains 0) then
    .error "nul byte found in provided data"
  else
    match filesIn files cwd with
    | .error fault => .error fault.message
    | .ok files =>
      let searchPath := (env.value? "PATH").getD defaultSearchPath
      match Launch.ofCommand files searchPath command (args.map Shell.ofString) with
      | .error fault => .error fault.message
      | .ok launch => .ok (course files launch env)

/-- What a child gives that is waited for. One that runs for ever counts as killed where nothing
ends the wait. -/
def outcome (invocation : Invocation) (course : Course) : Except Error Output :=
  let output (ending : Ending) : Output := ⟨ending, course.stdout, course.stderr⟩
  match invocation.timeout, course.ending with
  | none, ending => .ok (output (ending.getD .killed))
  | some limit, none => .error (timedOut invocation limit)
  | some limit, some ending =>
    if limit.nanoseconds = 0 || limit.nanoseconds < course.elapsed then
      .error (timedOut invocation limit)
    else .ok (output ending)

/-- Runs programs of the system among given files. -/
def execute (files : FileTree) : Executor := fun invocation =>
  match start files invocation.command invocation.args (Environment.ofVariables invocation.env)
      invocation.cwd with
  | .error reason => .error (notRun invocation reason)
  | .ok course => outcome invocation course

end SecretEnv.Child
