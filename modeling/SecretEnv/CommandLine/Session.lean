import SecretEnv.Child.Course
import SecretEnv.CommandLine.Command
import SecretEnv.Json.Writer
import SecretEnv.Program

/-!
# What the program does

**A command line, a running program, and what becomes of them**: an exit code, what was written,
and the error that was reported, if one was. A command line that is none is refused before anything
else is looked at; the settings are read before the command does anything.
-/

namespace SecretEnv.CommandLine

/-- How the program ended. -/
structure Result where
  exit : Nat
  stdout : Octets
  report : Option Error

namespace Result

/-- An end without a fault, after a line was written. -/
def printed (line : String) : Result := ⟨0, Utf8.encode (line ++ "\n"), none⟩

/-- An end with an error. -/
def failed (error : Error) : Result := ⟨1, [], some error⟩

/-- The end of a command line that is none. -/
def misused : Result := ⟨2, [], none⟩

end Result

/-- The program's name and version, as it prints them. -/
def versionLine : String := "envkey " ++ Names.clientVersion

/-- The result of a command that may fail. -/
def settle (result : Except Error Result) : Result :=
  match result with
  | .ok result => result
  | .error error => .failed error

/-- Runs a program in the environment that a load has left, and ends as it does. -/
def runProgram (running : Program) (program : String) (args : List String) :
    Except Error Result :=
  match Child.start running.files program args running.env none with
  | .error reason =>
    .error (.commandExecution program args ("failed to start: " ++ reason) none)
  | .ok course =>
    match course.ending with
    | some (.exited code) => .ok ⟨code, course.stdout, none⟩
    | _ => .ok ⟨1, course.stdout, none⟩

/-- Carries a command out with given settings. -/
def carryOut (running : Program) (settings : Settings) : Command → Except Error Result
  | .fetch credential cache memCache overrideFile permitted => do
    let loader ← Loader.ofSettings settings running.programDir
    let request : Request := {
      credential := credential
      cache := cache
      overrideFile := overrideFile
      memCache := memCache
      permitted := if permitted.isEmpty then none else some permitted }
    let secrets ← (loader.fetch .awaited (Child.execute running.files) running.surroundings
      running.store request).result
    return .printed (String.ofList (Json.writeObject .lines secrets.toList))
  | .exec cache overrideFile program args => do
    let loader ← Loader.ofSettings settings running.programDir
    let loaded := loader.load .awaited (Child.execute running.files) running.surroundings
      running.store { cache := cache, overrideFile := overrideFile }
    let _ ← loaded.result
    runProgram (running.withStore loaded.store) program args
  | .locate => do return .printed (← settings.resolverPath running.programDir)

/-- The paths of the files that a command line may touch. -/
def pathsOf (env : Environment) (programDir : String) (args : List String) : List String :=
  let resolver :=
    match Settings.ofEnvironment env with
    | .ok settings => (settings.resolverPath programDir).toOption.toList
    | .error _ => []
  match Command.read args with
  | .ok (.fetch _ _ _ overrideFile _) => resolver ++ overrideFile.toList
  | .ok (.exec _ overrideFile program args) => resolver ++ overrideFile.toList ++ program :: args
  | _ => []

/-- Runs the program with a command line. -/
def run (running : Program) (args : List String) : Result :=
  match Command.read args with
  | .error .misuse => .misused
  | .error .version => .printed versionLine
  | .error (.help text) => .printed text
  | .ok command =>
    settle (do carryOut running (← Settings.ofEnvironment running.env) command)

end SecretEnv.CommandLine
