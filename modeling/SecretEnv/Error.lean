import SecretEnv.Duration

/-!
# What can go wrong

**One type of errors for the whole library, one function for their words.** A constructor says what
kind of thing failed and holds what the words need; `Error.message` is the only place where they
are put together, so a statement about a failure is a statement about a constructor.
-/

namespace SecretEnv

/-- A failure. -/
inductive Error where
  /-- No resolver is built for this system. -/
  | unsupportedPlatform (os arch detail : String)
  /-- No credential was found, or a blank one was given. -/
  | missingCredential (detail : String)
  /-- The resolver could not be run, did not finish, or ended with a failure. -/
  | fetchFailed (command detail : String) (exitCode : Option Int)
  /-- The resolver does not accept the credential. -/
  | invalidCredential (detail : String)
  /-- The resolver's answer is not one; perhaps with what the reader of it said. -/
  | malformedResponse (detail : String) (cause : Option String)
  /-- The override file cannot be used; perhaps with what its reader said. -/
  | overrideFile (path detail : String) (cause : Option String)
  /-- A variable of the process cannot be set. -/
  | environment (name detail : String)
  /-- A command could not be run. -/
  | commandExecution (command : String) (args : List String) (detail : String)
      (exitCode : Option Int)
  /-- The settings, or the way the library is called, are not usable. -/
  | configuration (detail : String)
  /-- The file system refused an operation on a path. -/
  | fileSystem (path operation cause : String)
  /-- A text is no JSON. -/
  | json (detail : String)
  /-- An operation took longer than it was given. -/
  | timeout (operation : String) (limit : Duration)
  deriving Repr, DecidableEq

namespace Error

/-- An exit code as it stands in a message, if there is one. -/
def exitText : Option Int → String
  | some code => s!" with exit code {code}"
  | none => ""

/-- A command line: the command and its arguments, a blank between them; the command alone if the
arguments come to nothing. -/
def commandLine (command : String) (args : List String) : String :=
  let joined := " ".intercalate args
  if joined.isEmpty then command else command ++ " " ++ joined

/-- The words for an error. -/
def message : Error → String
  | unsupportedPlatform os arch detail => s!"unsupported platform '{os}/{arch}': {detail}"
  | missingCredential detail => s!"missing ENVKEY: {detail}"
  | fetchFailed command detail exitCode =>
    s!"fetch via '{command}' failed" ++ exitText exitCode ++ s!": {detail}"
  | invalidCredential detail => s!"invalid ENVKEY: {detail}"
  | malformedResponse detail _ => s!"malformed resolver response: {detail}"
  | overrideFile path detail _ => s!"override file '{path}': {detail}"
  | environment name detail => s!"environment variable '{name}' error: {detail}"
  | commandExecution command args detail exitCode =>
    "command '" ++ commandLine command args ++ "' failed" ++ exitText exitCode ++ s!": {detail}"
  | configuration detail => s!"configuration error: {detail}"
  | fileSystem path operation cause =>
    s!"file system {operation} operation failed for '{path}': {cause}"
  | json detail => s!"JSON error: {detail}"
  | timeout operation limit => s!"operation '{operation}' timed out after " ++ limit.text

/-- What another reader or the system said underneath, where something did. -/
def cause? : Error → Option String
  | malformedResponse _ cause => cause
  | overrideFile _ _ cause => cause
  | fileSystem _ _ cause => some cause
  | json detail => some detail
  | _ => none

/-- A failure of the system outside any operation on a file of ours. -/
def ofSystem (cause : String) : Error := .fileSystem "" "unknown" cause

/-- Whether the resolver refused the credential. -/
def isInvalidCredential : Error → Bool
  | invalidCredential _ => true
  | _ => false

/-- Whether there was no credential. -/
def isMissingCredential : Error → Bool
  | missingCredential _ => true
  | _ => false

end Error

end SecretEnv
