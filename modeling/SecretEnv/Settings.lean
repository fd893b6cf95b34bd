import SecretEnv.Environment
import SecretEnv.Number.Numeral
import SecretEnv.Platform

/-!
# Settings

**Settings are fixed once they are made**: from choices, each of which may be left open, or from the
variables that make them. An empty variable chooses nothing, except that the mere presence of the
cache variable chooses the cache.

The directory of the running program is given wherever it is needed. That a program cannot find
out its own path is not among the errors here.
-/

namespace SecretEnv

/-- Where the builds of the resolver are. -/
inductive ResolverDir where
  /-- In the directory with this path. -/
  | inDirectory (path : String)
  /-- In the extension directory beside the running program. -/
  | besideProgram
  deriving Repr, DecidableEq

/-- The directory's path, for a program in the given directory. -/
def ResolverDir.path (dir : ResolverDir) (programDir : String) : String :=
  match dir with
  | .inDirectory path => path
  | .besideProgram => Path.join programDir Names.extensionDir

/-- How the resolver is found and called. -/
structure Settings where
  resolverVersion : String
  resolverDir : ResolverDir
  /-- The name the resolver is told. -/
  clientName : String
  /-- The version the resolver is told. -/
  clientVersion : String
  /-- Whether the resolver may use its cache where a call does not say. -/
  cacheByDefault : Bool
  /-- How long a run of the resolver may take. Nothing means for ever. -/
  fetchTimeout : Option Duration
  deriving Repr, DecidableEq

/-- Settings of which any may be left open. -/
structure Choices where
  resolverVersion : Option String := none
  resolverDir : Option String := none
  clientName : Option String := none
  clientVersion : Option String := none
  cacheByDefault : Bool := false
  fetchTimeout : Option Duration := none
  deriving Repr, DecidableEq

/-- The settings for given choices. The version may not be blank. -/
def Choices.settle (choices : Choices) : Except Error Settings :=
  let version := choices.resolverVersion.getD Names.defaultVersion
  if Text.isBlankText version then .error Platform.blankVersion
  else
    .ok {
      resolverVersion := version
      resolverDir := choices.resolverDir.elim .besideProgram .inDirectory
      clientName := choices.clientName.getD Names.client
      clientVersion := choices.clientVersion.getD Names.clientVersion
      cacheByDefault := choices.cacheByDefault
      fetchTimeout := choices.fetchTimeout }

namespace Settings

/-! ### From variables -/

/-- The error for a timeout, with the text it was given as. -/
def badTimeout (fault raw reason : String) : Error :=
  .configuration (Names.fetchTimeout ++ " " ++ fault ++ ", got '" ++ raw ++ "'" ++ reason)

/-- A timeout in seconds: a positive finite number, rounded to nanoseconds. -/
def parseTimeout (raw : String) : Except Error Duration :=
  match Numeral.read? (Text.trim raw) with
  | none => .error (badTimeout "must be a number of seconds" raw "")
  | some numeral =>
    match numeral.positiveDouble? with
    | none => .error (badTimeout "must be positive" raw "")
    | some seconds =>
      match Duration.ofSeconds? seconds with
      | none =>
        .error (badTimeout "is out of range" raw
          ": cannot convert float seconds to Duration: value is either too big or NaN")
      | some duration => .ok duration

/-- The value of a variable, if it is not empty. -/
def nonEmpty? (vars : Variables) (name : String) : Option String :=
  vars[name]?.filter fun value => !value.isEmpty

/-- The timeout that variables choose, if they do. -/
def timeoutOf (vars : Variables) : Except Error (Option Duration) :=
  match nonEmpty? vars Names.fetchTimeout with
  | some raw => (parseTimeout raw).map some
  | none => .ok none

/-- The settings that variables choose. -/
def ofVariables (vars : Variables) : Except Error Settings := do
  let timeout ← timeoutOf vars
  Choices.settle {
    resolverVersion := nonEmpty? vars Names.sourceVersion
    resolverDir := nonEmpty? vars Names.sourceDir
    cacheByDefault := vars.contains Names.shouldCache
    fetchTimeout := timeout }

/-- The settings that the environment of the process chooses. -/
def ofEnvironment (env : Environment) : Except Error Settings := ofVariables env.vars

/-- The path of the resolver, for a program in the given directory. -/
def resolverPath (settings : Settings) (programDir : String) : Except Error String :=
  Platform.host.locate (settings.resolverDir.path programDir) settings.resolverVersion

end Settings

end SecretEnv
