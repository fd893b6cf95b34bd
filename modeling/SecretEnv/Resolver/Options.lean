import SecretEnv.Arguments
import SecretEnv.Settings

/-!
# How the resolver is called

**The command line of the resolver tells it who calls, what it may cache, and which override file
to lay over its answer.** The other options are for this side: where and how long the resolver runs,
and which of the variables it answers are kept.
-/

namespace SecretEnv.Resolver

/-- The options of one call. -/
structure Options where
  /-- Whether the resolver may use its cache on disk. -/
  cache : Bool := false
  /-- Whether the resolver may use its cache in memory. -/
  memCache : Bool := false
  clientName : String := ""
  clientVersion : String := ""
  /-- The file whose variables the resolver lays over its answer. Only a path that is text can be
  given, for which the command line shows just that path. -/
  overrideFile : Option String := none
  /-- The directory the resolver works in, as a path that is text. -/
  cwd : Option String := none
  /-- How long the resolver may take. -/
  timeout : Option Duration := none
  /-- The names of the variables that are kept. -/
  permitted : Option (List String) := none
  deriving Repr, DecidableEq

/-- Options as the settings have them. -/
def Options.ofSettings (settings : Settings) : Options where
  cache := settings.cacheByDefault
  clientName := settings.clientName
  clientVersion := settings.clientVersion
  timeout := settings.fetchTimeout

namespace Flag

/-- Asks for the answer as JSON. -/
def json : String := "--json"

/-- Lets the resolver use its cache on disk. -/
def cache : String := "--cache"

/-- Lets the resolver use its cache in memory. -/
def memCache : String := "--mem-cache"

/-- Names the caller. -/
def clientName : String := "--client-name"

/-- Gives the caller's version. -/
def clientVersion : String := "--client-version"

/-- Gives the override file. -/
def dotenvFile : String := "--dotenv-file"

end Flag

/-- The resolver's arguments: the fixed part, the flags that are on, and the override file. -/
def Options.toArguments (options : Options) : Arguments :=
  let fixed := ((Arguments.empty.push Flag.json).pushFlag Flag.clientName options.clientName).pushFlag
    Flag.clientVersion options.clientVersion
  let flagged := (fixed.pushIf options.cache Flag.cache).pushIf options.memCache Flag.memCache
  match options.overrideFile with
  | some path => flagged.pushFlag Flag.dotenvFile path
  | none => flagged

end SecretEnv.Resolver
