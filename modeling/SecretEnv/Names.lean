/-!
# Names the library agrees on with its surroundings

The variables that it reads, and how it names itself and the resolver.
-/

namespace SecretEnv.Names

/-- The variable that holds the credential. -/
def credential : String := "ENVKEY"

/-- A value in this variable switches automatic loading off. -/
def disableAutoload : String := "ENVKEY_DISABLE_AUTOLOAD"

/-- The presence of this variable lets the resolver use its cache. -/
def shouldCache : String := "ENVKEY_SHOULD_CACHE"

/-- The directory with the resolver's builds. -/
def sourceDir : String := "ENVKEY_SOURCE_DIR"

/-- The version of the resolver. -/
def sourceVersion : String := "ENVKEY_SOURCE_VERSION"

/-- How many seconds a run of the resolver may take. -/
def fetchTimeout : String := "ENVKEY_FETCH_TIMEOUT"

/-- The resolver's name, without the ending that a system may want. -/
def resolver : String := "envkey-source"

/-- The version of the resolver that is used unless another is named. -/
def defaultVersion : String := "2.4.1"

/-- The directory with the resolver's builds, beside the executable. -/
def extensionDir : String := "ext"

/-- The name the library gives the resolver as its own. -/
def client : String := "envkey-rs"

/-- The version the library gives the resolver as its own. -/
def clientVersion : String := "0.1.0"

/-- The program's name on the command line. -/
def program : String := "envkey"

end SecretEnv.Names
