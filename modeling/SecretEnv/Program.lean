import SecretEnv.Autoload

/-!
# A running program

**The usual entry points take everything from the program they run in**: settings from its
environment, the resolver from its files, and its environment as the store. Its flag for automatic
loading lives as long as it does.
-/

namespace SecretEnv

/-- A running program: the files and the environment it sees, the directory it lies in, and whether
it has loaded automatically. -/
structure Program where
  files : FileTree
  env : Environment
  programDir : String
  hasAutoloaded : Bool := false

namespace Program

/-- What surrounds calls made in the program. -/
def surroundings (running : Program) : Surroundings := ⟨running.files, running.env⟩

/-- The environment of the program as a store. -/
def store (running : Program) : Store := .process running.env

/-- The loader that the program's environment chooses. -/
def loader (running : Program) : Except Error Loader :=
  Loader.ofEnvironment running.env running.programDir

/-- The program with what its store has become. -/
def withStore (running : Program) (store : Store) : Program :=
  { running with env := store.ambient running.env }

/-- Fetches for a request with the loader that the environment chooses. -/
def fetchFor (running : Program) (executor : Executor) (request : Request)
    (scene : Scene := .outside none) : Except Error Variables := do
  let loader ← running.loader
  (loader.fetchBlocking scene executor running.surroundings running.store request).result

/-- Fetches variables without touching the environment. -/
def fetch (running : Program) (executor : Executor) (credential : Option String)
    (cache : Option Bool) (overrideFile : Option String) (scene : Scene := .outside none) :
    Except Error Variables :=
  running.fetchFor executor
    { credential := credential, cache := cache, overrideFile := overrideFile } scene

/-- What a load for a request comes to, with the runs of the resolver. -/
def loadedFor (running : Program) (calling : Calling) (executor : Executor) (request : Request)
    (visiting : Visiting := .byName) : Loader.Loaded :=
  match running.loader with
  | .error error => ⟨.error error, [], running.store⟩
  | .ok loader =>
    loader.load calling executor running.surroundings running.store request visiting

/-- Loads variables for a request into the environment. -/
def loadFor (running : Program) (calling : Calling) (executor : Executor) (request : Request)
    (visiting : Visiting := .byName) : Except Error Variables × Program :=
  let loaded := running.loadedFor calling executor request visiting
  (loaded.result, running.withStore loaded.store)

/-- Loads variables into the environment. -/
def load (running : Program) (executor : Executor) (cache : Option Bool)
    (overrideFile : Option String) (visiting : Visiting := .byName)
    (scene : Scene := .outside none) : Except Error Variables × Program :=
  running.loadFor (.blocks scene) executor { cache := cache, overrideFile := overrideFile } visiting

/-- The value of a variable of the environment. -/
def value? (running : Program) (name : String) : Option String := running.env.value? name

/-- What an attempt to load automatically comes to, with the runs of the resolver. -/
def attempt (running : Program) (calling : Calling) (executor : Executor)
    (visiting : Visiting := .byName) : Autoload.Attempt :=
  Autoload.run running.hasAutoloaded calling executor running.surroundings running.store
    running.loader visiting

/-- Loads into the environment, once in the life of the program. -/
def autoload (running : Program) (calling : Calling) (executor : Executor)
    (visiting : Visiting := .byName) : Except Error Autoload.Outcome × Program :=
  let attempt := running.attempt calling executor visiting
  (attempt.result, { running.withStore attempt.store with hasAutoloaded := attempt.hasRun })

end Program

end SecretEnv
