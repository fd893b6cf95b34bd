import SecretEnv.Calling
import SecretEnv.CredentialSource
import SecretEnv.Merge
import SecretEnv.Resolver.Client

/-!
# Loading variables

**A fetch first decides, and only then asks.** `plan` reads the override file, looks for a
credential and says what is to happen: the file's own variables are the answer, or the resolver is
called once with these options. `fetch` carries the plan out and leaves the store alone; `load`
fetches and merges. What was called is part of what a fetch gives back, so that "once", "never" and
"with exactly this" can be said.
-/

namespace SecretEnv

/-- What a caller asks for. -/
structure Request where
  /-- A credential that goes before any other. -/
  credential : Option String := none
  /-- Whether the resolver may use its cache; left to the settings and the store if not given. -/
  cache : Option Bool := none
  /-- The override file, by a path that is text. -/
  overrideFile : Option String := none
  memCache : Bool := false
  /-- The directory the resolver works in, by a path that is text. -/
  cwd : Option String := none
  /-- The names of the variables that are wanted. -/
  permitted : Option (List String) := none
  deriving Repr, DecidableEq

/-- What surrounds a call: the files and the environment of the process. -/
structure Surroundings where
  files : FileTree
  env : Environment

/-- Settings, and the resolver they lead to. -/
structure Loader where
  settings : Settings
  binary : String
  deriving Repr, DecidableEq

namespace Loader

/-- The loader for given settings, in a program in the given directory. -/
def ofSettings (settings : Settings) (programDir : String) : Except Error Loader :=
  (settings.resolverPath programDir).map fun binary => ⟨settings, binary⟩

/-- The loader that the environment of the process chooses. -/
def ofEnvironment (env : Environment) (programDir : String) : Except Error Loader := do
  ofSettings (← Settings.ofEnvironment env) programDir

/-! ### Deciding -/

/-- What is to happen for a request. -/
inductive Plan where
  /-- The variables of the override file are the answer. -/
  | fileOnly (secrets : Variables)
  /-- The resolver is called with this credential and these options, on this snapshot. -/
  | ask (credential : Credential) (options : Resolver.Options) (snapshot : Variables)

/-- The override file of a request, if it has one. -/
def overrideFile (around : Surroundings) (store : Store) (request : Request) :
    Except Error (Option OverrideFile) :=
  match request.overrideFile with
  | none => .ok none
  | some path => (OverrideFile.read around.files (store.ambient around.env) path).map some

/-- The plan where there is no credential: the variables of the override file, if it has any. -/
def planWithout (missing : Error) (file : Option OverrideFile) : Except Error Plan :=
  match file with
  | none => .error missing
  | some file => if file.secrets.isEmpty then .error missing else .ok (.fileOnly file.secrets)

/-- Whether the resolver may use its cache: as the request says, or else if the settings or the
store say so. -/
def cacheFor (loader : Loader) (store : Store) (request : Request) : Bool :=
  match request.cache with
  | some cache => cache
  | none => loader.settings.cacheByDefault || store.has Names.shouldCache

/-- The options of the call for a request. -/
def optionsFor (loader : Loader) (store : Store) (request : Request) : Resolver.Options :=
  { Resolver.Options.ofSettings loader.settings with
    cache := loader.cacheFor store request
    memCache := request.memCache
    overrideFile := request.overrideFile
    cwd := request.cwd
    permitted := request.permitted }

/-- What is to happen for a request. -/
def plan (loader : Loader) (around : Surroundings) (store : Store) (request : Request) :
    Except Error Plan :=
  match overrideFile around store request with
  | .error error => .error error
  | .ok file =>
    match Credential.resolve request.credential (store.value? Names.credential) file with
    | .ok (credential, _) =>
      .ok (.ask credential (loader.optionsFor store request) store.snapshot)
    | .error error =>
      if error.isMissingCredential then planWithout error file else .error error

/-! ### Carrying it out -/

/-- What a fetch gives: the variables or an error, and the runs of the resolver. -/
structure Fetched where
  result : Except Error Variables
  calls : List Invocation

/-- A fetch that ends before anything is run. -/
def Fetched.failed (error : Error) : Fetched := ⟨.error error, []⟩

/-- Carries a plan out. -/
def carryOut (loader : Loader) (executor : Executor) (request : Request) :
    Except Error Plan → Fetched
  | .error error => .failed error
  | .ok (.fileOnly secrets) => ⟨.ok (secrets.permitted request.permitted), []⟩
  | .ok (.ask credential options snapshot) =>
    ⟨Resolver.fetch loader.binary executor credential options snapshot,
      [Resolver.call loader.binary credential options snapshot]⟩

/-- Fetches the variables for a request, when it is awaited. -/
def fetchAwaited (loader : Loader) (executor : Executor) (around : Surroundings) (store : Store)
    (request : Request) : Fetched :=
  loader.carryOut executor request (loader.plan around store request)

/-- Fetches the variables for a request, when the caller blocks. -/
def fetchBlocking (loader : Loader) (scene : Scene) (executor : Executor) (around : Surroundings)
    (store : Store) (request : Request) : Fetched :=
  scene.run .failed fun _ => loader.fetchAwaited executor around store request

/-- Fetches the variables for a request. -/
def fetch (loader : Loader) (calling : Calling) (executor : Executor) (around : Surroundings)
    (store : Store) (request : Request) : Fetched :=
  match calling with
  | .awaited => loader.fetchAwaited executor around store request
  | .blocks scene => loader.fetchBlocking scene executor around store request

/-- What a load gives: the variables it wrote or an error, the runs of the resolver, and the store
afterwards. -/
structure Loaded where
  result : Except Error Variables
  calls : List Invocation
  store : Store

/-- A load that ends before anything is run or written. -/
def Loaded.failed (store : Store) (error : Error) : Loaded := ⟨.error error, [], store⟩

/-- Loads the variables for a request into a store, when it is awaited. -/
def loadAwaited (loader : Loader) (executor : Executor) (around : Surroundings) (store : Store)
    (request : Request) (visiting : Visiting := .byName) : Loaded :=
  let fetched := loader.fetchAwaited executor around store request
  match fetched.result with
  | .error error => ⟨.error error, fetched.calls, store⟩
  | .ok secrets =>
    let merged := store.merge secrets visiting
    ⟨merged.result, fetched.calls, merged.store⟩

/-- Loads the variables for a request into a store, when the caller blocks. -/
def loadBlocking (loader : Loader) (scene : Scene) (executor : Executor) (around : Surroundings)
    (store : Store) (request : Request) (visiting : Visiting := .byName) : Loaded :=
  scene.run (.failed store) fun _ =>
    loader.loadAwaited executor around store request visiting

/-- Loads the variables for a request into a store. -/
def load (loader : Loader) (calling : Calling) (executor : Executor) (around : Surroundings)
    (store : Store) (request : Request) (visiting : Visiting := .byName) : Loaded :=
  match calling with
  | .awaited => loader.loadAwaited executor around store request visiting
  | .blocks scene => loader.loadBlocking scene executor around store request visiting

end Loader

end SecretEnv
