import SecretEnv.Loader

/-!
# Loading once at the start

**The first attempt sets a flag before it does anything else, and every later one finds it set.**
The flag stays set whatever becomes of the attempt, until it is reset. An attempt that gets through
looks at the two switches in its store, asks for a loader, fetches and merges.
-/

namespace SecretEnv.Autoload

/-- What became of an attempt. -/
inductive Outcome where
  /-- It loaded, and wrote these variables. -/
  | loaded (vars : Variables)
  /-- Loading is switched off. -/
  | disabled
  /-- An earlier attempt went through. -/
  | alreadyRan

/-- The variables an attempt wrote. -/
def Outcome.written : Outcome → Variables
  | .loaded vars => vars
  | .disabled => ∅
  | .alreadyRan => ∅

/-- The outcome's name. -/
def Outcome.name : Outcome → String
  | .loaded _ => "Loaded"
  | .disabled => "Disabled"
  | .alreadyRan => "AlreadyRan"

/-- What an attempt gives: its outcome or an error, whether it asked for a loader, the runs of the
resolver, the store, and the flag. -/
structure Attempt where
  result : Except Error Outcome
  loaderAsked : Bool
  calls : List Invocation
  store : Store
  hasRun : Bool

/-- Whether loading is switched off in a store: the switch is there and is a text that is not
empty. -/
def isDisabled (store : Store) : Bool :=
  match store.value? Names.disableAutoload with
  | some value => !value.isEmpty
  | none => false

/-- What an attempt asks for: the cache as the store says, and nothing else. -/
def requestFor (store : Store) : Request := { cache := some (store.has Names.shouldCache) }

/-- Looks at the flag and sets it, in one: whether it was not set before, and the flag now. -/
def checkAndSet (hasRun : Bool) : Bool × Bool := if hasRun then (false, hasRun) else (true, true)

/-- How an attempt begins: with what it asks for, or with its outcome if nothing is to be fetched.
The flag is set before the store is looked at. -/
def enter (hasRun : Bool) (store : Store) : Except Outcome Request × Bool :=
  let (first, hasRun) := checkAndSet hasRun
  if !first then (.error .alreadyRan, hasRun)
  else if isDisabled store then (.error .disabled, hasRun)
  else (.ok (requestFor store), hasRun)

/-- An attempt that is awaited, with the flag as it finds it and the loader it gets if it asks. -/
def runAwaited (hasRun : Bool) (executor : Executor) (around : Surroundings) (store : Store)
    (loader : Except Error Loader) (visiting : Visiting := .byName) : Attempt :=
  match enter hasRun store with
  | (.error outcome, hasRun) => ⟨.ok outcome, false, [], store, hasRun⟩
  | (.ok request, hasRun) =>
    match loader with
    | .error error => ⟨.error error, true, [], store, hasRun⟩
    | .ok loader =>
      let loaded := loader.loadAwaited executor around store request visiting
      ⟨loaded.result.map .loaded, true, loaded.calls, loaded.store, hasRun⟩

/-- An attempt that blocks, with the flag as it finds it and the loader it gets if it asks. Only the
load needs a runtime: all that comes before is done without. -/
def runBlocking (hasRun : Bool) (scene : Scene) (executor : Executor) (around : Surroundings)
    (store : Store) (loader : Except Error Loader) (visiting : Visiting := .byName) : Attempt :=
  match enter hasRun store with
  | (.error outcome, hasRun) => ⟨.ok outcome, false, [], store, hasRun⟩
  | (.ok request, hasRun) =>
    match loader with
    | .error error => ⟨.error error, true, [], store, hasRun⟩
    | .ok loader =>
      let loaded := loader.loadBlocking scene executor around store request visiting
      ⟨loaded.result.map .loaded, true, loaded.calls, loaded.store, hasRun⟩

/-- An attempt, with the flag as it finds it and the loader it gets if it asks. -/
def run (hasRun : Bool) (calling : Calling) (executor : Executor) (around : Surroundings)
    (store : Store) (loader : Except Error Loader) (visiting : Visiting := .byName) : Attempt :=
  match calling with
  | .awaited => runAwaited hasRun executor around store loader visiting
  | .blocks scene => runBlocking hasRun scene executor around store loader visiting

end SecretEnv.Autoload
