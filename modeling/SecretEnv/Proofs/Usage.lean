import SecretEnv.Proofs.Load

/-!
# Programs that use a store

**Whatever is done with a store, and whether or not it succeeds, the store keeps what it holds.** A
program fetches, loads, attempts to load automatically, resets the flag for that, merges and writes,
in any order and any number of times; files, resolver, request and the order of visiting may be
others each time. `keeps_perform` says it of one action, `variables_stay` of any two points of a
run.
-/

namespace SecretEnv

/-- What a program works on: a store, and the flag for automatic loading. -/
structure Usage where
  store : Store
  hasRun : Bool

/-- One thing that a program does with a store. -/
inductive Action where
  /-- It fetches for a request. -/
  | fetch (loader : Loader) (calling : Calling) (executor : Executor) (around : Surroundings)
      (request : Request)
  /-- It loads for a request. -/
  | load (loader : Loader) (calling : Calling) (executor : Executor) (around : Surroundings)
      (request : Request) (visiting : Visiting)
  /-- It attempts to load automatically, with the loader it gets if it asks for one. -/
  | autoload (loader : Except Error Loader) (calling : Calling) (executor : Executor)
      (around : Surroundings) (visiting : Visiting)
  /-- It takes the flag back. -/
  | reset
  /-- It merges variables. -/
  | merge (secrets : Variables) (visiting : Visiting)
  /-- It writes one variable if that is absent. -/
  | setIfAbsent (name value : String)

namespace Usage

/-- An action: whether it succeeds, and what it leaves. -/
def perform (usage : Usage) : Action → Except Error Unit × Usage
  | .fetch loader calling executor around request =>
    ((loader.fetch calling executor around usage.store request).result.map fun _ => (), usage)
  | .load loader calling executor around request visiting =>
    let loaded := loader.load calling executor around usage.store request visiting
    (loaded.result.map fun _ => (), { usage with store := loaded.store })
  | .autoload loader calling executor around visiting =>
    let attempt := Autoload.run usage.hasRun calling executor around usage.store loader visiting
    (attempt.result.map fun _ => (), ⟨attempt.store, attempt.hasRun⟩)
  | .reset => (.ok (), { usage with hasRun := false })
  | .merge secrets visiting =>
    let merged := usage.store.merge secrets visiting
    (merged.result.map fun _ => (), { usage with store := merged.store })
  | .setIfAbsent name value =>
    match usage.store.setIfAbsent name value with
    | .error error => (.error error, usage)
    | .ok (_, store) => (.ok (), { usage with store := store })

/-- What a sequence of actions leaves, whether or not each of them succeeds. -/
def performAll (usage : Usage) (actions : List Action) : Usage :=
  actions.foldl (fun usage action => (usage.perform action).2) usage

theorem performAll_append (usage : Usage) (earlier later : List Action) :
    usage.performAll (earlier ++ later) = (usage.performAll earlier).performAll later :=
  List.foldl_append

/-! ### No overwriting -/

theorem keeps_perform (usage : Usage) (action : Action) :
    Store.Keeps usage.store (usage.perform action).2.store := by
  cases action with
  | fetch loader calling executor around request => exact Store.Keeps.refl usage.store
  | load loader calling executor around request visiting =>
      exact Loader.keeps_load loader calling executor around usage.store request visiting
  | autoload loader calling executor around visiting =>
      exact Autoload.keeps_run usage.hasRun calling executor around usage.store loader visiting
  | reset => exact Store.Keeps.refl usage.store
  | merge secrets visiting => exact Store.keeps_merge usage.store secrets visiting
  | setIfAbsent name value =>
      -- a write that fails leaves the store as it is
      cases hset : usage.store.setIfAbsent name value with
      | error error =>
          simp only [perform, hset]
          exact Store.Keeps.refl usage.store
      | ok written =>
          simp only [perform, hset]
          exact Store.keeps_setIfAbsent hset

theorem keeps_performAll (usage : Usage) (actions : List Action) :
    Store.Keeps usage.store (usage.performAll actions).store := by
  induction actions generalizing usage with
  | nil => exact Store.Keeps.refl usage.store
  | cons action actions ih =>
      exact (keeps_perform usage action).trans (ih (usage.perform action).2)

/-- **No overwriting.** A variable that is there at some point of a run, whatever its value, is
there with the same value at every later point. -/
theorem variables_stay (usage : Usage) (earlier later : List Action) :
    Store.Keeps (usage.performAll earlier).store (usage.performAll (earlier ++ later)).store := by
  rw [performAll_append]
  exact keeps_performAll (usage.performAll earlier) later

end Usage

end SecretEnv
