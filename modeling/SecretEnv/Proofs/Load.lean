import SecretEnv.Autoload
import SecretEnv.Proofs.Merge

/-!
# Loads and attempts at loading, by what they merge

**A load is a fetch and a merge of what it gave** (`Loader.load_eq`), however it is waited for: the
store changes in the merge and nowhere else. An attempt at automatic loading is a load with a
request of its own, or it stops before it has touched anything (`Autoload.loader?`). What the ways
of waiting have in common is said once: a call goes ahead as the awaited one, or there is an
obstacle and nothing is done (`Loader.fetch_eq`).
-/

namespace SecretEnv

namespace Loader

section

variable {loader : Loader} {calling : Calling} {around : Surroundings} {store : Store}
  {request : Request}

/-- A fetch goes ahead as the awaited one, or is not begun. -/
theorem fetch_eq (executor : Executor) :
    loader.fetch calling executor around store request =
      match calling.obstacle? with
      | some error => .failed error
      | none => loader.fetchAwaited executor around store request := by
  cases calling with
  | awaited => rfl
  | blocks scene => exact scene.run_eq _ _

theorem fetch_eq_fetchAwaited (h : calling.obstacle? = none) (executor : Executor) :
    loader.fetch calling executor around store request =
      loader.fetchAwaited executor around store request := by
  rw [fetch_eq, h]

theorem fetch_of_obstacle {error : Error} (h : calling.obstacle? = some error)
    (executor : Executor) :
    loader.fetch calling executor around store request = .failed error := by
  rw [fetch_eq, h]

/-- A fetch that gives variables has gone ahead. -/
theorem obstacle?_of_fetch {executor : Executor} {secrets : Variables}
    (h : (loader.fetch calling executor around store request).result = .ok secrets) :
    calling.obstacle? = none := by
  cases hobstacle : calling.obstacle? with
  | none => rfl
  | some error =>
      rw [fetch_of_obstacle hobstacle] at h
      cases h

end

theorem load_eq (loader : Loader) (calling : Calling) (executor : Executor)
    (around : Surroundings) (store : Store) (request : Request) (visiting : Visiting) :
    loader.load calling executor around store request visiting =
      match (loader.fetch calling executor around store request).result with
      | .error error =>
        ⟨.error error, (loader.fetch calling executor around store request).calls, store⟩
      | .ok secrets =>
        ⟨(store.merge secrets visiting).result,
          (loader.fetch calling executor around store request).calls,
          (store.merge secrets visiting).store⟩ := by
  cases calling with
  | awaited => rfl
  | blocks scene =>
      rw [load, loadBlocking, Scene.run_eq, fetch, fetchBlocking, Scene.run_eq]
      cases scene.obstacle? <;> rfl

/-- A load fails with its fetch and leaves the store alone, or it ends as its merge does. -/
theorem load_cases (loader : Loader) (calling : Calling) (executor : Executor)
    (around : Surroundings) (store : Store) (request : Request) (visiting : Visiting) :
    (∃ error, (loader.fetch calling executor around store request).result = .error error ∧
      (loader.load calling executor around store request visiting).result = .error error ∧
      (loader.load calling executor around store request visiting).store = store) ∨
    ∃ secrets, (loader.fetch calling executor around store request).result = .ok secrets ∧
      (loader.load calling executor around store request visiting).result =
        (store.merge secrets visiting).result ∧
      (loader.load calling executor around store request visiting).store =
        (store.merge secrets visiting).store := by
  rw [load_eq]
  cases hfetch : (loader.fetch calling executor around store request).result with
  | error error => exact .inl ⟨error, rfl, rfl, rfl⟩
  | ok secrets => exact .inr ⟨secrets, rfl, rfl, rfl⟩

/-- A store keeps its variables in a load, whether it succeeds or fails. -/
theorem keeps_load (loader : Loader) (calling : Calling) (executor : Executor)
    (around : Surroundings) (store : Store) (request : Request) (visiting : Visiting) :
    Store.Keeps store (loader.load calling executor around store request visiting).store := by
  rcases load_cases loader calling executor around store request visiting with
    ⟨error, -, -, hstore⟩ | ⟨secrets, -, -, hstore⟩
  · rw [hstore]
    exact Store.Keeps.refl store
  · rw [hstore]
    exact Store.keeps_merge store secrets visiting

end Loader

namespace Autoload

/-- The loader that an attempt loads with, if it comes to that. -/
def loader? (hasRun : Bool) (store : Store) (loader : Except Error Loader) : Option Loader :=
  if hasRun || isDisabled store then none else loader.toOption

/-- What an attempt does once it has a loader. -/
def loadWith (loader : Loader) (calling : Calling) (executor : Executor) (around : Surroundings)
    (store : Store) (visiting : Visiting := .byName) : Attempt :=
  let loaded := loader.load calling executor around store (requestFor store) visiting
  ⟨loaded.result.map .loaded, true, loaded.calls, loaded.store, true⟩

/-- An attempt comes to an end before it loads anything, with this result. -/
inductive Stops (hasRun : Bool) (store : Store) (loader : Except Error Loader) :
    Except Error Outcome → Prop where
  | alreadyRan (h : hasRun = true) : Stops hasRun store loader (.ok .alreadyRan)
  | disabled (first : hasRun = false) (h : isDisabled store = true) :
      Stops hasRun store loader (.ok .disabled)
  | noLoader {error : Error} (first : hasRun = false) (enabled : isDisabled store = false)
      (h : loader = .error error) : Stops hasRun store loader (.error error)

section

variable {hasRun : Bool} {calling : Calling} {executor : Executor} {around : Surroundings}
  {store : Store} {loader : Except Error Loader} {visiting : Visiting}

/-- The flag, the switch and the loader are looked at in the same order, however the attempt is
waited for. -/
theorem run_eq : run hasRun calling executor around store loader visiting =
    if hasRun then ⟨.ok .alreadyRan, false, [], store, true⟩
    else if isDisabled store then ⟨.ok .disabled, false, [], store, true⟩
    else
      match loader with
      | .error error => ⟨.error error, true, [], store, true⟩
      | .ok loader => loadWith loader calling executor around store visiting := by
  cases calling with
  | awaited =>
      rw [run, runAwaited, enter]
      cases hasRun <;> cases isDisabled store <;> cases loader <;> rfl
  | blocks scene =>
      rw [run, runBlocking, enter]
      cases hasRun <;> cases isDisabled store <;> cases loader <;> rfl

theorem exists_stops_of_none (h : loader? hasRun store loader = none) :
    ∃ result, Stops hasRun store loader result := by
  cases hasRun with
  | true => exact ⟨_, .alreadyRan rfl⟩
  | false =>
      cases hdisabled : isDisabled store with
      | true => exact ⟨_, .disabled rfl hdisabled⟩
      | false =>
          cases loader with
          | error error => exact ⟨_, .noLoader rfl hdisabled rfl⟩
          | ok loader => simp [loader?, hdisabled, Except.toOption] at h

/-- An attempt that stops has done nothing but set the flag. -/
theorem run_of_stops {result : Except Error Outcome} (h : Stops hasRun store loader result) :
    ∃ asked, ∀ calling executor around visiting,
      run hasRun calling executor around store loader visiting =
        ⟨result, asked, [], store, true⟩ := by
  cases h with
  | alreadyRan h => exact ⟨false, fun _ _ _ _ => by simp [run_eq, h]⟩
  | disabled first h => exact ⟨false, fun _ _ _ _ => by simp [run_eq, first, h]⟩
  | noLoader first enabled h => exact ⟨true, fun _ _ _ _ => by simp [run_eq, first, enabled, h]⟩

/-- An attempt without a loader has done nothing but set the flag, the same however it is waited
for. -/
theorem exists_run_of_none (h : loader? hasRun store loader = none) :
    ∃ result asked, ∀ calling executor around visiting,
      run hasRun calling executor around store loader visiting =
        ⟨result, asked, [], store, true⟩ := by
  obtain ⟨result, hstops⟩ := exists_stops_of_none h
  exact ⟨result, run_of_stops hstops⟩

/-- An attempt without a loader leaves the store alone. -/
theorem store_run_of_none (h : loader? hasRun store loader = none) :
    (run hasRun calling executor around store loader visiting).store = store := by
  obtain ⟨result, asked, hrun⟩ := exists_run_of_none h
  rw [hrun]

/-- An attempt without a loader runs nothing. -/
theorem calls_run_of_none (h : loader? hasRun store loader = none) :
    (run hasRun calling executor around store loader visiting).calls = [] := by
  obtain ⟨result, asked, hrun⟩ := exists_run_of_none h
  rw [hrun]

/-- An attempt with a loader is what it does with that. -/
theorem run_of_some {chosen : Loader} (h : loader? hasRun store loader = some chosen) :
    run hasRun calling executor around store loader visiting =
      loadWith chosen calling executor around store visiting := by
  unfold loader? at h
  split at h
  · cases h
  · rename_i hopen
    simp only [Bool.or_eq_true, not_or] at hopen
    cases loader with
    | error error => cases h
    | ok loader =>
        cases h
        rw [run_eq, if_neg hopen.1, if_neg hopen.2]

end

theorem keeps_run (hasRun : Bool) (calling : Calling) (executor : Executor)
    (around : Surroundings) (store : Store) (loader : Except Error Loader) (visiting : Visiting) :
    Store.Keeps store (run hasRun calling executor around store loader visiting).store := by
  cases hloader : loader? hasRun store loader with
  | none =>
      rw [store_run_of_none hloader]
      exact Store.Keeps.refl store
  | some chosen =>
      rw [run_of_some hloader]
      exact Loader.keeps_load chosen calling executor around store (requestFor store) visiting

end Autoload

end SecretEnv
