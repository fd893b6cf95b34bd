import SecretEnv.Proofs.Load

/-!
# Blocking in place of awaiting

**A call that blocks gives what the awaited call gives, or nothing drives it**
(`Autoload.blocking_agrees`). A fetch or a load that is not driven does nothing: no file is read, no
resolver is run, nothing is written. An attempt at automatic loading comes to its obstacle late. It
has set its flag, looked at the switch and asked for its loader by then, and one that stops at any
of these ends as it would if it were awaited (`Autoload.runBlocking_eq`).
-/

namespace SecretEnv

namespace Loader

variable (loader : Loader) (scene : Scene) (executor : Executor) (around : Surroundings)
  (store : Store) (request : Request) (visiting : Visiting)

theorem fetchBlocking_eq :
    loader.fetchBlocking scene executor around store request =
      match scene.obstacle? with
      | some error => .failed error
      | none => loader.fetchAwaited executor around store request :=
  scene.run_eq _ _

theorem loadBlocking_eq :
    loader.loadBlocking scene executor around store request visiting =
      match scene.obstacle? with
      | some error => .failed store error
      | none => loader.loadAwaited executor around store request visiting :=
  scene.run_eq _ _

end Loader

namespace Autoload

variable {hasRun : Bool} {executor : Executor} {around : Surroundings} {store : Store}
  {loader : Except Error Loader} {visiting : Visiting}

/-- An attempt that blocks ends as the awaited one, unless there is an obstacle and it comes to a
load. -/
theorem runBlocking_eq (scene : Scene) :
    runBlocking hasRun scene executor around store loader visiting =
      match scene.obstacle?, loader? hasRun store loader with
      | some error, some _ => ⟨.error error, true, [], store, true⟩
      | _, _ => runAwaited hasRun executor around store loader visiting := by
  cases hloader : loader? hasRun store loader with
  | none =>
      obtain ⟨result, asked, hrun⟩ := exists_run_of_none hloader
      have hblocking : runBlocking hasRun scene executor around store loader visiting = _ :=
        hrun (.blocks scene) executor around visiting
      have hawaited : runAwaited hasRun executor around store loader visiting = _ :=
        hrun .awaited executor around visiting
      rw [hblocking, hawaited]
      cases scene.obstacle? <;> rfl
  | some chosen =>
      have hrun (calling : Calling) : run hasRun calling executor around store loader visiting =
          loadWith chosen calling executor around store visiting := run_of_some hloader
      have hblocking : runBlocking hasRun scene executor around store loader visiting = _ :=
        hrun (.blocks scene)
      have hawaited : runAwaited hasRun executor around store loader visiting = _ := hrun .awaited
      rw [hblocking, hawaited, loadWith, Loader.load, Loader.loadBlocking_eq]
      cases scene.obstacle? <;> rfl

/-- Whatever becomes of an attempt, the flag is set. -/
theorem hasRun_run (calling : Calling) :
    (run hasRun calling executor around store loader visiting).hasRun = true := by
  cases hloader : loader? hasRun store loader with
  | none =>
      obtain ⟨result, asked, hrun⟩ := exists_run_of_none hloader
      rw [hrun]
  | some chosen =>
      rw [run_of_some hloader]
      rfl

/-- An attempt that stops has no loader. -/
theorem loader?_of_stops {result : Except Error Outcome} (h : Stops hasRun store loader result) :
    loader? hasRun store loader = none := by
  cases h with
  | alreadyRan h => simp [loader?, h]
  | disabled first h => simp [loader?, h]
  | noLoader first enabled h => simp [loader?, first, enabled, h, Except.toOption]

/-- An attempt that does not stop has a loader. -/
theorem exists_loader_of_not_stops (h : ∀ result, ¬ Stops hasRun store loader result) :
    ∃ chosen, loader? hasRun store loader = some chosen := by
  cases hloader : loader? hasRun store loader with
  | none =>
      obtain ⟨result, hstops⟩ := exists_stops_of_none hloader
      exact absurd hstops (h result)
  | some chosen => exact ⟨chosen, rfl⟩

/-- **Blocking agrees with awaiting.** Where nothing is awaited and a runtime can be made, a fetch,
a load and an attempt at automatic loading that block give all that the awaited ones give. Where no
runtime can be made, and inside something that is awaited, a fetch and a load end with the error of
just that, with no run and no write, and whatever files there are. An attempt that stops, for the
flag, the switch or want of a loader, ends everywhere as the awaited one does; every other attempt
ends there with that error, with no run and no write. The flag is set after each of them. -/
theorem blocking_agrees (executor : Executor) (around : Surroundings) (store : Store)
    (visiting : Visiting) :
    (∀ (loader : Loader) (request : Request),
      let fetched (scene : Scene) := loader.fetchBlocking scene executor around store request
      let loaded (scene : Scene) :=
        loader.loadBlocking scene executor around store request visiting
      fetched (.outside none) = loader.fetchAwaited executor around store request ∧
      loaded (.outside none) = loader.loadAwaited executor around store request visiting ∧
      (∀ reason, fetched (.outside (some reason)) = ⟨.error (Calling.noRuntime reason), []⟩ ∧
        loaded (.outside (some reason)) = ⟨.error (Calling.noRuntime reason), [], store⟩) ∧
      fetched .inside = ⟨.error Calling.refused, []⟩ ∧
      loaded .inside = ⟨.error Calling.refused, [], store⟩) ∧
    ∀ (hasRun : Bool) (loader : Except Error Loader),
      let awaited := runAwaited hasRun executor around store loader visiting
      let blocking (scene : Scene) :=
        runBlocking hasRun scene executor around store loader visiting
      blocking (.outside none) = awaited ∧
      (∀ result, Stops hasRun store loader result →
        awaited.result = result ∧ awaited.calls = [] ∧ awaited.store = store ∧
          ∀ scene, blocking scene = awaited) ∧
      ((∀ result, ¬ Stops hasRun store loader result) →
        awaited.loaderAsked = true ∧
          (∀ reason, blocking (.outside (some reason)) =
            ⟨.error (Calling.noRuntime reason), true, [], store, true⟩) ∧
          blocking .inside = ⟨.error Calling.refused, true, [], store, true⟩) ∧
      awaited.hasRun = true ∧ ∀ scene, (blocking scene).hasRun = true := by
  constructor
  · intro loader request fetched loaded
    have hfetched (scene : Scene) := loader.fetchBlocking_eq scene executor around store request
    have hloaded (scene : Scene) :=
      loader.loadBlocking_eq scene executor around store request visiting
    exact ⟨hfetched _, hloaded _, fun reason => ⟨hfetched _, hloaded _⟩, hfetched _, hloaded _⟩
  intro hasRun loader awaited blocking
  refine ⟨runBlocking_eq (.outside none), ?_, ?_, hasRun_run .awaited,
    fun scene => hasRun_run (.blocks scene)⟩
  · intro result hstops
    obtain ⟨asked, hrun⟩ := run_of_stops hstops
    have hawaited : awaited = ⟨result, asked, [], store, true⟩ :=
      hrun .awaited executor around visiting
    refine ⟨by rw [hawaited], by rw [hawaited], by rw [hawaited], fun scene => ?_⟩
    simp only [blocking, runBlocking_eq, loader?_of_stops hstops]
    cases scene.obstacle? <;> rfl
  · intro hgoesOn
    obtain ⟨chosen, hchosen⟩ := exists_loader_of_not_stops hgoesOn
    have hrun : run hasRun .awaited executor around store loader visiting = _ :=
      run_of_some hchosen
    have hasked : awaited.loaderAsked = true := congrArg Attempt.loaderAsked hrun
    have hblocking (scene : Scene) (error : Error) (hobstacle : scene.obstacle? = some error) :
        blocking scene = ⟨.error error, true, [], store, true⟩ := by
      simp only [blocking, runBlocking_eq, hobstacle, hchosen]
    exact ⟨hasked, fun reason => hblocking _ _ rfl, hblocking _ _ rfl⟩

/-- An attempt with the flag not set and loading not switched off ends with the error of its loader
wherever it blocks, if it gets none. If it gets one, it loads where a runtime can be made, and not
where none can or inside something that is awaited, while a fetch fails there too. -/
theorem blocking_agrees_without_and_with_loader :
    let missing : Except Error Loader := .error (.configuration "m")
    let loader : Loader := ⟨⟨"2.4.1", .besideProgram, "a", "b", false, none⟩, "/r"⟩
    let executor : Executor := fun _ => .ok ⟨.exited 0, Utf8.encode "\x7b\"B\":\"2\"\x7d", []⟩
    let around : Surroundings := ⟨⟨∅, []⟩, ∅⟩
    let store : Store := .process (((∅ : Environment).assign "ENVKEY" "k").insert
      (Utf8.encode Names.disableAutoload) [])
    let given (scene : Scene) := runBlocking false scene executor around store (.ok loader)
    let noThreads := Calling.noRuntime "no threads"
    (∀ scene, (runBlocking false scene executor around store missing).result =
      .error (.configuration "m")) ∧
    (given (.outside none)).calls.length = 1 ∧ (given (.outside none)).store.has "B" = true ∧
    given (.outside (some "no threads")) = ⟨.error noThreads, true, [], store, true⟩ ∧
    given .inside = ⟨.error Calling.refused, true, [], store, true⟩ ∧
    loader.fetchBlocking (.outside (some "no threads")) executor around store {} =
      ⟨.error noThreads, []⟩ := by
  intro missing loader executor around store given noThreads
  have henabled : isDisabled store = false := by decide +kernel
  obtain ⟨hcalls, hruns⟩ := blocking_agrees executor around store .byName
  obtain ⟨-, hstopped, -⟩ := hruns false missing
  obtain ⟨hresult, -, -, hsame⟩ := hstopped _ (.noLoader rfl henabled rfl)
  obtain ⟨hawaited, -, hgoesOn, -⟩ := hruns false (.ok loader)
  have hnotStopped : ∀ result, ¬ Stops false store (.ok loader) result := by
    intro result hstops
    cases hstops with
    | alreadyRan h => cases h
    | disabled first h => cases henabled.symm.trans h
    | noLoader first enabled h => cases h
  obtain ⟨-, hnoRuntime, hinside⟩ := hgoesOn hnotStopped
  obtain ⟨-, -, hfetches, -⟩ := hcalls loader {}
  have hloads : (given (.outside none)).calls.length = 1 ∧
      (given (.outside none)).store.has "B" = true := by
    rw [show given (.outside none) = _ from hawaited]
    decide +kernel
  exact ⟨fun scene => (congrArg Attempt.result (hsame scene)).trans hresult, hloads.1, hloads.2,
    hnoRuntime "no threads", hinside, (hfetches "no threads").1⟩

end Autoload

end SecretEnv
