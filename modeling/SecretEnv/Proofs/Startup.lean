import SecretEnv.Program
import SecretEnv.Proofs.Load

/-!
# Automatic loading at the start of a program

**A first automatic load that is not switched off is a load** (`autoload_eq_load`): the same result,
the same runs of the resolver, the same environment afterwards. The one thing that the two decide in
different places is the cache. An attempt asks the environment itself for its variable; a load asks
the settings, which saw only what is text, and then the environment too, so that a value that is no
text lets the resolver use its cache either way.
-/

namespace SecretEnv

/-! ### The cache -/

theorem Choices.cacheByDefault_of_settle {choices : Choices} {settings : Settings}
    (h : choices.settle = .ok settings) : settings.cacheByDefault = choices.cacheByDefault := by
  unfold settle at h
  dsimp only at h
  split at h
  · cases h
  · cases h
    rfl

theorem Settings.cacheByDefault_of_ofVariables {vars : Variables} {settings : Settings}
    (h : ofVariables vars = .ok settings) :
    settings.cacheByDefault = vars.contains Names.shouldCache := by
  unfold ofVariables at h
  cases htimeout : timeoutOf vars with
  | error error =>
      rw [htimeout] at h
      cases h
  | ok timeout =>
      rw [htimeout] at h
      exact Choices.cacheByDefault_of_settle h

/-- A variable that is there as text is there. -/
theorem Environment.has_of_contains_vars {env : Environment} {name : String}
    (hvalid : validName name = true) (h : env.vars.contains name = true) : env.has name = true := by
  rw [← Std.ExtTreeMap.isSome_getElem?_eq_contains] at h
  obtain ⟨value, hvalue⟩ := Option.isSome_iff_exists.mp h
  rw [has_of_validName env hvalid, ← Std.ExtTreeMap.isSome_getElem?_eq_contains,
    getElem?_vars_eq_some_iff.mp hvalue, Option.isSome_some]

namespace Loader

theorem settings_of_ofEnvironment {env : Environment} {programDir : String} {loader : Loader}
    (h : ofEnvironment env programDir = .ok loader) :
    Settings.ofEnvironment env = .ok loader.settings := by
  unfold ofEnvironment at h
  cases hsettings : Settings.ofEnvironment env with
  | error error =>
      rw [hsettings] at h
      cases h
  | ok settings =>
      simp only [hsettings, bind, Except.bind, ofSettings] at h
      cases hpath : settings.resolverPath programDir with
      | error error =>
          rw [hpath] at h
          cases h
      | ok binary =>
          rw [hpath] at h
          cases h
          rfl

/-- With the settings of the environment, the cache is used if its variable is there, whatever its
value. -/
theorem cacheFor_of_ofEnvironment {env : Environment} {programDir : String} {loader : Loader}
    (h : ofEnvironment env programDir = .ok loader) :
    loader.cacheFor (.process env) {} = env.has Names.shouldCache := by
  have hdefault := Settings.cacheByDefault_of_ofVariables (settings_of_ofEnvironment h)
  rw [cacheFor, hdefault, Store.has]
  cases htext : env.vars.contains Names.shouldCache with
  | false => rfl
  | true => rw [Environment.has_of_contains_vars (by decide) htext, Bool.true_or]

/-- It makes no difference to say beforehand what would be decided about the cache. -/
theorem fetch_of_cacheFor (loader : Loader) (calling : Calling) (executor : Executor)
    (around : Surroundings) (store : Store) (request : Request) :
    loader.fetch calling executor around store
        { request with cache := some (loader.cacheFor store request) } =
      loader.fetch calling executor around store request := by
  rw [fetch_eq, fetch_eq]
  rfl

/-- An attempt's request is loaded as a plain one. -/
theorem load_requestFor {env : Environment} {programDir : String} {loader : Loader}
    (h : ofEnvironment env programDir = .ok loader) (calling : Calling) (executor : Executor)
    (around : Surroundings) (visiting : Visiting) :
    loader.load calling executor around (.process env) (Autoload.requestFor (.process env))
        visiting =
      loader.load calling executor around (.process env) {} visiting := by
  have hfetch : loader.fetch calling executor around (.process env)
      (Autoload.requestFor (.process env)) =
        loader.fetch calling executor around (.process env) {} := by
    rw [← fetch_of_cacheFor loader calling executor around (.process env) {},
      cacheFor_of_ofEnvironment h]
    rfl
  rw [load_eq, load_eq, hfetch]

end Loader

/-! ### The switch -/

/-- A switch that is absent or empty does not switch anything off. -/
theorem Autoload.isDisabled_process {env : Environment}
    (h : ∀ value, env[Utf8.encode Names.disableAutoload]? = some value → value = []) :
    isDisabled (.process env) = false := by
  rw [isDisabled, Store.value?, Environment.value?_of_validName env (by decide)]
  cases hvalue : env[Utf8.encode Names.disableAutoload]? with
  | none => rfl
  | some value =>
      rw [h value hvalue]
      rfl

/-! ### The whole attempt -/

namespace Program

variable {running : Program}

/-- A first attempt that is not switched off does what a load does. -/
theorem attempt_eq (hfresh : running.hasAutoloaded = false)
    (hswitch : Autoload.isDisabled running.store = false) (calling : Calling) (executor : Executor)
    (visiting : Visiting) :
    let attempt := running.attempt calling executor visiting
    let loaded := running.loadedFor calling executor {} visiting
    attempt.result = loaded.result.map .loaded ∧ attempt.calls = loaded.calls ∧
      attempt.store = loaded.store ∧ attempt.hasRun = true := by
  intro attempt loaded
  simp only [attempt, loaded, Program.attempt, loadedFor, Autoload.run_eq, hfresh, hswitch]
  cases hloader : running.loader with
  | error error => exact ⟨rfl, rfl, rfl, rfl⟩
  | ok loader =>
      have hload := Loader.load_requestFor hloader calling executor running.surroundings visiting
      simp only [Autoload.loadWith, store, hload]
      exact ⟨rfl, rfl, rfl, rfl⟩

/-- **A first automatic load is a load.** Where automatic loading has not been attempted and its
switch is absent or empty, an attempt that is waited for in any way gives what a plain load that is
waited for in that way gives, variables and errors alike; it makes the same runs of the resolver;
and it leaves the same program behind, environment and all, but for the flag that it has been
attempted. -/
theorem autoload_eq_load (running : Program) (hfresh : running.hasAutoloaded = false)
    (hswitch : ∀ value, running.env[Utf8.encode Names.disableAutoload]? = some value → value = [])
    (calling : Calling) (executor : Executor) (visiting : Visiting) :
    let autoloaded := running.autoload calling executor visiting
    let loaded := running.loadFor calling executor {} visiting
    autoloaded.1 = loaded.1.map .loaded ∧
      (running.attempt calling executor visiting).calls =
        (running.loadedFor calling executor {} visiting).calls ∧
      autoloaded.2 = { loaded.2 with hasAutoloaded := true } ∧
      (∀ scene, calling = .blocks scene →
        loaded = running.load executor none none visiting scene) := by
  obtain ⟨hresult, hcalls, hstore, hflag⟩ :=
    attempt_eq hfresh (Autoload.isDisabled_process hswitch) calling executor visiting
  refine ⟨hresult, hcalls, ?_, ?_⟩
  · simp only [autoload, loadFor, hstore, hflag]
  · rintro scene rfl
    rfl

/-- It says of a program whose cache variable is no text and whose switch is empty that it loads
with the cache. -/
theorem autoload_with_cache_beside_no_text :
    let env := (((∅ : Environment).assign "ENVKEY" "k").assign "ENVKEY_DISABLE_AUTOLOAD" "").insert
      (Utf8.encode "ENVKEY_SHOULD_CACHE") [0xFF]
    let running : Program := ⟨⟨∅, []⟩, env, "/p", false⟩
    let executor : Executor := fun _ => .ok ⟨.exited 0, Utf8.encode "\x7b\"A\":\"1\"\x7d", []⟩
    let autoloaded := running.autoload .blocking executor
    autoloaded.1 = (running.load executor none none).1.map .loaded ∧
      autoloaded.2 = { (running.load executor none none).2 with hasAutoloaded := true } ∧
      autoloaded.1.toOption.map (·.written.toList) = some [("A", "1")] ∧
      (running.loadedFor .blocking executor {}).calls.map (·.args.contains "--cache") = [true] := by
  intro env running executor autoloaded
  have hswitch : ∀ value, running.env[Utf8.encode Names.disableAutoload]? = some value →
      value = [] := by
    have hempty : running.env[Utf8.encode Names.disableAutoload]? = some [] := by decide +kernel
    intro value hvalue
    rw [hempty] at hvalue
    exact (Option.some.inj hvalue).symm
  obtain ⟨hresult, -, hprogram, -⟩ :=
    autoload_eq_load running rfl hswitch .blocking executor .byName
  refine ⟨hresult, hprogram, ?_, ?_⟩
  · decide +kernel
  · decide +kernel

end Program

end SecretEnv
