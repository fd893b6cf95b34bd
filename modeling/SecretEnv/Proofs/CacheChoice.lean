import SecretEnv.Proofs.Invocation
import SecretEnv.Proofs.Store

/-!
# Who decides about the cache

**Whether the resolver may use its cache is decided by the request, and otherwise by the settings or
the store** (`Loader.cache_told_in_every_run`). The command line shows it: the flag has a place of
its own there, so that a run was told one thing or the other (`Invocation.toldCache_iff`). An
attempt at automatic loading takes no request, but makes one that always decides, by the store
alone. What the settings say for calls that leave it open is thus lost on automatic loading.
-/

namespace SecretEnv

namespace Resolver

theorem toList_toArguments (options : Options) :
    options.toArguments.toList =
      [Flag.json, Flag.clientName, options.clientName, Flag.clientVersion, options.clientVersion] ++
        ((if options.cache then [Flag.cache] else []) ++
          ((if options.memCache then [Flag.memCache] else []) ++
            (options.overrideFile.map fun path => [Flag.dotenvFile, path]).getD [])) := by
  rw [Options.toArguments]
  cases options.overrideFile with
  | none => simp
  | some path => simp

/-- Behind the five fixed arguments stands the flag for the cache, if it is on. -/
theorem getElem?_toArguments_eq_cache_iff (options : Options) :
    options.toArguments.toList[5]? = some Flag.cache ↔ options.cache = true := by
  have hmemCache : Flag.memCache ≠ Flag.cache := by decide
  have hdotenvFile : Flag.dotenvFile ≠ Flag.cache := by decide
  rw [toList_toArguments]
  cases options.cache with
  | true => simp
  | false =>
      -- whatever is there in its place is another flag
      cases options.memCache with
      | true => simp [hmemCache]
      | false =>
          cases options.overrideFile with
          | none => simp
          | some path => simp [hdotenvFile]

end Resolver

namespace Invocation

/-- A run of the resolver is made with options that switch the cache on or off. -/
def ToldCache (call : Invocation) (cache : Bool) : Prop :=
  ∃ options : Resolver.Options, call.args = options.toArguments.toList ∧ options.cache = cache

/-- No run is told both. -/
theorem toldCache_iff {call : Invocation} {options : Resolver.Options}
    (h : call.args = options.toArguments.toList) {cache : Bool} :
    call.ToldCache cache ↔ cache = options.cache := by
  constructor
  · intro htold
    obtain ⟨other, hother, rfl⟩ := htold
    rw [Bool.eq_iff_iff, ← Resolver.getElem?_toArguments_eq_cache_iff, ← hother, h,
      Resolver.getElem?_toArguments_eq_cache_iff]
  · intro hcache
    exact ⟨options, h, hcache.symm⟩

end Invocation

namespace Loader

variable {loader : Loader} {calling : Calling} {executor : Executor} {around : Surroundings}
  {store : Store} {request : Request}

/-- Every run of a fetch is told what the request decides, or else the settings and the store. -/
theorem toldCache_of_mem_calls_fetch {call : Invocation}
    (h : call ∈ (loader.fetch calling executor around store request).calls) {cache : Bool} :
    call.ToldCache cache ↔ cache = request.cache.getD
      (loader.settings.cacheByDefault || store.has Names.shouldCache) := by
  rcases fetch_cases loader calling around store request with
    ⟨-, credential, -, hfetch⟩ | ⟨-, result, hfetch⟩
  · rw [hfetch, ranWith] at h
    obtain rfl := List.mem_singleton.mp h
    exact Invocation.toldCache_iff (runsWith_invocation loader store request credential).args
  · rw [hfetch] at h
    cases h

end Loader

namespace Autoload

variable {hasRun : Bool} {calling : Calling} {executor : Executor} {around : Surroundings}
  {store : Store} {loader : Except Error Loader} {visiting : Visiting}

/-- Every run of an attempt is told what the store says. -/
theorem toldCache_of_mem_calls_run {call : Invocation}
    (h : call ∈ (run hasRun calling executor around store loader visiting).calls) {cache : Bool} :
    call.ToldCache cache ↔ cache = store.has Names.shouldCache := by
  cases hloader : loader? hasRun store loader with
  | none =>
      rw [calls_run_of_none hloader] at h
      cases h
  | some chosen =>
      rw [run_of_some hloader, loadWith, Loader.calls_load] at h
      exact Loader.toldCache_of_mem_calls_fetch h

end Autoload

/-- **Who decides about the cache.** In every run of the resolver for a fetch or a load the cache is
on or off as the request has it; where the request leaves it open, it is on exactly if the settings
have it on or the store holds the variable for it, with whatever value. In every run for automatic
loading it is on exactly if the store holds the variable. That is what the settings and the store
come to together exactly if there is no run, or if the settings do not have the cache on without the
variable. -/
theorem Loader.cache_told_in_every_run (loader : Loader) (calling : Calling)
    (executor : Executor) (around : Surroundings) (store : Store) (request : Request)
    (visiting : Visiting) (hasRun : Bool) :
    let inStore := store.contents.contains (Utf8.encode Names.shouldCache)
    let fetched := loader.fetch calling executor around store request
    let attempt := Autoload.run hasRun calling executor around store (.ok loader) visiting
    (loader.load calling executor around store request visiting).calls = fetched.calls ∧
    (∀ call ∈ fetched.calls, ∀ cache, call.ToldCache cache ↔
      cache = request.cache.getD (loader.settings.cacheByDefault || inStore)) ∧
    (∀ call ∈ attempt.calls, ∀ cache, call.ToldCache cache ↔ cache = inStore) ∧
    ((∀ call ∈ attempt.calls, call.ToldCache (loader.settings.cacheByDefault || inStore)) ↔
      attempt.calls = [] ∨ (loader.settings.cacheByDefault = true → inStore = true)) := by
  intro inStore fetched attempt
  have hhas : store.has Names.shouldCache = inStore := Store.has_eq_contains (by
    cases store <;> rfl)
  have hattempt : ∀ call ∈ attempt.calls, ∀ cache, call.ToldCache cache ↔ cache = inStore := by
    intro call hcall cache
    rw [← hhas]
    exact Autoload.toldCache_of_mem_calls_run hcall
  refine ⟨calls_load .., ?_, hattempt, ?_⟩
  · intro call hcall cache
    rw [← hhas]
    exact toldCache_of_mem_calls_fetch hcall
  constructor
  · intro htold
    cases hcalls : attempt.calls with
    | nil => exact .inl rfl
    | cons call rest =>
        have hmem : call ∈ attempt.calls := by simp [hcalls]
        have hsame := (hattempt call hmem _).mp (htold call hmem)
        exact .inr fun hdefault => by simpa [hdefault] using hsame
  · intro hagrees call hcall
    rw [hattempt call hcall]
    rcases hagrees with hnone | hboth
    · rw [hnone] at hcall
      cases hcall
    · cases hdefault : loader.settings.cacheByDefault with
      | false => rfl
      | true => rw [hboth hdefault, Bool.true_or]

/-- Where the variable for the cache holds no text, a fetch that wants no cache is told of none, and
an automatic load is told of the cache. -/
theorem Loader.cache_told_beside_no_text :
    let loader : Loader := ⟨⟨"2.4.1", .besideProgram, "a", "b", false, none⟩, "/r"⟩
    let executor : Executor := fun _ => .ok ⟨.exited 1, [], []⟩
    let around : Surroundings := ⟨⟨∅, []⟩, ∅⟩
    let store : Store := .process
      (((∅ : Environment).assign "ENVKEY" "k").insert (Utf8.encode Names.shouldCache) [0xFF])
    let fetched := loader.fetch .awaited executor around store { cache := some false }
    let attempt := Autoload.run false .awaited executor around store (.ok loader)
    (∃ call, fetched.calls = [call] ∧ call.ToldCache false ∧ ¬ call.ToldCache true) ∧
      ∃ call, attempt.calls = [call] ∧ call.ToldCache true ∧ ¬ call.ToldCache false := by
  intro loader executor around store fetched attempt
  obtain ⟨-, hfetched, hattempt, -⟩ := cache_told_in_every_run loader .awaited executor around store
    { cache := some false } .byName false
  have hone : fetched.calls.length = 1 ∧ attempt.calls.length = 1 := by decide +kernel
  have hinStore : store.contents.contains (Utf8.encode Names.shouldCache) = true := by
    decide +kernel
  obtain ⟨call, hcall⟩ := List.length_eq_one_iff.mp hone.1
  obtain ⟨other, hother⟩ := List.length_eq_one_iff.mp hone.2
  have hcallTold := hfetched call (hcall ▸ List.mem_singleton_self call)
  have hotherTold := hattempt other (hother ▸ List.mem_singleton_self other)
  refine ⟨⟨call, hcall, ?_, ?_⟩, other, hother, ?_, ?_⟩
  · exact (hcallTold false).mpr rfl
  · simp [hcallTold]
  · exact (hotherTold true).mpr hinStore.symm
  · simp [hotherTold, hinStore]

/-- With the cache on in the settings and no variable for it in the store, a load is told of the
cache and an automatic load is not. -/
theorem Autoload.passes_over_the_settings :
    let loader : Loader := ⟨⟨"2.4.1", .besideProgram, "a", "b", true, none⟩, "/r"⟩
    let executor : Executor := fun _ => .ok ⟨.exited 1, [], []⟩
    let around : Surroundings := ⟨⟨∅, []⟩, ∅⟩
    let store : Store := .memory ((∅ : Variables).insert "ENVKEY" "k")
    let unchosen := loader.settings.cacheByDefault || store.has Names.shouldCache
    let loaded := loader.load .blocking executor around store {}
    let attempt := run false .blocking executor around store (.ok loader)
    (loaded.calls ≠ [] ∧ ∀ call ∈ loaded.calls, call.ToldCache unchosen) ∧
      ¬ ∀ call ∈ attempt.calls, call.ToldCache unchosen := by
  intro loader executor around store unchosen loaded attempt
  have hruns : loaded.calls.length = 1 ∧ attempt.calls.length = 1 := by decide +kernel
  refine ⟨⟨List.ne_nil_of_length_pos (by simp [hruns.1]), ?_⟩, ?_⟩
  · intro call hcall
    rw [Loader.calls_load] at hcall
    exact (Loader.toldCache_of_mem_calls_fetch hcall).mpr rfl
  · intro htold
    obtain ⟨call, hcall⟩ := List.length_eq_one_iff.mp hruns.2
    have hmem : call ∈ attempt.calls := hcall ▸ List.mem_singleton_self call
    have hsame : unchosen = store.has Names.shouldCache :=
      (toldCache_of_mem_calls_run hmem).mp (htold call hmem)
    revert hsame
    decide +kernel

end SecretEnv
