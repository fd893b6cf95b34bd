import SecretEnv.Proofs.Permitted

/-!
# Loading again

**A load that succeeded has no effect when it is repeated** (`Loader.load_twice_is_load_once`), from
a map in memory and with a resolver that answers every run alike. The first load may change what the
second one does: which credential is taken, whether the resolver may use its cache, what environment
it is given. But where there was a credential there is one again, and where there was none the
override file adds none; so the same variables come back, and by then all of them are there.
-/

namespace SecretEnv

namespace Store

/-- A merge of variables that are all there does nothing. -/
theorem merge_of_held {store : Store} {secrets : Variables} (visiting : Visiting)
    (h : ∀ name ∈ secrets, store.accepts name = true ∧ store.has name = true) :
    store.merge secrets visiting = ⟨.ok ∅, store⟩ := by
  have hnone := (refused?_eq_none_iff visiting).mpr fun name hname => (h name hname).1
  have hfresh : store.fresh (visiting.entries secrets) = [] := by
    refine List.filter_eq_nil_iff.mpr ?_
    rintro ⟨name, value⟩ hentry
    have hname : name ∈ secrets :=
      mem_iff_exists_getElem?.mpr ⟨value, (visiting.mem_entries secrets).mp hentry⟩
    simp [(h name hname).2]
  rw [merge_eq, hnone, admitted_eq_self hnone, hfresh]
  rfl

/-- After a merge into a map in memory a name has the value that it had, or else that of the merged
map. -/
theorem exists_merge_memory (vars secrets : Variables) (visiting : Visiting) :
    ∃ set merged : Variables,
      (Store.memory vars).merge secrets visiting = ⟨.ok set, .memory merged⟩ ∧
        ∀ name : String, merged[name]? = vars[name]?.or secrets[name]? := by
  have haccepts : ∀ name ∈ secrets, (Store.memory vars).accepts name = true := fun _ _ => rfl
  obtain ⟨set, hset, hadds⟩ := merge_of_accepts visiting haccepts
  refine ⟨set, vars ∪ set, by rw [← hset, ← overlay, ← hadds.union], fun name => ?_⟩
  rw [Std.ExtTreeMap.getElem?_union, hadds.restricted, Std.ExtTreeMap.getElem?_filter',
    contents_memory]
  cases hheld : vars[name]? with
  | none =>
      have habsent : vars.contains name = false := by
        rw [← Std.ExtTreeMap.isSome_getElem?_eq_contains, hheld]
        rfl
      cases secrets[name]? <;> simp [Environment.contains_ofVariables_encode, habsent]
  | some value =>
      have hthere : vars.contains name = true := by
        rw [← Std.ExtTreeMap.isSome_getElem?_eq_contains, hheld]
        rfl
      simp [Environment.contains_ofVariables_encode, hthere]

end Store

namespace Loader

variable {loader : Loader} {calling : Calling} {executor : Executor} {around : Surroundings}
  {vars merged secrets : Variables} {request : Request}

/-! ### The credential of the second fetch -/

/-- Where there was a credential there is one in every map that keeps the variables. -/
theorem hasCredential_of_keeps
    (hkeeps : ∀ (name value : String), vars[name]? = some value → merged[name]? = some value)
    (h : HasCredential around (.memory vars) request) :
    HasCredential around (.memory merged) request := by
  obtain ⟨file, hread, text, hmem, hshown⟩ := h
  refine ⟨file, hread, text, ?_, hshown⟩
  simp only [texts, Credential.texts, Store.value?, List.mem_cons, List.not_mem_nil,
    or_false] at hmem ⊢
  rcases hmem with hgiven | hheld | hfile
  · exact .inl hgiven
  · exact .inr (.inl (hkeeps _ _ hheld.symm).symm)
  · exact .inr (.inr hfile)

/-- What the file alone gives holds no credential. -/
theorem secrets_of_carryOut_planWithout {missing : Error} {file : Option OverrideFile}
    (h : (loader.carryOut executor request (planWithout missing file)).result = .ok secrets) :
    secrets[Names.credential]? = none := by
  cases file with
  | none => cases h
  | some file =>
      rw [planWithout] at h
      split at h
      · cases h
      · cases h
        refine Std.ExtTreeMap.getElem?_eq_none fun hmem => ?_
        have hsecret := Variables.mem_of_mem_permitted hmem
        simp [OverrideFile.secrets] at hsecret

/-! ### The second fetch -/

/-- A resolver that answers every run alike gives the same whatever it is run with. -/
theorem result_ranWith_eq (halike : ∀ call other, executor call = executor other) (loader : Loader)
    (request : Request) (store other : Store) (credential otherCredential : String) :
    (loader.ranWith store request executor credential).result =
      (loader.ranWith other request executor otherCredential).result := by
  simp only [ranWith]
  rw [halike]

/-- A fetch gives the same again after what it gave was merged, and runs the resolver again if it
did. -/
theorem fetch_again (halike : ∀ call other, executor call = executor other)
    (hfetch : (loader.fetch calling executor around (.memory vars) request).result = .ok secrets)
    (hmerged : ∀ name : String, merged[name]? = vars[name]?.or secrets[name]?) :
    (loader.fetch calling executor around (.memory merged) request).result = .ok secrets ∧
      (loader.fetch calling executor around (.memory merged) request).calls.length =
        (loader.fetch calling executor around (.memory vars) request).calls.length := by
  have hcalling : calling.obstacle? = none := obstacle?_of_fetch hfetch
  rw [fetch_eq_fetchAwaited hcalling] at hfetch ⊢
  rw [fetch_eq_fetchAwaited hcalling]
  by_cases hcredential : HasCredential around (.memory vars) request
  · have hkeeps : ∀ name value : String,
        vars[name]? = some value → merged[name]? = some value := by
      intro name value hvalue
      rw [hmerged, hvalue, Option.some_or]
    obtain ⟨first, hfirst⟩ := hasCredential_iff.mp hcredential
    obtain ⟨second, hsecond⟩ := hasCredential_iff.mp (hasCredential_of_keeps hkeeps hcredential)
    rw [fetchAwaited_of_asks hfirst] at hfetch ⊢
    rw [fetchAwaited_of_asks hsecond]
    exact ⟨(result_ranWith_eq halike loader request ..).trans hfetch, rfl⟩
  · rcases exists_hasRead_or_error around (.memory vars) request with
      ⟨file, hread⟩ | ⟨path, detail, cause, hpath, hunreadable⟩
    · rcases Credential.allBlank_or_chooses (texts (.memory vars) request file) with
        hblank | ⟨credential, hchooses⟩
      · have hplan : loader.plan around (.memory vars) request = _ :=
          plan_of_allBlank hread hblank
        rw [fetchAwaited, hplan] at hfetch
        -- the file's variables do not change what the store says of the credential
        have htexts : texts (.memory merged) request file = texts (.memory vars) request file := by
          simp only [texts, Store.value?, hmerged, secrets_of_carryOut_planWithout hfetch,
            Option.or_none]
        rw [← htexts] at hblank
        have hplanAgain : loader.plan around (.memory merged) request = _ :=
          plan_of_allBlank hread hblank
        rw [fetchAwaited, fetchAwaited, hplan, hplanAgain]
        exact ⟨hfetch, rfl⟩
      · exact absurd (hasCredential_iff.mpr ⟨credential, file, hread, hchooses⟩) hcredential
    · rw [fetchAwaited, plan_of_unusable hpath hunreadable] at hfetch
      cases hfetch

/-! ### The second load -/

/-- The step: a load from the map that a load has left gives nothing and leaves the map. -/
theorem load_again (halike : ∀ call other, executor call = executor other)
    (hfetch : (loader.fetch calling executor around (.memory vars) request).result = .ok secrets)
    (hmerged : ∀ name : String, merged[name]? = vars[name]?.or secrets[name]?) (order : Visiting) :
    (loader.load calling executor around (.memory merged) request order).result = .ok ∅ ∧
      (loader.load calling executor around (.memory merged) request order).store =
        .memory merged := by
  have hheld : ∀ name ∈ secrets, (Store.memory merged).accepts name = true ∧
      (Store.memory merged).has name = true := by
    intro name hname
    obtain ⟨value, hvalue⟩ := mem_iff_exists_getElem?.mp hname
    refine ⟨rfl, ?_⟩
    rw [Store.has, ← Std.ExtTreeMap.isSome_getElem?_eq_contains, hmerged, hvalue]
    simp
  rw [load_eq, (fetch_again halike hfetch hmerged).1]
  simp only [Store.merge_of_held order hheld, and_self]

/-- **Loading twice is loading once.** After a load that succeeded from a map in memory, with a
resolver that answers every run alike, the same load succeeds again, writes nothing and leaves the
map as it is, in whatever order the variables are visited; so does every further one. It fetches
the same variables, and runs the resolver if the first one did. -/
theorem load_twice_is_load_once (loader : Loader) (calling : Calling) (executor : Executor)
    (around : Surroundings) (vars : Variables) (request : Request) (visiting : Visiting)
    (set : Variables) (halike : ∀ call other, executor call = executor other)
    (hload : (loader.load calling executor around (.memory vars) request visiting).result =
      .ok set) :
    let loaded := loader.load calling executor around (.memory vars) request visiting
    let again (store : Store) (order : Visiting) :=
      loader.load calling executor around store request order
    (∀ order, (again loaded.store order).result = .ok ∅ ∧
      (again loaded.store order).store = loaded.store ∧
      (again loaded.store order).calls.length = loaded.calls.length) ∧
    (∀ orders : List Visiting,
      orders.foldl (fun store order => (again store order).store) loaded.store = loaded.store) ∧
    (loader.fetch calling executor around loaded.store request).result =
      (loader.fetch calling executor around (.memory vars) request).result := by
  intro loaded again
  rcases load_cases loader calling executor around (.memory vars) request visiting with
    ⟨error, -, hfailed, -⟩ | ⟨secrets, hfetch, -, hstore⟩
  · rw [hload] at hfailed
    cases hfailed
  obtain ⟨written, merged, hmerge, hmerged⟩ := Store.exists_merge_memory vars secrets visiting
  have hleft : loaded.store = .memory merged := by rw [hstore, hmerge]
  obtain ⟨hsame, hlength⟩ := fetch_again halike hfetch hmerged
  have hagain := load_again halike hfetch hmerged
  rw [hleft]
  refine ⟨fun order => ⟨(hagain order).1, (hagain order).2, ?_⟩, fun orders => ?_, ?_⟩
  · rw [calls_load, calls_load, hlength]
  · -- each load finds the map as the one before it did
    induction orders with
    | nil => rfl
    | cons order rest ih => rw [List.foldl_cons, (hagain order).2, ih]
  · rw [hsame, hfetch]

/-- The first of two loads takes the credential of the override file and writes another one, the
cache's variable and the switch of automatic loading. The second one takes that credential, lets the
resolver use its cache, and writes nothing. -/
theorem load_twice_with_own_variables :
    let file : Node := .file (Utf8.encode "ENVKEY=k\n") true false
    let files : FileTree := ⟨(∅ : Std.ExtTreeMap Place Node).insert ["f"] file, []⟩
    let loader : Loader := ⟨⟨"2.4.1", .besideProgram, "a", "b", false, none⟩, "/r"⟩
    let executor : Executor := fun _ => .ok ⟨.exited 0, Utf8.encode
      "\x7b\"ENVKEY\":\"m\",\"ENVKEY_SHOULD_CACHE\":\"\",\"ENVKEY_DISABLE_AUTOLOAD\":\"1\"\x7d", []⟩
    let load (store : Store) :=
      loader.load .blocking executor ⟨files, ∅⟩ store { overrideFile := some "f" }
    let called (loaded : Loaded) := loaded.calls.map fun call =>
      (call.env[Names.credential]?, call.args.contains Resolver.Flag.cache)
    let first := load (.memory ∅)
    called first = [(some "k", false)] ∧
      first.store.snapshot.toList =
        [("ENVKEY", "m"), ("ENVKEY_DISABLE_AUTOLOAD", "1"), ("ENVKEY_SHOULD_CACHE", "")] ∧
      called (load first.store) = [(some "m", true)] ∧
      (load first.store).result = .ok ∅ ∧ (load first.store).store = first.store := by
  intro file files loader executor load called first
  have hruns : first.result.toBool = true ∧ called first = [(some "k", false)] ∧
      first.store.snapshot.toList =
        [("ENVKEY", "m"), ("ENVKEY_DISABLE_AUTOLOAD", "1"), ("ENVKEY_SHOULD_CACHE", "")] ∧
      called (load first.store) = [(some "m", true)] := by decide +kernel
  obtain ⟨hok, hfirst, hset, hsecond⟩ := hruns
  cases hload : first.result with
  | error error => simp [hload, Except.toBool] at hok
  | ok set =>
      obtain ⟨hagain, -, -⟩ := load_twice_is_load_once loader .blocking executor ⟨files, ∅⟩ ∅
        { overrideFile := some "f" } .byName set (fun _ _ => rfl) hload
      obtain ⟨hempty, hstore, -⟩ := hagain .byName
      exact ⟨hfirst, hset, hsecond, hempty, hstore⟩

end Loader

end SecretEnv
