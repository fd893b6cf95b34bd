import SecretEnv.Child.Rehearsal
import SecretEnv.Proofs.Effect
import SecretEnv.Proofs.Invocation

/-!
# Where a credential goes

**A credential that the caller gives goes into one variable of the resolver's environment and
nowhere else** (`credential_reaches_one_variable`). Two calls that differ in it, and in what their
stores hold as `ENVKEY`, are told apart by that variable only: not by what they give, and not by any
other part of a run, as long as the resolver does not look at its environment. That the store's own
`ENVKEY` makes no difference either is because the caller's credential goes before it and takes its
place in the environment of the run.
-/

namespace SecretEnv

/-! ### Alike but for one name -/

/-- Two maps differ at most under one name. -/
def Variables.SameBut (name : String) (first second : Variables) : Prop :=
  ∀ other, other ≠ name → first[other]? = second[other]?

/-- Two runs differ at most in one variable. -/
structure Invocation.SameBut (name : String) (first second : Invocation) : Prop where
  command : first.command = second.command
  args : first.args = second.args
  env : Variables.SameBut name first.env second.env
  cwd : first.cwd = second.cwd
  timeout : first.timeout = second.timeout

/-- Two calls fail with one error, or give maps that differ at most under one name. -/
inductive SameResultBut (name : String) :
    Except Error Variables → Except Error Variables → Prop where
  | error (error : Error) : SameResultBut name (.error error) (.error error)
  | ok {first second : Variables} (same : Variables.SameBut name first second) :
      SameResultBut name (.ok first) (.ok second)

namespace Variables.SameBut

variable {name : String} {first second : Variables}

theorem contains (h : SameBut name first second) {other : String} (hother : other ≠ name) :
    first.contains other = second.contains other := by
  rw [← Std.ExtTreeMap.isSome_getElem?_eq_contains, h other hother,
    Std.ExtTreeMap.isSome_getElem?_eq_contains]

/-- What is put under the name makes no difference. -/
theorem insert (h : SameBut name first second) (value₁ value₂ : String) :
    SameBut name (first.insert name value₁) (second.insert name value₂) := by
  intro other hother
  have hne : ¬ compare name other = .eq := by simpa using Ne.symm hother
  rw [Std.ExtTreeMap.getElem?_insert, if_neg hne, Std.ExtTreeMap.getElem?_insert, if_neg hne,
    h other hother]

theorem union {first' second' : Variables} (h : SameBut name first second)
    (h' : SameBut name first' second') : SameBut name (first ∪ first') (second ∪ second') := by
  intro other hother
  rw [Std.ExtTreeMap.getElem?_union, Std.ExtTreeMap.getElem?_union, h other hother,
    h' other hother]

/-- What is absent from the one and what is absent from the other differ at most under the name. -/
theorem absent (h : SameBut name first second) (vars : Variables) :
    SameBut name (vars.filter fun other _ => !first.contains other)
      (vars.filter fun other _ => !second.contains other) := by
  intro other hother
  rw [Std.ExtTreeMap.getElem?_filter', Std.ExtTreeMap.getElem?_filter', h.contains hother]

end Variables.SameBut

/-! ### Resolvers that do not look at their environment -/

/-- What is answered does not depend on the environment of the run. -/
def Executor.IgnoresEnvironment (executor : Executor) : Prop :=
  ∀ call env, executor { call with env := env } = executor call

theorem Executor.IgnoresEnvironment.eq_of_sameBut {executor : Executor}
    (h : executor.IgnoresEnvironment) {name : String} {first second : Invocation}
    (hsame : first.SameBut name second) : executor first = executor second := by
  have hfirst : first = { second with env := first.env } := by
    cases first
    cases second
    simpa using ⟨hsame.command, hsame.args, hsame.cwd, hsame.timeout⟩
  rw [hfirst, h]

/-- A rehearsed answer is found by the command and its arguments. -/
theorem Rehearsal.ignoresEnvironment (rehearsal : Rehearsal) :
    Executor.IgnoresEnvironment rehearsal.respond := fun _ _ => rfl

/-! ### Merges into memory -/

/-- A map in memory takes what it does not hold. -/
theorem Store.merge_memory (vars secrets : Variables) (visiting : Visiting) :
    (Store.memory vars).merge secrets visiting =
      ⟨.ok (secrets.filter fun name _ => !vars.contains name),
        .memory (vars ∪ secrets.filter fun name _ => !vars.contains name)⟩ := by
  have haccepts : ∀ name ∈ secrets, (Store.memory vars).accepts name = true := fun _ _ => rfl
  obtain ⟨set, hset, hadds⟩ := merge_of_accepts visiting haccepts
  have hrestricted : set = secrets.filter fun name _ => !vars.contains name := by
    rw [hadds.restricted]
    simp only [contents_memory, Environment.contains_ofVariables_encode]
  rw [← hrestricted, ← hset, ← overlay, ← hadds.union]

/-! ### Fetches and loads -/

namespace Loader

/-- Two fetches with credentials of their own: they give the same, their runs are the same but for
the credential's variable, and this holds the one credential and the other. -/
structure FetchedAlike (credential₁ credential₂ : String) (first second : Fetched) : Prop where
  result : first.result = second.result
  calls : List.Forall₂ (Invocation.SameBut Names.credential) first.calls second.calls
  first : ∀ call ∈ first.calls, call.env[Names.credential]? = some credential₁
  second : ∀ call ∈ second.calls, call.env[Names.credential]? = some credential₂

/-- Two loads into memory: what they give and what they leave is the same but for the credential's
variable. -/
structure LoadedAlike (first second : Loaded) : Prop where
  result : SameResultBut Names.credential first.result second.result
  store : ∃ after₁ after₂, first.store = .memory after₁ ∧ second.store = .memory after₂ ∧
    after₁.SameBut Names.credential after₂

variable {loader : Loader} {executor : Executor} {around : Surroundings} {request : Request}
  {vars₁ vars₂ : Variables}

/-- A fetch that ends before anything is run has no credential to show. -/
theorem FetchedAlike.failed (credential₁ credential₂ : String) (error : Error) :
    FetchedAlike credential₁ credential₂ (.failed error) (.failed error) where
  result := rfl
  calls := .nil
  first := nofun
  second := nofun

/-- The caller's credential goes before all others. -/
theorem asks_of_explicit {store : Store} {file : Option OverrideFile}
    (hread : HasRead around store request file) {text : String}
    (htext : Text.isBlankText text = false) :
    Asks around store { request with credential := some text } (Text.trim text) :=
  ⟨file, hread, [], text, _, rfl, nofun, htext, rfl⟩

theorem optionsFor_congr (hvars : vars₁.SameBut Names.credential vars₂) :
    loader.optionsFor (.memory vars₁) request = loader.optionsFor (.memory vars₂) request := by
  have hcache : vars₁.contains Names.shouldCache = vars₂.contains Names.shouldCache :=
    hvars.contains (by decide)
  simp only [optionsFor, cacheFor, Store.has, hcache]

theorem invocation_sameBut (loader : Loader) (request : Request)
    (hvars : vars₁.SameBut Names.credential vars₂) (credential₁ credential₂ : String) :
    Invocation.SameBut Names.credential
      (loader.invocation (.memory vars₁) request credential₁)
      (loader.invocation (.memory vars₂) request credential₂) where
  command := rfl
  args := by rw [invocation, invocation, optionsFor_congr hvars]
  env := hvars.insert credential₁ credential₂
  cwd := rfl
  timeout := rfl

theorem ranWith_alike (hexecutor : executor.IgnoresEnvironment)
    (hvars : vars₁.SameBut Names.credential vars₂) (credential₁ credential₂ : String) :
    FetchedAlike credential₁ credential₂
      (loader.ranWith (.memory vars₁) request executor credential₁)
      (loader.ranWith (.memory vars₂) request executor credential₂) where
  result := by
    have hanswer := hexecutor.eq_of_sameBut
      (invocation_sameBut loader request hvars credential₁ credential₂)
    simp only [ranWith, hanswer]
  calls := .cons (invocation_sameBut loader request hvars credential₁ credential₂) .nil
  first := List.forall_mem_singleton.mpr
    (runsWith_invocation loader (.memory vars₁) request credential₁).credential
  second := List.forall_mem_singleton.mpr
    (runsWith_invocation loader (.memory vars₂) request credential₂).credential

theorem fetch_alike (calling : Calling) (hexecutor : executor.IgnoresEnvironment)
    (hvars : vars₁.SameBut Names.credential vars₂) {text₁ text₂ : String}
    (htext₁ : Text.isBlankText text₁ = false) (htext₂ : Text.isBlankText text₂ = false) :
    FetchedAlike (Text.trim text₁) (Text.trim text₂)
      (loader.fetch calling executor around (.memory vars₁)
        { request with credential := some text₁ })
      (loader.fetch calling executor around (.memory vars₂)
        { request with credential := some text₂ }) := by
  by_cases hcalling : calling.obstacle? = none
  case neg =>
    obtain ⟨error, hobstacle⟩ := Option.ne_none_iff_exists'.mp hcalling
    rw [fetch_of_obstacle hobstacle, fetch_of_obstacle hobstacle]
    exact .failed _ _ error
  rw [fetch_eq_fetchAwaited hcalling, fetch_eq_fetchAwaited hcalling]
  rcases exists_hasRead_or_error around (.memory vars₁) request with
    ⟨file, hread⟩ | ⟨path, detail, cause, hpath, hunreadable⟩
  · -- the file is read in the environment of the process, whatever the map
    have hread₂ : HasRead around (.memory vars₂) request file := hread
    have hasks₁ : Asks around (.memory vars₁) { request with credential := some text₁ }
        (Text.trim text₁) := asks_of_explicit hread htext₁
    have hasks₂ : Asks around (.memory vars₂) { request with credential := some text₂ }
        (Text.trim text₂) := asks_of_explicit hread₂ htext₂
    rw [fetchAwaited_of_asks hasks₁, fetchAwaited_of_asks hasks₂]
    exact ranWith_alike hexecutor hvars _ _
  · have hplan (vars : Variables) (text : String) :
        loader.plan around (.memory vars) { request with credential := some text } =
          .error (.overrideFile path detail cause) := plan_of_unusable hpath hunreadable
    rw [fetchAwaited, fetchAwaited, hplan, hplan]
    exact .failed _ _ _

/-- Loads into memory are alike where their fetches give the same. -/
theorem load_alike {calling : Calling} {request₁ request₂ : Request}
    (hvars : vars₁.SameBut Names.credential vars₂) (visiting₁ visiting₂ : Visiting)
    (hresult : (loader.fetch calling executor around (.memory vars₁) request₁).result =
      (loader.fetch calling executor around (.memory vars₂) request₂).result) :
    LoadedAlike (loader.load calling executor around (.memory vars₁) request₁ visiting₁)
      (loader.load calling executor around (.memory vars₂) request₂ visiting₂) := by
  rw [load_eq, load_eq, ← hresult]
  cases (loader.fetch calling executor around (.memory vars₁) request₁).result with
  | error error => exact ⟨.error error, vars₁, vars₂, rfl, rfl, hvars⟩
  | ok secrets =>
      simp only [Store.merge_memory]
      have hset := hvars.absent secrets
      exact ⟨.ok hset, _, _, rfl, rfl, hvars.union hset⟩

/-- **A credential reaches its variable only.** Two fetches whose callers give a credential each,
for requests that are otherwise one and from maps that differ in `ENVKEY` at most, give the same,
and their runs are the same but for `ENVKEY`, which holds the caller's credential without the
blanks around it. Two such loads make the same runs, and what they give and leave is the same but
for `ENVKEY`. The resolver may be any that does not look at its environment. -/
theorem credential_reaches_one_variable (loader : Loader) (calling : Calling)
    {executor : Executor} (hexecutor : executor.IgnoresEnvironment) (around : Surroundings)
    (request : Request) {text₁ text₂ : String} (htext₁ : Text.isBlankText text₁ = false)
    (htext₂ : Text.isBlankText text₂ = false) {vars₁ vars₂ : Variables}
    (hvars : vars₁.SameBut Names.credential vars₂) (visiting₁ visiting₂ : Visiting) :
    let request₁ := { request with credential := some text₁ }
    let request₂ := { request with credential := some text₂ }
    let fetched₁ := loader.fetch calling executor around (.memory vars₁) request₁
    let fetched₂ := loader.fetch calling executor around (.memory vars₂) request₂
    let loaded₁ := loader.load calling executor around (.memory vars₁) request₁ visiting₁
    let loaded₂ := loader.load calling executor around (.memory vars₂) request₂ visiting₂
    FetchedAlike (Text.trim text₁) (Text.trim text₂) fetched₁ fetched₂ ∧
      (loaded₁.calls = fetched₁.calls ∧ loaded₂.calls = fetched₂.calls) ∧
      LoadedAlike loaded₁ loaded₂ := by
  intro request₁ request₂ fetched₁ fetched₂ loaded₁ loaded₂
  have hfetch : FetchedAlike (Text.trim text₁) (Text.trim text₂) fetched₁ fetched₂ :=
    fetch_alike calling hexecutor hvars htext₁ htext₂
  exact ⟨hfetch, ⟨calls_load .., calls_load ..⟩,
    load_alike hvars visiting₁ visiting₂ hfetch.result⟩

/-- Two loads of an answer that holds `ENVKEY` itself: into a map that has a credential of its own,
and into one that has none and so takes the one that is answered. -/
theorem credentials_of_two_loads :
    let loader : Loader := ⟨⟨"2.4.1", .besideProgram, "a", "b", false, none⟩, "/r"⟩
    let answers := Rehearsal.empty.answerCommand "/r"
      ⟨Utf8.encode "\x7b\"A\":\"1\",\"ENVKEY\":\"2\"\x7d", [], 0, none⟩
    let vars₁ := Variables.ofEntries [("ENVKEY", "old"), ("P", "1")]
    let vars₂ := Variables.ofEntries [("P", "1")]
    let loaded₁ := loader.load .blocking answers.respond ⟨⟨∅, []⟩, ∅⟩ (.memory vars₁)
      { credential := some " k" }
    let loaded₂ := loader.load .blocking answers.respond ⟨⟨∅, []⟩, ∅⟩ (.memory vars₂)
      { credential := some "l" }
    vars₁.SameBut Names.credential vars₂ ∧ LoadedAlike loaded₁ loaded₂ ∧
      loaded₁.calls.map (·.env.toList) = [[("ENVKEY", "k"), ("P", "1")]] ∧
      loaded₂.calls.map (·.env.toList) = [[("ENVKEY", "l"), ("P", "1")]] ∧
      loaded₁.result.toOption.map (·.toList) = some [("A", "1")] ∧
      loaded₂.result.toOption.map (·.toList) = some [("A", "1"), ("ENVKEY", "2")] := by
  intro loader answers vars₁ vars₂ loaded₁ loaded₂
  have hvars : vars₁.SameBut Names.credential vars₂ := by
    intro other hother
    have hne : ¬ compare "ENVKEY" other = .eq := by simpa [Names.credential] using Ne.symm hother
    simp only [vars₁, vars₂, Variables.ofEntries, List.foldl_cons, List.foldl_nil,
      Std.ExtTreeMap.getElem?_insert, if_neg hne]
  have hk : Text.isBlankText " k" = false := by decide
  have hl : Text.isBlankText "l" = false := by decide
  obtain ⟨-, -, hloads⟩ := credential_reaches_one_variable loader .blocking
    answers.ignoresEnvironment ⟨⟨∅, []⟩, ∅⟩ {} hk hl hvars .byName .byName
  refine ⟨hvars, hloads, ?_, ?_, ?_, ?_⟩
  all_goals decide +kernel

end Loader

end SecretEnv
