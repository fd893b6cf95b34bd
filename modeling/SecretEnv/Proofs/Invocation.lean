import SecretEnv.Proofs.Fetch
import SecretEnv.Proofs.Load

/-!
# The run of the resolver

**A fetch runs the resolver once if it has a credential, and otherwise not at all**
(`fetch_cases`), and a load runs it as its fetch does. `RunsWith` says of each part of that run
where it comes from: the settings, the request, the store, or the credential. What comes back from
this one run is all that a fetch learns from the resolver, so that nothing is tried again.
-/

namespace SecretEnv.Loader

section

variable (loader : Loader) (around : Surroundings) (store : Store) (request : Request)

/-- The override file can be used, if one is given, and one of the texts that may be the credential
is not blank. -/
def HasCredential : Prop :=
  ∃ file, HasRead around store request file ∧
    ∃ text, some text ∈ texts store request file ∧ Text.isBlankText text = false

/-- Where the parts of a run come from that is made with a credential. -/
structure RunsWith (credential : String) (call : Invocation) : Prop where
  command : call.command = loader.binary
  /-- The arguments are those of the settings' names, of the request, and of the cache as the
  request decides it, or else the settings and the store. -/
  args : call.args = Arguments.toList (Resolver.Options.toArguments {
    cache := request.cache.getD (loader.settings.cacheByDefault || store.has Names.shouldCache)
    memCache := request.memCache
    clientName := loader.settings.clientName
    clientVersion := loader.settings.clientVersion
    overrideFile := request.overrideFile })
  cwd : call.cwd = request.cwd
  timeout : call.timeout = loader.settings.fetchTimeout
  credential : call.env[Names.credential]? = some credential
  /-- All other variables are those of the store that are text. -/
  others : ∀ name, name ≠ Names.credential → call.env[name]? = store.snapshot[name]?

/-- What a fetch gives that runs the resolver with a credential: what comes back from the run, and
that one run. -/
def ranWith (executor : Executor) (credential : String) : Fetched :=
  let call := loader.invocation store request credential
  ⟨(Resolver.interpret loader.binary (executor call)).map fun vars =>
    vars.permitted request.permitted, [call]⟩

end

/-! ### The parts of a run -/

theorem cacheFor_eq (loader : Loader) (store : Store) (request : Request) :
    loader.cacheFor store request =
      request.cache.getD (loader.settings.cacheByDefault || store.has Names.shouldCache) := by
  unfold cacheFor
  cases request.cache <;> rfl

theorem runsWith_invocation (loader : Loader) (store : Store) (request : Request)
    (credential : String) :
    loader.RunsWith store request credential (loader.invocation store request credential) where
  command := rfl
  args := by
    rw [← cacheFor_eq]
    rfl
  cwd := rfl
  timeout := rfl
  credential := Std.ExtTreeMap.getElem?_insert_self
  others := by
    intro name hname
    rw [invocation, Std.ExtTreeMap.getElem?_insert, if_neg (by simpa using Ne.symm hname)]

section

variable {loader : Loader} {around : Surroundings} {store : Store} {request : Request}

/-- There is a credential exactly if one is chosen. -/
theorem hasCredential_iff :
    HasCredential around store request ↔ ∃ credential, Asks around store request credential := by
  constructor
  · rintro ⟨file, hread, text, hmem, hshown⟩
    rcases Credential.allBlank_or_chooses (texts store request file) with
      hblank | ⟨credential, hchooses⟩
    · rw [hblank text hmem] at hshown
      cases hshown
    · exact ⟨credential, file, hread, hchooses⟩
  · rintro ⟨credential, file, hread, before, text, after, hsplit, -, hshown, -⟩
    exact ⟨file, hread, text, by simp [hsplit], hshown⟩

/-! ### Fetches -/

theorem fetchAwaited_of_asks {credential : String} (h : Asks around store request credential)
    (executor : Executor) :
    loader.fetchAwaited executor around store request =
      loader.ranWith store request executor credential := by
  rw [fetchAwaited, plan_of_asks h]
  rfl

/-- A plan without a credential needs no executor. -/
theorem carryOut_planWithout (loader : Loader) (request : Request) (missing : Error)
    (file : Option OverrideFile) :
    ∃ result, ∀ executor,
      loader.carryOut executor request (planWithout missing file) = ⟨result, []⟩ := by
  cases file with
  | none => exact ⟨_, fun executor => rfl⟩
  | some file =>
      rw [planWithout]
      split
      · exact ⟨_, fun executor => rfl⟩
      · exact ⟨_, fun executor => rfl⟩

theorem fetchAwaited_of_not_hasCredential (loader : Loader)
    (h : ¬ HasCredential around store request) :
    ∃ result, ∀ executor, loader.fetchAwaited executor around store request = ⟨result, []⟩ := by
  rcases exists_hasRead_or_error around store request with
    ⟨file, hread⟩ | ⟨path, detail, cause, hpath, hunreadable⟩
  · rcases Credential.allBlank_or_chooses (texts store request file) with
      hblank | ⟨credential, hchooses⟩
    · simp only [fetchAwaited, plan_of_allBlank hread hblank]
      exact carryOut_planWithout loader request Credential.nowhere file
    · exact absurd (hasCredential_iff.mpr ⟨credential, file, hread, hchooses⟩) h
  · simp only [fetchAwaited, plan_of_unusable hpath hunreadable]
    exact ⟨_, fun executor => rfl⟩

/-- A fetch runs the resolver with its credential, where it goes ahead and has one; or it ends as it
does without any executor. -/
theorem fetch_cases (loader : Loader) (calling : Calling) (around : Surroundings) (store : Store)
    (request : Request) :
    (calling.obstacle? = none ∧ ∃ credential, Asks around store request credential ∧
      ∀ executor, loader.fetch calling executor around store request =
        loader.ranWith store request executor credential) ∨
    (¬ (calling.obstacle? = none ∧ HasCredential around store request) ∧
      ∃ result, ∀ executor, loader.fetch calling executor around store request = ⟨result, []⟩) := by
  cases hcalling : calling.obstacle? with
  | some error => exact .inr ⟨by simp, .error error, fetch_of_obstacle hcalling⟩
  | none =>
      by_cases hcredential : HasCredential around store request
      · obtain ⟨credential, hasks⟩ := hasCredential_iff.mp hcredential
        refine .inl ⟨rfl, credential, hasks, fun executor => ?_⟩
        rw [fetch_eq_fetchAwaited hcalling, fetchAwaited_of_asks hasks]
      · obtain ⟨result, hresult⟩ := fetchAwaited_of_not_hasCredential loader hcredential
        refine .inr ⟨fun hboth => hcredential hboth.2, result, fun executor => ?_⟩
        rw [fetch_eq_fetchAwaited hcalling, hresult]

theorem calls_load (loader : Loader) (calling : Calling) (executor : Executor)
    (around : Surroundings) (store : Store) (request : Request) (visiting : Visiting) :
    (loader.load calling executor around store request visiting).calls =
      (loader.fetch calling executor around store request).calls := by
  rw [load_eq]
  split <;> rfl

end

/-- **One run, if it is needed.** A load runs the resolver as its fetch does. A fetch runs it exactly
if nothing is in its way, it can use its override file and has a text for a credential that is not
blank.
It runs it once then, with the first such text without the blanks around it, and with all else as
`RunsWith` has it; it ends as that run does, and learns of no other. -/
theorem resolver_runs_once_if_needed (loader : Loader) (calling : Calling) (executor : Executor)
    (around : Surroundings) (store : Store) (request : Request) (visiting : Visiting) :
    let fetched := loader.fetch calling executor around store request
    (loader.load calling executor around store request visiting).calls = fetched.calls ∧
    (fetched.calls ≠ [] ↔
      calling.obstacle? = none ∧ HasCredential around store request) ∧
    (∀ call ∈ fetched.calls, fetched.calls = [call] ∧
      (∃ credential, Asks around store request credential ∧
        loader.RunsWith store request credential call) ∧
      fetched.result = (Resolver.interpret loader.binary (executor call)).map fun vars =>
        vars.permitted request.permitted) ∧
    (∀ other : Executor, (∀ call ∈ fetched.calls, other call = executor call) →
      loader.fetch calling other around store request = fetched) := by
  intro fetched
  refine ⟨calls_load loader calling executor around store request visiting, ?_⟩
  rcases fetch_cases loader calling around store request with
    ⟨hcalling, credential, hasks, hfetch⟩ | ⟨hnot, result, hfetch⟩
  · have hfetched : fetched = loader.ranWith store request executor credential := hfetch executor
    have hcredential := hasCredential_iff.mpr ⟨credential, hasks⟩
    rw [hfetched]
    refine ⟨⟨fun _ => ⟨hcalling, hcredential⟩, fun _ => List.cons_ne_nil _ _⟩, ?_, ?_⟩
    · intro call hcall
      obtain rfl := List.mem_singleton.mp hcall
      exact ⟨rfl, ⟨credential, hasks, runsWith_invocation loader store request credential⟩, rfl⟩
    · intro other hsame
      have hanswer := hsame (loader.invocation store request credential) List.mem_cons_self
      rw [hfetch, ranWith, ranWith, hanswer]
  · have hfetched : fetched = ⟨result, []⟩ := hfetch executor
    rw [hfetched]
    exact ⟨⟨fun hne => absurd rfl hne, fun hboth => absurd hboth hnot⟩, nofun,
      fun other _ => hfetch other⟩

/-- A load from a map that holds `ENVKEY` with blanks around it and `ENVKEY_SHOULD_CACHE` with an
empty value runs the resolver once, with the cache and with the bare credential. -/
theorem load_runs_with_bare_credential :
    let loader : Loader := ⟨⟨"2.4.1", .besideProgram, "a", "b", false, none⟩, "/r"⟩
    let executor : Executor := fun _ => .ok ⟨.exited 1, [], []⟩
    let store : Store :=
      .memory (.ofEntries [("ENVKEY", " k "), ("ENVKEY_SHOULD_CACHE", ""), ("P", "1")])
    ∃ call, (loader.load .blocking executor ⟨⟨∅, []⟩, ∅⟩ store {}).calls = [call] ∧
      loader.RunsWith store {} "k" call ∧
      call.args = ["--json", "--client-name", "a", "--client-version", "b", "--cache"] := by
  intro loader executor store
  obtain ⟨hload, -, hcalls, -⟩ :=
    resolver_runs_once_if_needed loader .blocking executor ⟨⟨∅, []⟩, ∅⟩ store {} .byName
  have hshape : (loader.fetch .blocking executor ⟨⟨∅, []⟩, ∅⟩ store {}).calls.map
      (fun call => (call.env[Names.credential]?, call.args)) =
        [(some "k", ["--json", "--client-name", "a", "--client-version", "b", "--cache"])] := by
    decide +kernel
  obtain ⟨call, hcall, hparts⟩ := List.map_eq_singleton_iff.mp hshape
  obtain ⟨-, ⟨credential, -, hruns⟩, -⟩ := hcalls call (by simp [hcall])
  obtain ⟨hcredential, hargs⟩ := Prod.mk.inj hparts
  rw [hruns.credential, Option.some.injEq] at hcredential
  subst hcredential
  exact ⟨call, hload.trans hcall, hruns, hargs⟩

end SecretEnv.Loader
