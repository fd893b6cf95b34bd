import SecretEnv.Proofs.Effect
import SecretEnv.Proofs.Invocation

/-!
# Permitted names

**A list of permitted names takes effect when everything else of a fetch is over**
(`Loader.fetch_with_permitted`). A plan carries the list along and decides nothing by it: not
whether the override file can be used, not whether it has variables to stand for an answer, not how
the resolver is run. So two requests that differ in the list make the same runs and fail alike, and
where they succeed the one answer is the other restricted to the list. A list that names nothing
restricts nothing.
-/

namespace SecretEnv

namespace Variables

/-- A map is what a list of names permits of another one. -/
def RestrictedTo (names : List String) (vars kept : Variables) : Prop :=
  ∀ name, kept[name]? = if names = [] ∨ name ∈ names then vars[name]? else none

theorem restrictedTo_retainPermitted (vars : Variables) (names : List String) :
    RestrictedTo names vars (vars.retainPermitted names) := by
  intro name
  rw [retainPermitted]
  cases names with
  | nil => simp
  | cons first rest =>
      rw [if_neg (by simp), Std.ExtTreeMap.getElem?_filter']
      by_cases hmem : name ∈ first :: rest
      · rw [if_pos (.inr hmem)]
        cases vars[name]? with
        | none => rfl
        | some value => simp [hmem]
      · rw [if_neg (by simpa using hmem)]
        cases vars[name]? with
        | none => rfl
        | some value => simp [hmem]

/-- What is permitted of a map is in the map. -/
theorem mem_of_mem_permitted {vars : Variables} {permitted : Option (List String)} {name : String}
    (h : name ∈ vars.permitted permitted) : name ∈ vars := by
  cases permitted with
  | none => exact h
  | some names =>
      obtain ⟨value, hvalue⟩ := mem_iff_exists_getElem?.mp h
      rw [Variables.permitted, restrictedTo_retainPermitted vars names name] at hvalue
      split at hvalue
      · exact mem_iff_exists_getElem?.mpr ⟨value, hvalue⟩
      · cases hvalue

/-- Of a map that has none of the listed names nothing is left. -/
theorem RestrictedTo.eq_empty {names : List String} {vars kept : Variables}
    (h : RestrictedTo names vars kept) (hnames : names ≠ [])
    (habsent : ∀ name ∈ names, vars[name]? = none) : kept = ∅ := by
  apply Std.ExtTreeMap.ext_getElem?
  intro name
  rw [h name]
  split
  · rename_i hlisted
    rw [habsent name (hlisted.resolve_left hnames)]
    simp
  · simp

end Variables

namespace Loader

/-! ### Plans and lists -/

/-- The same plan for another list of permitted names. -/
def Plan.withPermitted (permitted : Option (List String)) : Plan → Plan
  | .fileOnly secrets => .fileOnly secrets
  | .ask credential options snapshot =>
    .ask credential { options with permitted := permitted } snapshot

section

variable (loader : Loader) (calling : Calling) (executor : Executor) (around : Surroundings)
  (store : Store) (request : Request) (permitted : Option (List String))

/-- A plan without a credential has no options that could hold a list. -/
theorem planWithout_map_withPermitted (missing : Error) (file : Option OverrideFile) :
    (planWithout missing file).map (Plan.withPermitted permitted) = planWithout missing file := by
  cases file with
  | none => rfl
  | some file =>
      rw [planWithout]
      split
      · rfl
      · rfl

/-- No list of permitted names decides anything in a plan. -/
theorem plan_with_permitted :
    loader.plan around store { request with permitted := permitted } =
      (loader.plan around store request).map (Plan.withPermitted permitted) := by
  have hfile : overrideFile around store { request with permitted := permitted } =
      overrideFile around store request := rfl
  rw [plan, plan, hfile]
  cases overrideFile around store request with
  | error error => rfl
  | ok file =>
      dsimp only
      cases Credential.resolve request.credential (store.value? Names.credential) file with
      | ok resolved => rfl
      | error error =>
          dsimp only
          split
          · exact (planWithout_map_withPermitted permitted error file).symm
          · rfl

/-- A list of permitted names is applied to what the plan comes to, and the runs of the resolver do
not hold it. -/
theorem carryOut_with_permitted (planned : Except Error Plan) :
    loader.carryOut executor { request with permitted := permitted }
        (planned.map (Plan.withPermitted permitted)) =
      ⟨(loader.carryOut executor { request with permitted := none }
          (planned.map (Plan.withPermitted none))).result.map (·.permitted permitted),
        (loader.carryOut executor { request with permitted := none }
          (planned.map (Plan.withPermitted none))).calls⟩ := by
  cases planned with
  | error error => rfl
  | ok planned =>
      cases planned with
      | fileOnly secrets => rfl
      | ask credential options snapshot =>
          have hcall (other : Option (List String)) :
              Resolver.call loader.binary credential { options with permitted := other } snapshot =
                Resolver.call loader.binary credential options snapshot := rfl
          simp only [Except.map, Plan.withPermitted, carryOut, Resolver.fetch, hcall]
          cases Resolver.interpret loader.binary
              (executor (Resolver.call loader.binary credential options snapshot)) with
          | error error => rfl
          | ok vars => rfl

/-- A fetch with a list is the fetch without one, and then the list. -/
theorem fetch_with_permitted :
    loader.fetch calling executor around store { request with permitted := permitted } =
      ⟨(loader.fetch calling executor around store
          { request with permitted := none }).result.map (·.permitted permitted),
        (loader.fetch calling executor around store { request with permitted := none }).calls⟩ := by
  rw [fetch_eq, fetch_eq]
  cases calling.obstacle? with
  | some error => rfl
  | none =>
      rw [fetchAwaited, fetchAwaited, plan_with_permitted loader around store request permitted,
        plan_with_permitted loader around store request none]
      exact carryOut_with_permitted loader executor request permitted
        (loader.plan around store request)

theorem length_calls_fetch_le_one :
    (loader.fetch calling executor around store request).calls.length ≤ 1 := by
  rcases fetch_cases loader calling around store request with
    ⟨-, credential, -, hfetch⟩ | ⟨-, result, hfetch⟩
  · rw [hfetch]
    exact Nat.le_refl 1
  · rw [hfetch]
    exact Nat.zero_le 1

end

/-! ### Two requests that differ in the list -/

/-- **Permitted names are a filter on what was fetched.** A request with a list of permitted names
and the same request without one make the same runs of the resolver, at most one, and fail with the
same errors. Where they succeed, what is fetched with the list is what is fetched without it, all of
it if the list names nothing, and of it the listed names otherwise, be they none. A load with the
list then adds to the store, of what is kept, the variables that are absent; it does so unless the
store refuses a name that is kept. -/
theorem permitted_filters_what_is_fetched (loader : Loader) (calling : Calling)
    (executor : Executor) (around : Surroundings) (store : Store) (request : Request)
    (names : List String) (visiting : Visiting) :
    let withList := { request with permitted := some names }
    let all := loader.fetch calling executor around store { request with permitted := none }
    let listed := loader.fetch calling executor around store withList
    let loaded := loader.load calling executor around store withList visiting
    (listed.calls = all.calls ∧ loaded.calls = all.calls ∧ all.calls.length ≤ 1) ∧
    (∀ error, listed.result = .error error ↔ all.result = .error error) ∧
    (∀ error, all.result = .error error → loaded.result = .error error ∧ loaded.store = store) ∧
    ∀ vars, all.result = .ok vars → ∃ kept, listed.result = .ok kept ∧
      Variables.RestrictedTo names vars kept ∧
      (names ≠ [] → (∀ name ∈ names, vars[name]? = none) → kept = ∅) ∧
      (∀ set, loaded.result = .ok set → store.Adds kept set loaded.store) ∧
      ((∃ set, loaded.result = .ok set) ↔ ∀ name ∈ kept, store.accepts name = true) := by
  intro withList all listed loaded
  have hlisted : listed = ⟨all.result.map (·.permitted (some names)), all.calls⟩ :=
    fetch_with_permitted loader calling executor around store request (some names)
  have hcalls : loaded.calls = listed.calls := calls_load ..
  refine ⟨⟨by rw [hlisted], by rw [hcalls, hlisted], length_calls_fetch_le_one ..⟩, ?_⟩
  have hload := load_cases loader calling executor around store withList visiting
  cases hall : all.result with
  | error failure =>
      have hfailed : listed.result = .error failure := by
        rw [hlisted, hall]
        rfl
      refine ⟨fun error => by rw [hfailed], ?_, nofun⟩
      intro error herror
      cases herror
      rcases hload with ⟨other, hfetch, hresult, hstore⟩ | ⟨secrets, hfetch, -, -⟩
      · rw [hfailed.symm.trans hfetch]
        exact ⟨hresult, hstore⟩
      · cases hfailed.symm.trans hfetch
  | ok vars =>
      have hkept : listed.result = .ok (vars.retainPermitted names) := by
        rw [hlisted, hall]
        rfl
      refine ⟨fun error => by rw [hkept]; simp, nofun, ?_⟩
      intro other hother
      cases hother
      have hrestricted := Variables.restrictedTo_retainPermitted vars names
      refine ⟨_, hkept, hrestricted, hrestricted.eq_empty, ?_⟩
      rcases hload with ⟨failure, hfetch, -, -⟩ | ⟨secrets, hfetch, hresult, hstore⟩
      · cases hkept.symm.trans hfetch
      · -- what is merged is what was kept
        cases hkept.symm.trans hfetch
        rw [hresult, hstore]
        refine ⟨fun set => Store.adds_of_merge, ?_⟩
        constructor
        · intro hmerged
          obtain ⟨set, hset⟩ := hmerged
          exact Store.accepts_of_merge hset
        · intro haccepts
          obtain ⟨set, hset, -⟩ := Store.merge_of_accepts visiting haccepts
          exact ⟨set, hset⟩

/-- Of a file with `A` and `B` a list that names `C` leaves nothing, which is no failure. Of an
answer with `A`, `B` and `C` a list that names `A` and `B` keeps the two, and a load of them where
the environment holds `A` with a value that is no text adds `B`. -/
theorem permitted_lists_of_a_file_and_an_answer :
    let files : FileTree :=
      ⟨(∅ : Std.ExtTreeMap Place Node).insert ["f"]
        (.file (Utf8.encode "A=1\nB=2\n") true false), []⟩
    let loader : Loader := ⟨⟨"2.4.1", .besideProgram, "a", "b", false, none⟩, "/r"⟩
    let executor : Executor := fun _ =>
      .ok ⟨.exited 0, Utf8.encode "\x7b\"A\":\"3\",\"B\":\"4\",\"C\":\"5\"\x7d", []⟩
    let store : Store := .process ((∅ : Environment).insert [0x41] [0xFF])
    let ofFile (permitted : Option (List String)) :=
      loader.fetch .blocking executor ⟨files, ∅⟩ (.memory ∅)
        { overrideFile := some "f", permitted := permitted }
    let ofAnswer (permitted : Option (List String)) :=
      loader.fetch .blocking executor ⟨files, ∅⟩ store
        { credential := some "k", permitted := permitted }
    let loaded := loader.load .blocking executor ⟨files, ∅⟩ store
      { credential := some "k", permitted := some ["A", "B"] }
    ((ofFile (some ["C"])).result = .ok ∅ ∧ (ofFile (some ["C"])).calls.length = 0) ∧
      ∃ kept set, (ofAnswer (some ["A", "B"])).result = .ok kept ∧ loaded.result = .ok set ∧
        kept.toList = [("A", "3"), ("B", "4")] ∧ set.toList = [("B", "4")] ∧
        store.Adds kept set loaded.store := by
  intro files loader executor store ofFile ofAnswer loaded
  constructor
  · obtain ⟨-, -, -, hfetched⟩ := permitted_filters_what_is_fetched loader .blocking executor
      ⟨files, ∅⟩ (.memory ∅) { overrideFile := some "f" } ["C"] .byName
    have hlist : (ofFile none).result.toOption.map (·.toList) = some [("A", "1"), ("B", "2")] := by
      decide +kernel
    cases hall : (ofFile none).result with
    | error error => simp [hall, Except.toOption] at hlist
    | ok vars =>
        obtain ⟨kept, hkept, -, hempty, -⟩ := hfetched vars hall
        rw [hall] at hlist
        have hentries : vars.toList = [("A", "1"), ("B", "2")] := Option.some.inj hlist
        have hnone : ∀ name ∈ ["C"], vars[name]? = none := by
          rw [← Variables.ofEntries_of_perm (List.Perm.refl vars.toList), hentries]
          decide +kernel
        rw [hempty (List.cons_ne_nil _ _) hnone] at hkept
        exact ⟨hkept, by decide +kernel⟩
  · obtain ⟨-, -, -, hfetched⟩ := permitted_filters_what_is_fetched loader .blocking executor
      ⟨files, ∅⟩ store { credential := some "k" } ["A", "B"] .byName
    have hsome : (ofAnswer none).result.toBool = true := by decide +kernel
    have hkeeps : (ofAnswer (some ["A", "B"])).result.toOption.map (·.toList) =
        some [("A", "3"), ("B", "4")] := by decide +kernel
    have hsets : loaded.result.toOption.map (·.toList) = some [("B", "4")] := by decide +kernel
    cases hall : (ofAnswer none).result with
    | error error => simp [hall, Except.toBool] at hsome
    | ok vars =>
        obtain ⟨kept, hkept, -, -, hadds, -⟩ := hfetched vars hall
        cases hloaded : loaded.result with
        | error error => simp [hloaded, Except.toOption] at hsets
        | ok set =>
            rw [show (ofAnswer (some ["A", "B"])).result = .ok kept from hkept] at hkeeps
            rw [hloaded] at hsets
            exact ⟨kept, set, hkept, rfl, Option.some.inj hkeeps, Option.some.inj hsets,
              hadds set hloaded⟩

end Loader

end SecretEnv
