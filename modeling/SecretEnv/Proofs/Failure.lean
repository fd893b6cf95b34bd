import SecretEnv.Proofs.Usage

/-!
# What a failure leaves

**A failed action changes the store exactly if its merge wrote a variable before it came to a name
that the store refuses.** Every other failure comes before the first write, so that it leaves the
store as it was: a call that may not block, an override file that cannot be used, a resolver that
gives no variables, a loader that cannot be had. That one remains because the names of an answer are
only asked not to be empty, while an environment also refuses `=` and NUL, and because what was
written is not taken back; whether it happens is up to the order in which the names are visited.
-/

namespace SecretEnv

namespace Store

/-- A merge of these entries writes something, and then comes to a name that is refused. -/
def BreaksOff (store : Store) (entries : List (String × String)) : Prop :=
  (∃ entry ∈ store.admitted entries, store.has entry.1 = false) ∧
    ∃ entry ∈ entries, store.accepts entry.1 = false

theorem fresh_eq_nil_iff {store : Store} {entries : List (String × String)} :
    store.fresh entries = [] ↔ ¬ ∃ entry ∈ entries, store.has entry.1 = false := by
  simp [fresh]

/-- Writes show, unless there are none. -/
theorem contents_writeAll_fresh_iff (store : Store) (entries : List (String × String)) :
    (store.writeAll (store.fresh (store.admitted entries))).contents = store.contents ↔
      store.fresh (store.admitted entries) = [] := by
  constructor
  · -- whatever was written is there now, and was not before
    intro hsame
    by_contra hne
    obtain ⟨entry, hentry⟩ := List.exists_mem_of_ne_nil _ hne
    have hheld := contains_contents_writeAll store hentry
    obtain ⟨hadmitted, habsent⟩ := List.mem_filter.mp hentry
    rw [hsame, ← has_eq_contains (accepts_of_mem_admitted hadmitted)] at hheld
    simp [hheld] at habsent
  · intro hnil
    rw [hnil]
    rfl

/-- A failed merge leaves the contents of the store unless it breaks off. -/
theorem contents_merge_iff {store : Store} {secrets : Variables} {visiting : Visiting}
    {error : Error} (h : (store.merge secrets visiting).result = .error error) :
    (store.merge secrets visiting).store.contents = store.contents ↔
      ¬ store.BreaksOff (visiting.entries secrets) := by
  rw [merge_eq] at h ⊢
  have hrefused : ∃ entry ∈ visiting.entries secrets, store.accepts entry.1 = false := by
    cases hfind : store.refused? (visiting.entries secrets) with
    | none => simp [hfind, verdict] at h
    | some entry =>
        exact ⟨entry, List.mem_of_find?_eq_some hfind, by simpa using List.find?_some hfind⟩
  rw [contents_writeAll_fresh_iff, fresh_eq_nil_iff, BreaksOff]
  exact not_congr (and_iff_left hrefused).symm

end Store

/-! ### Actions that merge -/

/-- The entries that an action merges, in the order in which it visits them, if it comes to that. -/
def Action.merged? (usage : Usage) : Action → Option (List (String × String))
  | .load loader calling executor around request visiting =>
    (loader.fetch calling executor around usage.store request).result.toOption.map visiting.entries
  | .autoload loader calling executor around visiting =>
    (Autoload.loader? usage.hasRun usage.store loader).bind fun chosen =>
      (chosen.fetch calling executor around usage.store
        (Autoload.requestFor usage.store)).result.toOption.map visiting.entries
  | .merge secrets visiting => some (visiting.entries secrets)
  | .fetch .. | .reset | .setIfAbsent .. => none

namespace Usage

/-- An action that comes to its merge ends as that does. -/
theorem perform_of_merged? {usage : Usage} {action : Action} {entries : List (String × String)}
    (h : action.merged? usage = some entries) :
    ∃ secrets visiting, entries = Visiting.entries visiting secrets ∧
      (usage.perform action).1 =
        (usage.store.merge secrets visiting).result.map (fun _ => ()) ∧
      (usage.perform action).2.store = (usage.store.merge secrets visiting).store := by
  cases action with
  | fetch loader calling executor around request => cases h
  | reset => cases h
  | setIfAbsent name value => cases h
  | merge secrets visiting =>
      cases h
      exact ⟨secrets, visiting, rfl, rfl, rfl⟩
  | load loader calling executor around request visiting =>
      rw [Action.merged?] at h
      rcases Loader.load_cases loader calling executor around usage.store request visiting with
        ⟨error, hfetch, -, -⟩ | ⟨secrets, hfetch, hresult, hstore⟩
      · simp [hfetch, Except.toOption] at h
      · rw [hfetch] at h
        cases h
        refine ⟨secrets, visiting, rfl, ?_, hstore⟩
        rw [← hresult]
        rfl
  | autoload loader calling executor around visiting =>
      rw [Action.merged?] at h
      obtain ⟨chosen, hchosen, h⟩ := Option.bind_eq_some_iff.mp h
      rcases Loader.load_cases chosen calling executor around usage.store
          (Autoload.requestFor usage.store) visiting with
        ⟨error, hfetch, -, -⟩ | ⟨secrets, hfetch, hresult, hstore⟩
      · simp [hfetch, Except.toOption] at h
      · rw [hfetch] at h
        cases h
        refine ⟨secrets, visiting, rfl, ?_, ?_⟩
        · simp only [perform, Autoload.run_of_some hchosen, Autoload.loadWith, hresult]
          cases (usage.store.merge secrets visiting).result <;> rfl
        · simp only [perform, Autoload.run_of_some hchosen, Autoload.loadWith, hstore]

/-- An action that fails without a merge leaves the store alone. -/
theorem store_perform_of_error {usage : Usage} {action : Action} {error : Error}
    (hmerged : action.merged? usage = none) (herror : (usage.perform action).1 = .error error) :
    (usage.perform action).2.store = usage.store := by
  cases action with
  | fetch loader calling executor around request => rfl
  | reset => rfl
  | merge secrets visiting => cases hmerged
  | setIfAbsent name value =>
      -- its one write does not happen if it fails
      cases hset : usage.store.setIfAbsent name value with
      | error error => simp only [perform, hset]
      | ok written => simp [perform, hset] at herror
  | load loader calling executor around request visiting =>
      rw [Action.merged?] at hmerged
      rcases Loader.load_cases loader calling executor around usage.store request visiting with
        ⟨error, -, -, hstore⟩ | ⟨secrets, hfetch, -, -⟩
      · exact hstore
      · simp [hfetch, Except.toOption] at hmerged
  | autoload loader calling executor around visiting =>
      rw [Action.merged?] at hmerged
      cases hchosen : Autoload.loader? usage.hasRun usage.store loader with
      | none => exact Autoload.store_run_of_none hchosen
      | some chosen =>
          rw [hchosen, Option.bind_some] at hmerged
          simp only [perform, Autoload.run_of_some hchosen, Autoload.loadWith]
          rcases Loader.load_cases chosen calling executor around usage.store
              (Autoload.requestFor usage.store) visiting with
            ⟨error, -, -, hstore⟩ | ⟨secrets, hfetch, -, -⟩
          · exact hstore
          · simp [hfetch, Except.toOption] at hmerged

/-- **What a failure leaves.** After a failed action the store holds what it held before, unless its
merge wrote a variable and then came to a name that the store refuses. -/
theorem contents_of_failure {usage : Usage} {action : Action} {error : Error}
    (h : (usage.perform action).1 = .error error) :
    (usage.perform action).2.store.contents = usage.store.contents ↔
      ¬ ∃ entries, action.merged? usage = some entries ∧ usage.store.BreaksOff entries := by
  cases hmerged : action.merged? usage with
  | none => simp [store_perform_of_error hmerged h]
  | some entries =>
      obtain ⟨secrets, visiting, rfl, hresult, hstore⟩ := perform_of_merged? hmerged
      have hfailed : (usage.store.merge secrets visiting).result = .error error := by
        rw [h] at hresult
        cases hmerge : (usage.store.merge secrets visiting).result with
        | error other =>
            rw [hmerge] at hresult
            exact congrArg Except.error (Except.error.inj hresult).symm
        | ok set => simp [hmerge, Except.map] at hresult
      rw [hstore, Store.contents_merge_iff hfailed]
      simp

/-- It says of a merge of `A` and `B=` into an empty environment that this leaves `A` there. -/
theorem contents_of_failed_merge :
    let usage : Usage := ⟨.process ∅, false⟩
    let action : Action := .merge (.ofEntries [("A", "1"), ("B=", "2")]) .byName
    (usage.perform action).1 = .error (Environment.invalidName "B=") ∧
      (usage.perform action).2.store.contents ≠ usage.store.contents := by
  intro usage action
  have herror : (usage.perform action).1 = .error (Environment.invalidName "B=") := by
    decide +kernel
  have hmerged : action.merged? usage = some [("A", "1"), ("B=", "2")] := by
    decide +kernel
  have hbreaks : usage.store.BreaksOff [("A", "1"), ("B=", "2")] := by
    refine ⟨⟨("A", "1"), ?_, ?_⟩, ("B=", "2"), ?_, ?_⟩
    · decide +kernel
    · decide +kernel
    · decide +kernel
    · decide +kernel
  refine ⟨herror, fun hsame => ?_⟩
  exact (contents_of_failure herror).mp hsame ⟨_, hmerged, hbreaks⟩

/-- A load of such an answer fails, and the environment is no longer empty. -/
theorem failed_load_can_write :
    ∃ (loader : Loader) (executor : Executor) (around : Surroundings) (request : Request),
      let loaded := loader.load .blocking executor around (.process ∅) request
      loaded.result.toBool = false ∧ loaded.store.contents.toList = [([0x41], [0x31])] := by
  refine ⟨⟨⟨"2.4.1", .besideProgram, "a", "b", false, none⟩, "/r"⟩,
    fun _ => .ok ⟨.exited 0, Utf8.encode "\x7b\"A\":\"1\",\"B=\":\"2\"\x7d", []⟩,
    ⟨⟨∅, []⟩, ∅⟩, { credential := some "k" }, ?_⟩
  decide +kernel

end Usage

end SecretEnv
