import SecretEnv.Proofs.Load

/-!
# What a merge or a load adds to a store

**A merge that gets to its end adds exactly the variables it reports, and they are exactly those of
the map that were absent** (`Store.Adds`), for both kinds of stores and any order of visiting. A
load that succeeds does the same with what its fetch gave.
-/

namespace SecretEnv

namespace Store

/-- The store with variables laid over what it holds. -/
def overlay : Store → Variables → Store
  | memory vars, set => .memory (vars ∪ set)
  | process env, set => .process (env ∪ Environment.ofVariables set)

/-- How a store comes about from another one by adding of a map what is absent: what was set, what
the store is then, and how the two tell each other. -/
structure Adds (before : Store) (secrets set : Variables) (after : Store) : Prop where
  /-- What was set is the map without the names that were held. -/
  restricted : set = secrets.filter fun name _ => !before.contents.contains (Utf8.encode name)
  /-- The store holds what it held and what was set. -/
  union : after = before.overlay set
  /-- Nothing that was set was held. -/
  disjoint : before.contents ∩ Environment.ofVariables set = ∅
  /-- What was set is what the store holds more than it held. -/
  difference : after.contents \ before.contents = Environment.ofVariables set

/-! ### Writes of many entries -/

theorem writeAll_memory (vars : Variables) (entries : List (String × String)) :
    (Store.memory vars).writeAll entries =
      .memory (entries.foldl (fun vars entry => vars.insert entry.1 entry.2) vars) := by
  induction entries generalizing vars with
  | nil => rfl
  | cons entry rest ih => exact ih (vars.insert entry.1 entry.2)

theorem writeAll_process (env : Environment) (entries : List (String × String)) :
    (Store.process env).writeAll entries =
      .process (entries.foldl (fun env entry => env.assign entry.1 entry.2) env) := by
  induction entries generalizing env with
  | nil => rfl
  | cons entry rest ih => exact ih (env.assign entry.1 entry.2)

/-- Writing the entries of a map, in whatever order, lays the map over the store. -/
theorem writeAll_of_perm (store : Store) {entries : List (String × String)} {set : Variables}
    (h : entries.Perm set.toList) : store.writeAll entries = store.overlay set := by
  -- no name is written twice, so that the order of the writes does not matter
  have hnodup : (entries.map Prod.fst).Nodup :=
    (h.map Prod.fst).nodup_iff.mpr (nodup_keys_toList set)
  cases store with
  | memory vars =>
      rw [writeAll_memory, overlay]
      congr 1
      apply Std.ExtTreeMap.ext_getElem?
      intro name
      rw [getElem?_foldl_insert, Std.ExtTreeMap.getElem?_union, ← Variables.getElem?_ofEntries,
        Variables.ofEntries_of_perm h]
  | process env =>
      rw [writeAll_process, overlay, Environment.foldl_assign_eq]
      congr 1
      apply Std.ExtTreeMap.ext_getElem?
      intro octets
      rw [getElem?_foldl_insert, Std.ExtTreeMap.getElem?_union, Environment.getElem?_ofVariables,
        lastValue?_perm (h.map _) (Environment.nodup_map_encodeEntry hnodup)]

theorem contents_overlay (store : Store) (set : Variables) :
    (store.overlay set).contents = store.contents ∪ Environment.ofVariables set := by
  rw [← writeAll_of_perm store (List.Perm.refl set.toList), contents_writeAll]
  apply Std.ExtTreeMap.ext_getElem?
  intro octets
  rw [getElem?_foldl_insert, Std.ExtTreeMap.getElem?_union, Environment.getElem?_ofVariables]

/-- To lay over a store what is absent is to add it. -/
theorem adds_overlay (before : Store) {secrets set : Variables}
    (restricted : set = secrets.filter fun name _ =>
      !before.contents.contains (Utf8.encode name)) :
    Adds before secrets set (before.overlay set) := by
  -- the set is restricted to what is absent, and octets in it come from a name in it
  have habsent : ∀ octets, octets ∈ Environment.ofVariables set → octets ∉ before.contents := by
    intro octets hmem hheld
    obtain ⟨held, hread⟩ := mem_iff_exists_getElem?.mp hmem
    obtain ⟨name, value, hset, rfl, -⟩ := Environment.getElem?_ofVariables_eq_some_iff.mp hread
    rw [restricted, Std.ExtTreeMap.getElem?_filter', Option.filter_eq_some_iff] at hset
    simp [Std.ExtTreeMap.mem_iff_contains.mp hheld] at hset
  refine ⟨restricted, rfl, ?_, ?_⟩
  · apply Std.ExtTreeMap.ext_getElem?
    intro octets
    rw [Std.ExtTreeMap.getElem?_inter]
    by_cases hmem : octets ∈ Environment.ofVariables set
    · rw [if_pos hmem, Std.ExtTreeMap.getElem?_eq_none (habsent octets hmem)]
      rfl
    · rw [if_neg hmem]
      rfl
  · apply Std.ExtTreeMap.ext_getElem?
    intro octets
    rw [Std.ExtTreeMap.getElem?_diff, contents_overlay, Std.ExtTreeMap.getElem?_union]
    by_cases hheld : octets ∈ before.contents
    · rw [if_pos hheld, Std.ExtTreeMap.getElem?_eq_none fun hmem => habsent octets hmem hheld]
    · rw [if_neg hheld, Std.ExtTreeMap.getElem?_eq_none hheld, Option.or_none]

/-! ### A merge that gets to its end -/

section

variable {store : Store} {secrets : Variables}

theorem refused?_eq_none_iff (visiting : Visiting) :
    store.refused? (visiting.entries secrets) = none ↔
      ∀ name ∈ secrets, store.accepts name = true := by
  simp only [refused?, List.find?_eq_none, Bool.not_eq_true', Bool.not_eq_false]
  constructor
  · intro h name hmem
    obtain ⟨value, hvalue⟩ := mem_iff_exists_getElem?.mp hmem
    exact h (name, value) (visiting.mem_entries secrets |>.mpr hvalue)
  · rintro h ⟨name, value⟩ hentry
    have hvalue := (visiting.mem_entries secrets).mp hentry
    exact h name (mem_iff_exists_getElem?.mpr ⟨value, hvalue⟩)

theorem admitted_eq_self {entries : List (String × String)}
    (h : store.refused? entries = none) : store.admitted entries = entries := by
  simpa [refused?, admitted, List.takeWhile_eq_self_iff] using h

/-- The entries whose name is absent make up the map without the names that are held. -/
theorem fresh_perm {visiting : Visiting}
    (h : store.refused? (visiting.entries secrets) = none) :
    (store.fresh (visiting.entries secrets)).Perm
      (secrets.filter fun name _ => !store.contents.contains (Utf8.encode name)).toList := by
  have haccepts : ∀ entry ∈ visiting.entries secrets, store.accepts entry.1 = true := by
    simpa [refused?] using h
  -- of an accepted name the store's presence is that of its octets
  have hsame : store.fresh (visiting.entries secrets) =
      (visiting.entries secrets).filter fun entry =>
        !store.contents.contains (Utf8.encode entry.1) := by
    apply List.filter_congr
    intro entry hentry
    rw [has_eq_contains (haccepts entry hentry)]
  rw [hsame, Std.ExtTreeMap.toList_filter]
  exact (visiting.perm secrets).filter _

/-- A merge without a refused name gets to its end and adds what is absent. -/
theorem merge_of_accepts (visiting : Visiting)
    (h : ∀ name ∈ secrets, store.accepts name = true) :
    ∃ set, (store.merge secrets visiting).result = .ok set ∧
      Adds store secrets set (store.merge secrets visiting).store := by
  have hnone := (refused?_eq_none_iff visiting).mpr h
  have hperm := fresh_perm hnone
  rw [merge_eq, hnone, admitted_eq_self hnone, Variables.ofEntries_of_perm hperm]
  rw [writeAll_of_perm store hperm]
  exact ⟨_, rfl, adds_overlay store rfl⟩

theorem accepts_of_merge {visiting : Visiting} {set : Variables}
    (h : (store.merge secrets visiting).result = .ok set) :
    ∀ name ∈ secrets, store.accepts name = true := by
  apply (refused?_eq_none_iff visiting).mp
  rw [merge_eq] at h
  cases hrefused : store.refused? (visiting.entries secrets) with
  | none => rfl
  | some entry => simp [hrefused, verdict] at h

theorem adds_of_merge {visiting : Visiting} {set : Variables}
    (h : (store.merge secrets visiting).result = .ok set) :
    Adds store secrets set (store.merge secrets visiting).store := by
  obtain ⟨other, hother, hadds⟩ := merge_of_accepts visiting (accepts_of_merge h)
  rw [h] at hother
  cases hother
  exact hadds

end

end Store

/-! ### A load -/

namespace Loader

/-- **What a success adds.** A merge that succeeds adds of the map what is absent and reports just
that; a load that succeeds does so with the map that a fetch for the same request gives from the
same start; and a merge succeeds for every map in memory, and for the environment of the process if
it can hold all the names. -/
theorem merge_and_load_add_the_absent (store : Store) (visiting : Visiting) :
    (∀ secrets set, (store.merge secrets visiting).result = .ok set →
      store.Adds secrets set (store.merge secrets visiting).store) ∧
    (∀ (loader : Loader) calling executor around request set,
      (loader.load calling executor around store request visiting).result = .ok set →
      ∃ secrets, (loader.fetch calling executor around store request).result = .ok secrets ∧
        store.Adds secrets set
          (loader.load calling executor around store request visiting).store) ∧
    (∀ secrets : Variables,
      (∀ env, store = .process env → ∀ name ∈ secrets, Environment.validName name = true) →
      ∃ set, (store.merge secrets visiting).result = .ok set) := by
  refine ⟨fun secrets set => Store.adds_of_merge, ?_, ?_⟩
  · intro loader calling executor around request set h
    rcases load_cases loader calling executor around store request visiting with
      ⟨error, -, hresult, -⟩ | ⟨secrets, hfetch, hresult, hstore⟩
    · rw [hresult] at h
      cases h
    · rw [hresult] at h
      rw [hstore]
      exact ⟨secrets, hfetch, Store.adds_of_merge h⟩
  · intro secrets hvalid
    have haccepts : ∀ name ∈ secrets, store.accepts name = true := by
      cases store with
      | memory vars => exact fun _ _ => rfl
      | process env => exact hvalid env rfl
    obtain ⟨set, hset, -⟩ := Store.merge_of_accepts visiting haccepts
    exact ⟨set, hset⟩

/-- Where the environment holds `A` with a value that is no text, a merge of `A` and `B` adds `B`,
and a load that is answered with them does too. -/
theorem merge_and_load_add_beside_no_text :
    let store : Store := .process ((∅ : Environment).insert [0x41] [0xFF])
    let secrets := Variables.ofEntries [("A", "1"), ("B", "2")]
    let loader : Loader := ⟨⟨"2.4.1", .besideProgram, "a", "b", false, none⟩, "/r"⟩
    let executor : Executor := fun _ =>
      .ok ⟨.exited 0, Utf8.encode "\x7b\"A\":\"1\",\"B\":\"2\"\x7d", []⟩
    let loaded := loader.load .blocking executor ⟨⟨∅, []⟩, ∅⟩ store { credential := some "k" }
    (∃ set, store.Adds secrets set (store.merge secrets).store ∧ set.toList = [("B", "2")]) ∧
      ∃ fetched set, store.Adds fetched set loaded.store ∧ set.toList = [("B", "2")] := by
  intro store secrets loader executor loaded
  obtain ⟨hmerge, hload, hok⟩ := merge_and_load_add_the_absent store .byName
  constructor
  · have hvalid : ∀ name ∈ secrets, Environment.validName name = true := by
      intro name hname
      have hkeys : secrets.keys = ["A", "B"] := by decide +kernel
      rw [← Std.ExtTreeMap.mem_keys, hkeys] at hname
      exact (by decide : ∀ name ∈ ["A", "B"], Environment.validName name = true) name hname
    obtain ⟨set, hset⟩ := hok secrets fun _ _ => hvalid
    have hadds := hmerge secrets set hset
    refine ⟨set, hadds, ?_⟩
    rw [hadds.restricted]
    decide +kernel
  · have hlist : loaded.result.toOption.map (·.toList) = some [("B", "2")] := by decide +kernel
    cases hloaded : loaded.result with
    | error error => simp [hloaded, Except.toOption] at hlist
    | ok set =>
        obtain ⟨fetched, -, hadds⟩ := hload _ _ _ _ _ set hloaded
        rw [hloaded] at hlist
        exact ⟨fetched, set, hadds, Option.some.inj hlist⟩

end Loader

end SecretEnv
