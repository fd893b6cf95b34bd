import SecretEnv.Proofs.Effect

/-!
# Merges in different orders

**The order in which a merge visits a map matters exactly if the merge can break off at different
places** (`merge_ignores_order_iff`). Where the store takes every name, each order writes what is
absent. Where it refuses one, the merge ends there: the error is that of the first refused name, and
of the absent ones those are written that come before it. So the order is without consequence only
if one name is refused and there is nothing to write.
-/

namespace SecretEnv

/-- The order that begins with a given name, if that is there, and goes on as the names do. -/
def Visiting.beginning (name : String) : Visiting where
  entries vars :=
    match vars[name]? with
    | some value => (name, value) :: vars.toList.erase (name, value)
    | none => vars.toList
  perm vars := by
    cases hvalue : vars[name]? with
    | none => exact .rfl
    | some value =>
        have hmem := Std.ExtTreeMap.mem_toList_iff_getElem?_eq_some.mpr hvalue
        exact (List.perm_cons_erase hmem).symm

theorem Visiting.exists_entries_beginning {vars : Variables} {name : String} (h : name ∈ vars) :
    ∃ value rest, (Visiting.beginning name).entries vars = (name, value) :: rest := by
  obtain ⟨value, hvalue⟩ := mem_iff_exists_getElem?.mp h
  exact ⟨value, vars.toList.erase (name, value), by simp [Visiting.beginning, hvalue]⟩

namespace Store

variable {store : Store} {secrets : Variables}

/-! ### Orders that begin with a given name -/

/-- A merge that begins with a refused name ends there and has done nothing. -/
theorem merge_beginning_of_not_accepts {name : String} (hname : name ∈ secrets)
    (hrefused : store.accepts name = false) :
    store.merge secrets (.beginning name) = ⟨.error (Environment.invalidName name), store⟩ := by
  obtain ⟨value, rest, hentries⟩ := Visiting.exists_entries_beginning hname
  rw [merge, mergeEntries, hentries, mergeAfter, setIfAbsent_eq,
    if_neg (by simp [hrefused])]

/-- A merge that begins with an absent name leaves it written, whatever comes after it. -/
theorem contains_merge_beginning {name : String} (hname : name ∈ secrets)
    (haccepts : store.accepts name = true) (habsent : store.has name = false) :
    (store.merge secrets (.beginning name)).store.contents.contains (Utf8.encode name) = true := by
  obtain ⟨value, rest, hentries⟩ := Visiting.exists_entries_beginning hname
  rw [merge, mergeEntries, hentries, mergeAfter, setIfAbsent_eq,
    if_pos haccepts, if_neg (by simp [habsent])]
  -- the rest of the merge keeps what the first write left
  have hwritten : (store.write name value).contents[Utf8.encode name]? =
      some (Utf8.encode value) := by
    rw [contents_write]
    simp
  rw [← Std.ExtTreeMap.isSome_getElem?_eq_contains,
    keeps_mergeAfter _ (store.write name value) _ _ _ hwritten]
  rfl

/-! ### Maps whose merge is the same in every order -/

/-- All names of a map are taken. -/
def TakesAll (store : Store) (secrets : Variables) : Prop :=
  ∀ name ∈ secrets, store.accepts name = true

/-- One name of a map is refused, and all others are there already. -/
def RefusesOneOnly (store : Store) (secrets : Variables) : Prop :=
  ∃ refused ∈ secrets, store.accepts refused = false ∧
    ∀ name ∈ secrets, name ≠ refused → store.accepts name = true ∧ store.has name = true

/-- Where all names are taken, a merge is determined by what it adds. -/
theorem merge_eq_of_takesAll (h : store.TakesAll secrets) (first second : Visiting) :
    store.merge secrets first = store.merge secrets second := by
  obtain ⟨set, hset, hadds⟩ := merge_of_accepts first h
  obtain ⟨other, hother, haddsOther⟩ := merge_of_accepts second h
  have hsame : set = other := hadds.restricted.trans haddsOther.restricted.symm
  calc store.merge secrets first
      = ⟨.ok set, store.overlay set⟩ := by rw [← hset, ← hadds.union]
    _ = ⟨.ok other, store.overlay other⟩ := by rw [hsame]
    _ = store.merge secrets second := by rw [← hother, ← haddsOther.union]

/-- A map in memory takes all names, so that no order makes a difference to it. -/
theorem merge_memory_eq (vars secrets : Variables) (first second : Visiting) :
    (Store.memory vars).merge secrets first = (Store.memory vars).merge secrets second :=
  merge_eq_of_takesAll (fun _ _ => rfl) first second

/-- Where one name is refused and the others are there, a merge ends at that name and writes
nothing. -/
theorem merge_of_refusesOneOnly {refused : String} (hmem : refused ∈ secrets)
    (hrefused : store.accepts refused = false)
    (hothers : ∀ name ∈ secrets, name ≠ refused →
      store.accepts name = true ∧ store.has name = true) (visiting : Visiting) :
    store.merge secrets visiting = ⟨.error (Environment.invalidName refused), store⟩ := by
  have hname : ∀ entry ∈ visiting.entries secrets, entry.1 ∈ secrets := by
    rintro ⟨name, value⟩ hentry
    exact mem_iff_exists_getElem?.mpr ⟨value, (visiting.mem_entries secrets).mp hentry⟩
  -- what is refused is the one name, and what is not refused is there
  have hfind : ∃ value, store.refused? (visiting.entries secrets) = some (refused, value) := by
    cases hfind : store.refused? (visiting.entries secrets) with
    | none =>
        rw [(refused?_eq_none_iff visiting).mp hfind refused hmem] at hrefused
        cases hrefused
    | some entry =>
        obtain ⟨name, value⟩ := entry
        refine ⟨value, ?_⟩
        by_contra hne
        have hother : name ≠ refused := fun heq => hne (by rw [heq])
        have haccepts := (hothers name (hname _ (List.mem_of_find?_eq_some hfind)) hother).1
        have hnot := List.find?_some hfind
        simp [haccepts] at hnot
  have hfresh : store.fresh (store.admitted (visiting.entries secrets)) = [] := by
    simp only [fresh, List.filter_eq_nil_iff]
    intro entry hentry
    have hmem := hname entry ((List.takeWhile_subset _) hentry)
    have hne : entry.1 ≠ refused := by
      rintro rfl
      rw [accepts_of_mem_admitted hentry] at hrefused
      cases hrefused
    simp [(hothers entry.1 hmem hne).2]
  obtain ⟨value, hfind⟩ := hfind
  rw [merge_eq, hfresh, hfind]
  rfl

/-- A refused name that is visited first or second makes a difference, unless nothing else of the
map is refused or absent. -/
theorem held_of_merge_beginning_eq {refused name : String}
    (hrefused : refused ∈ secrets) (hnot : store.accepts refused = false)
    (hname : name ∈ secrets) (hne : name ≠ refused)
    (h : store.merge secrets (.beginning name) = store.merge secrets (.beginning refused)) :
    store.accepts name = true ∧ store.has name = true := by
  rw [merge_beginning_of_not_accepts hrefused hnot] at h
  cases haccepts : store.accepts name with
  | false =>
      -- each order ends with the error of its own first name
      rw [merge_beginning_of_not_accepts hname haccepts] at h
      simp only [Merged.mk.injEq, Except.error.injEq, Environment.invalidName,
        Error.environment.injEq] at h
      exact absurd h.1.1 hne
  | true =>
      cases hhas : store.has name with
      | true => exact ⟨rfl, rfl⟩
      | false =>
          -- one order has written the name, the other has not
          have hheld := contains_merge_beginning hname haccepts hhas
          rw [h, ← has_eq_contains haccepts, hhas] at hheld
          cases hheld

/-- **When the order of a merge is without consequence.** All orders give the same result and the
same store exactly if the store takes all names of the map, or refuses one and has all others. -/
theorem merge_ignores_order_iff (store : Store) (secrets : Variables) :
    (∀ first second : Visiting, store.merge secrets first = store.merge secrets second) ↔
      store.TakesAll secrets ∨ store.RefusesOneOnly secrets := by
  constructor
  · intro h
    by_cases htakes : store.TakesAll secrets
    · exact .inl htakes
    · simp only [TakesAll, not_forall, Bool.not_eq_true] at htakes
      obtain ⟨refused, hmem, hrefused⟩ := htakes
      refine .inr ⟨refused, hmem, hrefused, fun name hname hne => ?_⟩
      exact held_of_merge_beginning_eq hmem hrefused hname hne (h _ _)
  · rintro (htakes | ⟨refused, hmem, hrefused, hothers⟩) first second
    · exact merge_eq_of_takesAll htakes first second
    · rw [merge_of_refusesOneOnly hmem hrefused hothers first,
        merge_of_refusesOneOnly hmem hrefused hothers second]

/-- A merge of `A` and `B=` into an empty environment leaves `A` there in the one order and nothing
in the other. -/
theorem merge_depends_on_order :
    let secrets := Variables.ofEntries [("A", "1"), ("B=", "2")]
    ((Store.process ∅).merge secrets (.beginning "A")).store.contents.toList = [([0x41], [0x31])] ∧
      ((Store.process ∅).merge secrets (.beginning "B=")).store.contents.toList = [] := by
  decide +kernel

end Store

end SecretEnv
