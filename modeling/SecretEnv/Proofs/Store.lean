import SecretEnv.Proofs.Environment

/-!
# What a store holds and what a write does to it

**Both kinds of stores hold octets under octets** (`contents`), so that what is said of one is said
of the other. `setIfAbsent_eq` is all that a write does: a name that is not accepted is an error, a
name that is held changes nothing, and any other adds one entry. No module below opens
`Store.setIfAbsent` again.
-/

namespace SecretEnv.Store

/-- What a store holds, name by name, both as octets. -/
def contents : Store → Environment
  | memory vars => Environment.ofVariables vars
  | process env => env

/-- Whether a store can hold a variable of a name. -/
def accepts : Store → String → Bool
  | memory _, _ => true
  | process _, name => Environment.validName name

/-- The store with a variable written to it. -/
def write : Store → String → String → Store
  | memory vars, name, value => .memory (vars.insert name value)
  | process env, name, value => .process (env.assign name value)

@[simp] theorem contents_memory (vars : Variables) :
    (Store.memory vars).contents = Environment.ofVariables vars := rfl

/-- A store is asked for its presence of a name by the name's octets. -/
theorem has_eq_contains {store : Store} {name : String} (h : store.accepts name = true) :
    store.has name = store.contents.contains (Utf8.encode name) := by
  cases store with
  | memory vars => exact (Environment.contains_ofVariables_encode vars name).symm
  | process env => exact Environment.has_of_validName env h

theorem has_iff_exists_held {store : Store} {name : String} (h : store.accepts name = true) :
    store.has name = true ↔ ∃ held, store.contents[Utf8.encode name]? = some held := by
  rw [has_eq_contains h, Std.ExtTreeMap.contains_iff_mem, mem_iff_exists_getElem?]

/-- What a write does if the name is absent. -/
theorem setIfAbsent_eq (store : Store) (name value : String) :
    store.setIfAbsent name value =
      if store.accepts name then
        if store.has name then .ok (false, store) else .ok (true, store.write name value)
      else .error (Environment.invalidName name) := by
  cases store with
  | memory vars => rfl
  | process env =>
      simp only [setIfAbsent, Environment.setIfAbsent, accepts, has, write]
      by_cases hvalid : Environment.validName name = true
      · by_cases hhas : env.has name = true <;> simp [hvalid, hhas, Except.map]
      · simp [hvalid, Except.map]

/-! ### A write -/

@[simp] theorem accepts_write (store : Store) (name value other : String) :
    (store.write name value).accepts other = store.accepts other := by
  cases store <;> rfl

theorem contents_write (store : Store) (name value : String) :
    (store.write name value).contents =
      store.contents.insert (Utf8.encode name) (Utf8.encode value) := by
  cases store with
  | process env => rfl
  | memory vars =>
      apply Std.ExtTreeMap.ext_getElem?
      intro octets
      apply Option.ext
      intro held
      simp only [write, contents_memory, Std.ExtTreeMap.getElem?_insert,
        Environment.getElem?_ofVariables_eq_some_iff, Std.LawfulEqOrd.compare_eq_iff_eq]
      -- no other name has the same octets
      by_cases hname : Utf8.encode name = octets
      · subst hname
        rw [if_pos rfl]
        constructor
        · rintro ⟨other, text, hread, hother, rfl⟩
          rw [if_pos (Utf8.encode_injective hother).symm] at hread
          rw [Option.some.inj hread]
        · rintro ⟨rfl⟩
          exact ⟨name, value, by simp, rfl, rfl⟩
      · rw [if_neg hname, Environment.getElem?_ofVariables_eq_some_iff]
        constructor
        · rintro ⟨other, text, hread, rfl, rfl⟩
          rw [if_neg (by rintro rfl; exact hname rfl)] at hread
          exact ⟨other, text, hread, rfl, rfl⟩
        · rintro ⟨other, text, hread, rfl, rfl⟩
          exact ⟨other, text, by rw [if_neg (by rintro rfl; exact hname rfl), hread], rfl, rfl⟩

/-- A write makes its own name present and no other. -/
theorem has_write {store : Store} {name other : String} (value : String)
    (hother : store.accepts other = true) :
    (store.write name value).has other = (name == other || store.has other) := by
  rw [has_eq_contains (by rwa [accepts_write]), has_eq_contains hother, contents_write,
    Std.ExtTreeMap.contains_insert]
  congr 1
  by_cases h : name = other
  · simp [h]
  · have hne : Utf8.encode name ≠ Utf8.encode other := fun henc => h (Utf8.encode_injective henc)
    simp [h, hne]

/-! ### Stores that hold at least what another holds -/

/-- Every variable of the one store is in the other, with the same value. -/
def Keeps (before after : Store) : Prop :=
  ∀ name value : Octets, before.contents[name]? = some value → after.contents[name]? = some value

theorem Keeps.refl (store : Store) : Keeps store store := fun _ _ h => h

theorem Keeps.trans {first second third : Store} (h₁ : Keeps first second)
    (h₂ : Keeps second third) : Keeps first third :=
  fun name value h => h₂ name value (h₁ name value h)

/-- A name that is absent is written beside all that is held. -/
theorem keeps_write {store : Store} {name : String} (value : String)
    (haccepts : store.accepts name = true) (habsent : store.has name = false) :
    Keeps store (store.write name value) := by
  intro octets held hheld
  rw [has_eq_contains haccepts] at habsent
  -- what is held is held under another name, for this one is absent
  have hne : Utf8.encode name ≠ octets := by
    rintro rfl
    rw [← Std.ExtTreeMap.isSome_getElem?_eq_contains, hheld] at habsent
    cases habsent
  rw [contents_write, Std.ExtTreeMap.getElem?_insert, if_neg (by simpa using hne)]
  exact hheld

theorem keeps_setIfAbsent {store after : Store} {name value : String} {written : Bool}
    (h : store.setIfAbsent name value = .ok (written, after)) : Keeps store after := by
  rw [setIfAbsent_eq] at h
  split at h
  · rename_i haccepts
    split at h
    · cases h
      exact Keeps.refl store
    · rename_i habsent
      cases h
      exact keeps_write value haccepts (by simpa using habsent)
  · cases h

end SecretEnv.Store
