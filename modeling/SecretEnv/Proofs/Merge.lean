import SecretEnv.Proofs.Store

/-!
# What a merge does

**A merge writes, of the entries before the first refused name, those that are absent**
(`mergeAfter_eq`). Whether a name is absent is asked of the store as it has become by then, but as
no name is visited twice this is the store that the merge began with. The error, if there is one, is
that of the first refused name; what was written before stays written.
-/

namespace SecretEnv.Store

/-- The entries before the first one whose name is refused. -/
def admitted (store : Store) (entries : List (String × String)) : List (String × String) :=
  entries.takeWhile fun entry => store.accepts entry.1

/-- The first entry whose name is refused. -/
def refused? (store : Store) (entries : List (String × String)) : Option (String × String) :=
  entries.find? fun entry => !store.accepts entry.1

/-- The entries whose name is absent. -/
def fresh (store : Store) (entries : List (String × String)) : List (String × String) :=
  entries.filter fun entry => !store.has entry.1

/-- The store with entries written to it, one after the other. -/
def writeAll (store : Store) (entries : List (String × String)) : Store :=
  entries.foldl (fun store entry => store.write entry.1 entry.2) store

/-- How a merge ends that has written given variables. -/
def verdict (written : Variables) : Option (String × String) → Except Error Variables
  | none => .ok written
  | some entry => .error (Environment.invalidName entry.1)

/-! ### Many writes -/

theorem contents_writeAll (store : Store) (entries : List (String × String)) :
    (store.writeAll entries).contents =
      (entries.map Environment.encodeEntry).foldl
        (fun env entry => env.insert entry.1 entry.2) store.contents := by
  induction entries generalizing store with
  | nil => rfl
  | cons entry rest ih =>
      rw [writeAll, List.foldl_cons, ← writeAll, ih, contents_write]
      rfl

/-- What is written is there. -/
theorem contains_contents_writeAll (store : Store) {entries : List (String × String)}
    {entry : String × String} (hentry : entry ∈ entries) :
    (store.writeAll entries).contents.contains (Utf8.encode entry.1) = true := by
  have hlast : (lastValue? (entries.map Environment.encodeEntry) (Utf8.encode entry.1)).isSome := by
    rw [isSome_lastValue?_iff]
    exact List.mem_map_of_mem (List.mem_map_of_mem hentry)
  rw [contents_writeAll, ← Std.ExtTreeMap.isSome_getElem?_eq_contains, getElem?_foldl_insert,
    Option.isSome_or, hlast, Bool.true_or]

/-! ### One entry more -/

section

variable {store : Store} {name : String} (value : String) (rest : List (String × String))

theorem admitted_cons_of_accepts (h : store.accepts name = true) :
    store.admitted ((name, value) :: rest) = (name, value) :: store.admitted rest := by
  simp [admitted, h]

theorem admitted_cons_of_not_accepts (h : ¬ store.accepts name = true) :
    store.admitted ((name, value) :: rest) = [] := by
  simp [admitted, h]

theorem refused?_cons_of_accepts (h : store.accepts name = true) :
    store.refused? ((name, value) :: rest) = store.refused? rest := by
  simp [refused?, h]

theorem refused?_cons_of_not_accepts (h : ¬ store.accepts name = true) :
    store.refused? ((name, value) :: rest) = some (name, value) := by
  simp [refused?, h]

theorem fresh_cons_of_has (h : store.has name = true) :
    store.fresh ((name, value) :: rest) = store.fresh rest := by
  simp [fresh, h]

theorem fresh_cons_of_not_has (h : ¬ store.has name = true) :
    store.fresh ((name, value) :: rest) = (name, value) :: store.fresh rest := by
  simp [fresh, h]

end

@[simp] theorem admitted_write (store : Store) (name value : String)
    (entries : List (String × String)) :
    (store.write name value).admitted entries = store.admitted entries := by
  simp [admitted]

@[simp] theorem refused?_write (store : Store) (name value : String)
    (entries : List (String × String)) :
    (store.write name value).refused? entries = store.refused? entries := by
  simp [refused?]

/-! ### The loop -/

theorem accepts_of_mem_admitted {store : Store} {entries : List (String × String)}
    {entry : String × String} (h : entry ∈ store.admitted entries) :
    store.accepts entry.1 = true := by
  unfold admitted at h
  exact List.all_eq_true.mp List.all_takeWhile entry h

/-- What is written under one name leaves the entries of other names as absent as they were. -/
theorem fresh_write {store : Store} {entries : List (String × String)} {name : String}
    (value : String) (haccepts : ∀ entry ∈ entries, store.accepts entry.1 = true)
    (hname : name ∉ entries.map Prod.fst) :
    (store.write name value).fresh entries = store.fresh entries := by
  apply List.filter_congr
  intro entry hentry
  have hne : name ≠ entry.1 := fun heq => hname (heq ▸ List.mem_map_of_mem hentry)
  rw [has_write value (haccepts entry hentry), beq_eq_false_iff_ne.mpr hne, Bool.false_or]

theorem mergeAfter_eq {entries : List (String × String)} (hnodup : (entries.map Prod.fst).Nodup)
    (written : Variables) (store : Store) :
    mergeAfter written store entries =
      ⟨verdict ((store.fresh (store.admitted entries)).foldl
          (fun vars entry => vars.insert entry.1 entry.2) written) (store.refused? entries),
        store.writeAll (store.fresh (store.admitted entries))⟩ := by
  induction entries generalizing written store with
  | nil => rfl
  | cons entry rest ih =>
      obtain ⟨name, value⟩ := entry
      rw [List.map_cons, List.nodup_cons] at hnodup
      rw [mergeAfter, setIfAbsent_eq]
      by_cases haccepts : store.accepts name = true
      · rw [if_pos haccepts, admitted_cons_of_accepts value rest haccepts,
          refused?_cons_of_accepts value rest haccepts]
        by_cases hhas : store.has name = true
        · rw [if_pos hhas, fresh_cons_of_has value _ hhas]
          exact ih hnodup.2 written store
        · -- the rest is merged into a store that differs by this one name, which the rest has not
          have hfresh : (store.write name value).fresh (store.admitted rest) =
              store.fresh (store.admitted rest) := by
            refine fresh_write value (fun entry => accepts_of_mem_admitted) ?_
            exact fun hmem => hnodup.1 (List.map_subset _ (List.takeWhile_subset _) hmem)
          have htail := ih hnodup.2 (written.insert name value) (store.write name value)
          rw [admitted_write, refused?_write, hfresh] at htail
          rw [if_neg hhas, fresh_cons_of_not_has value _ hhas]
          exact htail
      · rw [if_neg haccepts, admitted_cons_of_not_accepts value rest haccepts,
          refused?_cons_of_not_accepts value rest haccepts]
        rfl

/-- A merge of a map, whatever the order in which its entries are visited. -/
theorem merge_eq (store : Store) (secrets : Variables) (visiting : Visiting) :
    store.merge secrets visiting =
      ⟨verdict (Variables.ofEntries (store.fresh (store.admitted (visiting.entries secrets))))
          (store.refused? (visiting.entries secrets)),
        store.writeAll (store.fresh (store.admitted (visiting.entries secrets)))⟩ :=
  mergeAfter_eq (visiting.nodup_names secrets) ∅ store

/-- A store keeps its variables in a merge, whether or not that gets to its end. -/
theorem keeps_mergeAfter (written : Variables) (store : Store)
    (entries : List (String × String)) : Keeps store (mergeAfter written store entries).store := by
  induction entries generalizing written store with
  | nil => exact Keeps.refl store
  | cons entry rest ih =>
      obtain ⟨name, value⟩ := entry
      rw [mergeAfter]
      cases hset : store.setIfAbsent name value with
      | error error => exact Keeps.refl store
      | ok outcome =>
          obtain ⟨done, after⟩ := outcome
          have hkeeps := keeps_setIfAbsent hset
          cases done with
          | true => exact hkeeps.trans (ih (written.insert name value) after)
          | false => exact hkeeps.trans (ih written after)

theorem keeps_merge (store : Store) (secrets : Variables) (visiting : Visiting) :
    Keeps store (store.merge secrets visiting).store :=
  keeps_mergeAfter ∅ store (visiting.entries secrets)

end SecretEnv.Store
