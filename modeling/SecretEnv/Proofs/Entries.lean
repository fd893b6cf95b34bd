import SecretEnv.Merge

/-!
# Maps and their entries

**A map filled from entries holds the last value for each key**, and a map listed in any order gives
itself back when it is filled from that list. What is proved here of `Variables.ofEntries` and of
`Visiting` is all that later modules know of them.
-/

namespace SecretEnv

section

variable {α β : Type} [BEq α]

/-- The value of the last entry for a key. -/
def lastValue? (entries : List (α × β)) (key : α) : Option β := entries.reverse.lookup key

/-- The first entry counts only where none behind it has its key. -/
theorem lastValue?_cons (entry : α × β) (entries : List (α × β)) (key : α) :
    lastValue? (entry :: entries) key =
      (lastValue? entries key).or (if key == entry.1 then some entry.2 else none) := by
  obtain ⟨first, value⟩ := entry
  simp only [lastValue?, List.reverse_cons, List.lookup_append, List.lookup_cons, List.lookup_nil]
  congr 1
  cases key == first <;> rfl

/-- The last value for a key, of entries whose values have been changed one by one. -/
theorem lastValue?_map {γ : Type} (f : β → γ) (entries : List (α × β)) (key : α) :
    lastValue? (entries.map fun entry => (entry.1, f entry.2)) key =
      (lastValue? entries key).map f := by
  induction entries with
  | nil => rfl
  | cons entry entries ih =>
      rw [List.map_cons, lastValue?_cons, lastValue?_cons, ih, Option.map_or]
      congr 1
      split <;> rfl

variable [LawfulBEq α]

/-- Where no other key becomes the same one, the last value for a key is found under what it
becomes. -/
theorem lastValue?_map_key {γ : Type} [BEq γ] [LawfulBEq γ] {f : α → γ}
    {entries : List (α × β)} {key : α} (h : ∀ entry ∈ entries, f entry.1 = f key → entry.1 = key) :
    lastValue? (entries.map fun entry => (f entry.1, entry.2)) (f key) =
      lastValue? entries key := by
  induction entries with
  | nil => rfl
  | cons entry entries ih =>
      obtain ⟨hentry, hentries⟩ := List.forall_mem_cons.mp h
      rw [List.map_cons, lastValue?_cons, lastValue?_cons, ih hentries]
      congr 1
      by_cases hkey : key = entry.1
      · simp [hkey]
      · have hne : f key ≠ f entry.1 := fun heq => hkey (hentry heq.symm).symm
        simp [hkey, hne]

theorem mem_of_lastValue? {entries : List (α × β)} {key : α} {value : β}
    (h : lastValue? entries key = some value) : (key, value) ∈ entries := by
  obtain ⟨pre, post, hsplit, -⟩ := List.lookup_eq_some_iff.mp h
  rw [← List.mem_reverse, hsplit]
  simp

/-- A key has a last entry if it has one at all. -/
theorem isSome_lastValue?_iff {entries : List (α × β)} {key : α} :
    (lastValue? entries key).isSome ↔ key ∈ entries.map Prod.fst := by
  rw [lastValue?, List.lookup_isSome_iff]
  simp only [List.mem_reverse, beq_iff_eq, List.mem_map, eq_comm (a := key)]

theorem lastValue?_eq_none_iff {entries : List (α × β)} {key : α} :
    lastValue? entries key = none ↔ key ∉ entries.map Prod.fst := by
  rw [← isSome_lastValue?_iff, Option.not_isSome_iff_eq_none]

/-- Where no key stands twice, the last entry for a key is the only one. -/
theorem lastValue?_eq_some_iff {entries : List (α × β)} (hnodup : (entries.map Prod.fst).Nodup)
    {key : α} {value : β} : lastValue? entries key = some value ↔ (key, value) ∈ entries := by
  refine ⟨mem_of_lastValue?, fun hmem => ?_⟩
  induction entries with
  | nil => cases hmem
  | cons entry entries ih =>
      rw [List.map_cons, List.nodup_cons] at hnodup
      rw [lastValue?_cons]
      rcases List.mem_cons.mp hmem with rfl | hmem
      · -- none of the others has its key
        have hnone : lastValue? entries key = none := lastValue?_eq_none_iff.mpr hnodup.1
        simp [hnone]
      · rw [ih hnodup.2 hmem]
        rfl

/-- Behind the last entry for a key no other counts for it. -/
theorem lastValue?_of_last {key : α} {after : List (α × β)} (h : key ∉ after.map Prod.fst)
    (before : List (α × β)) (value : β) :
    lastValue? (before ++ (key, value) :: after) key = some value := by
  have hnone : after.reverse.lookup key = none := lastValue?_eq_none_iff.mpr h
  rw [lastValue?, List.reverse_append, List.reverse_cons, List.append_assoc, List.lookup_append,
    hnone, Option.none_or, List.singleton_append, List.lookup_cons_self]

theorem lastValue?_perm {entries others : List (α × β)} (h : entries.Perm others)
    (hnodup : (entries.map Prod.fst).Nodup) (key : α) :
    lastValue? entries key = lastValue? others key := by
  apply Option.ext
  intro value
  rw [lastValue?_eq_some_iff hnodup, h.mem_iff,
    lastValue?_eq_some_iff ((h.map Prod.fst).nodup_iff.mp hnodup)]

variable [Ord α] [Std.TransOrd α] [Std.LawfulEqOrd α]

theorem getElem?_foldl_insert (table : Std.ExtTreeMap α β) (entries : List (α × β)) (key : α) :
    (entries.foldl (fun table entry => table.insert entry.1 entry.2) table)[key]? =
      (lastValue? entries key).or table[key]? := by
  induction entries generalizing table with
  | nil => rfl
  | cons entry entries ih =>
      rw [List.foldl_cons, ih, lastValue?_cons, Std.ExtTreeMap.getElem?_insert, Option.or_assoc]
      congr 1
      by_cases h : key = entry.1
      · simp [h]
      · simp [h, Ne.symm h]

end

section

variable {α β : Type} [Ord α] [Std.TransOrd α]

/-- A key of a map has a value. -/
theorem mem_iff_exists_getElem? {table : Std.ExtTreeMap α β} {key : α} :
    key ∈ table ↔ ∃ value, table[key]? = some value := by
  rw [Std.ExtTreeMap.mem_iff_isSome_getElem?, Option.isSome_iff_exists]

variable [Std.LawfulEqOrd α]

/-- No key stands twice in the list of a map. -/
theorem nodup_keys_toList (table : Std.ExtTreeMap α β) : (table.toList.map Prod.fst).Nodup := by
  rw [List.Nodup, List.pairwise_map]
  refine table.distinct_keys_toList.imp ?_
  intro a b hab heq
  exact hab (by rw [heq]; exact Std.ReflCmp.compare_self)

end

/-! ### Variables -/

namespace Variables

theorem getElem?_ofEntries (entries : List (String × String)) (name : String) :
    (ofEntries entries)[name]? = lastValue? entries name := by
  rw [ofEntries, getElem?_foldl_insert]
  simp

/-- Entries that list a map, in whatever order, fill it again. -/
theorem ofEntries_of_perm {entries : List (String × String)} {vars : Variables}
    (h : entries.Perm vars.toList) : ofEntries entries = vars := by
  have hnodup : (entries.map Prod.fst).Nodup :=
    (h.map Prod.fst).nodup_iff.mpr (nodup_keys_toList vars)
  apply Std.ExtTreeMap.ext_getElem?
  intro name
  apply Option.ext
  intro value
  rw [getElem?_ofEntries, lastValue?_eq_some_iff hnodup, h.mem_iff,
    Std.ExtTreeMap.mem_toList_iff_getElem?_eq_some]

end Variables

/-! ### Orders of visiting -/

namespace Visiting

variable (visiting : Visiting) (vars : Variables)

theorem nodup_names : ((visiting.entries vars).map Prod.fst).Nodup :=
  ((visiting.perm vars).map Prod.fst).nodup_iff.mpr (nodup_keys_toList vars)

theorem mem_entries {name value : String} :
    (name, value) ∈ visiting.entries vars ↔ vars[name]? = some value := by
  rw [(visiting.perm vars).mem_iff, Std.ExtTreeMap.mem_toList_iff_getElem?_eq_some]

end Visiting

end SecretEnv
