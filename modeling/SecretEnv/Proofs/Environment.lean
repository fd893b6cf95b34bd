import Mathlib.Data.List.Nodup
import Mathlib.Data.List.TakeWhile
import SecretEnv.Proofs.Entries
import SecretEnv.Proofs.Utf8

/-!
# The environment of a process, by its entries

**Under a valid name the environment is asked for exactly one entry**, the one whose octets are the
name's: the search through `name=value` texts can only be misled by a `=` or a NUL, and a valid name
has neither. Where the whole environment is listed as text, each entry is there or not for itself
(`getElem?_vars_eq_some_iff`).
-/

namespace SecretEnv

namespace Environment

variable {env : Environment} {name : String}

/-- The octets of a valid name are there, and none of them is a `=` or a NUL. -/
theorem encode_of_validName (h : validName name = true) :
    Utf8.encode name ≠ [] ∧ equalsSign ∉ Utf8.encode name ∧ 0 ∉ Utf8.encode name := by
  simp only [validName, Bool.and_eq_true, Bool.not_eq_true', List.contains_eq_mem,
    decide_eq_false_iff_not] at h
  obtain ⟨⟨hempty, hequals⟩, hnul⟩ := h
  refine ⟨Utf8.encode_ne_nil ?_, ?_, ?_⟩
  · rintro rfl
    simp at hempty
  · exact Utf8.not_mem_encode (c := '=') rfl (by decide) hequals
  · exact Utf8.not_mem_encode (c := '\x00') rfl (by decide) hnul

theorem cutName_of_not_mem {name : Octets} (h : equalsSign ∉ name) : cutName name = (name, []) := by
  cases name with
  | nil => rfl
  | cons b rest =>
      have hplain : ∀ c ∈ rest, (c != equalsSign) = true := by
        intro c hc
        exact bne_iff_ne.mpr fun heq => h (List.mem_cons_of_mem b (heq ▸ hc))
      rw [cutName, List.takeWhile_eq_self_iff.mpr hplain, List.dropWhile_eq_nil_iff.mpr hplain]

theorem raw?_encode (env : Environment) (h : validName name = true) :
    env.raw? (Utf8.encode name) = env[Utf8.encode name]? := by
  obtain ⟨hnonempty, hequals, hnul⟩ := encode_of_validName h
  rw [raw?, if_neg (by simpa using hnul), cutName_of_not_mem hequals]
  cases hname : Utf8.encode name with
  | nil => exact absurd hname hnonempty
  | cons b rest => rfl

/-- A valid name is found exactly where the environment has an entry for it, whatever its value. -/
theorem has_of_validName (env : Environment) (h : validName name = true) :
    env.has name = env.contains (Utf8.encode name) := by
  rw [has, raw?_encode env h, Std.ExtTreeMap.isSome_getElem?_eq_contains]

/-- Under a valid name the environment is asked for that entry's value, as far as it is text. -/
theorem value?_of_validName (env : Environment) (h : validName name = true) :
    env.value? name = env[Utf8.encode name]?.bind Utf8.decode? := by
  rw [value?, raw?_encode env h]

/-! ### Text read from it -/

theorem textEntry?_eq_some_iff {entry : Octets × Octets} {name value : String} :
    textEntry? entry = some (name, value) ↔
      Utf8.encode name = entry.1 ∧ Utf8.encode value = entry.2 := by
  rw [← Utf8.decode?_eq_some_iff, ← Utf8.decode?_eq_some_iff, textEntry?]
  cases Utf8.decode? entry.1 <;> cases Utf8.decode? entry.2 <;> simp

/-- What is listed as text are the texts of entries. -/
theorem mem_textEntries_iff {env : Environment} {name value : String} :
    (name, value) ∈ env.toList.filterMap textEntry? ↔
      env[Utf8.encode name]? = some (Utf8.encode value) := by
  rw [List.mem_filterMap, ← Std.ExtTreeMap.mem_toList_iff_getElem?_eq_some]
  constructor
  · rintro ⟨entry, hmem, htext⟩
    obtain ⟨hname, hvalue⟩ := textEntry?_eq_some_iff.mp htext
    rwa [hname, hvalue]
  · intro hmem
    exact ⟨_, hmem, textEntry?_eq_some_iff.mpr ⟨rfl, rfl⟩⟩

/-- The variables that are text are the entries whose octets are those of texts. -/
theorem getElem?_vars_eq_some_iff {env : Environment} {name value : String} :
    env.vars[name]? = some value ↔ env[Utf8.encode name]? = some (Utf8.encode value) := by
  rw [vars, Variables.getElem?_ofEntries, ← mem_textEntries_iff]
  refine ⟨mem_of_lastValue?, fun hmem => ?_⟩
  -- whatever the last entry of that name holds, it is the one entry of the environment
  obtain ⟨other, hother⟩ := Option.isSome_iff_exists.mp
    (isSome_lastValue?_iff.mpr (List.mem_map_of_mem hmem))
  have hheld := mem_textEntries_iff.mp (mem_of_lastValue? hother)
  rw [mem_textEntries_iff.mp hmem, Option.some.injEq] at hheld
  rw [hother, Utf8.encode_injective hheld]

/-! ### Text written to it -/

/-- An entry of a map of texts, in octets. -/
def encodeEntry (entry : String × String) : Octets × Octets :=
  (Utf8.encode entry.1, Utf8.encode entry.2)

theorem foldl_assign_eq (env : Environment) (entries : List (String × String)) :
    entries.foldl (fun env entry => env.assign entry.1 entry.2) env =
      (entries.map encodeEntry).foldl (fun env entry => env.insert entry.1 entry.2) env := by
  rw [List.foldl_map]
  rfl

theorem nodup_map_encodeEntry {entries : List (String × String)}
    (h : (entries.map Prod.fst).Nodup) : ((entries.map encodeEntry).map Prod.fst).Nodup := by
  have hfst : (entries.map encodeEntry).map Prod.fst = (entries.map Prod.fst).map Utf8.encode := by
    simp [encodeEntry]
  rw [hfst]
  exact h.map fun _ _ hst => Utf8.encode_injective hst

theorem getElem?_ofVariables (vars : Variables) (octets : Octets) :
    (ofVariables vars)[octets]? = lastValue? (vars.toList.map encodeEntry) octets := by
  rw [ofVariables, foldl_assign_eq, getElem?_foldl_insert]
  simp

/-- An environment made of variables holds their texts in octets, and nothing else. -/
theorem getElem?_ofVariables_eq_some_iff {vars : Variables} {octets held : Octets} :
    (ofVariables vars)[octets]? = some held ↔
      ∃ name value, vars[name]? = some value ∧ Utf8.encode name = octets ∧
        Utf8.encode value = held := by
  rw [getElem?_ofVariables,
    lastValue?_eq_some_iff (nodup_map_encodeEntry (nodup_keys_toList vars))]
  simp only [List.mem_map, Prod.exists, Std.ExtTreeMap.mem_toList_iff_getElem?_eq_some, encodeEntry,
    Prod.mk.injEq]

theorem getElem?_ofVariables_encode (vars : Variables) (name : String) :
    (ofVariables vars)[Utf8.encode name]? = vars[name]?.map Utf8.encode := by
  apply Option.ext
  intro held
  rw [getElem?_ofVariables_eq_some_iff, Option.map_eq_some_iff]
  constructor
  · rintro ⟨other, value, hvalue, hname, rfl⟩
    exact ⟨value, Utf8.encode_injective hname ▸ hvalue, rfl⟩
  · rintro ⟨value, hvalue, rfl⟩
    exact ⟨name, value, hvalue, rfl, rfl⟩

theorem contains_ofVariables_encode (vars : Variables) (name : String) :
    (ofVariables vars).contains (Utf8.encode name) = vars.contains name := by
  rw [← Std.ExtTreeMap.isSome_getElem?_eq_contains, getElem?_ofVariables_encode, Option.isSome_map,
    Std.ExtTreeMap.isSome_getElem?_eq_contains]

end Environment

end SecretEnv
