import SecretEnv.Proofs.Entries
import SecretEnv.Proofs.Fetch

/-!
# Names in override files

**Every name that an override file gives a value is one that an environment can hold**
(`OverrideFile.validName_of_read`). The reader of lines takes letters, digits, `_` and points into a
name and stops at anything else, so that a name is never empty and neither a `=` nor a NUL can be
part of it. What the values are does not matter.
-/

namespace SecretEnv

namespace Override

/-- A name as the reader of lines takes it off a line. -/
def SpellsName (name : List Char) : Prop := name ≠ [] ∧ ∀ c ∈ name, continuesName c = true

theorem continuesName_of_startsName {c : Char} (h : startsName c = true) :
    continuesName c = true := by
  simp only [startsName, Bool.or_eq_true] at h
  simp only [continuesName, Char.isAlphanum, Bool.or_eq_true]
  rcases h with halpha | hunderscore
  · exact .inl (.inl (.inl halpha))
  · exact .inl (.inr hunderscore)

theorem spellsName_of_readName? {cs name rest : List Char}
    (h : readName? cs = some (name, rest)) : SpellsName name := by
  cases cs with
  | nil => cases h
  | cons c cs =>
      rw [readName?] at h
      split at h
      · rename_i hstarts
        cases h
        constructor
        · simp [continuesName_of_startsName hstarts]
        · intro d hd
          exact List.all_eq_true.mp List.all_takeWhile d hd
      · cases h

/-- The name in front of the `=` is read as a name, whether or not `export` announced it. -/
theorem spellsName_of_readKey {cs name rest : List Char} (h : readKey cs = .ok (name, rest)) :
    SpellsName name := by
  unfold readKey at h
  split at h
  · cases h
  rename_i first afterFirst hfirst
  split at h
  · cases h
    exact spellsName_of_readName? hfirst
  split at h
  · split at h
    · cases h
    rename_i second afterSecond hsecond
    split at h
    · cases h
      exact spellsName_of_readName? hsecond
    · cases h
  · cases h

/-- Nothing that a name is spelled with ends a name in an environment. -/
theorem validName_of_spellsName {name : List Char} (h : SpellsName name) :
    Environment.validName (String.ofList name) = true := by
  obtain ⟨hne, hspelled⟩ := h
  have hequals : '=' ∉ name := by
    intro hmem
    exact absurd (hspelled '=' hmem) (by decide)
  have hnul : '\x00' ∉ name := by
    intro hmem
    exact absurd (hspelled '\x00' hmem) (by decide)
  simp [Environment.validName, hne, hequals, hnul]

theorem validName_of_readLine {lookup : String → String} {line name value : String}
    (h : readLine lookup line = .ok (some (name, value))) :
    Environment.validName name = true := by
  simp only [readLine] at h
  split at h
  · cases h
  split at h
  · cases h
  rename_i key rest hkey
  have hvalid := validName_of_spellsName (spellsName_of_readKey hkey)
  split at h
  · cases h
    exact hvalid
  split at h
  · cases h
    exact hvalid
  · cases h

theorem validName_of_readLines {env : Environment} {known : Variables} {content : List Octets}
    {entries : List (String × String)} (h : readLines env known content = .ok entries) :
    ∀ entry ∈ entries, Environment.validName entry.1 = true := by
  induction content generalizing known entries with
  | nil =>
      cases h
      exact nofun
  | cons octets rest ih =>
      rw [readLines] at h
      split at h
      · cases h
      split at h
      · cases h
      · exact ih h
      · rename_i name value hline
        cases hrest : readLines env (known.insert name value) rest with
        | error stop =>
            rw [hrest] at h
            cases h
        | ok others =>
            rw [hrest] at h
            cases h
            intro entry hentry
            rcases List.mem_cons.mp hentry with hfirst | hother
            · rw [hfirst]
              exact validName_of_readLine hline
            · exact ih hrest entry hother

end Override

namespace OverrideFile

theorem validName_of_read {files : FileTree} {env : Environment} {path : String}
    {file : OverrideFile} (h : read files env path = .ok file) :
    ∀ name ∈ file.vars, Environment.validName name = true := by
  intro name hname
  obtain ⟨content, executable, -, hentries⟩ := find_of_read h
  obtain ⟨value, hvalue⟩ := mem_iff_exists_getElem?.mp hname
  rw [vars, Variables.getElem?_ofEntries] at hvalue
  exact Override.validName_of_readLines hentries _ (mem_of_lastValue? hvalue)

end OverrideFile

end SecretEnv
