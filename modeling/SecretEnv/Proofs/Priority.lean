import SecretEnv.Proofs.Credential
import SecretEnv.Proofs.Entries
import SecretEnv.Proofs.Trim

/-!
# Which source gives the credential

**The first source with anything but blanks in it gives the credential, and none after it is ever
heard** (`Credential.resolve_takes_the_first_that_shows`). Whether a text is blank is asked where
the sources are gone through, where a file gives its entry and where a credential is made; these ask
the same, so a text that is passed over at one of them is passed over at all, and no credential that
is made fails. A file speaks by its last entry for the credential alone, be it blank.
-/

namespace SecretEnv

/-- How many sources go before this one. -/
def CredentialSource.rank : CredentialSource → Nat
  | argument => 0
  | environment => 1
  | overrideFile => 2

namespace Credential

/-- What each source holds. In a file it is the last entry that counts. -/
def held (explicit environment : Option String) (file : Option OverrideFile) :
    CredentialSource → Option String
  | .argument => explicit
  | .environment => environment
  | .overrideFile => file.bind fun file => lastValue? file.entries Names.credential

/-- A source says nothing: it is not there, or blank. -/
def Silent (text : Option String) : Prop := ∀ value ∈ text, Text.isBlankText value = true

/-- The credential is taken from a source: it is what trimming leaves of a text with a character
that shows, and the sources that go before say nothing. -/
def TakenFrom (held : CredentialSource → Option String) (source : CredentialSource)
    (credential : Credential) : Prop :=
  (∀ earlier : CredentialSource, earlier.rank < source.rank → Silent (held earlier)) ∧
    ∃ value, held source = some value ∧ (∃ c ∈ value.toList, Text.isBlank c = false) ∧
      Text.TrimsTo value.toList credential.expose.toList

/-- Two texts that differ by blanks at their ends, if they are there. -/
inductive Padded : Option String → Option String → Prop where
  | absent : Padded none none
  | around {before after : String} (hbefore : Text.isBlankText before = true)
      (hafter : Text.isBlankText after = true) (value : String) :
      Padded (some value) (some (before ++ value ++ after))

/-! ### Texts that show -/

theorem isBlankText_eq_false_iff {value : String} :
    Text.isBlankText value = false ↔ ∃ c ∈ value.toList, Text.isBlank c = false := by
  rw [Text.isBlankText, List.all_eq_false]
  simp only [Bool.not_eq_true]

theorem not_silent_iff {text : Option String} :
    ¬ Silent text ↔ ∃ value, text = some value ∧ Text.isBlankText value = false := by
  simp [Silent]

/-- A text makes a credential exactly if it shows. -/
theorem ofText_eq_ok_iff {value : String} {credential : Credential} :
    ofText value = .ok credential ↔ (∃ c ∈ value.toList, Text.isBlank c = false) ∧
      Text.TrimsTo value.toList credential.expose.toList := by
  rw [← isBlankText_eq_false_iff, Text.trimsTo_iff]
  cases hblank : Text.isBlankText value with
  | true =>
      have hnil : Text.trimChars value.toList = [] := (Text.trimChars_eq_nil_iff _).mpr hblank
      simp [ofText, Text.trim, hnil]
  | false =>
      rw [ofText_of_not_blank hblank, Except.ok.injEq]
      constructor
      · intro h
        rw [← h]
        exact ⟨rfl, (Text.toList_trim value).symm⟩
      · intro h
        rw [Text.trim, h.2, String.ofList_toList]

/-! ### Going through the sources -/

section

variable {explicit environment : Option String} {file : Option OverrideFile}
  {rest : List (Option String × CredentialSource)} {text : Option String}
  {source : CredentialSource} {credential : Credential}

theorem firstOf_of_silent (h : Silent text) : firstOf ((text, source) :: rest) = firstOf rest := by
  cases text with
  | none => rfl
  | some value => rw [firstOf, if_pos (h value rfl)]

theorem firstOf_of_shows {value : String} (hvalue : ofText value = .ok credential) :
    firstOf ((some value, source) :: rest) = .ok (credential, source) := by
  have hblank := isBlankText_eq_false_iff.mpr (ofText_eq_ok_iff.mp hvalue).1
  rw [firstOf, if_neg (by simp [hblank]), hvalue]
  rfl

theorem resolve_eq_firstOf_held :
    resolve explicit environment file =
      firstOf [(held explicit environment file .argument, .argument),
        (held explicit environment file .environment, .environment),
        (held explicit environment file .overrideFile, .overrideFile)] := by
  rw [resolve_eq]
  simp only [held, OverrideFile.vars, Variables.getElem?_ofEntries]

/-- What is taken from a source is found: those before it are passed over. -/
theorem resolve_of_takenFrom (h : TakenFrom (held explicit environment file) source credential) :
    resolve explicit environment file = .ok (credential, source) := by
  obtain ⟨hearlier, value, hvalue, hshows, htrims⟩ := h
  have hmade : ofText value = .ok credential := ofText_eq_ok_iff.mpr ⟨hshows, htrims⟩
  rw [resolve_eq_firstOf_held]
  cases source with
  | argument => rw [hvalue, firstOf_of_shows hmade]
  | environment =>
      rw [firstOf_of_silent (hearlier .argument (by decide)), hvalue, firstOf_of_shows hmade]
  | overrideFile =>
      rw [firstOf_of_silent (hearlier .argument (by decide)),
        firstOf_of_silent (hearlier .environment (by decide)), hvalue, firstOf_of_shows hmade]

theorem resolve_of_silent (h : ∀ source, Silent (held explicit environment file source)) :
    resolve explicit environment file = .error nowhere := by
  rw [resolve_eq_firstOf_held, firstOf_of_silent (h _), firstOf_of_silent (h _),
    firstOf_of_silent (h _)]
  rfl

/-- A source says something that no source before it has said, or none says anything. -/
theorem silent_or_takenFrom (held : CredentialSource → Option String) :
    (∀ source, Silent (held source)) ∨ ∃ source credential, TakenFrom held source credential := by
  have htaken : ∀ {source : CredentialSource}, ¬ Silent (held source) →
      (∀ earlier : CredentialSource, earlier.rank < source.rank → Silent (held earlier)) →
      ∃ source credential, TakenFrom held source credential := by
    intro source hshows hearlier
    obtain ⟨value, hvalue, hblank⟩ := not_silent_iff.mp hshows
    exact ⟨source, ⟨Text.trim value⟩, hearlier, value, hvalue, isBlankText_eq_false_iff.mp hblank,
      Text.trimsTo_iff.mpr (Text.toList_trim value).symm⟩
  by_cases hargument : Silent (held .argument)
  · by_cases henvironment : Silent (held .environment)
    · by_cases hfile : Silent (held .overrideFile)
      · refine .inl fun source => ?_
        cases source <;> assumption
      · refine .inr (htaken hfile fun earlier hrank => ?_)
        cases earlier with
        | argument => exact hargument
        | environment => exact henvironment
        | overrideFile => exact absurd hrank (lt_irrefl _)
    · refine .inr (htaken henvironment fun earlier hrank => ?_)
      cases earlier with
      | argument => exact hargument
      | environment => exact absurd hrank (lt_irrefl _)
      | overrideFile => exact absurd hrank (by decide)
  · refine .inr (htaken hargument fun earlier hrank => ?_)
    exact absurd hrank (Nat.not_lt_zero _)

theorem resolve_eq_ok_iff : resolve explicit environment file = .ok (credential, source) ↔
    TakenFrom (held explicit environment file) source credential := by
  refine ⟨fun h => ?_, resolve_of_takenFrom⟩
  rcases silent_or_takenFrom (held explicit environment file) with hsilent | ⟨found, made, htaken⟩
  · rw [resolve_of_silent hsilent] at h
    cases h
  · rw [resolve_of_takenFrom htaken] at h
    cases h
    exact htaken

theorem resolve_eq_error_iff {error : Error} :
    resolve explicit environment file = .error error ↔
      error = nowhere ∧ ∀ source, Silent (held explicit environment file source) := by
  constructor
  · intro h
    rcases silent_or_takenFrom (held explicit environment file) with hsilent | ⟨_, _, htaken⟩
    · rw [resolve_of_silent hsilent] at h
      cases h
      exact ⟨rfl, hsilent⟩
    · rw [resolve_of_takenFrom htaken] at h
      cases h
  · intro h
    rw [h.1]
    exact resolve_of_silent h.2

end

/-! ### What does not matter -/

/-- What a text says: the credential it makes, if it makes one. -/
def said (text : Option String) : Option Credential :=
  text.bind fun value => (ofText value).toOption

theorem said_eq_some_iff {text : Option String} {credential : Credential} :
    said text = some credential ↔ ∃ value, text = some value ∧
      (∃ c ∈ value.toList, Text.isBlank c = false) ∧
      Text.TrimsTo value.toList credential.expose.toList := by
  have hmade (value : String) :
      (ofText value).toOption = some credential ↔ ofText value = .ok credential := by
    cases ofText value <;> simp [Except.toOption]
  simp only [said, Option.bind_eq_some_iff, hmade, ofText_eq_ok_iff]

theorem said_eq_none_iff {text : Option String} : said text = none ↔ Silent text := by
  rw [← not_iff_not, not_silent_iff, ← Ne, Option.ne_none_iff_exists']
  constructor
  · intro ⟨credential, hsaid⟩
    obtain ⟨value, hvalue, hshows, -⟩ := said_eq_some_iff.mp hsaid
    exact ⟨value, hvalue, isBlankText_eq_false_iff.mpr hshows⟩
  · intro ⟨value, hvalue, hblank⟩
    refine ⟨⟨Text.trim value⟩, ?_⟩
    rw [hvalue, said, Option.bind_some, ofText_of_not_blank hblank]
    rfl

/-- Blanks at the ends make no difference to what is said. -/
theorem Padded.said_eq {text padded : Option String} (h : Padded text padded) :
    said padded = said text := by
  cases h with
  | absent => rfl
  | @around before after hbefore hafter value =>
      have htrim : Text.trim (before ++ value ++ after) = Text.trim value := by
        rw [Text.trim, String.toList_append, String.toList_append,
          Text.trimChars_padded hbefore hafter, Text.trim]
      rw [said, said, Option.bind_some, Option.bind_some, ofText, ofText, htrim]

section

variable {held held' : CredentialSource → Option String} {source : CredentialSource}
  {credential : Credential}

theorem takenFrom_iff : TakenFrom held source credential ↔
    (∀ earlier : CredentialSource, earlier.rank < source.rank → said (held earlier) = none) ∧
      said (held source) = some credential := by
  simp only [TakenFrom, said_eq_none_iff, said_eq_some_iff]

/-- Only what is said up to the source that a credential is taken from matters. -/
theorem TakenFrom.congr (h : TakenFrom held source credential)
    (hsame : ∀ other : CredentialSource, other.rank ≤ source.rank →
      said (held' other) = said (held other)) : TakenFrom held' source credential := by
  rw [takenFrom_iff] at h ⊢
  obtain ⟨hearlier, hsource⟩ := h
  refine ⟨fun earlier hrank => ?_, ?_⟩
  · rw [hsame earlier hrank.le]
    exact hearlier earlier hrank
  · rw [hsame source le_rfl]
    exact hsource

end

/-- What is taken shows, and has no blanks to trim. -/
theorem TakenFrom.trimmed {held : CredentialSource → Option String} {source : CredentialSource}
    {credential : Credential} (h : TakenFrom held source credential) :
    credential.expose ≠ "" ∧ Text.trim credential.expose = credential.expose := by
  obtain ⟨-, value, -, ⟨c, hc, hshows⟩, htrims⟩ := h
  have hkept := Text.trimsTo_iff.mp htrims
  constructor
  · intro hempty
    rw [hempty] at hkept
    have hblank := List.all_eq_true.mp ((Text.trimChars_eq_nil_iff value.toList).mp hkept) c hc
    rw [hshows] at hblank
    cases hblank
  · rw [Text.trim, ← hkept, Text.trimChars_trimChars, hkept, String.ofList_toList]

section

variable {explicit environment explicit' environment' : Option String}
  {file file' : Option OverrideFile}

/-- Sources that say the same give the same. -/
theorem resolve_congr (h : ∀ source, said (held explicit' environment' file' source) =
      said (held explicit environment file source)) :
    resolve explicit' environment' file' = resolve explicit environment file := by
  rcases silent_or_takenFrom (held explicit environment file) with hsilent | ⟨_, _, htaken⟩
  · rw [resolve_of_silent hsilent, resolve_of_silent]
    intro source
    rw [← said_eq_none_iff, h source, said_eq_none_iff]
    exact hsilent source
  · rw [resolve_of_takenFrom htaken, resolve_of_takenFrom (htaken.congr fun other _ => h other)]

/-- A file that says nothing of the credential may as well not be there. -/
theorem resolve_of_silent_file (h : Silent (held explicit environment file .overrideFile)) :
    resolve explicit environment file = resolve explicit environment none := by
  apply resolve_congr
  intro source
  cases source with
  | argument => rfl
  | environment => rfl
  | overrideFile => exact said_eq_none_iff.mpr h

end

/-- **Credential priority.** For all texts that the caller and the environment may give and every
override file: a source gives a credential exactly if it is the first one with a character that
shows, and the credential is what trimming leaves of its text; the only error is that no source has
such a character. What is found is not empty and has no blanks to trim, and it stays what it is
whatever the later sources hold. Blanks at the ends of any text make no difference, a text makes no
credential only if it is blank, and a file speaks by its last entry for the credential: if that is
blank, or there is none, the file may as well not be there. -/
theorem resolve_takes_the_first_that_shows (explicit environment : Option String)
    (file : Option OverrideFile) :
    let holds := held explicit environment file
    let result := resolve explicit environment file
    (∀ credential source, result = .ok (credential, source) ↔ TakenFrom holds source credential) ∧
    (∀ error, result = .error error ↔ error = nowhere ∧ ∀ source, Silent (holds source)) ∧
    (∀ credential source, result = .ok (credential, source) →
      credential.expose ≠ "" ∧ Text.trim credential.expose = credential.expose ∧
      ∀ explicit' environment' file',
        (∀ other : CredentialSource, other.rank ≤ source.rank →
          held explicit' environment' file' other = holds other) →
        resolve explicit' environment' file' = result) ∧
    (∀ explicit' environment' file',
      (∀ source, Padded (holds source) (held explicit' environment' file' source)) →
      resolve explicit' environment' file' = result) ∧
    (∀ value, (∃ error, ofText value = .error error) ↔ Silent (some value)) ∧
    (∀ path before value after, Names.credential ∉ after.map Prod.fst →
      file = some ⟨path, before ++ (Names.credential, value) :: after⟩ →
      holds .overrideFile = some value ∧
        (Silent (some value) → result = resolve explicit environment none)) ∧
    (∀ path entries, Names.credential ∉ entries.map Prod.fst → file = some ⟨path, entries⟩ →
      result = resolve explicit environment none) := by
  intro holds result
  refine ⟨fun credential source => resolve_eq_ok_iff, fun error => resolve_eq_error_iff, ?_, ?_,
    ?_, ?_, ?_⟩
  · intro credential source hresult
    have htaken := resolve_eq_ok_iff.mp hresult
    obtain ⟨hne, htrim⟩ := htaken.trimmed
    refine ⟨hne, htrim, ?_⟩
    intro explicit' environment' file' hsame
    rw [hresult]
    exact resolve_of_takenFrom (htaken.congr fun other hrank => by rw [hsame other hrank])
  · intro explicit' environment' file' hpadded
    exact resolve_congr fun source => (hpadded source).said_eq
  · intro value
    rw [← said_eq_none_iff, said, Option.bind_some]
    cases ofText value <;> simp [Except.toOption]
  · intro path before value after hlast hfile
    subst hfile
    have hvalue : holds .overrideFile = some value := lastValue?_of_last hlast before value
    refine ⟨hvalue, fun hsilent => resolve_of_silent_file ?_⟩
    rw [← hvalue] at hsilent
    exact hsilent
  · intro path entries hnone hfile
    subst hfile
    refine resolve_of_silent_file ?_
    rw [held, Option.bind_some, lastValue?_eq_none_iff.mpr hnone]
    exact said_eq_none_iff.mp rfl

/-- An ideographic space does not show, and the later of two entries counts. -/
example : resolve none (some " \u3000") (some ⟨"o.env", [("ENVKEY", "a"), ("ENVKEY", " b\t")]⟩) =
    .ok (⟨"b"⟩, .overrideFile) := by
  rfl

end Credential

end SecretEnv
