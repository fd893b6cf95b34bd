import SecretEnv.CredentialSource
import SecretEnv.Proofs.Trim

/-!
# The choice of a credential

**Of the texts that may be the credential the first one that is not blank is taken, without the
blanks around it.** Either there is one (`Chooses`) or all of them are absent or blank
(`AllBlank`), and this is all that the modules about fetches know of `Credential.resolve`. That an
override file hides its own entry where that is blank does not matter: such an entry is passed over
anyway.
-/

namespace SecretEnv

namespace Credential

/-- The texts that may be the credential, in the order in which they count. -/
def texts (explicit environment : Option String) (file : Option OverrideFile) :
    List (Option String) :=
  [explicit, environment, file.bind fun file => file.vars[Names.credential]?]

/-- All texts are absent or blank. -/
def AllBlank (texts : List (Option String)) : Prop :=
  ∀ text, some text ∈ texts → Text.isBlankText text = true

/-- The first text that is there and not blank, without the blanks around it, is the credential. -/
def Chooses (texts : List (Option String)) (credential : String) : Prop :=
  ∃ before text after, texts = before ++ some text :: after ∧ AllBlank before ∧
    Text.isBlankText text = false ∧ credential = Text.trim text

theorem AllBlank.cons {text : Option String} {texts : List (Option String)}
    (h : ∀ shown, text = some shown → Text.isBlankText shown = true) (hrest : AllBlank texts) :
    AllBlank (text :: texts) := by
  intro shown hmem
  rcases List.mem_cons.mp hmem with heq | hmem
  · exact h shown heq.symm
  · exact hrest shown hmem

theorem Chooses.cons {text : Option String} {texts : List (Option String)} {credential : String}
    (h : ∀ shown, text = some shown → Text.isBlankText shown = true)
    (hrest : Chooses texts credential) : Chooses (text :: texts) credential := by
  obtain ⟨before, chosen, after, rfl, hbefore, hchosen, hcredential⟩ := hrest
  exact ⟨text :: before, chosen, after, rfl, hbefore.cons h, hchosen, hcredential⟩

theorem allBlank_or_chooses (texts : List (Option String)) :
    AllBlank texts ∨ ∃ credential, Chooses texts credential := by
  induction texts with
  | nil => exact .inl nofun
  | cons text texts ih =>
      by_cases h : ∀ shown, text = some shown → Text.isBlankText shown = true
      · rcases ih with hall | ⟨credential, hchooses⟩
        · exact .inl (hall.cons h)
        · exact .inr ⟨credential, hchooses.cons h⟩
      · simp only [not_forall] at h
        obtain ⟨shown, rfl, hshown⟩ := h
        exact .inr ⟨_, [], shown, texts, rfl, nofun, by simpa using hshown, rfl⟩

/-! ### The search -/

theorem ofText_of_not_blank {text : String} (h : Text.isBlankText text = false) :
    ofText text = .ok ⟨Text.trim text⟩ := by
  have hne : Text.trimChars text.toList ≠ [] := by
    rw [Ne, Text.trimChars_eq_nil_iff]
    simpa [Text.isBlankText] using h
  have hshown : (Text.trim text).isEmpty = false := by
    simpa [Text.trim, String.isEmpty_iff] using hne
  simp [ofText, hshown]

theorem firstOf_of_allBlank {candidates : List (Option String × CredentialSource)}
    (h : AllBlank (candidates.map Prod.fst)) : firstOf candidates = .error nowhere := by
  induction candidates with
  | nil => rfl
  | cons candidate rest ih =>
      have hrest := ih fun text hmem => h text (List.mem_cons_of_mem _ hmem)
      obtain ⟨_ | text, source⟩ := candidate
      · exact hrest
      · rw [firstOf, if_pos (h text List.mem_cons_self)]
        exact hrest

theorem firstOf_of_chooses {candidates : List (Option String × CredentialSource)}
    {credential : String} (h : Chooses (candidates.map Prod.fst) credential) :
    ∃ source, firstOf candidates = .ok (⟨credential⟩, source) := by
  obtain ⟨before, text, after, hsplit, hbefore, htext, rfl⟩ := h
  induction candidates generalizing before with
  | nil => simp at hsplit
  | cons candidate rest ih =>
      obtain ⟨shown, source⟩ := candidate
      cases before with
      | nil =>
          rw [List.map_cons, List.nil_append, List.cons.injEq] at hsplit
          obtain ⟨rfl, -⟩ := hsplit
          refine ⟨source, ?_⟩
          rw [firstOf, if_neg (by simp [htext]), ofText_of_not_blank htext]
          rfl
      | cons first before =>
          rw [List.map_cons, List.cons_append, List.cons.injEq] at hsplit
          obtain ⟨rfl, hrest⟩ := hsplit
          obtain ⟨found, hfound⟩ :=
            ih before hrest fun text hmem => hbefore text (List.mem_cons_of_mem _ hmem)
          refine ⟨found, ?_⟩
          cases shown with
          | none => exact hfound
          | some shown =>
              rw [firstOf, if_pos (hbefore shown List.mem_cons_self)]
              exact hfound

/-- Candidates that are blank may as well be absent. -/
theorem firstOf_filter (candidates : List (Option String × CredentialSource)) :
    firstOf (candidates.map fun candidate =>
      (candidate.1.filter fun text => !Text.isBlankText text, candidate.2)) =
      firstOf candidates := by
  induction candidates with
  | nil => rfl
  | cons candidate rest ih =>
      obtain ⟨_ | text, source⟩ := candidate
      · exact ih
      · by_cases h : Text.isBlankText text = true
        · simp only [List.map_cons, Option.filter, h, Bool.not_true, Bool.false_eq_true, if_false,
            firstOf, if_true]
          exact ih
        · have hkept : (some text).filter (fun text => !Text.isBlankText text) = some text :=
            Option.filter_some_pos (by simpa using h)
          rw [List.map_cons, hkept, firstOf, firstOf, if_neg h, if_neg h]

theorem resolve_eq (explicit environment : Option String) (file : Option OverrideFile) :
    resolve explicit environment file =
      firstOf [(explicit, .argument), (environment, .environment),
        (file.bind fun file => file.vars[Names.credential]?, .overrideFile)] := by
  have hfile : (file.bind OverrideFile.credential?).filter (fun text => !Text.isBlankText text) =
      (file.bind fun file => file.vars[Names.credential]?).filter
        fun text => !Text.isBlankText text := by
    cases file with
    | none => rfl
    | some file => simp [OverrideFile.credential?]
  -- blank candidates are left out on both sides, and then the files give the same
  rw [resolve, ← firstOf_filter, List.map_cons, List.map_cons, List.map_cons, List.map_nil, hfile,
    ← firstOf_filter [(explicit, _), _, _]]
  rfl

theorem resolve_of_allBlank {explicit environment : Option String} {file : Option OverrideFile}
    (h : AllBlank (texts explicit environment file)) :
    resolve explicit environment file = .error nowhere := by
  rw [resolve_eq]
  exact firstOf_of_allBlank h

theorem resolve_of_chooses {explicit environment : Option String} {file : Option OverrideFile}
    {credential : String} (h : Chooses (texts explicit environment file) credential) :
    ∃ source, resolve explicit environment file = .ok (⟨credential⟩, source) := by
  rw [resolve_eq]
  exact firstOf_of_chooses h

end Credential

end SecretEnv
