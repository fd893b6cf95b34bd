import Mathlib.Data.List.Infix
import SecretEnv.Credential

/-!
# What is shown of a credential

**What is shown of a credential depends on its first four characters alone**, so credentials that
agree there cannot be told apart. That hides neither a credential of at most four characters nor one
whose rest looks like the mask; these are shown in full, and displayed so exactly then
(`Credential.shown_in_full_iff`). For whoever looks into the program the text is quoted, so there
the escapes and the words around the quotes count too.
-/

namespace SecretEnv

/-! ### A part of a text -/

/-- A part without a certain character lies on one side of it. -/
theorem infix_append_cons_iff {α : Type} {part before after : List α} {mark : α}
    (h : mark ∉ part) :
    part <:+: before ++ mark :: after ↔ part <:+: before ∨ part <:+: after := by
  constructor
  · intro hpart
    rcases List.infix_append_iff.mp hpart with hbefore | hafter | ⟨left, right, rfl, hleft, hright⟩
    · exact .inl hbefore
    · rcases List.infix_cons_iff.mp hafter with hprefix | hafter
      · cases part with
        | nil => exact .inl List.nil_infix
        | cons first rest =>
            obtain ⟨rfl, -⟩ := List.cons_prefix_cons.mp hprefix
            simp at h
      · exact .inr hafter
    · -- what crosses the mark would hold it
      cases right with
      | nil => exact .inl (by simpa using hleft.isInfix)
      | cons first rest =>
          obtain ⟨rfl, -⟩ := List.cons_prefix_cons.mp hright
          simp at h
  · rintro (hbefore | hafter)
    · exact hbefore.trans (List.prefix_append ..).isInfix
    · exact hafter.trans ((List.suffix_cons ..).trans (List.suffix_append ..)).isInfix

/-- A list is a part of its own start and a mask if and only if its rest looks like a mask. -/
theorem infix_take_append_replicate_iff {α : Type} {whole : List α} {shown masked : Nat}
    {star : α} :
    whole <:+: whole.take shown ++ List.replicate masked star ↔
      ∃ n ≤ masked, whole.drop shown = List.replicate n star := by
  constructor
  · rintro ⟨before, after, h⟩
    have hrest : whole.drop shown ++ after = List.replicate (masked - before.length) star := by
      have hdrop := congrArg (List.drop (before.length + (whole.take shown).length)) h
      rw [List.append_assoc, List.drop_length_add_append, Nat.add_comm before.length,
        List.drop_length_add_append, List.drop_replicate] at hdrop
      rw [← hdrop]
      conv_rhs => rw [← List.take_append_drop shown whole]
      rw [List.append_assoc]
      simp
    obtain ⟨hlength, hstars, -⟩ := List.append_eq_replicate_iff.mp hrest
    exact ⟨_, by omega, hstars⟩
  · rintro ⟨n, hn, hstars⟩
    conv_lhs => rw [← List.take_append_drop shown whole, hstars]
    rw [← Nat.add_sub_cancel' hn, List.replicate_add, ← List.append_assoc]
    exact (List.prefix_append ..).isInfix

namespace Text

/-! ### Characters between quotes -/

/-- One of the letters, digits and marks from the space to the tilde. -/
def IsMark (c : Char) : Prop := 0x20 ≤ c.toNat ∧ c.toNat < 0x7F

instance (c : Char) : Decidable (IsMark c) := inferInstanceAs (Decidable (_ ∧ _))

/-- No range of unprintable characters reaches the marks. -/
theorem isUnprintable_of_isMark {c : Char} (h : IsMark c) : isUnprintable c = false := by
  have hranges :
      unprintableBelow1000.all (fun range => range.2 < 0x20 || 0x7F ≤ range.1) = true := by
    decide +kernel
  obtain ⟨hlow, hhigh⟩ := h
  rw [isUnprintable, if_pos (by omega), inRanges, List.any_eq_false]
  intro range hrange
  have hapart := List.all_eq_true.mp hranges range hrange
  simp only [Bool.or_eq_true, decide_eq_true_eq, Bool.and_eq_true, not_and] at hapart ⊢
  omega

theorem isMark_of_mem_toDigits {n : Nat} {c : Char} (h : c ∈ Nat.toDigits 16 n) : IsMark c := by
  have hdigit : ∀ d : Fin 16, IsMark d.val.digitChar := by decide
  induction n using Nat.strongRecOn with
  | ind n ih =>
      by_cases hn : n < 16
      · rw [Nat.toDigits_of_lt_base hn, List.mem_singleton] at h
        exact h ▸ hdigit ⟨n, hn⟩
      · rw [Nat.toDigits_of_base_le (by decide) (by omega), List.mem_append,
          List.mem_singleton] at h
        rcases h with hhigh | rfl
        · exact ih (n / 16) (by omega) hhigh
        · exact hdigit ⟨n % 16, by omega⟩

theorem isMark_of_escapeLetter? {c letter : Char} (h : escapeLetter? c = some letter) :
    IsMark letter := by
  unfold escapeLetter? at h
  split at h
  case h_7 => cases h
  all_goals
    cases h
    decide

/-- A character that prints and has a letter is a quote or a backslash. -/
theorem escapeLetter?_eq_none {c : Char} (hprints : isUnprintable c = false) (hquote : c ≠ '"')
    (hslash : c ≠ '\\') : escapeLetter? c = none := by
  unfold escapeLetter?
  split
  case h_7 => rfl
  case h_5 => exact absurd rfl hquote
  case h_6 => exact absurd rfl hslash
  all_goals cases hprints

/-- Everything between quotes prints. -/
theorem isUnprintable_of_mem_quotedChar {c shown : Char} (h : shown ∈ quotedChar c) :
    isUnprintable shown = false := by
  unfold quotedChar at h
  split at h
  case h_1 letter hletter =>
      simp only [List.mem_cons, List.not_mem_nil, or_false] at h
      rcases h with rfl | rfl
      · exact isUnprintable_of_isMark (by decide)
      · exact isUnprintable_of_isMark (isMark_of_escapeLetter? hletter)
  case h_2 =>
      by_cases hc : isUnprintable c = true
      · rw [if_pos hc] at h
        simp only [List.mem_append, List.mem_cons, List.not_mem_nil, or_false] at h
        rcases h with ((rfl | rfl | rfl) | hdigit) | rfl
        · exact isUnprintable_of_isMark (by decide)
        · exact isUnprintable_of_isMark (by decide)
        · exact isUnprintable_of_isMark (by decide)
        · exact isUnprintable_of_isMark (isMark_of_mem_toDigits hdigit)
        · exact isUnprintable_of_isMark (by decide)
      · rw [if_neg hc, List.mem_singleton] at h
        exact h ▸ Bool.eq_false_iff.mpr hc

theorem quotedChar_eq_singleton {c : Char} (hprints : isUnprintable c = false) (hquote : c ≠ '"')
    (hslash : c ≠ '\\') : quotedChar c = [c] := by
  simp [quotedChar, escapeLetter?_eq_none hprints hquote hslash, hprints]

theorem toList_quoted (text : String) :
    (quoted text).toList = '"' :: (text.toList.flatMap quotedChar ++ ['"']) := by
  rw [quoted, String.toList_ofList, List.append_assoc, List.singleton_append]

/-- A character that prints takes no more than two between quotes. -/
theorem length_quotedChar_le {c : Char} (h : isUnprintable c = false) :
    (quotedChar c).length ≤ 2 := by
  unfold quotedChar
  cases escapeLetter? c <;> simp [h]

end Text

namespace Credential

/-- The whole credential stands somewhere in a text. -/
def InFull (credential : Credential) (text : String) : Prop :=
  credential.expose.toList <:+: text.toList

variable {credential : Credential}

/-! ### The displayed text -/

theorem toList_redacted (credential : Credential) :
    credential.redacted.toList =
      credential.expose.toList.take shownLength ++ List.replicate shownLength '*' := by
  rw [redacted, String.toList_append, String.toList_ofList]
  rfl

theorem inFull_displayed_iff :
    credential.InFull credential.displayed ↔
      ∃ n ≤ 4, credential.expose.toList.drop shownLength = List.replicate n '*' := by
  rw [InFull, displayed, toList_redacted]
  exact infix_take_append_replicate_iff

/-! ### The inspected text -/

theorem toList_inspected (credential : Credential) :
    credential.inspected.toList =
      "Credential(".toList ++
        '"' :: (credential.redacted.toList.flatMap Text.quotedChar ++ '"' :: [')']) := by
  have hclosing : ")".toList = [')'] := by decide
  rw [inspected, String.toList_append, String.toList_append, Text.toList_quoted, hclosing,
    List.append_assoc, List.cons_append, List.append_assoc, List.singleton_append]

theorem isUnprintable_of_mem_inspected {c : Char} (h : c ∈ credential.inspected.toList) :
    Text.isUnprintable c = false := by
  have hword : "Credential(".toList.all (Text.IsMark ·) = true := by decide
  simp only [toList_inspected, List.mem_append, List.mem_cons, List.not_mem_nil, or_false,
    List.mem_flatMap] at h
  rcases h with hopening | rfl | ⟨shown, -, hc⟩ | rfl | rfl
  · have hmark := List.all_eq_true.mp hword c hopening
    exact Text.isUnprintable_of_isMark (of_decide_eq_true hmark)
  · exact Text.isUnprintable_of_isMark (by decide)
  · exact Text.isUnprintable_of_mem_quotedChar hc
  · exact Text.isUnprintable_of_isMark (by decide)
  · exact Text.isUnprintable_of_isMark (by decide)

/-- Characters that print take little room, so the text is short. -/
theorem length_inspected_le (h : ∀ c ∈ credential.expose.toList, Text.isUnprintable c = false) :
    credential.inspected.toList.length ≤ 26 := by
  have hquoted : ∀ shown : List Char, (∀ c ∈ shown, Text.isUnprintable c = false) →
      (shown.flatMap Text.quotedChar).length ≤ 2 * shown.length := by
    intro shown hshown
    induction shown with
    | nil => simp
    | cons c rest ih =>
        have hfirst := Text.length_quotedChar_le (hshown c List.mem_cons_self)
        have hrest := ih fun c hc => hshown c (List.mem_cons_of_mem _ hc)
        simp only [List.flatMap_cons, List.length_append, List.length_cons]
        omega
  have hstart := hquoted (credential.expose.toList.take shownLength) fun c hc =>
    h c (List.mem_of_mem_take hc)
  have hfour : (credential.expose.toList.take shownLength).length ≤ 4 := List.length_take_le ..
  have hmask : ((List.replicate shownLength '*').flatMap Text.quotedChar).length = 4 := by
    decide +kernel
  have hopening : "Credential(".toList.length = 11 := by decide
  simp only [toList_inspected, toList_redacted, List.flatMap_append, List.length_append,
    List.length_cons, List.length_nil, hmask, hopening]
  omega

/-- Without quotes and backslashes, what prints is between the quotes as it is displayed. -/
theorem flatMap_quotedChar_redacted
    (hprints : ∀ c ∈ credential.expose.toList, Text.isUnprintable c = false)
    (hquote : '"' ∉ credential.expose.toList) (hslash : '\\' ∉ credential.expose.toList) :
    credential.redacted.toList.flatMap Text.quotedChar = credential.redacted.toList := by
  have hsame : ∀ c ∈ credential.redacted.toList, Text.quotedChar c = [c] := by
    intro c hc
    rw [toList_redacted, List.mem_append] at hc
    rcases hc with hstart | hmask
    · have hmem := List.mem_of_mem_take hstart
      exact Text.quotedChar_eq_singleton (hprints c hmem) (fun h => hquote (h ▸ hmem))
        fun h => hslash (h ▸ hmem)
    · obtain rfl := List.eq_of_mem_replicate hmask
      decide +kernel
  rw [List.flatMap_congr hsame, List.flatMap_singleton']

theorem inFull_inspected_iff (hquote : '"' ∉ credential.expose.toList)
    (hslash : '\\' ∉ credential.expose.toList) :
    credential.InFull credential.inspected ↔
      credential.expose.toList <:+: "Credential(".toList ∨
        credential.InFull credential.displayed ∧
          ∀ c ∈ credential.expose.toList, Text.isUnprintable c = false := by
  have hsides : credential.InFull credential.inspected ↔
      credential.expose.toList <:+: "Credential(".toList ∨
        credential.expose.toList <:+: credential.redacted.toList.flatMap Text.quotedChar ∨
          credential.expose.toList <:+: [')'] := by
    rw [InFull, toList_inspected, infix_append_cons_iff hquote, infix_append_cons_iff hquote]
  constructor
  · intro hfull
    have hprints : ∀ c ∈ credential.expose.toList, Text.isUnprintable c = false :=
      fun c hc => isUnprintable_of_mem_inspected (hfull.subset hc)
    rcases hsides.mp hfull with hopening | hquoted | hclosing
    · exact .inl hopening
    · rw [flatMap_quotedChar_redacted hprints hquote hslash] at hquoted
      exact .inr ⟨hquoted, hprints⟩
    · -- a single character is displayed as it is
      have hlength := hclosing.length_le
      refine .inr ⟨inFull_displayed_iff.mpr ⟨0, by decide, ?_⟩, hprints⟩
      exact List.drop_eq_nil_of_le (hlength.trans (by decide))
  · rintro (hopening | ⟨hdisplayed, hprints⟩)
    · exact hsides.mpr (.inl hopening)
    · refine hsides.mpr (.inr (.inl ?_))
      rwa [flatMap_quotedChar_redacted hprints hquote hslash]

/-! ### What texts show -/

/-- **What is shown of a credential.** Credentials with the same first four characters are shown
alike. A credential is displayed in full if and only if nothing follows these characters but at most
four stars. Whoever looks into the program sees it in full only if it has at most 26 characters and
all of them print; and where no quote and no backslash is among them, if and only if it is displayed
in full, or is a part of the word in front of the quotes. -/
theorem shown_in_full_iff (credential : Credential) :
    let secret := credential.expose.toList
    (∀ other : Credential, other.expose.toList.take 4 = secret.take 4 →
      other.redacted = credential.redacted ∧ other.displayed = credential.displayed ∧
        other.inspected = credential.inspected) ∧
    credential.displayed = credential.redacted ∧
    (credential.InFull credential.displayed ↔ ∃ n ≤ 4, secret.drop 4 = List.replicate n '*') ∧
    (credential.InFull credential.inspected →
      secret.length ≤ 26 ∧ ∀ c ∈ secret, Text.isUnprintable c = false) ∧
    ('"' ∉ secret → '\\' ∉ secret →
      (credential.InFull credential.inspected ↔
        secret <:+: "Credential(".toList ∨
          credential.InFull credential.displayed ∧
            ∀ c ∈ secret, Text.isUnprintable c = false)) := by
  intro secret
  refine ⟨fun other hstart => ?_, rfl, inFull_displayed_iff, fun hfull => ?_,
    inFull_inspected_iff⟩
  · have hredacted : other.redacted = credential.redacted := by
      rw [← String.toList_inj, toList_redacted, toList_redacted]
      exact congrArg (· ++ _) hstart
    exact ⟨hredacted, hredacted, by rw [inspected, hredacted, inspected]⟩
  · have hprints : ∀ c ∈ secret, Text.isUnprintable c = false :=
      fun c hc => isUnprintable_of_mem_inspected (hfull.subset hc)
    exact ⟨hfull.length_le.trans (length_inspected_le hprints), hprints⟩

/-- Nothing is hidden of a credential of three characters. -/
theorem short_one_is_shown_in_full :
    let credential : Credential := ⟨"abc"⟩
    ofText "abc" = .ok credential ∧ credential.InFull credential.displayed ∧
      credential.InFull credential.redacted ∧ credential.InFull credential.inspected := by
  refine ⟨by decide +kernel, ?_, ?_, ?_⟩ <;>
    simp only [InFull] <;> decide +kernel

end Credential

end SecretEnv
