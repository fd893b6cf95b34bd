import Mathlib.Data.List.Infix
import SecretEnv.Text.Removal

/-!
# What is left without a phrase

**A text is cut at the first occurrence of a phrase, and what follows is cut in the same way**
(`Text.Without`); there is one result, and `Text.removeAll` gives it (`Text.without_iff`). An
occurrence that reaches over the place where two texts meet begins with an end of the one and ends
with a start of the other. A phrase without a border, no end of which is also a start, overlaps no
occurrence of itself, so the first one is where it was put.
-/

namespace SecretEnv.Text

variable {phrase text part left right before after rest : List Char}

/-! ### Occurrences where texts meet -/

theorem not_infix_of_not_mem {c : Char} (hc : c ∈ part) (h : c ∉ text) : ¬ part <:+: text :=
  fun hpart => h (hpart.subset hc)

/-- A part of two texts that is a part of neither reaches over the place where they meet. -/
theorem not_infix_append (hleft : ¬ part <:+: left) (hright : ¬ part <:+: right)
    (hover : ∀ stop, stop <:+ part → stop <+: right → stop = []) : ¬ part <:+: left ++ right := by
  intro hpart
  rcases List.infix_append_iff.mp hpart with hin | hin | ⟨start, stop, rfl, hstart, hstop⟩
  · exact hleft hin
  · exact hright hin
  · obtain rfl := hover stop (List.suffix_append start stop) hstop
    rw [List.append_nil] at hleft
    exact hleft hstart.isInfix

/-- Nothing comes of characters in front that the part does not begin with. -/
theorem not_infix_append_of_head (hfirst : ∀ c ∈ part.head?, c ∉ left)
    (hright : ¬ part <:+: right) : ¬ part <:+: left ++ right := by
  intro hpart
  rcases List.infix_append_iff.mp hpart with hin | hin | ⟨start, stop, rfl, hstart, hstop⟩
  · cases part with
    | nil => exact hright List.nil_infix
    | cons c part => exact hfirst c rfl (hin.subset List.mem_cons_self)
  · exact hright hin
  · cases start with
    | nil => exact hright hstop.isInfix
    | cons c start => exact hfirst c rfl (hstart.subset List.mem_cons_self)

/-- A phrase does not occur in itself without its last character. -/
theorem not_infix_dropLast (h : phrase ≠ []) : ¬ phrase <:+: phrase.dropLast := by
  intro hshort
  have hlength := hshort.length_le
  have hpositive := List.length_pos_of_ne_nil h
  rw [List.length_dropLast] at hlength
  omega

theorem append_dropLast_start (before phrase after : List Char) :
    before ++ phrase.dropLast <+: before ++ phrase ++ after := by
  rw [List.append_assoc, List.prefix_append_right_inj]
  exact (List.dropLast_prefix phrase).trans (List.prefix_append phrase after)

/-! ### Cutting a phrase out -/

/-- What is left of a text without a phrase, whose occurrences are cut out one after the other, each
time the first that there is. -/
inductive Without (phrase : List Char) : List Char → List Char → Prop where
  /-- The phrase does not occur. -/
  | intact {text : List Char} (h : ¬ phrase <:+: text) : Without phrase text text
  /-- It occurs, and no occurrence ends before this one does. -/
  | cut {before after rest : List Char} (hfirst : ¬ phrase <:+: before ++ phrase.dropLast)
      (hrest : Without phrase after rest) :
      Without phrase (before ++ phrase ++ after) (before ++ rest)

theorem removeAfter_eq (phrase : List Char) (skip : Nat) (text : List Char) :
    removeAfter phrase skip text = removeAll phrase (text.drop skip) := by
  induction text generalizing skip with
  | nil => cases skip <;> simp [removeAll, removeAfter]
  | cons c text ih =>
      cases skip with
      | zero => rfl
      | succ skip => exact ih skip

theorem removeAll_cons_of_not_start {c : Char} (h : ¬ phrase <+: c :: text) :
    removeAll phrase (c :: text) = c :: removeAll phrase text := by
  rw [removeAll, removeAfter, if_neg (by rwa [List.isPrefixOf_iff_prefix]), removeAll]

/-- An occurrence at the front goes. -/
theorem removeAll_append_left (h : phrase ≠ []) (after : List Char) :
    removeAll phrase (phrase ++ after) = removeAll phrase after := by
  cases phrase with
  | nil => exact absurd rfl h
  | cons c phrase =>
      have hprefix : c :: phrase <+: c :: (phrase ++ after) :=
        List.prefix_append (c :: phrase) after
      rw [List.cons_append, removeAll, removeAfter, if_pos (List.isPrefixOf_iff_prefix.mpr hprefix),
        removeAfter_eq, List.length_cons, Nat.add_sub_cancel, List.drop_left]

theorem removeAll_eq_self (h : ¬ phrase <:+: text) : removeAll phrase text = text := by
  induction text with
  | nil => rfl
  | cons c text ih =>
      rw [List.infix_cons_iff, not_or] at h
      rw [removeAll_cons_of_not_start h.1, ih h.2]

/-- Up to the first occurrence everything stays. -/
theorem removeAll_first (h : phrase ≠ []) (hfirst : ¬ phrase <:+: before ++ phrase.dropLast)
    (after : List Char) :
    removeAll phrase (before ++ phrase ++ after) = before ++ removeAll phrase after := by
  induction before with
  | nil => exact removeAll_append_left h after
  | cons c before ih =>
      rw [List.cons_append, List.infix_cons_iff, not_or] at hfirst
      have hfront : ¬ phrase <+: c :: (before ++ phrase ++ after) := by
        -- so early an occurrence would end before the first one does
        intro hprefix
        have hstart := append_dropLast_start (c :: before) phrase after
        refine hfirst.1 (List.prefix_of_prefix_length_le hprefix hstart ?_)
        simp only [List.length_cons, List.length_append, List.length_dropLast]
        omega
      rw [List.cons_append, List.cons_append, removeAll_cons_of_not_start hfront, ih hfirst.2,
        List.cons_append]

/-- A phrase that occurs has a first occurrence. -/
theorem exists_first (h : phrase ≠ []) (hin : phrase <:+: text) :
    ∃ before after, text = before ++ phrase ++ after ∧ ¬ phrase <:+: before ++ phrase.dropLast := by
  induction text with
  | nil => exact absurd (List.infix_nil.mp hin) h
  | cons c text ih =>
      by_cases hprefix : phrase <+: c :: text
      · obtain ⟨after, hafter⟩ := hprefix
        exact ⟨[], after, hafter.symm, not_infix_dropLast h⟩
      · obtain ⟨before, after, rfl, hfirst⟩ :=
          ih ((List.infix_cons_iff.mp hin).resolve_left hprefix)
        refine ⟨c :: before, after, rfl, ?_⟩
        rw [List.cons_append, List.infix_cons_iff, not_or]
        have hstart := append_dropLast_start (c :: before) phrase after
        exact ⟨fun hshort => hprefix (hshort.trans hstart), hfirst⟩

theorem Without.removeAll_eq (h : phrase ≠ []) (hwithout : Without phrase text rest) :
    removeAll phrase text = rest := by
  induction hwithout with
  | intact hnone => exact removeAll_eq_self hnone
  | cut hfirst hrest ih => rw [removeAll_first h hfirst, ih]

theorem without_removeAll (h : phrase ≠ []) (text : List Char) :
    Without phrase text (removeAll phrase text) := by
  -- the induction is on the length, for it goes on behind an occurrence
  induction hlength : text.length using Nat.strongRecOn generalizing text with
  | ind length ih =>
      by_cases hin : phrase <:+: text
      · obtain ⟨before, after, rfl, hfirst⟩ := exists_first h hin
        have hpositive := List.length_pos_of_ne_nil h
        rw [removeAll_first h hfirst]
        refine .cut hfirst (ih after.length ?_ after rfl)
        simp only [List.length_append] at hlength
        omega
      · rw [removeAll_eq_self hin]
        exact .intact hin

/-- Removing a phrase gives what is left without it, and nothing else is. -/
theorem without_iff (h : phrase ≠ []) :
    Without phrase text rest ↔ removeAll phrase text = rest := by
  constructor
  · exact Without.removeAll_eq h
  · rintro rfl
    exact without_removeAll h text

/-! ### Phrases that do not overlap themselves -/

/-- No end of a phrase is a start of it, other than the whole. -/
def Borderless (phrase : List Char) : Prop :=
  phrase ≠ [] ∧ ∀ stop ∈ phrase.tails, stop <+: phrase.dropLast → stop = []

instance (phrase : List Char) : Decidable (Borderless phrase) := inferInstanceAs (Decidable (_ ∧ _))

/-- Behind a text in which it does not occur, such a phrase occurs first where it was put. -/
theorem Borderless.removeAll_eq (h : Borderless phrase) (hbefore : ¬ phrase <:+: before)
    (after : List Char) :
    removeAll phrase (before ++ phrase ++ after) = before ++ removeAll phrase after := by
  obtain ⟨hne, hborder⟩ := h
  refine removeAll_first hne (not_infix_append hbefore (not_infix_dropLast hne) ?_) after
  intro stop hstop
  exact hborder stop ((List.mem_tails stop phrase).mpr hstop)

end SecretEnv.Text
