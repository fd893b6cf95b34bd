import Mathlib.Data.List.TakeWhile
import SecretEnv.Text.Blank

/-!
# What trimming leaves

**A trimmed text is the part between the blanks at both ends**, and there is one such part only
(`Text.trimsTo_iff`). So it has no blank at either end, it is its own trimmed text, and blanks
around a text make no difference to it.
-/

namespace SecretEnv.Text

/-- What is left of characters: they are this between blanks, and no blank stands at an end of
it. -/
structure TrimsTo (cs kept : List Char) : Prop where
  between : ∃ before after, before.all isBlank = true ∧ after.all isBlank = true ∧
    cs = before ++ kept ++ after
  first : ∀ c ∈ kept.head?, isBlank c = false
  last : ∀ c ∈ kept.getLast?, isBlank c = false

/-! ### One end -/

theorem trimStart_append {before : List Char} (h : before.all isBlank = true) (cs : List Char) :
    trimStart (before ++ cs) = trimStart cs :=
  List.dropWhile_append_of_pos (List.all_eq_true.mp h)

/-- No blank is left at the front. -/
theorem head?_trimStart (cs : List Char) : ∀ c ∈ (trimStart cs).head?, isBlank c = false := by
  intro c hc
  have hhead := List.head?_dropWhile_not isBlank cs
  rw [show (cs.dropWhile isBlank).head? = some c from hc] at hhead
  exact hhead

/-- Nothing is cut where there is no blank at the front. -/
theorem trimStart_eq_self {cs : List Char} (h : ∀ c ∈ cs.head?, isBlank c = false) :
    trimStart cs = cs := by
  cases cs with
  | nil => rfl
  | cons c cs => exact List.dropWhile_cons_of_neg (by simp [h c rfl])

/-- What is cut off the front is blank. -/
theorem exists_append_trimStart (cs : List Char) :
    ∃ before, before.all isBlank = true ∧ cs = before ++ trimStart cs :=
  ⟨cs.takeWhile isBlank, List.all_takeWhile, List.takeWhile_append_dropWhile.symm⟩

/-- The end is the front of what is read backwards. -/
theorem trimEnd_eq (cs : List Char) : trimEnd cs = (trimStart cs.reverse).reverse := rfl

theorem trimEnd_append {after : List Char} (h : after.all isBlank = true) (cs : List Char) :
    trimEnd (cs ++ after) = trimEnd cs := by
  rw [trimEnd_eq, List.reverse_append, trimStart_append (by rwa [List.all_reverse]), trimEnd_eq]

theorem trimEnd_eq_self {cs : List Char} (h : ∀ c ∈ cs.getLast?, isBlank c = false) :
    trimEnd cs = cs := by
  rw [trimEnd_eq, trimStart_eq_self (by rwa [List.head?_reverse]), List.reverse_reverse]

theorem getLast?_trimEnd (cs : List Char) : ∀ c ∈ (trimEnd cs).getLast?, isBlank c = false := by
  rw [trimEnd_eq, List.getLast?_reverse]
  exact head?_trimStart cs.reverse

theorem exists_trimEnd_append (cs : List Char) :
    ∃ after, after.all isBlank = true ∧ cs = trimEnd cs ++ after := by
  obtain ⟨before, hbefore, hsplit⟩ := exists_append_trimStart cs.reverse
  refine ⟨before.reverse, by rwa [List.all_reverse], ?_⟩
  rw [trimEnd_eq, ← List.reverse_append, ← hsplit, List.reverse_reverse]

/-- Nothing is cut off the end beyond a character that shows. -/
theorem trimEnd_append_cons {c : Char} (h : isBlank c = false) (front cs : List Char) :
    trimEnd (front ++ c :: cs) = front ++ c :: trimEnd cs := by
  obtain ⟨after, hafter, hend⟩ := exists_trimEnd_append cs
  have hlast := getLast?_trimEnd cs
  have hsplit : front ++ c :: cs = front ++ c :: trimEnd cs ++ after := by
    rw [List.append_assoc, List.cons_append, ← hend]
  rw [hsplit, trimEnd_append hafter]
  refine trimEnd_eq_self fun d hd => ?_
  rw [List.getLast?_append, List.getLast?_cons] at hd
  cases hkept : (trimEnd cs).getLast? with
  | none =>
      rw [hkept] at hd
      cases hd
      exact h
  | some last =>
      rw [hkept] at hd
      cases hd
      exact hlast last hkept

/-! ### Both ends -/

/-- Blanks are left nowhere at the ends: not at the end, where they are cut off last, and not at
the front, for the first character of what is left is the one that was there before. -/
theorem trimsTo_trimChars (cs : List Char) : TrimsTo cs (trimChars cs) := by
  obtain ⟨before, hbefore, hstart⟩ := exists_append_trimStart cs
  obtain ⟨after, hafter, hend⟩ := exists_trimEnd_append (trimStart cs)
  refine ⟨⟨before, after, hbefore, hafter, ?_⟩, ?_, getLast?_trimEnd (trimStart cs)⟩
  · rw [trimChars, List.append_assoc, ← hend, ← hstart]
  · intro c hc
    apply head?_trimStart cs
    rw [hend, List.head?_append, show (trimEnd (trimStart cs)).head? = some c from hc]
    rfl

theorem TrimsTo.eq_trimChars {cs kept : List Char} (h : TrimsTo cs kept) : trimChars cs = kept := by
  obtain ⟨⟨before, after, hbefore, hafter, rfl⟩, hfirst, hlast⟩ := h
  rw [trimChars, List.append_assoc, trimStart_append hbefore]
  cases kept with
  | nil =>
      -- all of it is blank, and is cut off the front already
      have hnil : trimStart after = [] :=
        List.dropWhile_eq_nil_iff.mpr (List.all_eq_true.mp hafter)
      rw [List.nil_append, hnil, trimEnd_nil]
  | cons c kept =>
      rw [trimStart_eq_self (by simpa using hfirst), trimEnd_append hafter, trimEnd_eq_self hlast]

/-- Blanks may be cut off the end first. -/
theorem trimStart_trimEnd (cs : List Char) :
    trimStart (trimEnd cs) = trimChars cs := by
  obtain ⟨after, hafter, hend⟩ := exists_trimEnd_append cs
  obtain ⟨before, hbefore, hstart⟩ := exists_append_trimStart (trimEnd cs)
  symm
  refine TrimsTo.eq_trimChars ⟨⟨before, after, hbefore, hafter, ?_⟩,
    head?_trimStart _, fun c hc => ?_⟩
  · rw [← hstart, ← hend]
  · -- the last character is the one that the end was cut down to
    apply getLast?_trimEnd cs
    rw [hstart, List.getLast?_append, show (trimStart (trimEnd cs)).getLast? = _ from hc]
    rfl

theorem trimsTo_iff {cs kept : List Char} : TrimsTo cs kept ↔ trimChars cs = kept := by
  constructor
  · exact TrimsTo.eq_trimChars
  · intro h
    rw [← h]
    exact trimsTo_trimChars cs

/-- Nothing is left of a text exactly if it is blank throughout. -/
theorem trimChars_eq_nil_iff (cs : List Char) : trimChars cs = [] ↔ cs.all isBlank = true := by
  rw [← trimsTo_iff]
  constructor
  · intro h
    obtain ⟨before, after, hbefore, hafter, rfl⟩ := h.between
    simp [List.all_append, hbefore, hafter]
  · intro h
    exact ⟨⟨cs, [], h, rfl, by simp⟩, nofun, nofun⟩

/-- What has been trimmed has nothing more to be cut off. -/
@[simp] theorem trimChars_trimChars (cs : List Char) : trimChars (trimChars cs) = trimChars cs := by
  obtain ⟨-, hfirst, hlast⟩ := trimsTo_trimChars cs
  exact TrimsTo.eq_trimChars ⟨⟨[], [], rfl, rfl, by simp⟩, hfirst, hlast⟩

/-- Blanks around a text make no difference. -/
theorem trimChars_padded {before after : List Char} (hbefore : before.all isBlank = true)
    (hafter : after.all isBlank = true) (cs : List Char) :
    trimChars (before ++ cs ++ after) = trimChars cs := by
  obtain ⟨⟨front, back, hfront, hback, hsplit⟩, hfirst, hlast⟩ := trimsTo_trimChars cs
  refine TrimsTo.eq_trimChars ⟨⟨before ++ front, back ++ after, ?_, ?_, ?_⟩, hfirst, hlast⟩
  · simp only [List.all_append, hbefore, hfront, Bool.and_self]
  · simp only [List.all_append, hback, hafter, Bool.and_self]
  · calc before ++ cs ++ after
        = before ++ (front ++ trimChars cs ++ back) ++ after := by rw [← hsplit]
      _ = before ++ front ++ trimChars cs ++ (back ++ after) := by simp only [List.append_assoc]

end SecretEnv.Text
