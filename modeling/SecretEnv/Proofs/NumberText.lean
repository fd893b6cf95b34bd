import Mathlib.Data.List.TakeWhile
import SecretEnv.Json.NumberLiteral

/-!
# The texts of numbers

**A number is a sign, digits, a fraction and an exponent** (`NumberLiteral.Writes`), and the reader
takes such a text off whatever it stands in front of, and nothing else
(`NumberLiteral.exists_of_read`, `NumberLiteral.read_of_writes`). It takes as much as it can, so
what follows must not go on with the number.
-/

namespace SecretEnv.Json

namespace NumberLiteral

/-! ### The parts of a number -/

/-- Digits, at least one. -/
def Digits (cs : List Char) : Prop := cs ≠ [] ∧ ∀ c ∈ cs, c.isDigit = true

/-- Digits before a point: a zero at the front stands alone. -/
def Whole (cs : List Char) : Prop := Digits cs ∧ (cs.head? = some '0' → cs = ['0'])

/-- A point with digits, or nothing. -/
inductive WritesFraction : Option (List Char) → List Char → Prop where
  | absent : WritesFraction none []
  | point {digits : List Char} (h : Digits digits) : WritesFraction (some digits) ('.' :: digits)

/-- The value of an exponent's digits with its sign. -/
def signed (negative : Bool) (digits : List Char) : Int :=
  if negative then -(Numeral.digitsValue digits : Int) else Numeral.digitsValue digits

/-- The sign of an exponent; none is as good as a plus. -/
inductive WritesSign : Bool → List Char → Prop where
  | absent : WritesSign false []
  | plus : WritesSign false ['+']
  | minus : WritesSign true ['-']

/-- A mark with a sign and digits, or nothing. -/
inductive WritesExponent : Option Int → List Char → Prop where
  | absent : WritesExponent none []
  | marked {mark : Char} {negative : Bool} {signText digits : List Char}
      (hmark : mark = 'e' ∨ mark = 'E') (hsign : WritesSign negative signText)
      (h : Digits digits) :
      WritesExponent
        (some (signed negative digits)) (mark :: (signText ++ digits))

/-- The sign of a number. -/
def sign (negative : Bool) : List Char := if negative then ['-'] else []

/-- A text of a literal: its parts one after the other. -/
inductive Writes : NumberLiteral → List Char → Prop where
  | parts {negative : Bool} {whole : List Char} {fraction : Option (List Char)}
      {exponent : Option Int} {fractionText exponentText : List Char} (hwhole : Whole whole)
      (hfraction : WritesFraction fraction fractionText)
      (hexponent : WritesExponent exponent exponentText) :
      Writes ⟨negative, whole, fraction, exponent⟩
        (sign negative ++ whole ++ fractionText ++ exponentText)

/-- No digit follows. -/
def NoDigit (rest : List Char) : Prop := ∀ c ∈ rest.head?, c.isDigit = false

/-- Nothing follows that a number could go on with. -/
def Ended (rest : List Char) : Prop :=
  ∀ c ∈ rest.head?, c.isDigit = false ∧ c ≠ '.' ∧ c ≠ 'e' ∧ c ≠ 'E'

theorem Ended.noDigit {rest : List Char} (h : Ended rest) : NoDigit rest := fun c hc => (h c hc).1

/-! ### Taking digits -/

/-- Digits are taken whole where no digit follows. -/
theorem takeWhile_digits {digits rest : List Char} (h : Digits digits) (hrest : NoDigit rest) :
    (digits ++ rest).takeWhile Char.isDigit = digits ∧
      (digits ++ rest).dropWhile Char.isDigit = rest := by
  have hnone : rest.takeWhile Char.isDigit = [] ∧ rest.dropWhile Char.isDigit = rest := by
    cases rest with
    | nil => exact ⟨rfl, rfl⟩
    | cons c rest => simp [hrest c rfl]
  rw [List.takeWhile_append_of_pos h.2, List.dropWhile_append_of_pos h.2, hnone.1, hnone.2,
    List.append_nil]
  exact ⟨rfl, rfl⟩

theorem noDigit_dropWhile (cs : List Char) : NoDigit (cs.dropWhile Char.isDigit) := by
  intro c hc
  have hhead := List.head?_dropWhile_not Char.isDigit cs
  rw [show (cs.dropWhile Char.isDigit).head? = some c from hc] at hhead
  exact hhead

theorem digits_takeWhile {cs : List Char} (h : cs.takeWhile Char.isDigit ≠ []) :
    Digits (cs.takeWhile Char.isDigit) :=
  ⟨h, List.all_eq_true.mp List.all_takeWhile⟩

/-- Digits begin with a digit. -/
theorem Digits.exists_cons {digits : List Char} (h : Digits digits) :
    ∃ c more, digits = c :: more ∧ c.isDigit = true := by
  obtain ⟨c, more, rfl⟩ := List.exists_cons_of_ne_nil h.1
  exact ⟨c, more, rfl, h.2 c List.mem_cons_self⟩

/-! ### Reading the parts -/

theorem exists_of_readWhole {cs whole rest : List Char} (h : readWhole cs = some (whole, rest)) :
    cs = whole ++ rest ∧ Whole whole ∧ NoDigit rest := by
  have hzero : Whole ['0'] := ⟨⟨by simp, by simp⟩, fun _ => rfl⟩
  unfold readWhole at h
  split at h
  · split at h
    · rename_i c more
      split at h
      · cases h
      · rename_i hdigit
        cases h
        refine ⟨rfl, hzero, fun d hd => ?_⟩
        cases hd
        simpa using hdigit
    · cases h
      exact ⟨rfl, hzero, nofun⟩
  · rename_i hfront
    split at h
    · cases h
    · rename_i hdigits
      cases h
      have hdigits := digits_takeWhile (by simpa using hdigits)
      refine ⟨List.takeWhile_append_dropWhile.symm, ⟨hdigits, fun hhead => ?_⟩,
        noDigit_dropWhile cs⟩
      -- what is read here does not begin with a zero
      cases cs with
      | nil => cases hhead
      | cons c cs =>
          obtain ⟨d, more, hsplit, -⟩ := hdigits.exists_cons
          rw [List.takeWhile_cons] at hhead
          split at hhead
          · cases hhead
            exact absurd rfl (hfront cs)
          · cases hhead

theorem readWhole_of_whole {whole rest : List Char} (h : Whole whole) (hrest : NoDigit rest) :
    readWhole (whole ++ rest) = some (whole, rest) := by
  obtain ⟨hdigits, hzero⟩ := h
  obtain ⟨htake, hdrop⟩ := takeWhile_digits hdigits hrest
  by_cases hhead : whole.head? = some '0'
  · rw [hzero hhead, List.singleton_append]
    cases rest with
    | nil => rfl
    | cons c rest => simp [readWhole, hrest c rfl]
  · obtain ⟨c, more, rfl, -⟩ := hdigits.exists_cons
    rw [List.cons_append] at htake hdrop ⊢
    rw [readWhole]
    · rw [htake, hdrop]
      rfl
    · intro other heq
      cases heq
      exact absurd rfl hhead

theorem exists_of_readFraction {cs rest : List Char} {fraction : Option (List Char)}
    (h : readFraction cs = some (fraction, rest)) :
    ∃ text, cs = text ++ rest ∧ WritesFraction fraction text := by
  unfold readFraction at h
  split at h
  · split at h
    · cases h
    · rename_i more hdigits
      cases h
      have hdigits := digits_takeWhile (by simpa using hdigits)
      refine ⟨_, ?_, .point hdigits⟩
      rw [List.cons_append, List.takeWhile_append_dropWhile]
  · cases h
    exact ⟨[], rfl, .absent⟩

theorem readFraction_of_writes {fraction : Option (List Char)} {text rest : List Char}
    (h : WritesFraction fraction text) (hdigit : NoDigit rest) (hpoint : rest.head? ≠ some '.') :
    readFraction (text ++ rest) = some (fraction, rest) := by
  cases h with
  | absent =>
      rw [List.nil_append, readFraction]
      intro more heq
      rw [heq] at hpoint
      exact hpoint rfl
  | point h =>
      obtain ⟨htake, hdrop⟩ := takeWhile_digits h hdigit
      rw [List.cons_append, readFraction, htake, hdrop, if_neg (by simpa using h.1)]

theorem exists_of_readExponentDigits {negative : Bool} {cs rest : List Char}
    {exponent : Option Int} (h : readExponentDigits negative cs = some (exponent, rest)) :
    ∃ digits, cs = digits ++ rest ∧ Digits digits ∧ exponent = some (signed negative digits) := by
  unfold readExponentDigits at h
  simp only at h
  split at h
  · cases h
  · rename_i hdigits
    cases h
    exact ⟨_, List.takeWhile_append_dropWhile.symm, digits_takeWhile (by simpa using hdigits), rfl⟩

theorem readExponentDigits_of_digits {digits rest : List Char} (h : Digits digits)
    (hrest : NoDigit rest) (negative : Bool) :
    readExponentDigits negative (digits ++ rest) = some (some (signed negative digits), rest) := by
  obtain ⟨htake, hdrop⟩ := takeWhile_digits h hrest
  simp only [readExponentDigits, htake, hdrop]
  rw [if_neg (by simpa using h.1), signed]

theorem exists_of_readExponent {cs rest : List Char} {exponent : Option Int}
    (h : readExponent cs = some (exponent, rest)) :
    ∃ text, cs = text ++ rest ∧ WritesExponent exponent text := by
  unfold readExponent at h
  split at h
  · rename_i mark more
    split at h
    · rename_i hmark
      have hmark : mark = 'e' ∨ mark = 'E' := by simpa using hmark
      split at h
      · obtain ⟨digits, rfl, hdigits, rfl⟩ := exists_of_readExponentDigits h
        exact ⟨_, rfl, .marked hmark .minus hdigits⟩
      · obtain ⟨digits, rfl, hdigits, rfl⟩ := exists_of_readExponentDigits h
        exact ⟨_, rfl, .marked hmark .plus hdigits⟩
      · obtain ⟨digits, rfl, hdigits, rfl⟩ := exists_of_readExponentDigits h
        exact ⟨_, rfl, .marked hmark .absent hdigits⟩
    · cases h
      exact ⟨[], rfl, .absent⟩
  · cases h
    exact ⟨[], rfl, .absent⟩

theorem readExponent_of_writes {exponent : Option Int} {text rest : List Char}
    (h : WritesExponent exponent text) (hrest : Ended rest) :
    readExponent (text ++ rest) = some (exponent, rest) := by
  cases h with
  | absent =>
      cases rest with
      | nil => rfl
      | cons c rest =>
          obtain ⟨-, -, he, hE⟩ := hrest c rfl
          simp [readExponent, he, hE]
  | @marked mark negative signText digits hmark hsign h =>
      have hread := readExponentDigits_of_digits h hrest.noDigit
      have hmarked : (mark = 'e' || mark = 'E') = true := by simpa using hmark
      rw [List.cons_append, List.append_assoc]
      cases hsign with
      | plus =>
          rw [List.singleton_append, readExponent, if_pos hmarked]
          exact hread false
      | minus =>
          rw [List.singleton_append, readExponent, if_pos hmarked]
          exact hread true
      | absent =>
          -- digits begin with no sign
          obtain ⟨c, more, rfl, hc⟩ := h.exists_cons
          rw [List.nil_append, readExponent, if_pos hmarked]
          · exact hread false
          · intro other heq
            cases heq
            cases hc
          · intro other heq
            cases heq
            cases hc

/-- An exponent begins with its mark. -/
theorem WritesExponent.not_begins {exponent : Option Int} {text rest : List Char}
    (h : WritesExponent exponent text) (hrest : Ended rest) :
    NoDigit (text ++ rest) ∧ (text ++ rest).head? ≠ some '.' := by
  cases h with
  | absent =>
      refine ⟨hrest.noDigit, fun hpoint => ?_⟩
      exact (hrest '.' hpoint).2.1 rfl
  | marked hmark =>
      constructor
      · intro c hc
        cases hc
        rcases hmark with rfl | rfl <;> rfl
      · intro hpoint
        cases hpoint
        rcases hmark with hmark | hmark <;> cases hmark

/-- A fraction begins with a point. -/
theorem WritesFraction.noDigit {fraction : Option (List Char)} {text rest : List Char}
    (h : WritesFraction fraction text) (hrest : NoDigit rest) : NoDigit (text ++ rest) := by
  cases h with
  | absent => exact hrest
  | point h =>
      intro c hc
      cases hc
      rfl

/-! ### Reading a number -/

/-- The parts of a number behind its sign, read one after the other. -/
def readUnsigned (negative : Bool) (cs : List Char) : Option (NumberLiteral × List Char) := do
  let (whole, afterWhole) ← readWhole cs
  let (fraction, afterFraction) ← readFraction afterWhole
  let (exponent, rest) ← readExponent afterFraction
  return (⟨negative, whole, fraction, exponent⟩, rest)

theorem read_minus (cs : List Char) : read ('-' :: cs) = readUnsigned true cs := rfl

theorem read_of_head_ne {cs : List Char} (h : cs.head? ≠ some '-') :
    read cs = readUnsigned false cs := by
  cases cs with
  | nil => rfl
  | cons c cs =>
      have hc : c ≠ '-' := fun heq => h (by rw [heq]; rfl)
      simp [read, readUnsigned, hc]

/-- What is read is the text of a number. -/
theorem exists_of_readUnsigned {negative : Bool} {cs rest : List Char} {literal : NumberLiteral}
    (h : readUnsigned negative cs = some (literal, rest)) :
    ∃ text, cs = text ++ rest ∧ Writes literal (sign negative ++ text) := by
  simp only [readUnsigned, Option.bind_eq_bind, Option.bind_eq_some_iff, Prod.exists] at h
  obtain ⟨whole, afterWhole, hreadWhole, fraction, afterFraction, hreadFraction, exponent, after,
    hreadExponent, heq⟩ := h
  cases heq
  obtain ⟨rfl, hwhole, -⟩ := exists_of_readWhole hreadWhole
  obtain ⟨fractionText, rfl, hfraction⟩ := exists_of_readFraction hreadFraction
  obtain ⟨exponentText, rfl, hexponent⟩ := exists_of_readExponent hreadExponent
  refine ⟨whole ++ fractionText ++ exponentText, by simp only [List.append_assoc], ?_⟩
  rw [← List.append_assoc, ← List.append_assoc]
  exact .parts hwhole hfraction hexponent

theorem exists_of_read {cs rest : List Char} {literal : NumberLiteral}
    (h : read cs = some (literal, rest)) : ∃ text, cs = text ++ rest ∧ Writes literal text := by
  by_cases hsign : cs.head? = some '-'
  · obtain ⟨unsigned, rfl⟩ := List.head?_eq_some_iff.mp hsign
    rw [read_minus] at h
    obtain ⟨text, rfl, hwrites⟩ := exists_of_readUnsigned h
    exact ⟨'-' :: text, rfl, hwrites⟩
  · rw [read_of_head_ne hsign] at h
    exact exists_of_readUnsigned h

/-- The text of a number is read, where the number does not go on. -/
theorem read_of_writes {literal : NumberLiteral} {text rest : List Char} (h : Writes literal text)
    (hrest : Ended rest) : read (text ++ rest) = some (literal, rest) := by
  obtain @⟨negative, whole, fraction, exponent, fractionText, exponentText, hwhole, hfraction,
    hexponent⟩ := h
  have hunsigned : readUnsigned negative (whole ++ (fractionText ++ (exponentText ++ rest))) =
      some (⟨negative, whole, fraction, exponent⟩, rest) := by
    obtain ⟨hdigit, hpoint⟩ := hexponent.not_begins hrest
    rw [readUnsigned, readWhole_of_whole hwhole (hfraction.noDigit hdigit)]
    simp [readFraction_of_writes hfraction hdigit hpoint, readExponent_of_writes hexponent hrest]
  simp only [List.append_assoc]
  cases negative with
  | true => exact hunsigned
  | false =>
      rw [← hunsigned, ← read_of_head_ne]
      · rfl
      · -- the digits do not begin with a sign
        obtain ⟨c, more, rfl, hc⟩ := hwhole.1.exists_cons
        intro hhead
        cases hhead
        cases hc

/-- A number begins with a sign or a digit. -/
theorem Writes.exists_cons {literal : NumberLiteral} {text : List Char} (h : Writes literal text) :
    ∃ c more, text = c :: more ∧ (c = '-' ∨ c.isDigit = true) := by
  obtain @⟨negative, whole, fraction, exponent, fractionText, exponentText, hwhole, -, -⟩ := h
  obtain ⟨c, more, rfl, hc⟩ := hwhole.1.exists_cons
  cases negative with
  | true => exact ⟨'-', _, rfl, .inl rfl⟩
  | false => exact ⟨c, _, rfl, .inr hc⟩

end NumberLiteral

open NumberLiteral

theorem exists_of_readNumber {cs text rest : List Char} (h : readNumber cs = some (text, rest)) :
    cs = text ++ rest ∧
      ∃ literal : NumberLiteral, literal.inRange = true ∧ Writes literal text := by
  unfold readNumber at h
  split at h
  · cases h
  · rename_i literal after hread
    split at h
    · rename_i hrange
      obtain ⟨written, rfl, hwrites⟩ := exists_of_read hread
      cases h
      have htaken : (written ++ rest).take ((written ++ rest).length - rest.length) = written := by
        simp
      rw [htaken]
      exact ⟨rfl, literal, hrange, hwrites⟩
    · cases h

theorem readNumber_of_writes {literal : NumberLiteral} {text rest : List Char}
    (h : Writes literal text) (hrange : literal.inRange = true) (hrest : Ended rest) :
    readNumber (text ++ rest) = some (text, rest) := by
  rw [readNumber, read_of_writes h hrest]
  simp [hrange]

end SecretEnv.Json
