import SecretEnv.Proofs.StringText

/-!
# Written string literals

**Writing spells a text as the format's grammar has it** (`spells_writeChars`). A character is
written in one of three ways: with a letter behind a backslash, with four hexadecimal digits, or as
it is.
-/

namespace SecretEnv.Json

/-! ### Escapes -/

/-- The letter that is written for a character is read as that character. -/
theorem charOf?_of_letterOf? {c letter : Char} (h : letterOf? c = some letter) :
    charOf? letter = some c := by
  unfold letterOf? at h
  split at h
  case h_8 => cases h
  all_goals
    cases h
    rfl

/-- A character that has no letter is neither the quote nor the backslash. -/
theorem ne_of_letterOf?_eq_none {c : Char} (h : letterOf? c = none) : c ≠ '"' ∧ c ≠ '\\' := by
  constructor
  · rintro rfl
    cases h
  · rintro rfl
    cases h

theorem hexValue?_hexDigit {n : Nat} (h : n < 16) : hexValue? (hexDigit n) = some n := by
  have hall : ∀ n : Fin 16, hexValue? (hexDigit n) = some n.val := by decide
  exact hall ⟨n, h⟩

/-- Two digits are enough for a control. -/
theorem hexQuad?_hexDigit {n : Nat} (h : n < 0x20) :
    hexQuad? '0' '0' (hexDigit (n / 16)) (hexDigit (n % 16)) = some n := by
  have hzero : hexValue? '0' = some 0 := rfl
  have hhigh := hexValue?_hexDigit (show n / 16 < 16 by omega)
  have hlow := hexValue?_hexDigit (show n % 16 < 16 by omega)
  simp only [hexQuad?, hzero, hhigh, hlow, Option.some.injEq]
  omega

/-! ### Writing spells -/

/-- However a character is written, that spells it. -/
theorem spells_writeChar (c : Char) {body cs : List Char} (h : Spells body cs) :
    Spells (writeChar c ++ body) (c :: cs) := by
  unfold writeChar
  cases hletter : letterOf? c with
  | some letter => exact .letter (charOf?_of_letterOf? hletter) h
  | none =>
      by_cases hcontrol : c.toNat < 0x20
      · rw [if_pos hcontrol]
        have hunit := Spells.unit (hexQuad?_hexDigit hcontrol) (by omega) h
        rwa [Char.ofNat_toNat] at hunit
      · rw [if_neg hcontrol]
        obtain ⟨hquote, hslash⟩ := ne_of_letterOf?_eq_none hletter
        exact .plain hquote hslash hcontrol h

/-- **What is written between quotes spells the characters** that it was written for. -/
theorem spells_writeChars (cs : List Char) : Spells (cs.flatMap writeChar) cs := by
  induction cs with
  | nil => exact .nil
  | cons c cs ih =>
      rw [List.flatMap_cons]
      exact spells_writeChar c ih

end SecretEnv.Json
