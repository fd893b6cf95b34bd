import Mathlib.Algebra.Order.Field.Rat
import Mathlib.Tactic.FieldSimp
import Mathlib.Tactic.Positivity
import Mathlib.Tactic.Ring
import SecretEnv.Proofs.NumberText

/-!
# What numerals denote

**A numeral spells a number if it is a sign, digits, perhaps a point and more digits, and perhaps an
exponent** (`Numeral.Spells`), and the reader reads just that number off it, as a fraction without
any rounding (`Numeral.spells_iff`). The words for what is no finite number spell none, and neither
does any other text.
-/

namespace SecretEnv

namespace Numeral

open Json.NumberLiteral

/-! ### The texts of numbers -/

/-- Digits behind a point, or no point. There may be none behind it. -/
inductive WritesPoint : List Char → List Char → Prop where
  | absent : WritesPoint [] []
  | point {digits : List Char} (h : ∀ c ∈ digits, c.isDigit = true) :
      WritesPoint digits ('.' :: digits)

/-- A numeral without its sign: its digits before and behind the point, and its exponent. Digits
stand at least on one side. -/
inductive WritesUnsigned : List Char → List Char → Option Int → List Char → Prop where
  | parts {whole fraction pointText exponentText : List Char} {exponent : Option Int}
      (hwhole : ∀ c ∈ whole, c.isDigit = true) (hpoint : WritesPoint fraction pointText)
      (hdigits : whole ++ fraction ≠ []) (hexponent : WritesExponent exponent exponentText) :
      WritesUnsigned whole fraction exponent (whole ++ pointText ++ exponentText)

/-- The text of a number. -/
inductive Spells : List Char → ℚ → Prop where
  | signed {negative : Bool} {signText unsigned whole fraction : List Char} {exponent : Option Int}
      (hsign : WritesSign negative signText)
      (hunsigned : WritesUnsigned whole fraction exponent unsigned) :
      Spells (signText ++ unsigned)
        ((if negative then -1 else 1) *
          (digitsValue whole + digitsValue fraction / 10 ^ fraction.length) *
          10 ^ exponent.getD 0)

/-- The number that a numeral denotes, if it does. -/
def value? : Numeral → Option ℚ
  | .finite negative digits exponent => some ((if negative then -1 else 1) * digits * 10 ^ exponent)
  | .infinite _ => none
  | .notANumber => none

/-! ### Digits -/

theorem digitsValue_append (digits more : List Char) :
    digitsValue (digits ++ more) = digitsValue digits * 10 ^ more.length + digitsValue more := by
  have hfold : ∀ (more : List Char) (start : Nat),
      more.foldl (fun value digit => value * 10 + (digit.toNat - '0'.toNat)) start =
        start * 10 ^ more.length + digitsValue more := by
    intro more
    induction more with
    | nil => simp [digitsValue]
    | cons digit more ih =>
        intro start
        rw [digitsValue, List.foldl_cons, List.foldl_cons, ih, ih, List.length_cons]
        ring
  rw [digitsValue, List.foldl_append]
  exact hfold more _

/-- The digits on both sides of a point, read as one number, and then the point. -/
theorem digitsValue_point (whole fraction : List Char) (exponent : Int) :
    (digitsValue (whole ++ fraction) : ℚ) * 10 ^ (-(fraction.length : Int) + exponent) =
      (digitsValue whole + digitsValue fraction / 10 ^ fraction.length) * 10 ^ exponent := by
  rw [digitsValue_append, zpow_add₀ (by norm_num), zpow_neg, zpow_natCast]
  push_cast
  field_simp

/-- Digits at the front are taken whole where no digit follows. -/
theorem takeWhile_isDigit {digits rest : List Char} (h : ∀ c ∈ digits, c.isDigit = true)
    (hrest : NoDigit rest) :
    (digits ++ rest).takeWhile Char.isDigit = digits ∧
      (digits ++ rest).dropWhile Char.isDigit = rest := by
  cases digits with
  | cons digit digits => exact takeWhile_digits ⟨nofun, h⟩ hrest
  | nil =>
      cases rest with
      | nil => exact ⟨rfl, rfl⟩
      | cons c rest => simp [hrest c rfl]

theorem isDigit_of_mem_takeWhile {c : Char} {cs : List Char}
    (h : c ∈ cs.takeWhile Char.isDigit) : c.isDigit = true :=
  List.all_eq_true.mp List.all_takeWhile c h

/-! ### The exponent -/

/-- The digits of an exponent behind its sign, to the end. -/
def readExponentDigits? (negative : Bool) (digits : List Char) : Option Int :=
  if digits.isEmpty || !digits.all Char.isDigit then none
  else some (Json.NumberLiteral.signed negative digits)

theorem readExponent?_minus (cs : List Char) :
    readExponent? ('-' :: cs) = readExponentDigits? true cs := rfl

theorem readExponent?_plus (cs : List Char) :
    readExponent? ('+' :: cs) = readExponentDigits? false cs := rfl

theorem readExponent?_of_head_ne {cs : List Char} (hminus : cs.head? ≠ some '-')
    (hplus : cs.head? ≠ some '+') : readExponent? cs = readExponentDigits? false cs := by
  cases cs with
  | nil => rfl
  | cons c cs =>
      have hminus : c ≠ '-' := fun heq => hminus (by rw [heq]; rfl)
      have hplus : c ≠ '+' := fun heq => hplus (by rw [heq]; rfl)
      simp [readExponent?, readExponentDigits?, hminus, hplus, Json.NumberLiteral.signed]

theorem readExponentDigits?_eq_some_iff {negative : Bool} {digits : List Char} {exponent : Int} :
    readExponentDigits? negative digits = some exponent ↔
      Digits digits ∧ exponent = Json.NumberLiteral.signed negative digits := by
  have hdigits : (digits.isEmpty || !digits.all Char.isDigit) = false ↔ Digits digits := by
    simp [Digits]
  rw [readExponentDigits?, ← hdigits]
  cases (digits.isEmpty || !digits.all Char.isDigit) <;> simp [eq_comm]

/-- An exponent is read if and only if it is a sign and digits. -/
theorem readExponent?_eq_some_iff {cs : List Char} {exponent : Int} :
    readExponent? cs = some exponent ↔
      ∃ negative signText digits, WritesSign negative signText ∧ Digits digits ∧
        cs = signText ++ digits ∧ exponent = Json.NumberLiteral.signed negative digits := by
  constructor
  · intro h
    by_cases hminus : cs.head? = some '-'
    · obtain ⟨digits, rfl⟩ := List.head?_eq_some_iff.mp hminus
      rw [readExponent?_minus, readExponentDigits?_eq_some_iff] at h
      exact ⟨true, ['-'], digits, .minus, h.1, rfl, h.2⟩
    · by_cases hplus : cs.head? = some '+'
      · obtain ⟨digits, rfl⟩ := List.head?_eq_some_iff.mp hplus
        rw [readExponent?_plus, readExponentDigits?_eq_some_iff] at h
        exact ⟨false, ['+'], digits, .plus, h.1, rfl, h.2⟩
      · rw [readExponent?_of_head_ne hminus hplus, readExponentDigits?_eq_some_iff] at h
        exact ⟨false, [], cs, .absent, h.1, rfl, h.2⟩
  · rintro ⟨negative, signText, digits, hsign, hdigits, rfl, rfl⟩
    have hread : readExponentDigits? negative digits =
        some (Json.NumberLiteral.signed negative digits) :=
      readExponentDigits?_eq_some_iff.mpr ⟨hdigits, rfl⟩
    cases hsign with
    | minus => exact hread
    | plus => exact hread
    | absent =>
        -- digits begin with no sign
        obtain ⟨c, more, rfl, hc⟩ := hdigits.exists_cons
        rw [List.nil_append, readExponent?_of_head_ne]
        · exact hread
        · intro hhead
          cases hhead
          cases hc
        · intro hhead
          cases hhead
          cases hc

/-- The end of a numeral: a mark with an exponent, or nothing. -/
def readMarked? : List Char → Option (Option Int)
  | [] => some none
  | mark :: rest =>
    if mark = 'e' || mark = 'E' then (readExponent? rest).map some else none

theorem readMarked?_eq_some_iff {cs : List Char} {exponent : Option Int} :
    readMarked? cs = some exponent ↔ WritesExponent exponent cs := by
  constructor
  · intro h
    cases cs with
    | nil =>
        cases h
        exact .absent
    | cons mark rest =>
        rw [readMarked?] at h
        split at h
        · rename_i hmark
          obtain ⟨number, hnumber, rfl⟩ := Option.map_eq_some_iff.mp h
          obtain ⟨negative, signText, digits, hsign, hdigits, rfl, rfl⟩ :=
            readExponent?_eq_some_iff.mp hnumber
          exact .marked (by simpa using hmark) hsign hdigits
        · cases h
  · rintro (_ | ⟨hmark, hsign, hdigits⟩)
    · rfl
    · rw [readMarked?, if_pos (by simpa using hmark),
        readExponent?_eq_some_iff.mpr ⟨_, _, _, hsign, hdigits, rfl, rfl⟩]
      rfl

/-! ### The digits around the point -/

/-- The digits behind a point at the front, and what follows. -/
def splitPoint (cs : List Char) : List Char × List Char :=
  match cs with
  | '.' :: rest => (rest.takeWhile Char.isDigit, rest.dropWhile Char.isDigit)
  | _ => ([], cs)

theorem exists_of_splitPoint (cs : List Char) :
    ∃ pointText, cs = pointText ++ (splitPoint cs).2 ∧
      WritesPoint (splitPoint cs).1 pointText := by
  unfold splitPoint
  split
  · rename_i rest
    refine ⟨'.' :: rest.takeWhile Char.isDigit, ?_, .point fun c => isDigit_of_mem_takeWhile⟩
    rw [List.cons_append, List.takeWhile_append_dropWhile]
  · exact ⟨[], rfl, .absent⟩

/-- What ends a numeral begins with neither a digit nor a point. -/
theorem noDigit_of_writesExponent {exponent : Option Int} {exponentText : List Char}
    (h : WritesExponent exponent exponentText) :
    NoDigit exponentText ∧ exponentText.head? ≠ some '.' := by
  have hended : Ended [] := nofun
  simpa using h.not_begins hended

theorem splitPoint_of_writes {fraction pointText exponentText : List Char}
    {exponent : Option Int} (hpoint : WritesPoint fraction pointText)
    (hexponent : WritesExponent exponent exponentText) :
    splitPoint (pointText ++ exponentText) = (fraction, exponentText) := by
  obtain ⟨hdigit, hhead⟩ := noDigit_of_writesExponent hexponent
  cases hpoint with
  | absent =>
      rw [List.nil_append, splitPoint]
      rintro rest rfl
      exact hhead rfl
  | point hdigits =>
      obtain ⟨htake, hdrop⟩ := takeWhile_isDigit hdigits hdigit
      rw [List.cons_append, splitPoint, htake, hdrop]

theorem noDigit_point {fraction pointText exponentText : List Char}
    {exponent : Option Int} (hpoint : WritesPoint fraction pointText)
    (hexponent : WritesExponent exponent exponentText) : NoDigit (pointText ++ exponentText) := by
  cases hpoint with
  | absent => exact (noDigit_of_writesExponent hexponent).1
  | point => exact fun c hc => by cases hc; rfl

theorem readUnsigned?_eq (negative : Bool) (cs : List Char) :
    readUnsigned? negative cs =
      let whole := cs.takeWhile Char.isDigit
      let fraction := (splitPoint (cs.dropWhile Char.isDigit)).1
      if whole.isEmpty && fraction.isEmpty then none
      else
        (readMarked? (splitPoint (cs.dropWhile Char.isDigit)).2).map fun exponent =>
          .finite negative (digitsValue (whole ++ fraction))
            (-(fraction.length : Int) + exponent.getD 0) := by
  have hparts : readUnsigned? negative cs =
      let whole := cs.takeWhile Char.isDigit
      let parts := splitPoint (cs.dropWhile Char.isDigit)
      if whole.isEmpty && parts.1.isEmpty then none
      else
        match parts.2 with
        | [] => some (.finite negative (digitsValue (whole ++ parts.1)) (-(parts.1.length : Int)))
        | mark :: rest =>
          if mark = 'e' || mark = 'E' then
            (readExponent? rest).map fun exponent =>
              .finite negative (digitsValue (whole ++ parts.1))
                (-(parts.1.length : Int) + exponent)
          else none := rfl
  rw [hparts]
  generalize splitPoint (cs.dropWhile Char.isDigit) = parts
  obtain ⟨fraction, after⟩ := parts
  cases after with
  | nil => simp only [readMarked?, Option.map_some, Option.getD_none, add_zero]
  | cons mark rest =>
      simp only [readMarked?]
      split
      · rfl
      · split
        · rw [Option.map_map]
          rfl
        · rfl

/-- What is read without a sign is written so. -/
theorem exists_of_readUnsigned? {negative : Bool} {cs : List Char} {numeral : Numeral}
    (h : readUnsigned? negative cs = some numeral) :
    ∃ whole fraction exponent, WritesUnsigned whole fraction exponent cs ∧
      numeral = .finite negative (digitsValue (whole ++ fraction))
        (-(fraction.length : Int) + exponent.getD 0) := by
  rw [readUnsigned?_eq] at h
  simp only at h
  split at h
  · cases h
  · rename_i hdigits
    obtain ⟨exponent, hexponent, rfl⟩ := Option.map_eq_some_iff.mp h
    obtain ⟨pointText, hrest, hpoint⟩ := exists_of_splitPoint (cs.dropWhile Char.isDigit)
    refine ⟨_, _, exponent, ?_, rfl⟩
    have hwritten := WritesUnsigned.parts (fun c => isDigit_of_mem_takeWhile) hpoint
      (by simpa using hdigits) (readMarked?_eq_some_iff.mp hexponent)
    rwa [List.append_assoc, ← hrest, List.takeWhile_append_dropWhile] at hwritten

/-- What is written without a sign is read. -/
theorem readUnsigned?_of_writes {whole fraction cs : List Char} {exponent : Option Int}
    (h : WritesUnsigned whole fraction exponent cs) (negative : Bool) :
    readUnsigned? negative cs =
      some (.finite negative (digitsValue (whole ++ fraction))
        (-(fraction.length : Int) + exponent.getD 0)) := by
  obtain ⟨hwhole, hpoint, hdigits, hexponent⟩ := h
  obtain ⟨htake, hdrop⟩ := takeWhile_isDigit hwhole (noDigit_point hpoint hexponent)
  rw [readUnsigned?_eq, List.append_assoc]
  simp only [htake, hdrop, splitPoint_of_writes hpoint hexponent,
    readMarked?_eq_some_iff.mpr hexponent]
  rw [if_neg (by simpa using hdigits)]
  rfl

/-! ### The sign and the words -/

/-- A numeral without its sign begins with a digit or a point. -/
theorem WritesUnsigned.exists_cons {whole fraction cs : List Char} {exponent : Option Int}
    (h : WritesUnsigned whole fraction exponent cs) :
    ∃ c rest, cs = c :: rest ∧ (c.isDigit = true ∨ c = '.') := by
  obtain ⟨hwhole, hpoint, hdigits, -⟩ := h
  cases whole with
  | cons c whole => exact ⟨c, _, rfl, .inl (hwhole c List.mem_cons_self)⟩
  | nil =>
      cases hpoint with
      | absent => exact absurd rfl hdigits
      | point => exact ⟨'.', _, rfl, .inr rfl⟩

/-- Digits and points have no other case, so no numeral is one of the words. -/
theorem readSigned?_of_writes {whole fraction cs : List Char} {exponent : Option Int}
    (h : WritesUnsigned whole fraction exponent cs) (negative : Bool) :
    readSigned? negative cs = readUnsigned? negative cs := by
  obtain ⟨c, rest, rfl, hc⟩ := h.exists_cons
  have hlower : c.toLower ≠ 'i' ∧ c.toLower ≠ 'n' := by
    rcases hc with hdigit | rfl
    · have hsame : c.toLower = c := by
        simp only [Char.isDigit, Bool.and_eq_true, decide_eq_true_eq, ge_iff_le] at hdigit
        refine dif_neg fun hupper => ?_
        exact absurd (UInt32.le_trans hupper.1 hdigit.2) (by decide)
      rw [hsame]
      constructor
      · rintro rfl
        cases hdigit
      · rintro rfl
        cases hdigit
    · exact ⟨by decide, by decide⟩
  have hinf : (c :: rest).map Char.toLower ≠ "inf".toList := by
    intro heq
    exact hlower.1 (List.cons.inj heq).1
  have hinfinity : (c :: rest).map Char.toLower ≠ "infinity".toList := by
    intro heq
    exact hlower.1 (List.cons.inj heq).1
  have hnan : (c :: rest).map Char.toLower ≠ "nan".toList := by
    intro heq
    exact hlower.2 (List.cons.inj heq).1
  simp only [readSigned?]
  rw [if_neg, if_neg hnan]
  simp only [Bool.or_eq_true, decide_eq_true_eq, not_or]
  exact ⟨hinf, hinfinity⟩

/-- A number read behind a sign is read off what stands there. -/
theorem readUnsigned?_of_readSigned? {negative sign : Bool} {cs : List Char} {digits : Nat}
    {exponent : Int} (h : readSigned? negative cs = some (.finite sign digits exponent)) :
    readUnsigned? negative cs = some (.finite sign digits exponent) := by
  simp only [readSigned?] at h
  split at h
  · cases h
  · split at h
    · cases h
    · exact h

/-- A number is read off a text if and only if it stands there behind its sign. -/
theorem read?_eq_finite_iff {text : String} {negative : Bool} {digits : Nat} {exponent : Int} :
    read? text = some (.finite negative digits exponent) ↔
      ∃ sign signText unsigned, WritesSign sign signText ∧ text.toList = signText ++ unsigned ∧
        readUnsigned? sign unsigned = some (.finite negative digits exponent) := by
  constructor
  · intro h
    unfold read? at h
    split at h
    · rename_i rest htext
      exact ⟨true, ['-'], rest, .minus, htext, readUnsigned?_of_readSigned? h⟩
    · rename_i rest htext
      exact ⟨false, ['+'], rest, .plus, htext, readUnsigned?_of_readSigned? h⟩
    · exact ⟨false, [], text.toList, .absent, rfl, readUnsigned?_of_readSigned? h⟩
  · rintro ⟨sign, signText, unsigned, hsign, htext, hread⟩
    obtain ⟨_, _, _, hwritten, -⟩ := exists_of_readUnsigned? hread
    rw [← readSigned?_of_writes hwritten] at hread
    unfold read?
    rw [htext]
    cases hsign with
    | minus => exact hread
    | plus => exact hread
    | absent =>
        obtain ⟨c, rest, rfl, hc⟩ := hwritten.exists_cons
        rw [List.nil_append]
        split
        · rename_i heq
          cases heq
          rcases hc with hc | hc <;> cases hc
        · rename_i heq
          cases heq
          rcases hc with hc | hc <;> cases hc
        · exact hread

/-! ### The number -/

/-- The reader and the grammar agree, on the number too. -/
theorem spells_iff {text : String} {number : ℚ} :
    Spells text.toList number ↔
      ∃ numeral, read? text = some numeral ∧ numeral.value? = some number := by
  have hvalue : ∀ (negative : Bool) (whole fraction : List Char) (exponent : Option Int),
      (if negative then (-1 : ℚ) else 1) * digitsValue (whole ++ fraction) *
          10 ^ (-(fraction.length : Int) + exponent.getD 0) =
        (if negative then -1 else 1) *
          (digitsValue whole + digitsValue fraction / 10 ^ fraction.length) *
          10 ^ exponent.getD 0 := by
    intro negative whole fraction exponent
    rw [mul_assoc, digitsValue_point, ← mul_assoc]
  constructor
  · generalize htext : text.toList = cs
    intro h
    cases h with
    | @signed negative signText unsigned whole fraction exponent hsign hunsigned =>
        have hread := readUnsigned?_of_writes hunsigned negative
        refine ⟨_, read?_eq_finite_iff.mpr ⟨negative, signText, unsigned, hsign, htext, hread⟩, ?_⟩
        rw [value?, hvalue]
  · rintro ⟨numeral, hread, hnumber⟩
    cases numeral with
    | infinite => cases hnumber
    | notANumber => cases hnumber
    | finite negative digits exponent =>
        obtain ⟨sign, signText, unsigned, hsign, htext, hunsigned⟩ := read?_eq_finite_iff.mp hread
        obtain ⟨whole, fraction, power, hwritten, heq⟩ := exists_of_readUnsigned? hunsigned
        cases heq
        cases hnumber
        rw [htext, hvalue]
        exact .signed hsign hwritten

end Numeral

end SecretEnv
