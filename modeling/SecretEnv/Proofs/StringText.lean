import SecretEnv.Json.StringLiteral

/-!
# The texts of strings

**Each character of a string is spelt by itself, by a letter behind a backslash, or by hexadecimal
digits** (`Spells`): four of them for a character that is one unit of UTF-16, twice four for one
that is a pair. The reader takes such a text and its closing quote off whatever follows, and nothing
else (`readString_eq_some_iff`).
-/

namespace SecretEnv.Json

/-- What stands between the quotes of a literal, and the characters that it denotes. -/
inductive Spells : List Char → List Char → Prop where
  | nil : Spells [] []
  /-- A character that is no quote, no backslash and no control stands for itself. -/
  | plain {c : Char} {body cs : List Char} (hquote : c ≠ '"') (hslash : c ≠ '\\')
      (hcontrol : ¬ c.toNat < 0x20) (h : Spells body cs) : Spells (c :: body) (c :: cs)
  | letter {letter c : Char} {body cs : List Char} (hletter : charOf? letter = some c)
      (h : Spells body cs) : Spells ('\\' :: letter :: body) (c :: cs)
  /-- A unit that is no half of a pair is a character. -/
  | unit {a b c d : Char} {n : Nat} {body cs : List Char} (hunit : hexQuad? a b c d = some n)
      (hn : n < 0xD800 ∨ 0xE000 ≤ n) (h : Spells body cs) :
      Spells ('\\' :: 'u' :: a :: b :: c :: d :: body) (Char.ofNat n :: cs)
  /-- The first half of a pair, and directly behind it the second. -/
  | pair {a b c d e f g i : Char} {high low : Nat} {body cs : List Char}
      (hhigh : hexQuad? a b c d = some high) (hfirst : 0xD800 ≤ high ∧ high < 0xDC00)
      (hlow : hexQuad? e f g i = some low) (hsecond : 0xDC00 ≤ low ∧ low < 0xE000)
      (h : Spells body cs) :
      Spells ('\\' :: 'u' :: a :: b :: c :: d :: '\\' :: 'u' :: e :: f :: g :: i :: body)
        (Char.ofNat (0x10000 + (high - 0xD800) * 0x400 + (low - 0xDC00)) :: cs)

/-! ### Reading one character -/

/-- A character before what is read of the rest. -/
def withChar (c : Char) (read : Option (List Char × List Char)) : Option (List Char × List Char) :=
  read.map fun (cs, after) => (c :: cs, after)

theorem readString_letter {letter c : Char} (h : charOf? letter = some c) (rest : List Char) :
    readString ('\\' :: letter :: rest) = withChar c (readString rest) := by
  have hunit : letter ≠ 'u' := by
    rintro rfl
    cases h
  rw [readString]
  · simp [h, withChar]
  · intro a b c' d rest' heq
    simp [hunit] at heq

theorem readString_unit {a b c d : Char} {n : Nat} (h : hexQuad? a b c d = some n)
    (hn : n < 0xD800 ∨ 0xE000 ≤ n) (rest : List Char) :
    readString ('\\' :: 'u' :: a :: b :: c :: d :: rest) =
      withChar (Char.ofNat n) (readString rest) := by
  rw [readString, h]
  simp [hn, withChar]

theorem readString_plain {c : Char} (hquote : c ≠ '"') (hslash : c ≠ '\\')
    (hcontrol : ¬ c.toNat < 0x20) (rest : List Char) :
    readString (c :: rest) = withChar c (readString rest) := by
  rw [readString]
  · simp [hcontrol, withChar]
  all_goals simp_all

/-- What is made of a part that is read leaves what the part left. -/
theorem map_eq_some_iff {α β : Type} {read : Option (α × List Char)} {f : α → β} {out : β}
    {rest : List Char} :
    (read.map fun (part, after) => (f part, after)) = some (out, rest) ↔
      ∃ part, read = some (part, rest) ∧ out = f part := by
  cases read with
  | none => simp
  | some pair =>
      obtain ⟨part, after⟩ := pair
      simp only [Option.map_some, Option.some.injEq, Prod.mk.injEq]
      constructor
      · rintro ⟨rfl, rfl⟩
        exact ⟨part, ⟨rfl, rfl⟩, rfl⟩
      · rintro ⟨_, ⟨rfl, rfl⟩, rfl⟩
        exact ⟨rfl, rfl⟩

theorem withChar_eq_some_iff {c : Char} {read : Option (List Char × List Char)}
    {out rest : List Char} :
    withChar c read = some (out, rest) ↔ ∃ cs, read = some (cs, rest) ∧ out = c :: cs :=
  map_eq_some_iff

theorem readString_pair {a b c d e f g i : Char} {high low : Nat}
    (hhigh : hexQuad? a b c d = some high) (hfirst : 0xD800 ≤ high ∧ high < 0xDC00)
    (hlow : hexQuad? e f g i = some low) (hsecond : 0xDC00 ≤ low ∧ low < 0xE000)
    (rest : List Char) :
    readString
        ('\\' :: 'u' :: a :: b :: c :: d :: '\\' :: 'u' :: e :: f :: g :: i :: rest) =
      withChar (Char.ofNat (0x10000 + (high - 0xD800) * 0x400 + (low - 0xDC00)))
        (readString rest) := by
  have hhalf : ¬ (high < 0xD800 ∨ 0xE000 ≤ high) := by omega
  have hnotLow : ¬ 0xDC00 ≤ high := by omega
  rw [readString, hhigh]
  simp only [if_neg hhalf, if_neg hnotLow, hlow, if_pos hsecond, withChar]

/-! ### Reading a literal -/

/-- What spells characters is read, up to the quote behind it. -/
theorem readString_of_spells {body cs : List Char} (h : Spells body cs) (rest : List Char) :
    readString (body ++ '"' :: rest) = some (cs, rest) := by
  induction h with
  | nil => rfl
  | plain hquote hslash hcontrol _ ih =>
      rw [List.cons_append, readString_plain hquote hslash hcontrol, ih]
      rfl
  | letter hletter _ ih =>
      rw [List.cons_append, List.cons_append, readString_letter hletter, ih]
      rfl
  | unit hunit hn _ ih =>
      simp only [List.cons_append]
      rw [readString_unit hunit hn, ih]
      rfl
  | pair hhigh hfirst hlow hsecond _ ih =>
      simp only [List.cons_append]
      rw [readString_pair hhigh hfirst hlow hsecond, ih]
      rfl

/-- What is read spells the characters, up to a quote. -/
theorem exists_of_readString {cs out rest : List Char} (h : readString cs = some (out, rest)) :
    ∃ body, cs = body ++ '"' :: rest ∧ Spells body out := by
  fun_induction readString cs generalizing out rest with
  | case1 => cases h
  | case2 rest =>
      cases h
      exact ⟨[], rfl, .nil⟩
  | case4 a b c d more n hunit hn ih =>
      obtain ⟨cs, hread, rfl⟩ := withChar_eq_some_iff.mp h
      obtain ⟨body, rfl, hbody⟩ := ih hread
      exact ⟨_, rfl, .unit hunit hn hbody⟩
  | case7 a b c d high hhigh hnotOne hnotSecond e f g i more low hlow hsecond code =>
      rename_i ih
      obtain ⟨cs, hread, rfl⟩ := withChar_eq_some_iff.mp h
      obtain ⟨body, rfl, hbody⟩ := ih hread
      exact ⟨_, rfl, .pair hhigh (by omega) hlow hsecond hbody⟩
  | case11 letter more _ c hletter ih =>
      obtain ⟨cs, hread, rfl⟩ := withChar_eq_some_iff.mp h
      obtain ⟨body, rfl, hbody⟩ := ih hread
      exact ⟨_, rfl, .letter hletter hbody⟩
  | case13 c more hquote _ hslash hcontrol ih =>
      obtain ⟨cs, hread, rfl⟩ := withChar_eq_some_iff.mp h
      obtain ⟨body, rfl, hbody⟩ := ih hread
      refine ⟨_, rfl, .plain hquote ?_ hcontrol hbody⟩
      -- a backslash would have been read with what follows it
      intro hc
      have hne : body ++ '"' :: rest ≠ [] := by simp
      obtain ⟨next, others, hnext⟩ := List.exists_cons_of_ne_nil hne
      exact hslash next others hc hnext
  | case3 | case5 | case6 | case8 | case9 | case10 | case12 => cases h

theorem readString_eq_some_iff {cs out rest : List Char} :
    readString cs = some (out, rest) ↔ ∃ body, cs = body ++ '"' :: rest ∧ Spells body out := by
  constructor
  · exact exists_of_readString
  · intro h
    obtain ⟨body, rfl, hbody⟩ := h
    exact readString_of_spells hbody rest

end SecretEnv.Json
