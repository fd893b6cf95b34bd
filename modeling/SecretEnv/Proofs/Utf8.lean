import SecretEnv.Text.Utf8

/-!
# Octets that are text

**The strict reading succeeds on the octets of texts and on no others** (`decode_eq_ok_iff`). That
it reads back what was written stands beside its definition; here is the other direction. A
character of several octets is followed through its partial forms: each octet that continues one
lies within its bounds (`inv_last`, `inv_further`), and within these bounds its number has the same
octets again (`encodeChar_two` and the like). An octet below 0x80 stands for itself wherever it
occurs (`not_mem_encode`).
-/

namespace SecretEnv.Utf8

/-! ### Octets of texts -/

/-- Of the octets of a character only the octet of an ASCII character lies below 0x80. -/
theorem toNat_eq_of_mem_encodeChar {c : Char} {b : UInt8} (hmem : b ∈ encodeChar c)
    (hb : b.toNat < 0x80) : c.toNat = b.toNat := by
  have bounds := toNat_lt_or c
  unfold encodeChar at hmem
  simp only at hmem
  split at hmem
  · obtain rfl := List.mem_singleton.mp hmem
    exact (toNat_ofNat_of_lt (by omega)).symm
  -- every octet of a longer character has its highest bit set
  split at hmem
  · simp only [List.mem_cons, List.not_mem_nil, or_false] at hmem
    rcases hmem with rfl | rfl <;> rw [toNat_ofNat_of_lt (by omega)] at hb <;> omega
  split at hmem
  · simp only [List.mem_cons, List.not_mem_nil, or_false] at hmem
    rcases hmem with rfl | rfl | rfl <;> rw [toNat_ofNat_of_lt (by omega)] at hb <;> omega
  · simp only [List.mem_cons, List.not_mem_nil, or_false] at hmem
    rcases hmem with rfl | rfl | rfl | rfl <;> rw [toNat_ofNat_of_lt (by omega)] at hb <;> omega

theorem not_mem_encode {text : String} {c : Char} {b : UInt8} (hc : c.toNat = b.toNat)
    (hb : b.toNat < 0x80) (h : c ∉ text.toList) : b ∉ encode text := by
  intro hmem
  obtain ⟨d, hd, hbd⟩ := List.mem_flatMap.mp hmem
  have heq : d.toNat = c.toNat := (toNat_eq_of_mem_encodeChar hbd hb).trans hc.symm
  have hdc : d = c := by rw [← Char.ofNat_toNat d, heq, Char.ofNat_toNat]
  exact h (hdc ▸ hd)

theorem encode_ne_nil {text : String} (h : text ≠ "") : encode text ≠ [] := by
  intro hnil
  exact h (encode_injective (hnil.trans rfl))

/-! ### The number of a character -/

theorem toNat_char {n : Nat} (h : n.isValidChar) : (Char.ofNat n).toNat = n := by
  rw [Char.ofNat, dif_pos h]
  rfl

theorem ofNat_eq {n : Nat} {b : UInt8} (h : n = b.toNat) : UInt8.ofNat n = b := by
  rw [h]
  exact UInt8.ofNat_toNat

/-! ### What follows a character that has begun -/

section

variable {low high value size : Nat} {octets : Octets} {cs : List Char}

/-- The last octet of a character. -/
theorem inv_last (h : piecesAfter (some ⟨1, low, high, value, size⟩) octets = cs.map .char) :
    ∃ b rest cs', octets = b :: rest ∧ low ≤ b.toNat ∧ b.toNat ≤ high ∧
      cs = Char.ofNat (value * 0x40 + (b.toNat - 0x80)) :: cs' ∧
      piecesAfter none rest = cs'.map .char := by
  cases octets with
  | nil => cases cs <;> simp [piecesAfter] at h
  | cons b rest =>
      rw [piecesAfter] at h
      split at h
      · rename_i hbounds
        cases cs with
        | nil => simp [Partial.extend] at h
        | cons c cs =>
            simp only [Partial.extend, Nat.le_refl, if_true, List.map_cons, List.cons.injEq,
              Piece.char.injEq] at h
            exact ⟨b, rest, cs, rfl, hbounds.1, hbounds.2, by rw [h.1], h.2⟩
      · cases cs <;> simp at h

/-- An octet of a character, and more of them to come. -/
theorem inv_further {needed : Nat}
    (h : piecesAfter (some ⟨needed + 2, low, high, value, size⟩) octets = cs.map .char) :
    ∃ b rest, octets = b :: rest ∧ low ≤ b.toNat ∧ b.toNat ≤ high ∧
      piecesAfter
        (some ⟨needed + 1, 0x80, 0xBF, value * 0x40 + (b.toNat - 0x80), size + 1⟩) rest =
        cs.map .char := by
  cases octets with
  | nil => cases cs <;> simp [piecesAfter] at h
  | cons b rest =>
      rw [piecesAfter] at h
      split at h
      · rename_i hbounds
        exact ⟨b, rest, rfl, hbounds.1, hbounds.2, by simpa [Partial.extend] using h⟩
      · cases cs <;> simp at h

end

/-! ### The octets of a number within bounds -/

section

variable {b₁ b₂ b₃ b₄ : UInt8}

theorem encodeChar_one (h : b₁.toNat < 0x80) : encodeChar (Char.ofNat b₁.toNat) = [b₁] := by
  have hn : (Char.ofNat b₁.toNat).toNat = b₁.toNat := toNat_char (.inl (by omega))
  simp only [encodeChar, hn, if_pos h]
  rw [ofNat_eq rfl]

theorem encodeChar_two (h₁ : 0xC2 ≤ b₁.toNat) (h₁' : b₁.toNat < 0xE0) (h₂ : 0x80 ≤ b₂.toNat)
    (h₂' : b₂.toNat ≤ 0xBF) :
    encodeChar (Char.ofNat ((b₁.toNat - 0xC0) * 0x40 + (b₂.toNat - 0x80))) = [b₁, b₂] := by
  generalize hn : (b₁.toNat - 0xC0) * 0x40 + (b₂.toNat - 0x80) = n
  have hchar : (Char.ofNat n).toNat = n := toNat_char (.inl (by omega))
  simp only [encodeChar, hchar]
  rw [if_neg (by omega), if_pos (by omega), ofNat_eq (b := b₁) (by omega),
    ofNat_eq (b := b₂) (by omega)]

theorem encodeChar_three (h₁ : 0xE0 ≤ b₁.toNat) (h₁' : b₁.toNat < 0xF0)
    (h₂ : (if b₁.toNat = 0xE0 then 0xA0 else 0x80) ≤ b₂.toNat)
    (h₂' : b₂.toNat ≤ if b₁.toNat = 0xED then 0x9F else 0xBF) (h₃ : 0x80 ≤ b₃.toNat)
    (h₃' : b₃.toNat ≤ 0xBF) :
    encodeChar (Char.ofNat
      (((b₁.toNat - 0xE0) * 0x40 + (b₂.toNat - 0x80)) * 0x40 + (b₃.toNat - 0x80))) =
      [b₁, b₂, b₃] := by
  -- the bounds of the second octet shut out numbers that are too small, and surrogates
  have hlow : 0x80 ≤ b₂.toNat := by split at h₂ <;> omega
  have hhigh : b₂.toNat ≤ 0xBF := by split at h₂' <;> omega
  have hshort : 0x800 ≤
      ((b₁.toNat - 0xE0) * 0x40 + (b₂.toNat - 0x80)) * 0x40 + (b₃.toNat - 0x80) := by
    split at h₂ <;> omega
  have hvalid : (((b₁.toNat - 0xE0) * 0x40 + (b₂.toNat - 0x80)) * 0x40 +
      (b₃.toNat - 0x80)).isValidChar := by
    unfold Nat.isValidChar
    split at h₂' <;> omega
  generalize hn :
    ((b₁.toNat - 0xE0) * 0x40 + (b₂.toNat - 0x80)) * 0x40 + (b₃.toNat - 0x80) = n at *
  simp only [encodeChar, toNat_char hvalid]
  rw [if_neg (by omega), if_neg (by omega), if_pos (by omega), ofNat_eq (b := b₁) (by omega),
    ofNat_eq (b := b₂) (by omega), ofNat_eq (b := b₃) (by omega)]

theorem encodeChar_four (h₁ : 0xF0 ≤ b₁.toNat) (h₁' : b₁.toNat < 0xF5)
    (h₂ : (if b₁.toNat = 0xF0 then 0x90 else 0x80) ≤ b₂.toNat)
    (h₂' : b₂.toNat ≤ if b₁.toNat = 0xF4 then 0x8F else 0xBF) (h₃ : 0x80 ≤ b₃.toNat)
    (h₃' : b₃.toNat ≤ 0xBF) (h₄ : 0x80 ≤ b₄.toNat) (h₄' : b₄.toNat ≤ 0xBF) :
    encodeChar (Char.ofNat
      ((((b₁.toNat - 0xF0) * 0x40 + (b₂.toNat - 0x80)) * 0x40 + (b₃.toNat - 0x80)) * 0x40 +
        (b₄.toNat - 0x80))) = [b₁, b₂, b₃, b₄] := by
  have hlow : 0x80 ≤ b₂.toNat := by split at h₂ <;> omega
  have hhigh : b₂.toNat ≤ 0xBF := by split at h₂' <;> omega
  have hshort : 0x10000 ≤
      (((b₁.toNat - 0xF0) * 0x40 + (b₂.toNat - 0x80)) * 0x40 + (b₃.toNat - 0x80)) * 0x40 +
        (b₄.toNat - 0x80) := by
    split at h₂ <;> omega
  have hvalid : ((((b₁.toNat - 0xF0) * 0x40 + (b₂.toNat - 0x80)) * 0x40 +
      (b₃.toNat - 0x80)) * 0x40 + (b₄.toNat - 0x80)).isValidChar := by
    unfold Nat.isValidChar
    split at h₂' <;> omega
  generalize hn : (((b₁.toNat - 0xF0) * 0x40 + (b₂.toNat - 0x80)) * 0x40 +
    (b₃.toNat - 0x80)) * 0x40 + (b₄.toNat - 0x80) = n at *
  simp only [encodeChar, toNat_char hvalid]
  rw [if_neg (by omega), if_neg (by omega), if_neg (by omega), ofNat_eq (b := b₁) (by omega),
    ofNat_eq (b := b₂) (by omega), ofNat_eq (b := b₃) (by omega), ofNat_eq (b := b₄) (by omega)]

end

/-! ### The strict reading -/

/-- What an octet begins, by the range that it lies in. -/
theorem lead_cases (b : Nat) :
    (b < 0x80 ∧ lead b = .inl (.char (Char.ofNat b))) ∨
    (0xC2 ≤ b ∧ b < 0xE0 ∧ lead b = .inr ⟨1, 0x80, 0xBF, b - 0xC0, 1⟩) ∨
    (0xE0 ≤ b ∧ b < 0xF0 ∧ lead b =
      .inr ⟨2, if b = 0xE0 then 0xA0 else 0x80, if b = 0xED then 0x9F else 0xBF, b - 0xE0, 1⟩) ∨
    (0xF0 ≤ b ∧ b < 0xF5 ∧ lead b =
      .inr ⟨3, if b = 0xF0 then 0x90 else 0x80, if b = 0xF4 then 0x8F else 0xBF, b - 0xF0, 1⟩) ∨
    lead b = .inl (.invalid 1) := by
  unfold lead
  by_cases h₁ : b < 0x80
  · exact .inl ⟨h₁, if_pos h₁⟩
  rw [if_neg h₁]
  by_cases h₂ : b < 0xC2
  · exact .inr (.inr (.inr (.inr (if_pos h₂))))
  rw [if_neg h₂]
  by_cases h₃ : b < 0xE0
  · exact .inr (.inl ⟨by omega, h₃, if_pos h₃⟩)
  rw [if_neg h₃]
  by_cases h₄ : b < 0xF0
  · exact .inr (.inr (.inl ⟨by omega, h₄, if_pos h₄⟩))
  rw [if_neg h₄]
  by_cases h₅ : b < 0xF5
  · exact .inr (.inr (.inr (.inl ⟨by omega, h₅, if_pos h₅⟩)))
  · exact .inr (.inr (.inr (.inr (if_neg h₅))))

/-- The first character that octets spell, its octets, and what follows them. -/
theorem inv_first {b : UInt8} {octets : Octets} {cs : List Char}
    (h : piecesAfter none (b :: octets) = cs.map .char) :
    ∃ c cs' rest, cs = c :: cs' ∧ b :: octets = encodeChar c ++ rest ∧
      piecesAfter none rest = cs'.map .char := by
  rw [piecesAfter] at h
  rcases lead_cases b.toNat with ⟨h₁, hlead⟩ | ⟨h₁, h₁', hlead⟩ | ⟨h₁, h₁', hlead⟩ |
    ⟨h₁, h₁', hlead⟩ | hlead
  · rw [hlead] at h
    cases cs with
    | nil => cases h
    | cons c cs =>
        simp only [List.map_cons, List.cons.injEq, Piece.char.injEq] at h
        refine ⟨c, cs, octets, rfl, ?_, h.2⟩
        rw [← h.1, encodeChar_one h₁]
        rfl
  · rw [hlead] at h
    obtain ⟨b₂, rest, cs', rfl, h₂, h₂', rfl, hrest⟩ := inv_last h
    refine ⟨_, cs', rest, rfl, ?_, hrest⟩
    rw [encodeChar_two h₁ h₁' h₂ h₂']
    rfl
  · rw [hlead] at h
    obtain ⟨b₂, rest, rfl, h₂, h₂', h⟩ := inv_further h
    obtain ⟨b₃, rest, cs', rfl, h₃, h₃', rfl, hrest⟩ := inv_last h
    refine ⟨_, cs', rest, rfl, ?_, hrest⟩
    rw [encodeChar_three h₁ h₁' h₂ h₂' h₃ h₃']
    rfl
  · rw [hlead] at h
    obtain ⟨b₂, rest, rfl, h₂, h₂', h⟩ := inv_further h
    obtain ⟨b₃, rest, rfl, h₃, h₃', h⟩ := inv_further h
    obtain ⟨b₄, rest, cs', rfl, h₄, h₄', rfl, hrest⟩ := inv_last h
    refine ⟨_, cs', rest, rfl, ?_, hrest⟩
    rw [encodeChar_four h₁ h₁' h₂ h₂' h₃ h₃' h₄ h₄']
    rfl
  · rw [hlead] at h
    cases cs <;> simp at h

/-- Octets all of whose pieces are characters are the octets of these characters. -/
theorem encodeChars_of_pieces {octets : Octets} {cs : List Char}
    (h : pieces octets = cs.map .char) : encodeChars cs = octets := by
  -- a character may take several octets, so the induction is on the text and not on the octets
  induction cs generalizing octets with
  | nil =>
      cases octets with
      | nil => rfl
      | cons b octets =>
          obtain ⟨c, cs', rest, hcs, -⟩ := inv_first h
          cases hcs
  | cons c cs ih =>
      cases octets with
      | nil => cases h
      | cons b octets =>
          obtain ⟨c', cs', rest, hcs, hoctets, hrest⟩ := inv_first h
          cases hcs
          rw [hoctets, encodeChars, List.flatMap_cons, ← encodeChars, ih hrest]

theorem readPieces_eq_ok_iff {index : Nat} {ps : List Piece} {cs : List Char} :
    readPieces index ps = .ok cs ↔ ps = cs.map .char := by
  constructor
  · intro h
    induction ps generalizing index cs with
    | nil =>
        cases h
        rfl
    | cons piece rest ih =>
        cases piece with
        | invalid size => cases h
        | incomplete size => cases h
        | char c =>
            rw [readPieces] at h
            cases hrest : readPieces (index + c.utf8Size) rest with
            | error fault => simp [hrest, Except.map] at h
            | ok cs' =>
                rw [hrest] at h
                cases h
                rw [ih hrest, List.map_cons]
  · rintro rfl
    exact readPieces_map_char cs index

/-- Octets are read as a text exactly if they are the octets of that text. -/
theorem decode_eq_ok_iff {octets : Octets} {text : String} :
    decode octets = .ok text ↔ encode text = octets := by
  constructor
  · intro h
    rw [decode] at h
    cases hread : decodeChars octets with
    | error fault => simp [hread, Except.map] at h
    | ok cs =>
        rw [hread] at h
        cases h
        rw [encode, String.toList_ofList]
        exact encodeChars_of_pieces (readPieces_eq_ok_iff.mp hread)
  · rintro rfl
    exact decode_encode text

theorem decode?_eq_some_iff {octets : Octets} {text : String} :
    decode? octets = some text ↔ encode text = octets := by
  rw [← decode_eq_ok_iff, decode?]
  cases decode octets <;> simp [Except.toOption]

end SecretEnv.Utf8
