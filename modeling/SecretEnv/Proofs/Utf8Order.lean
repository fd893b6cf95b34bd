import Mathlib.Data.List.Lex
import Mathlib.Data.String.Basic
import SecretEnv.Proofs.Utf8

/-!
# The order of octets is the order of texts

**Texts compare as their octets do** (`Utf8.encode_lt_encode_iff`): a greater character has a
greater octet at the first place where the two differ, and it has one, since the octets of a
character do not go on with another's. So names that are visited in order are visited in the order
of their octets.
-/

namespace SecretEnv.Utf8

/-- The four lengths in which characters are written. -/
theorem encodeChar_cases (c : Char) :
    (c.toNat < 0x80 ∧ encodeChar c = [UInt8.ofNat c.toNat]) ∨
    (0x80 ≤ c.toNat ∧ c.toNat < 0x800 ∧ encodeChar c =
      [UInt8.ofNat (0xC0 + c.toNat / 0x40), UInt8.ofNat (0x80 + c.toNat % 0x40)]) ∨
    (0x800 ≤ c.toNat ∧ c.toNat < 0x10000 ∧ encodeChar c =
      [UInt8.ofNat (0xE0 + c.toNat / 0x1000), UInt8.ofNat (0x80 + c.toNat / 0x40 % 0x40),
        UInt8.ofNat (0x80 + c.toNat % 0x40)]) ∨
    (0x10000 ≤ c.toNat ∧ c.toNat < 0x110000 ∧ encodeChar c =
      [UInt8.ofNat (0xF0 + c.toNat / 0x40000), UInt8.ofNat (0x80 + c.toNat / 0x1000 % 0x40),
        UInt8.ofNat (0x80 + c.toNat / 0x40 % 0x40), UInt8.ofNat (0x80 + c.toNat % 0x40)]) := by
  have hbound : c.toNat < 0x110000 := by
    rcases toNat_lt_or c with h | ⟨-, h⟩ <;> omega
  unfold encodeChar
  dsimp only
  split
  · exact .inl ⟨‹_›, rfl⟩
  split
  · exact .inr (.inl ⟨by omega, ‹_›, rfl⟩)
  split
  · exact .inr (.inr (.inl ⟨by omega, ‹_›, rfl⟩))
  · exact .inr (.inr (.inr ⟨by omega, hbound, rfl⟩))

/-- The octet in front decides, or where it is the same what follows. -/
theorem cons_lt_cons {k l : Nat} {rest others : Octets} (hle : k ≤ l) (hl : l < 256)
    (h : k = l → rest < others) : UInt8.ofNat k :: rest < UInt8.ofNat l :: others := by
  rw [List.cons_lt_cons_iff]
  rcases Nat.lt_or_eq_of_le hle with hlt | rfl
  · left
    rw [UInt8.lt_iff_toNat_lt, toNat_ofNat_of_lt hl, toNat_ofNat_of_lt (hlt.trans hl)]
    exact hlt
  · exact .inr ⟨rfl, h rfl⟩

/-- Of two characters the octets of the lesser come first, whatever follows them. -/
theorem encodeChar_append_lt {c d : Char} (h : c < d) (rest others : Octets) :
    encodeChar c ++ rest < encodeChar d ++ others := by
  have hlt : c.toNat < d.toNat := h
  rcases encodeChar_cases c with ⟨hc, hcs⟩ | ⟨hc, hc', hcs⟩ | ⟨hc, hc', hcs⟩ | ⟨hc, hc', hcs⟩ <;>
  rcases encodeChar_cases d with ⟨hd, hds⟩ | ⟨hd, hd', hds⟩ | ⟨hd, hd', hds⟩ | ⟨hd, hd', hds⟩ <;>
  rw [hcs, hds]
  -- a character that is written longer has the greater octet in front; of one length, the first
  -- octet that differs is the greater one
  all_goals
    repeat
      refine cons_lt_cons (by omega) (by omega) fun hsame => ?_
      try omega

theorem encodeChars_lt {cs ds : List Char} (h : cs < ds) : encodeChars cs < encodeChars ds := by
  induction h with
  | nil =>
      rename_i d ds
      rcases encodeChar_cases d with ⟨-, hd⟩ | ⟨-, -, hd⟩ | ⟨-, -, hd⟩ | ⟨-, -, hd⟩ <;>
      · rw [encodeChars, encodeChars, List.flatMap_cons, hd]
        exact .nil
  | rel h => exact encodeChar_append_lt h _ _
  | cons _ ih => exact List.append_left_lt ih

/-- **Texts are in the order of their octets.** -/
theorem encode_lt_encode_iff {s t : String} : encode s < encode t ↔ s < t := by
  constructor
  · intro h
    rcases lt_trichotomy s t with hlt | rfl | hgt
    · exact hlt
    · exact absurd h (List.lt_irrefl _)
    · exact absurd h (List.lt_asymm (encodeChars_lt (String.lt_iff_toList_lt.mp hgt)))
  · intro h
    exact encodeChars_lt (String.lt_iff_toList_lt.mp h)

theorem compare_eq_lt_iff {s t : String} : compare s t = .lt ↔ encode s < encode t := by
  rw [compare_lt_iff_lt, encode_lt_encode_iff]

end SecretEnv.Utf8
