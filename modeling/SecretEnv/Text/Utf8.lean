/-!
# Octets and UTF-8

**One walk cuts octets into pieces, and every reading of them is a view of the pieces.** A piece is
a character, a run of octets that no character can begin with (the longest one that still looked
like a character before it broke), or a character cut short by the end of the text. The strict
reading (`decode`) fails at the first piece that is no character and says where; the lossy reading
(`decodeLossy`) puts one replacement character for each.

Environment values, child output and file contents are octets; names, arguments and messages are
text.
-/

namespace SecretEnv

/-- A sequence of octets, of any content. -/
abbrev Octets := List UInt8

namespace Utf8

/-! ### Writing -/

/-- The octets of one character, from one to four. -/
def encodeChar (c : Char) : Octets :=
  let n := c.toNat
  if n < 0x80 then [UInt8.ofNat n]
  else if n < 0x800 then [UInt8.ofNat (0xC0 + n / 0x40), UInt8.ofNat (0x80 + n % 0x40)]
  else if n < 0x10000 then
    [UInt8.ofNat (0xE0 + n / 0x1000), UInt8.ofNat (0x80 + n / 0x40 % 0x40),
      UInt8.ofNat (0x80 + n % 0x40)]
  else
    [UInt8.ofNat (0xF0 + n / 0x40000), UInt8.ofNat (0x80 + n / 0x1000 % 0x40),
      UInt8.ofNat (0x80 + n / 0x40 % 0x40), UInt8.ofNat (0x80 + n % 0x40)]

/-- The octets of a sequence of characters. -/
def encodeChars (cs : List Char) : Octets := cs.flatMap encodeChar

/-- The octets of a text. -/
def encode (text : String) : Octets := encodeChars text.toList

/-! ### Cutting octets into pieces -/

/-- A character that has begun: how many octets it still needs, the bounds of the next one, the
number its octets spell so far, and how many of them were read. -/
structure Partial where
  needed : Nat
  low : Nat
  high : Nat
  value : Nat
  size : Nat
  deriving Repr, DecidableEq

/-- A part of a sequence of octets. -/
inductive Piece where
  /-- A character, whole. -/
  | char (c : Char)
  /-- Octets that begin no character, `size` of them. -/
  | invalid (size : Nat)
  /-- A character that the end of the octets cuts off after `size` of its own. -/
  | incomplete (size : Nat)
  deriving Repr, DecidableEq

/-- What an octet begins: a character of its own, a longer character, or nothing. The bounds of the
second octet shut out overlong forms, surrogates and numbers above U+10FFFF. -/
def lead (b : Nat) : Piece ⊕ Partial :=
  if b < 0x80 then .inl (.char (Char.ofNat b))
  else if b < 0xC2 then .inl (.invalid 1)
  else if b < 0xE0 then .inr ⟨1, 0x80, 0xBF, b - 0xC0, 1⟩
  else if b < 0xF0 then
    .inr ⟨2, if b = 0xE0 then 0xA0 else 0x80, if b = 0xED then 0x9F else 0xBF, b - 0xE0, 1⟩
  else if b < 0xF5 then
    .inr ⟨3, if b = 0xF0 then 0x90 else 0x80, if b = 0xF4 then 0x8F else 0xBF, b - 0xF0, 1⟩
  else .inl (.invalid 1)

/-- The character begun, with one more of its octets. -/
def Partial.extend (begun : Partial) (b : Nat) : Piece ⊕ Partial :=
  let value := begun.value * 0x40 + (b - 0x80)
  if begun.needed ≤ 1 then .inl (.char (Char.ofNat value))
  else .inr ⟨begun.needed - 1, 0x80, 0xBF, value, begun.size + 1⟩

/-- The pieces of a sequence of octets, after a character that may have begun. An octet that does
not continue that character ends it and is looked at afresh. -/
def piecesAfter : Option Partial → Octets → List Piece
  | none, [] => []
  | some begun, [] => [.incomplete begun.size]
  | none, b :: rest =>
    match lead b.toNat with
    | .inl piece => piece :: piecesAfter none rest
    | .inr next => piecesAfter (some next) rest
  | some begun, b :: rest =>
    if begun.low ≤ b.toNat ∧ b.toNat ≤ begun.high then
      match begun.extend b.toNat with
      | .inl piece => piece :: piecesAfter none rest
      | .inr next => piecesAfter (some next) rest
    else
      .invalid begun.size ::
        match lead b.toNat with
        | .inl piece => piece :: piecesAfter none rest
        | .inr next => piecesAfter (some next) rest

/-- The pieces of a sequence of octets. -/
def pieces (octets : Octets) : List Piece := piecesAfter none octets

/-! ### The strict reading -/

/-- Where and how octets fail to be text. -/
inductive Fault where
  /-- `size` octets at `index` begin no character. -/
  | invalid (size index : Nat)
  /-- The character at `index` is cut off by the end. -/
  | incomplete (index : Nat)
  deriving Repr, DecidableEq

/-- The words for a fault. -/
def Fault.message : Fault → String
  | .invalid size index => s!"invalid utf-8 sequence of {size} bytes from index {index}"
  | .incomplete index => s!"incomplete utf-8 byte sequence from index {index}"

/-- Reads pieces that start at an index as characters, up to the first fault. -/
def readPieces (index : Nat) : List Piece → Except Fault (List Char)
  | [] => .ok []
  | .char c :: rest => (readPieces (index + c.utf8Size) rest).map (c :: ·)
  | .invalid size :: _ => .error (.invalid size index)
  | .incomplete _ :: _ => .error (.incomplete index)

/-- The characters of well-formed octets, or the first fault. -/
def decodeChars (octets : Octets) : Except Fault (List Char) := readPieces 0 (pieces octets)

/-- The text of well-formed octets, or the first fault. -/
def decode (octets : Octets) : Except Fault String := (decodeChars octets).map String.ofList

/-- The text of well-formed octets. -/
def decode? (octets : Octets) : Option String := (decode octets).toOption

/-! ### The lossy reading -/

/-- The character a piece shows as: itself, or the replacement character. -/
def Piece.shown : Piece → Char
  | .char c => c
  | .invalid _ => '\uFFFD'
  | .incomplete _ => '\uFFFD'

/-- The text of any octets, with a replacement character for each piece that is none. -/
def decodeLossy (octets : Octets) : String := String.ofList ((pieces octets).map Piece.shown)

/-! ### What is written reads back -/

theorem toNat_lt_or (c : Char) :
    c.toNat < 0xD800 ∨ (0xE000 ≤ c.toNat ∧ c.toNat < 0x110000) := by
  have valid := c.valid
  have same : c.val.toNat = c.toNat := rfl
  simp only [UInt32.isValidChar, Nat.isValidChar] at valid
  rw [same] at valid
  omega

theorem toNat_ofNat_of_lt {n : Nat} (h : n < 256) : (UInt8.ofNat n).toNat = n := by
  simp [UInt8.toNat_ofNat']; omega

/-- The octets of a character are one piece, whatever follows them. -/
theorem piecesAfter_encodeChar (c : Char) (rest : Octets) :
    piecesAfter none (encodeChar c ++ rest) = .char c :: piecesAfter none rest := by
  have bounds := toNat_lt_or c
  have back : Char.ofNat c.toNat = c := Char.ofNat_toNat c
  unfold encodeChar
  simp only
  generalize hn : c.toNat = n at bounds back ⊢
  split
  · rename_i h
    simp [piecesAfter, toNat_ofNat_of_lt (show n < 256 by omega), lead, h, back]
  split
  · rename_i h1 h2
    have e1 := toNat_ofNat_of_lt (show 0xC0 + n / 0x40 < 256 by omega)
    have e2 := toNat_ofNat_of_lt (show 0x80 + n % 0x40 < 256 by omega)
    have hv : n / 64 * 64 + n % 64 = n := by omega
    simp only [List.cons_append, List.nil_append, piecesAfter, e1, e2]
    simp [lead, Partial.extend, show ¬ (192 + n / 64 < 128) by omega,
      show ¬ (192 + n / 64 < 194) by omega, show 192 + n / 64 < 224 by omega,
      show 128 + n % 64 ≤ 191 by omega, hv, back]
  split
  · rename_i h1 h2 h3
    have e1 := toNat_ofNat_of_lt (show 0xE0 + n / 0x1000 < 256 by omega)
    have e2 := toNat_ofNat_of_lt (show 0x80 + n / 0x40 % 0x40 < 256 by omega)
    have e3 := toNat_ofNat_of_lt (show 0x80 + n % 0x40 < 256 by omega)
    have hv : (n / 4096 * 64 + n / 64 % 64) * 64 + n % 64 = n := by omega
    have hlow : (if 224 + n / 4096 = 224 then 160 else 128) ≤ 128 + n / 64 % 64 := by
      split <;> omega
    have hhigh : 128 + n / 64 % 64 ≤ (if 224 + n / 4096 = 237 then 159 else 191) := by
      split <;> omega
    simp only [List.cons_append, List.nil_append, piecesAfter, e1, e2, e3]
    simp [lead, Partial.extend, show ¬ (224 + n / 4096 < 128) by omega,
      show ¬ (224 + n / 4096 < 194) by omega, show ¬ (224 + n / 4096 < 224) by omega,
      show 224 + n / 4096 < 240 by omega, show 128 + n % 64 ≤ 191 by omega, hv, back]
    simp at hlow hhigh
    simp [hlow, hhigh]
  · rename_i h1 h2 h3
    have e1 := toNat_ofNat_of_lt (show 0xF0 + n / 0x40000 < 256 by omega)
    have e2 := toNat_ofNat_of_lt (show 0x80 + n / 0x1000 % 0x40 < 256 by omega)
    have e3 := toNat_ofNat_of_lt (show 0x80 + n / 0x40 % 0x40 < 256 by omega)
    have e4 := toNat_ofNat_of_lt (show 0x80 + n % 0x40 < 256 by omega)
    have hv : ((n / 262144 * 64 + n / 4096 % 64) * 64 + n / 64 % 64) * 64 + n % 64 = n := by omega
    have hlow : (if 240 + n / 262144 = 240 then 144 else 128) ≤ 128 + n / 4096 % 64 := by
      split <;> omega
    have hhigh : 128 + n / 4096 % 64 ≤ (if 240 + n / 262144 = 244 then 143 else 191) := by
      split <;> omega
    simp only [List.cons_append, List.nil_append, piecesAfter, e1, e2, e3, e4]
    simp [lead, Partial.extend,
      show ¬ (240 + n / 262144 < 128) by omega, show ¬ (240 + n / 262144 < 194) by omega,
      show ¬ (240 + n / 262144 < 224) by omega, show ¬ (240 + n / 262144 < 240) by omega,
      show 240 + n / 262144 < 245 by omega, show 128 + n / 64 % 64 ≤ 191 by omega,
      show 128 + n % 64 ≤ 191 by omega, hv, back]
    simp at hlow hhigh
    simp [hlow, hhigh]

/-- Written text is its characters, piece by piece. -/
theorem pieces_encodeChars (cs : List Char) : pieces (encodeChars cs) = cs.map Piece.char := by
  unfold pieces
  induction cs with
  | nil => rfl
  | cons c cs ih =>
    rw [encodeChars, List.flatMap_cons, piecesAfter_encodeChar]
    simpa [encodeChars] using ih

theorem readPieces_map_char (cs : List Char) (index : Nat) :
    readPieces index (cs.map Piece.char) = .ok cs := by
  induction cs generalizing index with
  | nil => rfl
  | cons c cs ih => simp [readPieces, ih, Except.map]

@[simp] theorem decode_encode (text : String) : decode (encode text) = .ok text := by
  simp [decode, decodeChars, encode, pieces_encodeChars, readPieces_map_char, Except.map]

@[simp] theorem decode?_encode (text : String) : decode? (encode text) = some text := by
  simp [decode?, Except.toOption]

@[simp] theorem decodeLossy_encode (text : String) : decodeLossy (encode text) = text := by
  simp [decodeLossy, encode, pieces_encodeChars, Function.comp_def, Piece.shown]

/-- Different texts have different octets. -/
theorem encode_injective {s t : String} (h : encode s = encode t) : s = t := by
  have := congrArg decode? h
  simpa using this

end Utf8

end SecretEnv
