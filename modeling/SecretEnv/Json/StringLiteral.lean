/-!
# JSON string literals

**Writing escapes what must be escaped and nothing else**: the quote, the backslash and the
controls below U+0020. Reading takes every escape that the format has, a pair of surrogate escapes
for one character included, and refuses a bare control and half a pair.
-/

namespace SecretEnv.Json

/-! ### Writing -/

/-- The letter that stands behind a backslash for a character, where there is one. -/
def letterOf? : Char → Option Char
  | '"' => some '"'
  | '\\' => some '\\'
  | '\x08' => some 'b'
  | '\t' => some 't'
  | '\n' => some 'n'
  | '\x0c' => some 'f'
  | '\r' => some 'r'
  | _ => none

/-- A hexadecimal digit, in lower case. -/
def hexDigit (n : Nat) : Char := if n < 10 then Char.ofNat (48 + n) else Char.ofNat (87 + n)

/-- One character as it stands in a literal. -/
def writeChar (c : Char) : List Char :=
  match letterOf? c with
  | some letter => ['\\', letter]
  | none =>
    if c.toNat < 0x20 then
      ['\\', 'u', '0', '0', hexDigit (c.toNat / 16), hexDigit (c.toNat % 16)]
    else [c]

/-- The literal of a text, quotes included. -/
def writeString (cs : List Char) : List Char := '"' :: cs.flatMap writeChar ++ ['"']

/-! ### Reading -/

/-- The character that a letter behind a backslash stands for. -/
def charOf? : Char → Option Char
  | '"' => some '"'
  | '\\' => some '\\'
  | '/' => some '/'
  | 'b' => some '\x08'
  | 't' => some '\t'
  | 'n' => some '\n'
  | 'f' => some '\x0c'
  | 'r' => some '\r'
  | _ => none

/-- The value of a hexadecimal digit, in either case. -/
def hexValue? (c : Char) : Option Nat :=
  if '0' ≤ c ∧ c ≤ '9' then some (c.toNat - '0'.toNat)
  else if 'a' ≤ c ∧ c ≤ 'f' then some (c.toNat - 'a'.toNat + 10)
  else if 'A' ≤ c ∧ c ≤ 'F' then some (c.toNat - 'A'.toNat + 10)
  else none

/-- The number that four hexadecimal digits write. -/
def hexQuad? (a b c d : Char) : Option Nat :=
  match hexValue? a, hexValue? b, hexValue? c, hexValue? d with
  | some a, some b, some c, some d => some (((a * 16 + b) * 16 + c) * 16 + d)
  | _, _, _, _ => none

/-- Reads the rest of a literal, after its opening quote: its characters, and what follows its
closing quote. -/
def readString : List Char → Option (List Char × List Char)
  | [] => none
  | '"' :: rest => some ([], rest)
  | '\\' :: 'u' :: a :: b :: c :: d :: rest =>
    match hexQuad? a b c d with
    | none => none
    | some unit =>
      if unit < 0xD800 ∨ 0xE000 ≤ unit then
        (readString rest).map fun (cs, after) => (Char.ofNat unit :: cs, after)
      else if 0xDC00 ≤ unit then none
      else
        match rest with
        | '\\' :: 'u' :: e :: f :: g :: h :: rest =>
          match hexQuad? e f g h with
          | none => none
          | some low =>
            if 0xDC00 ≤ low ∧ low < 0xE000 then
              let code := 0x10000 + (unit - 0xD800) * 0x400 + (low - 0xDC00)
              (readString rest).map fun (cs, after) => (Char.ofNat code :: cs, after)
            else none
        | _ => none
  | '\\' :: letter :: rest =>
    match charOf? letter with
    | none => none
    | some c => (readString rest).map fun (cs, after) => (c :: cs, after)
  | c :: rest =>
    if c.toNat < 0x20 then none
    else (readString rest).map fun (cs, after) => (c :: cs, after)

end SecretEnv.Json
