import SecretEnv.Text.Unprintable

/-!
# Quoted text

**A quoted text shows every character of it.** Quotes and backslashes are escaped, the common
controls have a letter, and any other character that does not print on its own is written by its
number in braces. Single quotes stay as they are.
-/

namespace SecretEnv.Text

/-- The letter that stands behind a backslash for a character, where there is one. -/
def escapeLetter? : Char → Option Char
  | '\x00' => some '0'
  | '\t' => some 't'
  | '\n' => some 'n'
  | '\r' => some 'r'
  | '"' => some '"'
  | '\\' => some '\\'
  | _ => none

/-- One character as it stands between quotes. -/
def quotedChar (c : Char) : List Char :=
  match escapeLetter? c with
  | some letter => ['\\', letter]
  | none =>
    if isUnprintable c then
      ['\\', 'u', '\x7b'] ++ Nat.toDigits 16 c.toNat ++ ['\x7d']
    else [c]

/-- A text between double quotes, every character of it visible. -/
def quoted (text : String) : String :=
  String.ofList (['"'] ++ text.toList.flatMap quotedChar ++ ['"'])

end SecretEnv.Text
