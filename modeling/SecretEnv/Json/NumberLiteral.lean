import SecretEnv.Number.Numeral

/-!
# JSON number literals

**A number is read if it has the format's shape and a double can hold it.** The reader works with
the leading digits that fit 64 bits and a power of ten: a literal is out of range where that power
is above `10 ^ 308`, or the product of the two doubles nearest to the digits and to the power is.
Literals of any length and any negative exponent are read.
-/

namespace SecretEnv.Json

/-- The parts of a number literal. -/
structure NumberLiteral where
  negative : Bool
  /-- The digits before the point. -/
  whole : List Char
  /-- The digits behind the point, if there is one. -/
  fraction : Option (List Char)
  /-- The exponent, if there is one. -/
  exponent : Option Int
  deriving Repr

namespace NumberLiteral

/-- The digits before the point: a zero alone, or digits that do not begin with zero. -/
def readWhole : List Char → Option (List Char × List Char)
  | '0' :: rest =>
    match rest with
    | c :: _ => if c.isDigit then none else some (['0'], rest)
    | [] => some (['0'], rest)
  | cs =>
    if (cs.takeWhile Char.isDigit).isEmpty then none
    else some (cs.takeWhile Char.isDigit, cs.dropWhile Char.isDigit)

/-- The point and the digits behind it, where a point follows. -/
def readFraction : List Char → Option (Option (List Char) × List Char)
  | '.' :: rest =>
    if (rest.takeWhile Char.isDigit).isEmpty then none
    else some (some (rest.takeWhile Char.isDigit), rest.dropWhile Char.isDigit)
  | cs => some (none, cs)

/-- The digits of an exponent, after its sign. -/
def readExponentDigits (negative : Bool) (cs : List Char) : Option (Option Int × List Char) :=
  let digits := cs.takeWhile Char.isDigit
  if digits.isEmpty then none
  else
    let value : Int := Numeral.digitsValue digits
    some (some (if negative then -value else value), cs.dropWhile Char.isDigit)

/-- The exponent, where its mark follows. -/
def readExponent : List Char → Option (Option Int × List Char)
  | mark :: rest =>
    if mark = 'e' || mark = 'E' then
      match rest with
      | '-' :: rest => readExponentDigits true rest
      | '+' :: rest => readExponentDigits false rest
      | _ => readExponentDigits false rest
    else some (none, mark :: rest)
  | [] => some (none, [])

/-- Reads a literal off the front of a text. -/
def read (cs : List Char) : Option (NumberLiteral × List Char) := do
  let (negative, unsigned) :=
    match cs with
    | '-' :: rest => (true, rest)
    | _ => (false, cs)
  let (whole, afterWhole) ← readWhole unsigned
  let (fraction, afterFraction) ← readFraction afterWhole
  let (exponent, rest) ← readExponent afterFraction
  return (⟨negative, whole, fraction, exponent⟩, rest)

/-! ### Range -/

/-- The least number that 64 bits do not hold, `2 ^ 64`. -/
def digitsLimit : Nat := 18446744073709551616

/-- Appends digits to a number as long as the result fits 64 bits; also how many were appended. -/
def appendFitting : Nat → List Char → Nat × Nat
  | value, [] => (value, 0)
  | value, digit :: rest =>
    let next := value * 10 + (digit.toNat - '0'.toNat)
    if next < digitsLimit then
      let (result, count) := appendFitting next rest
      (result, count + 1)
    else (value, 0)

/-- The leading digits of a literal, and the power of ten they are to be multiplied with. -/
def scaled (literal : NumberLiteral) : Nat × Int :=
  let (whole, wholeTaken) := appendFitting 0 literal.whole
  let (digits, fractionTaken) := appendFitting whole (literal.fraction.getD [])
  (digits, ((literal.whole.length - wholeTaken : Nat) : Int) - fractionTaken
    + literal.exponent.getD 0)

/-- Whether a double can hold the literal. -/
def inRange (literal : NumberLiteral) : Bool :=
  let (digits, power) := literal.scaled
  if digits = 0 || power < 0 then true
  else if 308 < power then false
  else
    match Binary64.nearest? digits 1, Binary64.nearest? (Nat.pow 10 power.toNat) 1 with
    | some x, some y => (x.mul? y).isSome
    | _, _ => false

end NumberLiteral

/-- Reads a number that a double can hold off the front of a text: its text, and the rest. -/
def readNumber (cs : List Char) : Option (List Char × List Char) :=
  match NumberLiteral.read cs with
  | none => none
  | some (literal, rest) =>
    if literal.inRange then some (cs.take (cs.length - rest.length), rest) else none

end SecretEnv.Json
