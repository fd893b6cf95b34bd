/-!
# Doubles, exactly

**A double is the nearest binary fraction, ties to even**: of the numbers `mantissa * 2 ^ exponent`
with a mantissa below `2 ^ 53` and an exponent from `-1074` to `971`, the one nearest to a given
quotient. All of it is done on naturals, so that what a decimal text denotes as a double, and
whether it has one, is a matter of arithmetic.
-/

namespace SecretEnv

/-- A quotient rounded to the nearest natural, a half to the even one. -/
def roundHalfEven (num den : Nat) : Nat :=
  let quotient := num / den
  let twice := 2 * (num % den)
  if twice < den then quotient
  else if den < twice then quotient + 1
  else if quotient % 2 = 0 then quotient
  else quotient + 1

/-- A finite double that is not negative: `mantissa * 2 ^ exponent`. -/
structure Binary64 where
  mantissa : Nat
  exponent : Int
  deriving Repr, DecidableEq

namespace Binary64

/-- The least mantissa of 53 bits, `2 ^ 52`. -/
def leastFull : Nat := 4503599627370496

/-- The double as a quotient of naturals. -/
def numerator (x : Binary64) : Nat := x.mantissa * Nat.pow 2 x.exponent.toNat

/-- The power of two below the double's numerator. -/
def denominator (x : Binary64) : Nat := Nat.pow 2 (-x.exponent).toNat

/-- The exponent at which the quotient of two positive naturals has a mantissa of 53 bits, though
never below that of the least double. -/
def exponentOf (num den : Nat) : Int :=
  let estimate : Int := (num.log2 : Int) - (den.log2 : Int)
  let reached : Bool :=
    decide (den * Nat.pow 2 estimate.toNat ≤ num * Nat.pow 2 (-estimate).toNat)
  max (if reached then estimate - 52 else estimate - 53) (-1074)

/-- The double nearest to `num / den` for a positive `den`; none where it is out of range. -/
def nearest? (num den : Nat) : Option Binary64 :=
  if num = 0 then some ⟨0, 0⟩
  else
    let exponent := exponentOf num den
    let mantissa :=
      roundHalfEven (num * Nat.pow 2 (-exponent).toNat) (den * Nat.pow 2 exponent.toNat)
    let rounded : Binary64 :=
      if mantissa = 2 * leastFull then ⟨leastFull, exponent + 1⟩ else ⟨mantissa, exponent⟩
    if rounded.exponent ≤ 971 then some rounded else none

/-- The double nearest to the product of two; none where it is out of range. -/
def mul? (x y : Binary64) : Option Binary64 :=
  nearest? (x.numerator * y.numerator) (x.denominator * y.denominator)

/-- The double nearest to `digits * 10 ^ exponent`; none where it is out of range. Far outside the
range of doubles nothing is computed: there the answer does not depend on the digits. -/
def ofDecimal? (digits : Nat) (exponent : Int) : Option Binary64 :=
  if digits = 0 then some ⟨0, 0⟩
  else
    let magnitude : Int := (digits.log2 : Int) / 4 + exponent
    if 400 < magnitude then none
    else if (digits.log2 : Int) + exponent < -400 then some ⟨0, 0⟩
    else nearest? (digits * Nat.pow 10 exponent.toNat) (Nat.pow 10 (-exponent).toNat)

end Binary64

end SecretEnv
