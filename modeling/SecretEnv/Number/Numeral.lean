import SecretEnv.Number.Binary64

/-!
# Decimal numerals

**A numeral is digits with a point and an exponent, or one of the words for no finite number.**
A sign may lead, digits may stand on one side of the point only, and letters count in either case:
`5.`, `.5`, `+1e3`, `-inf`, `NaN`. No blanks, no grouping.
-/

namespace SecretEnv

/-- What a numeral denotes, before any rounding. -/
inductive Numeral where
  /-- `digits * 10 ^ exponent`, negated or not. -/
  | finite (negative : Bool) (digits : Nat) (exponent : Int)
  | infinite (negative : Bool)
  | notANumber
  deriving Repr, DecidableEq

namespace Numeral

/-- The value of a run of decimal digits. -/
def digitsValue (digits : List Char) : Nat :=
  digits.foldl (fun value digit => value * 10 + (digit.toNat - '0'.toNat)) 0

/-- The number after an `e`: an optional sign and at least one digit, to the end. -/
def readExponent? (cs : List Char) : Option Int :=
  let (negative, digits) :=
    match cs with
    | '-' :: rest => (true, rest)
    | '+' :: rest => (false, rest)
    | _ => (false, cs)
  if digits.isEmpty || !digits.all Char.isDigit then none
  else some (if negative then -(digitsValue digits : Int) else digitsValue digits)

/-- Digits, perhaps a point and more digits, perhaps an exponent, to the end. -/
def readUnsigned? (negative : Bool) (cs : List Char) : Option Numeral :=
  let whole := cs.takeWhile Char.isDigit
  let afterWhole := cs.dropWhile Char.isDigit
  let (fraction, afterFraction) :=
    match afterWhole with
    | '.' :: rest => (rest.takeWhile Char.isDigit, rest.dropWhile Char.isDigit)
    | _ => ([], afterWhole)
  if whole.isEmpty && fraction.isEmpty then none
  else
    let digits := digitsValue (whole ++ fraction)
    let scale : Int := -(fraction.length : Int)
    match afterFraction with
    | [] => some (.finite negative digits scale)
    | mark :: rest =>
      if mark = 'e' || mark = 'E' then
        (readExponent? rest).map fun exponent => .finite negative digits (scale + exponent)
      else none

/-- The numeral that a text is, without its sign. -/
def readSigned? (negative : Bool) (cs : List Char) : Option Numeral :=
  let lower := cs.map Char.toLower
  if lower = "inf".toList || lower = "infinity".toList then some (.infinite negative)
  else if lower = "nan".toList then some .notANumber
  else readUnsigned? negative cs

/-- The numeral that a text is. -/
def read? (text : String) : Option Numeral :=
  match text.toList with
  | '-' :: rest => readSigned? true rest
  | '+' :: rest => readSigned? false rest
  | cs => readSigned? false cs

/-- The double nearest to a numeral, where it is positive and finite. -/
def positiveDouble? : Numeral → Option Binary64
  | .finite false digits exponent =>
    match Binary64.ofDecimal? digits exponent with
    | some x => if x.mantissa = 0 then none else some x
    | none => none
  | _ => none

end Numeral

end SecretEnv
