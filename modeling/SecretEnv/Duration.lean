import SecretEnv.Number.Binary64

/-!
# Spans of time

**A duration is a whole number of nanoseconds.** It is given in seconds and nanoseconds, made from
a number of seconds by rounding to the nearest nanosecond, and written in the largest of the units
`s`, `ms`, `µs`, `ns` of which it holds at least one, with no zeros at the end of the fraction.
-/

namespace SecretEnv

/-- A span of time. -/
structure Duration where
  nanoseconds : Nat
  deriving Repr, DecidableEq

namespace Duration

/-- Seconds and nanoseconds together. -/
def ofParts (secs nanos : Nat) : Duration := ⟨secs * 1000000000 + nanos⟩

/-- Milliseconds. -/
def ofMillis (millis : Nat) : Duration := ⟨millis * 1000000⟩

/-- The whole seconds. -/
def secs (d : Duration) : Nat := d.nanoseconds / 1000000000

/-- The nanoseconds beyond the whole seconds. -/
def nanos (d : Duration) : Nat := d.nanoseconds % 1000000000

/-- The least number of seconds that no duration holds, `2 ^ 64`. -/
def secondsLimit : Nat := 18446744073709551616

/-- So many seconds, to the nearest nanosecond, a half to the even one; none at the limit. -/
def ofSeconds? (x : Binary64) : Option Duration :=
  if secondsLimit * x.denominator ≤ x.numerator then none
  else some ⟨roundHalfEven (x.numerator * 1000000000) x.denominator⟩

/-! ### Text -/

/-- A fraction of so many digits behind a point, without the zeros at its end; nothing for zero. -/
def fractionText (part digits : Nat) : List Char :=
  let text := (Nat.toDigits 10 part)
  let padded := List.replicate (digits - text.length) '0' ++ text
  let cut := (padded.reverse.dropWhile (· = '0')).reverse
  if cut.isEmpty then [] else '.' :: cut

/-- A number of units, `perUnit` of which are one with `digits` digits behind the point. -/
def unitText (count digits : Nat) (unit : String) : String :=
  let perUnit := Nat.pow 10 digits
  String.ofList (Nat.toDigits 10 (count / perUnit) ++ fractionText (count % perUnit) digits) ++ unit

/-- A duration in its largest unit. -/
def text (d : Duration) : String :=
  if 1000000000 ≤ d.nanoseconds then unitText d.nanoseconds 9 "s"
  else if 1000000 ≤ d.nanoseconds then unitText d.nanoseconds 6 "ms"
  else if 1000 ≤ d.nanoseconds then unitText d.nanoseconds 3 "µs"
  else unitText d.nanoseconds 0 "ns"

end Duration

end SecretEnv
