/-!
# Ranges of code points

**A property of characters is a list of closed ranges**, ascending and apart. The tables of the
sibling modules (blank, letter or digit, unprintable) are such lists; `inRanges` looks one up.
-/

namespace SecretEnv.Text

/-- Whether a code point lies in one of the closed ranges. -/
def inRanges (ranges : List (Nat × Nat)) (code : Nat) : Bool :=
  ranges.any fun range => range.1 ≤ code && code ≤ range.2

/-- Ranges that each hold something, ascend, and leave a gap between neighbours: the one way to
write a set of code points as ranges. -/
def rangesAscend : List (Nat × Nat) → Bool
  | [] => true
  | [range] => range.1 ≤ range.2
  | range :: next :: rest =>
    range.1 ≤ range.2 && range.2 + 1 < next.1 && rangesAscend (next :: rest)

end SecretEnv.Text
