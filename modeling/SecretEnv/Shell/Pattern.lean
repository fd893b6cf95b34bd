import SecretEnv.Shell.Script

/-!
# Shell patterns

**A pattern is characters and wildcards; a quoted character is never a wildcard.** `*` matches any
text, `?` any character, and brackets one character of a set, with ranges, or with `!` none of it.
-/

namespace SecretEnv.Shell

/-- An element of a pattern. -/
inductive Wildcard where
  | char (c : Char)
  | anyChar
  | anyText
  /-- One character of some ranges, or none of them. -/
  | set (negated : Bool) (ranges : List (Char × Char))
  deriving Repr, DecidableEq

namespace Wildcard

/-- Reads the ranges of a set up to its closing bracket. A bracket in the first place is a
character. -/
def readRanges (first : Bool) : List (Char × Bool) →
    Option (List (Char × Char) × List (Char × Bool))
  | [] => none
  | (']', false) :: rest =>
    if first then (readRanges false rest).map fun (ranges, after) => ((']', ']') :: ranges, after)
    else some ([], rest)
  | (c, _) :: ('-', false) :: (']', false) :: rest => some ([(c, c), ('-', '-')], rest)
  | (c, _) :: ('-', false) :: (d, _) :: rest =>
    (readRanges false rest).map fun (ranges, after) => ((c, d) :: ranges, after)
  | (c, _) :: rest =>
    (readRanges false rest).map fun (ranges, after) => ((c, c) :: ranges, after)

/-- The pattern that characters write, each quoted or not, reading at most so many elements. -/
def readPattern : Nat → List (Char × Bool) → List Wildcard
  | 0, _ => []
  | _, [] => []
  | fuel + 1, ('*', false) :: rest => anyText :: readPattern fuel rest
  | fuel + 1, ('?', false) :: rest => anyChar :: readPattern fuel rest
  | fuel + 1, ('[', false) :: rest =>
    let (negated, start) :=
      match rest with
      | ('!', false) :: more => (true, more)
      | _ => (false, rest)
    match readRanges true start with
    | some (ranges, after) => set negated ranges :: readPattern fuel after
    | none => char '[' :: readPattern fuel rest
  | fuel + 1, (c, _) :: rest => char c :: readPattern fuel rest

/-- The pattern that characters write, each quoted or not. -/
def ofChars (cs : List (Char × Bool)) : List Wildcard := readPattern (cs.length + 1) cs

/-- Whether an element that stands for one character stands for this one. -/
def accepts : Wildcard → Char → Bool
  | char c, d => c == d
  | anyChar, _ => true
  | anyText, _ => true
  | set negated ranges, d => (ranges.any fun range => range.1 ≤ d && d ≤ range.2) != negated

/-- Whether a pattern matches a whole text. -/
def matchesAll : List Wildcard → Text → Bool
  | [], cs => cs.isEmpty
  | anyText :: pattern, cs =>
    matchesAll pattern cs ||
      match cs with
      | [] => false
      | _ :: rest => matchesAll (anyText :: pattern) rest
  | _ :: _, [] => false
  | element :: pattern, c :: rest => element.accepts c && matchesAll pattern rest
termination_by pattern cs => pattern.length + cs.length

/-- Where a text can be cut so that the start matches, the shortest start first. -/
def startCuts (pattern : List Wildcard) (text : Text) : List Nat :=
  (List.range (text.length + 1)).filter fun n => matchesAll pattern (text.take n)

/-- Where a text can be cut so that the end matches, the longest end first. -/
def endCuts (pattern : List Wildcard) (text : Text) : List Nat :=
  (List.range (text.length + 1)).filter fun n => matchesAll pattern (text.drop n)

/-- A text without a part at its start or end that matches a pattern, if there is one. -/
def cutText (pattern : List Wildcard) (atEnd longest : Bool) (text : Text) : Text :=
  if atEnd then
    let cuts := endCuts pattern text
    match if longest then cuts.head? else cuts.getLast? with
    | some n => text.take n
    | none => text
  else
    let cuts := startCuts pattern text
    match if longest then cuts.getLast? else cuts.head? with
    | some n => text.drop n
    | none => text

end Wildcard

end SecretEnv.Shell
