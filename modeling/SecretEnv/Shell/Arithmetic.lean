import SecretEnv.Shell.Script

/-!
# Shell arithmetic

**Whole numbers of 64 bits, with C's operators**: products before sums before comparisons, from left
to right. A name stands for the number that is its value, and for zero where that is none.
-/

namespace SecretEnv.Shell.Arithmetic

/-- How many numbers there are of 64 bits, `2 ^ 64`. -/
def wordCount : Nat := 18446744073709551616

/-- A number as 64 bits hold it. -/
def wrap (n : Int) : Int := n.bmod wordCount

/-- The number a text of decimal digits writes, perhaps with a sign. -/
def number? (text : Text) : Option Int :=
  match text with
  | '-' :: digits => (digitsValue? digits).map fun n => -(n : Int)
  | '+' :: digits => (digitsValue? digits).map fun n => (n : Int)
  | digits => (digitsValue? digits).map fun n => (n : Int)
where
  /-- The value of decimal digits, at least one. -/
  digitsValue? (digits : Text) : Option Nat :=
    if digits.isEmpty || !digits.all Char.isDigit then none
    else some (digits.foldl (fun n d => n * 10 + (d.toNat - '0'.toNat)) 0)

/-- A text without the blanks at its start. -/
def skip (cs : Text) : Text := cs.dropWhile fun c => c = ' ' || c = '\t' || c = '\n'

/-- One for a true statement, and zero. -/
def truth (b : Bool) : Int := if b then 1 else 0

mutual

/-- Reads a number, a name or a parenthesis, with signs in front of it. -/
def readAtom (value : Text → Text) : Nat → Text → Option (Int × Text)
  | 0, _ => none
  | fuel + 1, text =>
    match skip text with
    | '-' :: rest => (readAtom value fuel rest).map fun (n, after) => (wrap (-n), after)
    | '+' :: rest => readAtom value fuel rest
    | '!' :: rest => (readAtom value fuel rest).map fun (n, after) => (truth (n == 0), after)
    | '(' :: rest =>
      match readComparison value fuel rest with
      | none => none
      | some (n, after) =>
        match skip after with
        | ')' :: after => some (n, after)
        | _ => none
    | c :: rest =>
      let cs := c :: rest
      if c.isDigit then
        (number? (cs.takeWhile Char.isDigit)).map fun n => (wrap n, cs.dropWhile Char.isDigit)
      else if c.isAlpha || c = '_' then
        let isName (d : Char) : Bool := d.isAlphanum || d = '_'
        some (wrap ((number? (value (cs.takeWhile isName))).getD 0), cs.dropWhile isName)
      else none
    | [] => none

/-- Reads factors after a first one. -/
def readProduct (value : Text → Text) : Nat → Int → Text → Option (Int × Text)
  | 0, _, _ => none
  | fuel + 1, n, text =>
    match skip text with
    | '*' :: rest =>
      match readAtom value fuel rest with
      | none => none
      | some (m, after) => readProduct value fuel (wrap (n * m)) after
    | '/' :: rest =>
      match readAtom value fuel rest with
      | none => none
      | some (m, after) => if m = 0 then none else readProduct value fuel (wrap (n.tdiv m)) after
    | '%' :: rest =>
      match readAtom value fuel rest with
      | none => none
      | some (m, after) => if m = 0 then none else readProduct value fuel (wrap (n.tmod m)) after
    | other => some (n, other)

/-- Reads terms after a first one. -/
def readSum (value : Text → Text) : Nat → Int → Text → Option (Int × Text)
  | 0, _, _ => none
  | fuel + 1, n, text =>
    let term (rest : Text) : Option (Int × Text) :=
      match readAtom value fuel rest with
      | none => none
      | some (m, after) => readProduct value fuel m after
    match skip text with
    | '+' :: rest =>
      match term rest with
      | none => none
      | some (m, after) => readSum value fuel (wrap (n + m)) after
    | '-' :: rest =>
      match term rest with
      | none => none
      | some (m, after) => readSum value fuel (wrap (n - m)) after
    | other => some (n, other)

/-- Reads a sum, and perhaps another that it is compared with. -/
def readComparison (value : Text → Text) : Nat → Text → Option (Int × Text)
  | 0, _ => none
  | fuel + 1, text =>
    let sum (text : Text) : Option (Int × Text) :=
      match readAtom value fuel text with
      | none => none
      | some (n, after) =>
        match readProduct value fuel n after with
        | none => none
        | some (n, after) => readSum value fuel n after
    match sum text with
    | none => none
    | some (n, after) =>
      match skip after with
      | '=' :: '=' :: rest => (sum rest).map fun (m, after) => (truth (n == m), after)
      | '!' :: '=' :: rest => (sum rest).map fun (m, after) => (truth (n != m), after)
      | '<' :: '=' :: rest => (sum rest).map fun (m, after) => (truth (n ≤ m), after)
      | '>' :: '=' :: rest => (sum rest).map fun (m, after) => (truth (m ≤ n), after)
      | '<' :: rest => (sum rest).map fun (m, after) => (truth (n < m), after)
      | '>' :: rest => (sum rest).map fun (m, after) => (truth (m < n), after)
      | other => some (n, other)

end

/-- The value of an expression, where names have the given values. An empty one is zero. -/
def evaluate? (value : Text → Text) (text : Text) : Option Int :=
  if (skip text).isEmpty then some 0
  else
    match readComparison value (4 * text.length + 8) text with
    | some (n, rest) => if (skip rest).isEmpty then some n else none
    | none => none

end SecretEnv.Shell.Arithmetic
