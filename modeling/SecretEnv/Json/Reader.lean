import SecretEnv.Json.Value
import SecretEnv.Json.StringLiteral
import SecretEnv.Json.NumberLiteral

/-!
# Reading JSON

**One value, from the first character to the last**, with the format's four blanks around its
parts and arrays and objects at most 127 deep. Nothing is said of why a text is refused.

The reader descends by fuel. A character is taken off the text before each further step, so the
length of the text is fuel enough.
-/

namespace SecretEnv.Json

/-- The four characters that may stand between the parts of a text. -/
def isSpace (c : Char) : Bool := c = ' ' || c = '\t' || c = '\n' || c = '\r'

/-- A text from its first character on that is no space. -/
def skipSpace (cs : List Char) : List Char := cs.dropWhile isSpace

/-- How deep arrays and objects may nest. -/
def depthLimit : Nat := 127

mutual

/-- Reads a value off the front of a text, with so many levels left to descend. -/
def readValue : Nat → Nat → List Char → Option (Value × List Char)
  | 0, _, _ => none
  | fuel + 1, depth, cs =>
    match skipSpace cs with
    | 'n' :: 'u' :: 'l' :: 'l' :: rest => some (.null, rest)
    | 't' :: 'r' :: 'u' :: 'e' :: rest => some (.bool true, rest)
    | 'f' :: 'a' :: 'l' :: 's' :: 'e' :: rest => some (.bool false, rest)
    | '"' :: rest => (readString rest).map fun (text, after) => (.string (String.ofList text), after)
    | '[' :: rest =>
      match depth with
      | 0 => none
      | depth + 1 =>
        match skipSpace rest with
        | ']' :: after => some (.array [], after)
        | start => (readItems fuel depth start).map fun (items, after) => (.array items, after)
    | '\x7b' :: rest =>
      match depth with
      | 0 => none
      | depth + 1 =>
        match skipSpace rest with
        | '\x7d' :: after => some (.object [], after)
        | start =>
          (readMembers fuel depth start).map fun (members, after) => (.object members, after)
    | start => (readNumber start).map fun (text, after) => (.number (String.ofList text), after)

/-- Reads the items of an array, at least one, and its closing bracket. -/
def readItems : Nat → Nat → List Char → Option (List Value × List Char)
  | 0, _, _ => none
  | fuel + 1, depth, cs =>
    match readValue fuel depth cs with
    | none => none
    | some (item, rest) =>
      match skipSpace rest with
      | ',' :: more =>
        (readItems fuel depth more).map fun (items, after) => (item :: items, after)
      | ']' :: after => some ([item], after)
      | _ => none

/-- Reads the members of an object, at least one, and its closing brace. -/
def readMembers : Nat → Nat → List Char → Option (List (String × Value) × List Char)
  | 0, _, _ => none
  | fuel + 1, depth, cs =>
    match skipSpace cs with
    | '"' :: rest =>
      match readString rest with
      | none => none
      | some (name, afterName) =>
        match skipSpace afterName with
        | ':' :: start =>
          match readValue fuel depth start with
          | none => none
          | some (value, afterValue) =>
            let member := (String.ofList name, value)
            match skipSpace afterValue with
            | ',' :: more =>
              (readMembers fuel depth more).map fun (members, after) => (member :: members, after)
            | '\x7d' :: after => some ([member], after)
            | _ => none
        | _ => none
    | _ => none

end

/-- The value that a text is, if it is one. -/
def parseChars (cs : List Char) : Option Value :=
  match readValue (2 * cs.length + 2) depthLimit cs with
  | some (value, rest) => if (skipSpace rest).isEmpty then some value else none
  | none => none

/-- The value that a text is, if it is one. -/
def parse (text : String) : Option Value := parseChars text.toList

end SecretEnv.Json
