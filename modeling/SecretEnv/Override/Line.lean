import SecretEnv.Text.Blank
import SecretEnv.Override.Value

/-!
# Lines of override files

**A line holds a name, a `=` and a value, or nothing.** Blanks around all three are skipped, a line
that is blank or starts with `#` is nothing, and the word `export` may stand before a name, unless
it is the name. A name begins with an ASCII letter or `_` and goes on with those, digits and points.

A line that cannot be read is reported with the number of octets read before the fault, or, where
the fault is in the value, as the value with the number of the character.
-/

namespace SecretEnv.Override

/-- A text that could not be read, and where in it. -/
structure LineFault where
  text : String
  offset : Nat
  deriving Repr, DecidableEq

/-- The words for a line that could not be read. -/
def LineFault.message (fault : LineFault) : String :=
  s!"malformed line '{fault.text}' at offset {fault.offset}"

/-- The number of octets of a sequence of characters. -/
def octetCount (cs : List Char) : Nat := cs.foldr (fun c n => c.utf8Size + n) 0

/-- Whether a name may begin with a character. -/
def startsName (c : Char) : Bool := c.isAlpha || c = '_'

/-- Whether a name may go on with a character. -/
def continuesName (c : Char) : Bool := c.isAlphanum || c = '_' || c = '.'

/-- Reads a name off the front of a text. -/
def readName? : List Char → Option (List Char × List Char)
  | [] => none
  | c :: rest =>
    if startsName c then
      some ((c :: rest).takeWhile continuesName, (c :: rest).dropWhile continuesName)
    else none

/-- Reads a name and the `=` after it; where that fails, the text from the fault on. Without a `=`
behind it, `export` is no name but announces one. -/
def readKey (cs : List Char) : Except (List Char) (List Char × List Char) :=
  match readName? cs with
  | none => .error cs
  | some (name, afterName) =>
    match Text.trimStart afterName with
    | '=' :: rest => .ok (name, rest)
    | other =>
      if name = "export".toList then
        match readName? other with
        | none => .error other
        | some (name, afterName) =>
          match Text.trimStart afterName with
          | '=' :: rest => .ok (name, rest)
          | other => .error other
      else .error other

/-- Whether nothing but perhaps a comment is left. -/
def nothingLeft : List Char → Bool
  | [] => true
  | c :: _ => c = '#'

/-- The fault of a value that could not be read. At the end it lies on the last octet. -/
def valueFault (value : List Char) : Failure → LineFault
  | .character index => ⟨String.ofList value, index⟩
  | .atEnd => ⟨String.ofList value, octetCount value - 1⟩

/-- Reads a line: nothing, or a name and its value. -/
def readLine (lookup : String → String) (line : String) :
    Except LineFault (Option (String × String)) :=
  let body := Text.trimEnd line.toList
  let start := Text.trimStart body
  if nothingLeft start then .ok none
  else
    match readKey start with
    | .error rest => .error ⟨line, octetCount body - octetCount rest⟩
    | .ok (name, rest) =>
      let value := Text.trimStart rest
      if nothingLeft value then .ok (some (String.ofList name, ""))
      else
        match readValue lookup value with
        | .ok text => .ok (some (String.ofList name, String.ofList text))
        | .error failure => .error (valueFault value failure)

end SecretEnv.Override
