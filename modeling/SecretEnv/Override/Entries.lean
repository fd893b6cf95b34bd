import SecretEnv.Environment
import SecretEnv.Override.Line

/-!
# Entries of override files

**A file is read line by line, and each line sees the names read before it.** A reference in a value
means the variable of the process with that name, where its value is text; else the value that the
file gave the name so far; else nothing. The first line that cannot be read ends the reading.
-/

namespace SecretEnv.Override

/-- The octets of a text between its line ends. Nothing follows the last one, and an end may have a
carriage return before it. -/
def lines (octets : Octets) : List Octets :=
  go [] octets
where
  /-- Splits what is left, after the reversed start of a line. -/
  go (line : Octets) : Octets → List Octets
    | [] => if line.isEmpty then [] else [line.reverse]
    | b :: rest =>
      if b = 0x0A then
        let ended := if line.head? = some 0x0D then line.tail else line
        ended.reverse :: go [] rest
      else go (b :: line) rest

/-- What stopped the reading of a file. -/
inductive Stop where
  /-- A line that is no entry. -/
  | malformed (fault : LineFault)
  /-- A line that is no text. -/
  | notText (fault : Utf8.Fault)
  deriving Repr, DecidableEq

/-- The words for what stopped the reading of a file. -/
def Stop.message : Stop → String
  | .malformed fault => fault.message
  | .notText _ => "failed to parse file"

/-- What a reference means: a variable of the process, or else an entry of the file. -/
def referenced (env : Environment) (known : Variables) (name : String) : String :=
  (env.value? name).getD (known[name]?.getD "")

/-- Reads lines after some that gave the known names, and gives all entries in order. -/
def readLines (env : Environment) (known : Variables) :
    List Octets → Except Stop (List (String × String))
  | [] => .ok []
  | octets :: rest =>
    match Utf8.decode octets with
    | .error fault => .error (.notText fault)
    | .ok line =>
      match readLine (referenced env known) line with
      | .error fault => .error (.malformed fault)
      | .ok none => readLines env known rest
      | .ok (some (name, value)) =>
        (readLines env (known.insert name value) rest).map ((name, value) :: ·)

/-- The entries of a file with the given content. -/
def readEntries (env : Environment) (content : Octets) : Except Stop (List (String × String)) :=
  readLines env ∅ (lines content)

end SecretEnv.Override
