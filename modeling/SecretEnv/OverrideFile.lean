import SecretEnv.FileTree
import SecretEnv.Names
import SecretEnv.Text.Blank
import SecretEnv.Override.Entries

/-!
# Override files

**An override file is read as a whole or not at all.** It holds entries, the later of two for one
name counts, and the entry `ENVKEY` is the credential and no variable. It is read afresh each time
it is asked for.
-/

namespace SecretEnv

/-- An override file that has been read. -/
structure OverrideFile where
  path : String
  /-- The entries, in the order of the file. -/
  entries : List (String × String)
  deriving Repr, DecidableEq

namespace OverrideFile

/-- The value of every name in the file. -/
def vars (file : OverrideFile) : Variables := Variables.ofEntries file.entries

/-- The credential in the file, unless it is blank. -/
def credential? (file : OverrideFile) : Option String :=
  file.vars[Names.credential]?.filter fun value => !Text.isBlankText value

/-- The variables in the file, the credential apart. -/
def secrets (file : OverrideFile) : Variables := file.vars.erase Names.credential

/-- What the reader of lines says of a line that is no text. -/
def notText : String := "stream did not contain valid UTF-8"

/-- What the reader of lines says of what stopped it. -/
def causeOf : Override.Stop → String
  | .malformed fault =>
    s!"Error parsing line: '{fault.text}', error at line index: {fault.offset}"
  | .notText _ => notText

/-- Reads the file at a path, in an environment that its values may refer to. -/
def read (files : FileTree) (env : Environment) (path : String) : Except Error OverrideFile :=
  match files.find path with
  | .ok (.file content true _) =>
    match Override.readEntries env content with
    | .ok entries => .ok ⟨path, entries⟩
    | .error stop => .error (.overrideFile path stop.message (some (causeOf stop)))
  | .ok (.file _ false _) =>
    .error (.overrideFile path "failed to open file" (some "Permission denied (os error 13)"))
  | .ok (.program _) => .error (.overrideFile path "failed to parse file" (some notText))
  | _ => .error (.overrideFile path "file does not exist" none)

end OverrideFile

end SecretEnv
