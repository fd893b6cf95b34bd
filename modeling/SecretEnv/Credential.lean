import SecretEnv.Text.Blank
import SecretEnv.Text.Quoted
import SecretEnv.Error

/-!
# Credentials

**A credential is a text that is not blank, and it is shown by its first four characters only.**
Blanks at its ends do not belong to it. Only `expose` gives the whole text; every text made for
people goes through `redacted`.
-/

namespace SecretEnv

/-- A credential; `Credential.ofText` makes them. -/
structure Credential where
  /-- The whole text. It is meant for the resolver alone. -/
  expose : String
  deriving DecidableEq

namespace Credential

/-- How many characters of a credential may be shown. -/
def shownLength : Nat := 4

/-- What stands for the rest of a credential. -/
def mask : String := "****"

/-- The credential in a text, without the blanks around it. -/
def ofText (text : String) : Except Error Credential :=
  let trimmed := Text.trim text
  if trimmed.isEmpty then .error (.missingCredential "ENVKEY is empty") else .ok ⟨trimmed⟩

/-- The start of a credential, and a mask for the rest. -/
def redacted (credential : Credential) : String :=
  String.ofList (credential.expose.toList.take shownLength) ++ mask

/-- How a credential is displayed. -/
def displayed (credential : Credential) : String := credential.redacted

/-- How a credential is shown to whoever looks into the program. -/
def inspected (credential : Credential) : String :=
  "Credential(" ++ Text.quoted credential.redacted ++ ")"

end Credential

end SecretEnv
