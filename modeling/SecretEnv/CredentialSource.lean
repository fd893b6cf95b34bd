import SecretEnv.Credential
import SecretEnv.OverrideFile

/-!
# Where the credential comes from

**The first source that is not blank gives the credential**: the caller, the environment, the
override file, in this order. What comes later does not matter then.
-/

namespace SecretEnv

/-- A place where a credential may be found. -/
inductive CredentialSource where
  | argument
  | environment
  | overrideFile
  deriving Repr, DecidableEq

/-- The source's name. -/
def CredentialSource.displayed : CredentialSource → String
  | argument => "argument"
  | environment => "environment"
  | overrideFile => "override file"

namespace Credential

/-- The failure to find a credential anywhere. -/
def nowhere : Error :=
  .missingCredential
    "set ENVKEY in the environment, pass it explicitly, or add it to an override file"

/-- The first credential of several candidates that is not blank. -/
def firstOf : List (Option String × CredentialSource) → Except Error (Credential × CredentialSource)
  | [] => .error nowhere
  | (none, _) :: rest => firstOf rest
  | (some text, source) :: rest =>
    if Text.isBlankText text then firstOf rest
    else (Credential.ofText text).map fun credential => (credential, source)

/-- The credential to use, and where it was found. -/
def resolve (explicit environment : Option String) (file : Option OverrideFile) :
    Except Error (Credential × CredentialSource) :=
  firstOf [(explicit, .argument), (environment, .environment),
    (file.bind OverrideFile.credential?, .overrideFile)]

end Credential

end SecretEnv
