import SecretEnv.Child.Run
import SecretEnv.Resolver.Options
import SecretEnv.Resolver.Response
import SecretEnv.Text.Removal

/-!
# Asking the resolver

**One call, made from the credential, the options and a snapshot of the environment, and one reading
of what came back.** The two halves are separate: `call` says what is run, `interpret` says what a
reply to it means. There is no second try.
-/

namespace SecretEnv.Resolver

/-! ### The call -/

/-- The run of the resolver that fetches a credential's variables. -/
def call (binary : String) (credential : Credential) (options : Options) (snapshot : Variables) :
    Invocation where
  command := binary
  args := options.toArguments.toList
  env := Child.environment snapshot credential
  cwd := options.cwd
  timeout := options.timeout

/-! ### The reply -/

/-- What stands before a message that is wrapped as a failing command. -/
def wrapperStart : List Char := "echo 'error: ".toList

/-- What stands behind a message that is wrapped as a failing command. -/
def wrapperEnd : List Char := "'; false".toList

/-- A complaint without its wrapper and without the blanks around it. -/
def unwrap (complaint : List Char) : List Char :=
  Text.trimChars (Text.removeAll wrapperEnd (Text.removeAll wrapperStart complaint))

/-- What a child that failed had to say: on its error output, or, if that is blank, on the other. -/
def diagnostics (output : Output) : String :=
  let stderr := Utf8.decodeLossy output.stderr
  let complaint := if Text.isBlankText stderr then Utf8.decodeLossy output.stdout else stderr
  String.ofList (unwrap complaint.toList)

/-- The failure of a run that did not get to its end. -/
def notFinished (binary : String) : Error → Error
  | .timeout _ limit =>
    .fetchFailed binary ("resolver did not finish within " ++ limit.text ++ " and was killed") none
  | other => .fetchFailed binary other.message none

/-- The variables in what a child wrote. -/
def readOutput (stdout : Octets) : Except Error Variables :=
  match Utf8.decode stdout with
  | .error fault => .error (malformed ("resolver output is not valid UTF-8: " ++ fault.message))
  | .ok text => decodeResponse text

/-- What a reply means. -/
def interpret (binary : String) : Except Error Output → Except Error Variables
  | .error error => .error (notFinished binary error)
  | .ok output =>
    if output.succeeded then readOutput output.stdout
    else .error (.fetchFailed binary (diagnostics output) output.ending.code?)

/-! ### Both together -/

/-- Asks the resolver, and keeps the variables that are permitted. -/
def fetch (binary : String) (executor : Executor) (credential : Credential) (options : Options)
    (snapshot : Variables) : Except Error Variables :=
  (interpret binary (executor (call binary credential options snapshot))).map fun vars =>
    vars.permitted options.permitted

end SecretEnv.Resolver
