import SecretEnv.Error
import SecretEnv.Json.Reader
import SecretEnv.Text.Blank
import SecretEnv.Variables

/-!
# What the resolver answers

**An answer is a refusal of the credential, an object of variables, or malformed.** Nothing at all,
a null, and a text that begins with `error:` are refusals. A variable whose value is null is none;
any other value must be a text. Where several members are at fault, the one whose name comes first
is reported.
-/

namespace SecretEnv.Resolver

/-- How an answer begins that says what is wrong. -/
def errorMark : String := "error:"

/-- What is said where the resolver refuses the credential and does not say why. -/
def refusedMessage : String := "ENVKEY invalid. Couldn't load vars."

/-- The refusal of a credential, in the resolver's words if it has any. -/
def refusal (reason : List Char) : Error :=
  .invalidCredential (if reason.isEmpty then refusedMessage else String.ofList reason)

/-- An answer that is none. -/
def malformed (detail : String) : Error := .malformedResponse detail none

/-- The members of an object by name; of two with one name the later counts. -/
def membersByName (members : List (String × Json.Value)) : Std.ExtTreeMap String Json.Value :=
  members.foldl (fun table member => table.insert member.1 member.2) ∅

/-- The variables in members that are in the order of their names. -/
def collect : List (String × Json.Value) → Except Error Variables
  | [] => .ok ∅
  | (name, value) :: rest =>
    if name.isEmpty then .error (malformed "variable name is empty")
    else
      match value with
      | .string text => (collect rest).map fun vars => vars.insert name text
      | .null => collect rest
      | other =>
        .error (malformed s!"value for '{name}' is {other.kind}, expected a string")

/-- The variables in a value. -/
def variablesOf : Json.Value → Except Error Variables
  | .null => .error (refusal [])
  | .object members => collect (membersByName members).toList
  | other => .error (malformed s!"expected a JSON object, got {other.kind}")

/-- The variables in an answer without blanks around it. -/
def decodeTrimmed (cs : List Char) : Except Error Variables :=
  if cs.isEmpty then .error (refusal [])
  else if errorMark.toList.isPrefixOf cs then
    .error (refusal (Text.trimChars (cs.drop errorMark.length)))
  else
    match Json.parseChars cs with
    | none => .error (malformed "resolver output is not valid JSON")
    | some value => variablesOf value

/-- The variables in an answer. -/
def decodeResponse (stdout : String) : Except Error Variables :=
  decodeTrimmed (Text.trimChars stdout.toList)

end SecretEnv.Resolver
