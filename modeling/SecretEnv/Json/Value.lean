/-!
# JSON values

**A value keeps what was written**: the members of an object in their order, repetitions included,
and a number as its text. What a reader does with repeated names is the reader's rule.
-/

namespace SecretEnv.Json

/-- A JSON value. -/
inductive Value where
  | null
  | bool (value : Bool)
  /-- A number, as it is written. -/
  | number (text : String)
  | string (text : String)
  | array (items : List Value)
  /-- An object: its members in the order in which they are written. -/
  | object (members : List (String × Value))
  deriving Repr

/-- What kind of value it is, with its article. -/
def Value.kind : Value → String
  | .null => "null"
  | .bool _ => "a boolean"
  | .number _ => "a number"
  | .string _ => "a string"
  | .array _ => "an array"
  | .object _ => "an object"

end SecretEnv.Json
