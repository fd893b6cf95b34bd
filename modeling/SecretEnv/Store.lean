import SecretEnv.Environment

/-!
# Stores of variables

**A store is where loaded variables go**: the environment of the process, whose values are any
octets and which takes only valid names, or a map of texts in memory, which takes every name. Both
are asked the same questions, and neither is ever made to overwrite: a store writes a variable only
if it is absent.
-/

namespace SecretEnv

/-- A store of variables. -/
inductive Store where
  /-- A map in memory. -/
  | memory (vars : Variables)
  /-- The environment of the process. -/
  | process (env : Environment)

namespace Store

/-- The value of a variable, if it is there and is text. -/
def value? (store : Store) (name : String) : Option String :=
  match store with
  | memory vars => vars[name]?
  | process env => env.value? name

/-- Whether a variable is there, with whatever value. -/
def has (store : Store) (name : String) : Bool :=
  match store with
  | memory vars => vars.contains name
  | process env => env.has name

/-- Writes a variable that is absent, and says whether it did. -/
def setIfAbsent (store : Store) (name value : String) : Except Error (Bool × Store) :=
  match store with
  | memory vars =>
    if vars.contains name then .ok (false, .memory vars)
    else .ok (true, .memory (vars.insert name value))
  | process env => (env.setIfAbsent name value).map fun (written, env) => (written, .process env)

/-- The variables of a store that are text. -/
def snapshot : Store → Variables
  | memory vars => vars
  | process env => env.vars

/-- The environment of the process a store is used in: the store itself if it is one. -/
def ambient (store : Store) (env : Environment) : Environment :=
  match store with
  | memory _ => env
  | process env => env

end Store

end SecretEnv
