import SecretEnv.Text.Utf8
import SecretEnv.Variables
import SecretEnv.Error

/-!
# The environment of a process

**The environment holds octets, and programs ask it for text.** Names and values are any octets;
reading a value as text (`value?`) passes over values that are not UTF-8, while asking for presence
(`has`) sees them. Writing takes names that such a block of `name=value` entries can hold: not
empty, without `=` and without NUL. A name that begins with a `=` cannot be written, but it is found
if the process was started with it.

The process guards its environment with a lock. A write that panics, as one of a value with a NUL
does, leaves the lock poisoned, and every access after it fails. Panics are left out here, and so is
that failure.
-/

namespace SecretEnv

/-- The environment of a process: values by name, both any octets. -/
abbrev Environment := Std.ExtTreeMap Octets Octets

namespace Environment

/-- The octet `=`, which ends the name in an entry. -/
def equalsSign : UInt8 := 0x3D

/-- Whether an environment can hold a variable of this name. -/
def validName (name : String) : Bool :=
  !name.isEmpty && !name.toList.contains '=' && !name.toList.contains '\x00'

/-- The error for a name that no environment can hold. -/
def invalidName (name : String) : Error :=
  .environment name "variable names must be non-empty and contain no '=' or NUL"

/-- What follows the first octets of a value, if it begins with them. -/
def afterStart? : Octets → Octets → Option Octets
  | [], value => some value
  | _ :: _, [] => none
  | b :: start, c :: value => if b = c then afterStart? start value else none

/-- Cuts an entry behind its name, which ends before the first `=` that is not its first octet. -/
def cutName : Octets → Octets × Octets
  | [] => ([], [])
  | b :: rest => (b :: rest.takeWhile (· != equalsSign), rest.dropWhile (· != equalsSign))

/-- Looks a name up the way the block of `name=value` entries is searched: for an entry that begins
with the name and a `=`. A name with a `=` inside is therefore found in a value that goes on like
it. -/
def raw? (env : Environment) (name : Octets) : Option Octets :=
  if name.contains 0 then none
  else
    match cutName name with
    | ([], _) => none
    | (key, []) => env[key]?
    | (key, _ :: more) => env[key]?.bind (afterStart? (more ++ [equalsSign]))

/-- The value of a variable, if it is there and is text. -/
def value? (env : Environment) (name : String) : Option String :=
  (env.raw? (Utf8.encode name)).bind Utf8.decode?

/-- Whether a variable is there, with whatever value. -/
def has (env : Environment) (name : String) : Bool := (env.raw? (Utf8.encode name)).isSome

/-- The environment with a variable set, for a name that it can hold. -/
def assign (env : Environment) (name value : String) : Environment :=
  env.insert (Utf8.encode name) (Utf8.encode value)

/-- Sets a variable. -/
def setVar (env : Environment) (name value : String) : Except Error Environment :=
  if validName name then .ok (env.assign name value) else .error (invalidName name)

/-- Sets a variable that is not there, and says whether it did. -/
def setIfAbsent (env : Environment) (name value : String) : Except Error (Bool × Environment) :=
  if validName name then
    if env.has name then .ok (false, env) else .ok (true, env.assign name value)
  else .error (invalidName name)

/-- Removes a variable. -/
def unset (env : Environment) (name : String) : Environment := env.erase (Utf8.encode name)

/-- An entry as text, if name and value are. -/
def textEntry? (entry : Octets × Octets) : Option (String × String) :=
  match Utf8.decode? entry.1, Utf8.decode? entry.2 with
  | some name, some value => some (name, value)
  | _, _ => none

/-- The variables whose name and value are text. -/
def vars (env : Environment) : Variables :=
  Variables.ofEntries (env.toList.filterMap textEntry?)

/-- The environment that holds given variables and nothing else. -/
def ofVariables (vars : Variables) : Environment :=
  vars.toList.foldl (fun env entry => env.assign entry.1 entry.2) ∅

/-- The environment in a block of entries `name=value`, each ended by a NUL. -/
def ofBlock (block : Octets) : Environment :=
  (block.splitOn 0).foldl (fun env entry =>
    match cutName entry with
    | (_, []) => env
    | (name, _ :: value) => env.insert name value) ∅

end Environment

end SecretEnv
