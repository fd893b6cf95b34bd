import Std.Data.ExtTreeMap

/-!
# Named values

**Variables are a finite map from names to texts**, and two of them are equal as soon as every name
has the same value in both. They list in the order of their names, which is the order of the names'
octets.
-/

namespace SecretEnv

/-- Values by name. -/
abbrev Variables := Std.ExtTreeMap String String

namespace Variables

/-- Values from a list of entries; of two entries for one name the later counts. -/
def ofEntries (entries : List (String × String)) : Variables :=
  entries.foldl (fun vars entry => vars.insert entry.1 entry.2) ∅

/-- The variables a list of names permits. A list that names nothing permits everything. -/
def retainPermitted (vars : Variables) (names : List String) : Variables :=
  if names.isEmpty then vars else vars.filter fun name _ => names.contains name

/-- The variables permitted by a list that may not have been given. -/
def permitted (vars : Variables) : Option (List String) → Variables
  | some names => vars.retainPermitted names
  | none => vars

@[simp] theorem permitted_none (vars : Variables) : vars.permitted none = vars := rfl

@[simp] theorem retainPermitted_nil (vars : Variables) : vars.retainPermitted [] = vars := rfl

end Variables

end SecretEnv
