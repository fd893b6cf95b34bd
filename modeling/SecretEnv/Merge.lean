import SecretEnv.Store

/-!
# Merging variables into a store

**A merge writes the variables that are absent and reports exactly those.** It goes through the
variables one by one, each written or passed over on its own; a name that the store refuses ends it
where it stands. A map says nothing of the order in which its entries are visited, so a merge is
given one (`Visiting`); where none is given, it is that of the names.
-/

namespace SecretEnv

/-- An order in which the entries of a map are visited; any can occur. -/
structure Visiting where
  entries : Variables → List (String × String)
  /-- Every entry is visited, and visited once. -/
  perm : ∀ vars, (entries vars).Perm vars.toList

/-- The order of the names. -/
def Visiting.byName : Visiting := ⟨fun vars => vars.toList, fun _ => .rfl⟩

namespace Store

/-- What a merge does: the variables it wrote, or why it ended, and the store afterwards. -/
structure Merged where
  result : Except Error Variables
  store : Store

/-- Merges variables in the given order, after some were written. -/
def mergeAfter (written : Variables) (store : Store) : List (String × String) → Merged
  | [] => ⟨.ok written, store⟩
  | (name, value) :: rest =>
    match store.setIfAbsent name value with
    | .error error => ⟨.error error, store⟩
    | .ok (true, store) => mergeAfter (written.insert name value) store rest
    | .ok (false, store) => mergeAfter written store rest

/-- Merges variables in the given order. -/
def mergeEntries (store : Store) (entries : List (String × String)) : Merged :=
  mergeAfter ∅ store entries

/-- Merges variables. -/
def merge (store : Store) (secrets : Variables) (visiting : Visiting := .byName) : Merged :=
  store.mergeEntries (visiting.entries secrets)

end Store

end SecretEnv
