/-!
# Removing a phrase from a text

**Every occurrence goes, from left to right, and none overlaps the one before it.** What comes
together after a removal is not looked at again.
-/

namespace SecretEnv.Text

/-- Drops the next `skip` characters, then every occurrence of a phrase. -/
def removeAfter (phrase : List Char) : Nat → List Char → List Char
  | _, [] => []
  | skip + 1, _ :: rest => removeAfter phrase skip rest
  | 0, c :: rest =>
    if phrase.isPrefixOf (c :: rest) then removeAfter phrase (phrase.length - 1) rest
    else c :: removeAfter phrase 0 rest

/-- A text without the occurrences of a phrase that is not empty. -/
def removeAll (phrase text : List Char) : List Char := removeAfter phrase 0 text

end SecretEnv.Text
