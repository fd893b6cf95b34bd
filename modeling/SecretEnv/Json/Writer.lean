import SecretEnv.Json.Reader

/-!
# Writing names and values as a JSON object

**An object has one text for each layout**, and a layout says where the format's spaces stand.
There are two in use: without a space, or with a member on each line, two spaces in and one after
the colon. An object without members is two braces in both.
-/

namespace SecretEnv.Json

/-- Spaces between two parts of an object. -/
abbrev Gap := { cs : List Char // cs.all isSpace = true }

/-- Where spaces stand in an object that has members. -/
structure Layout where
  beforeName : Gap
  beforeValue : Gap
  beforeEnd : Gap

/-- The layout without a space. -/
def Layout.compact : Layout := ⟨⟨[], rfl⟩, ⟨[], rfl⟩, ⟨[], rfl⟩⟩

/-- The layout with a member on each line. -/
def Layout.lines : Layout := ⟨⟨['\n', ' ', ' '], rfl⟩, ⟨[' '], rfl⟩, ⟨['\n'], rfl⟩⟩

variable (layout : Layout)

/-- A member, after the spaces before it. -/
def writeMember (member : String × String) : List Char :=
  layout.beforeName ++ writeString member.1.toList ++ ':' :: layout.beforeValue
    ++ writeString member.2.toList

/-- Members separated by a comma, and the spaces after the last one. -/
def writeMembers : List (String × String) → List Char
  | [] => []
  | [member] => writeMember layout member ++ layout.beforeEnd
  | member :: rest => writeMember layout member ++ ',' :: writeMembers rest

/-- An object. -/
def writeObject (members : List (String × String)) : List Char :=
  '\x7b' :: writeMembers layout members ++ ['\x7d']

end SecretEnv.Json
