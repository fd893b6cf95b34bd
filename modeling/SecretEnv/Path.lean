/-!
# Paths

**A path is a text with `/` between its parts**, and it is printed as it was put together: nothing
is made absolute or tidied. What a path denotes is the list of names from the root
(`FileTree.resolveFrom`).

The system takes any octets for a path. Paths that are not UTF-8 are left out: on a command line
their faults are replaced, so that another path may stand there than the one that is read.
-/

namespace SecretEnv.Path

/-- Whether a path starts at the root. -/
def isAbsolute (path : String) : Bool := path.toList.head? == some '/'

/-- A path below another. An absolute one stands for itself. -/
def join (base path : String) : String :=
  if isAbsolute path || base.isEmpty then path
  else if base.toList.getLast? == some '/' then base ++ path
  else base ++ "/" ++ path

/-- The parts of a path between its slashes, empty ones too. -/
def parts : List Char → List String
  | [] => [""]
  | '/' :: rest => "" :: parts rest
  | c :: rest =>
    match parts rest with
    | [] => [c.toString]
    | part :: more => (c.toString ++ part) :: more

/-- Whether a path, or a part of one, stays where it is. -/
def staysHere (part : String) : Bool := part.isEmpty || part = "."

end SecretEnv.Path
