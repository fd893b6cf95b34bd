import Std.Data.ExtTreeMap
import SecretEnv.Text.Utf8
import SecretEnv.Path

/-!
# The files a process sees

**A file tree gives each place, a list of names from the root, what is there**, and knows where
relative paths start. A path is followed name by name through directories: `.` and an empty name
stay, `..` goes up, and a file on the way, or a `/` behind a file, is a fault.

Paths are followed as the system follows them, so `a/../b` needs a directory `a`.
-/

namespace SecretEnv

/-- A place in the file tree: the names that lead to it from the root. -/
abbrev Place := List String

/-- What is at a place. -/
inductive Node where
  | directory
  /-- A file: its content, and whether it may be read and run. -/
  | file (content : Octets) (readable executable : Bool)
  /-- A program that the system provides, by its name. What is in it is machine code, which is no
  text. -/
  | program (name : String)
  deriving Repr, DecidableEq

/-- Why a path leads nowhere. -/
inductive PathFault where
  /-- Nothing is there. -/
  | missing
  /-- The way leads through something that is no directory. -/
  | notDirectory
  deriving Repr, DecidableEq

/-- The system's words for a fault of a path. -/
def PathFault.message : PathFault → String
  | missing => "No such file or directory (os error 2)"
  | notDirectory => "Not a directory (os error 20)"

/-- The files a process sees, and the directory it works in. -/
structure FileTree where
  nodes : Std.ExtTreeMap Place Node
  workingDir : Place

namespace FileTree

/-! ### Following paths -/

/-- What is at a place. The root is always a directory. -/
def nodeAt? (tree : FileTree) (place : Place) : Option Node :=
  if place.isEmpty then some .directory else tree.nodes[place]?

/-- Follows names from a place, which must be a directory for each of them. -/
def follow (tree : FileTree) (place : Place) : List String → Except PathFault Place
  | [] => .ok place
  | part :: rest =>
    match tree.nodeAt? place with
    | none => .error .missing
    | some .directory =>
      if Path.staysHere part then follow tree place rest
      else if part = ".." then follow tree place.dropLast rest
      else follow tree (place ++ [part]) rest
    | some _ => .error .notDirectory

/-- The place that a path denotes for a process working in a directory. The empty path denotes
none, and no name holds a NUL. -/
def resolveFrom (tree : FileTree) (dir : Place) (path : String) : Except PathFault Place :=
  if path.isEmpty || path.toList.contains '\x00' then .error .missing
  else tree.follow (if Path.isAbsolute path then [] else dir) (Path.parts path.toList)

/-- What a path denotes for a process working in a directory. -/
def findFrom (tree : FileTree) (dir : Place) (path : String) : Except PathFault Node :=
  match tree.resolveFrom dir path with
  | .error fault => .error fault
  | .ok place =>
    match tree.nodeAt? place with
    | some node => .ok node
    | none => .error .missing

/-- What a path denotes from the working directory. -/
def find (tree : FileTree) (path : String) : Except PathFault Node :=
  tree.findFrom tree.workingDir path

/-! ### Changing the tree -/

/-- The places on the way from the root to a place, itself included and the root not. -/
def waysTo (place : Place) : List Place :=
  (List.range place.length).map fun n => place.take (n + 1)

/-- The tree with a directory at a place and at all places on the way to it, where nothing is
there. -/
def addDirectory (tree : FileTree) (place : Place) : FileTree :=
  { tree with
    nodes := (waysTo place).foldl (fun nodes dir => nodes.insertIfNew dir .directory) tree.nodes }

/-- The tree with a node at a place, and directories on the way to it. -/
def addNode (tree : FileTree) (place : Place) (node : Node) : FileTree :=
  let tree := tree.addDirectory place.dropLast
  { tree with nodes := tree.nodes.insert place node }

/-- The place that a path names from a directory, whether or not anything is there. -/
def named (dir : Place) (path : String) : Place :=
  (Path.parts path.toList).foldl (fun place part =>
    if Path.staysHere part then place
    else if part = ".." then place.dropLast
    else place ++ [part]) (if Path.isAbsolute path then [] else dir)

/-- The tree with a directory made for a path. -/
def makeDirectory (tree : FileTree) (path : String) : FileTree :=
  tree.addDirectory (named tree.workingDir path)

/-- The tree with a file written at a path. -/
def writeFile (tree : FileTree) (path : String) (content : Octets) (executable : Bool) :
    FileTree :=
  tree.addNode (named tree.workingDir path) (.file content true executable)

/-- The tree without what is at a path. -/
def removeFile (tree : FileTree) (path : String) : FileTree :=
  { tree with nodes := tree.nodes.erase (named tree.workingDir path) }

/-- A tree with the system's programs and an empty working directory. -/
def fresh (programs : List Place) (workingDir : Place) : FileTree :=
  programs.foldl (fun tree place => tree.addNode place (.program (place.getLastD "")))
    ((FileTree.mk ∅ workingDir).addDirectory workingDir)

end FileTree

end SecretEnv
