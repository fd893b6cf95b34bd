import SecretEnv.Shell.Script
import SecretEnv.FileTree

/-!
# What running a file comes to

**In the end the system always runs one of its own programs.** A script names the program that reads
it in its first line, behind `#!`: that program is run instead, with the script's path in front of
the arguments. A name without `/` is looked for in the directories of the search path.
-/

namespace SecretEnv.Shell

/-- Why a file cannot be run. -/
inductive LaunchFault where
  | path (fault : PathFault)
  /-- It is a directory, or no file that may be run. -/
  | denied
  /-- It may be run, but does not say by what. -/
  | badFormat
  /-- What reads it is a script, and so on without end. -/
  | endless
  deriving Repr, DecidableEq

/-- The system's words for a file that cannot be run. -/
def LaunchFault.message : LaunchFault → String
  | path fault => fault.message
  | denied => "Permission denied (os error 13)"
  | badFormat => "Exec format error (os error 8)"
  | endless => "Too many levels of symbolic links (os error 40)"

/-- A program of the system that is to run, the name it is called by, and its arguments. -/
structure Launch where
  program : String
  self : Text
  args : List Text
  deriving Repr, DecidableEq

namespace Launch

/-- Whether an octet is a blank in the first line of a script. -/
def isBlankOctet (b : UInt8) : Bool := b == 0x20 || b == 0x09

/-- Octets without blanks at both ends. -/
def trimBlanks (octets : Octets) : Octets :=
  ((octets.dropWhile isBlankOctet).reverse.dropWhile isBlankOctet).reverse

/-- The program that a script's first line names, with the one argument that it may have. -/
def interpreter? (content : Octets) : Option (Octets × List Octets) :=
  match content with
  | 0x23 :: 0x21 :: rest =>
    let line := trimBlanks (rest.takeWhile (· != 0x0A))
    let program := line.takeWhile (!isBlankOctet ·)
    let argument := trimBlanks (line.dropWhile (!isBlankOctet ·))
    if program.isEmpty then none
    else some (program, if argument.isEmpty then [] else [argument])
  | _ => none

/-- What running the file at a path comes to, by a name and through at most so many scripts. -/
def ofPathWithin (files : FileTree) : Nat → String → String → List Text →
    Except LaunchFault Launch
  | 0, _, _, _ => .error .endless
  | fuel + 1, path, self, args =>
    match files.find path with
    | .error fault => .error (.path fault)
    | .ok .directory => .error .denied
    | .ok (.program name) => .ok ⟨name, ofString self, args⟩
    | .ok (.file content _ executable) =>
      if executable then
        match interpreter? content with
        | none => .error .badFormat
        | some (program, more) =>
          match Utf8.decode? program with
          | none => .error (.path .missing)
          | some program =>
            ofPathWithin files fuel program program (more.map ofOctets ++ ofString path :: args)
      else .error .denied

/-- What running the file at a path comes to, when it is called by a name. -/
def ofPath (files : FileTree) (path self : String) (args : List Text) : Except LaunchFault Launch :=
  ofPathWithin files 5 path self args

/-- The directories of a search path; an empty one is the working directory. -/
def searchDirs (path : String) : List String :=
  (path.splitOn ":").map fun dir => if dir.isEmpty then "." else dir

/-- What running the first file of a name in some directories comes to. One that may not be run is
passed over, but remembered. -/
def search (files : FileTree) (name : String) (args : List Text) (denied : Bool) :
    List String → Except LaunchFault Launch
  | [] => .error (if denied then .denied else .path .missing)
  | dir :: rest =>
    match ofPath files (Path.join dir name) name args with
    | .ok launch => .ok launch
    | .error (.path _) => search files name args denied rest
    | .error .denied => search files name args true rest
    | .error fault => .error fault

/-- What a command comes to: the file at its path, or, for a name without `/`, the first one in the
search path. -/
def ofCommand (files : FileTree) (searchPath : String) (command : String) (args : List Text) :
    Except LaunchFault Launch :=
  if command.toList.contains '/' then ofPath files command command args
  else if command.isEmpty then .error (.path .missing)
  else search files command args false (searchDirs searchPath)

end Launch

end SecretEnv.Shell
