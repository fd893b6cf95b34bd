import SecretEnv.CommandLine.Session

/-!
# The program

The outer layer: it reads the environment and the files that a command line may touch, hands them
over, and prints what comes back.
-/

namespace SecretEnv.Outside

/-- The octets of the file at a path; none where there is no such file. -/
def readFile? (path : String) : IO (Option Octets) := do
  try return some (← IO.FS.readBinFile path).data.toList
  catch _ => return none

/-- The environment of this process. -/
def readEnvironment : IO Environment := do
  return Environment.ofBlock ((← readFile? "/proc/self/environ").getD [])

/-- The files at some paths, below the working directory. -/
def readTree (paths : List String) : IO FileTree := do
  let dir := FileTree.named [] (← IO.currentDir).toString
  let mut tree := FileTree.fresh Child.systemPrograms dir
  for path in paths do
    match ← readFile? path with
    | some content => tree := tree.writeFile path content true
    | none => pure ()
  return tree

/-- Runs the program with the arguments it was given. -/
def run (args : List String) : IO UInt32 := do
  let env ← readEnvironment
  let programDir := ((← IO.appPath).parent.map (·.toString)).getD ""
  let files ← readTree (CommandLine.pathsOf env programDir args)
  let result := CommandLine.run { files := files, env := env, programDir := programDir } args
  (← IO.getStdout).write ⟨result.stdout.toArray⟩
  match result.report with
  | some error => IO.eprintln ("Error: " ++ error.message)
  | none => pure ()
  return UInt32.ofNat result.exit

end SecretEnv.Outside

/-- The program. -/
def main (args : List String) : IO UInt32 := SecretEnv.Outside.run args
