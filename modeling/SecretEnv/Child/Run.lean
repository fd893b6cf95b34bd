import SecretEnv.Credential
import SecretEnv.Environment
import SecretEnv.Names

/-!
# Runs of other programs

**To run a program is to ask an executor**: what is run, with which arguments, environment,
directory and time, goes in; what it wrote and how it ended comes out, or an error where it could
not be run or took too long. The environment of a child is exactly what it is given.
-/

namespace SecretEnv

/-- What is run, and how. -/
structure Invocation where
  command : String
  args : List String
  /-- The whole environment of the child. -/
  env : Variables
  /-- The directory the child works in; that of this process unless given. -/
  cwd : Option String
  /-- How long the child may take; for ever unless given. -/
  timeout : Option Duration

/-- How a child ended. -/
inductive Ending where
  /-- With an exit code from 0 to 255. -/
  | exited (code : Nat)
  /-- By a signal. -/
  | killed
  deriving Repr, DecidableEq

/-- The exit code of a child that was not killed. -/
def Ending.code? : Ending → Option Int
  | .exited code => some code
  | .killed => none

/-- A child that has ended, and what it wrote. -/
structure Output where
  ending : Ending
  stdout : Octets
  stderr : Octets
  deriving Repr, DecidableEq

/-- Whether a child ended well. -/
def Output.succeeded (output : Output) : Bool := output.ending = .exited 0

/-- What runs programs. -/
abbrev Executor := Invocation → Except Error Output

namespace Child

/-- The environment of the resolver: a snapshot, with the credential in its place. -/
def environment (snapshot : Variables) (credential : Credential) : Variables :=
  snapshot.insert Names.credential credential.expose

/-- The error for a command that could not be run. -/
def notRun (invocation : Invocation) (reason : String) : Error :=
  .commandExecution invocation.command invocation.args ("failed to execute command: " ++ reason)
    none

/-- The error for a child that took longer than it was given. -/
def timedOut (invocation : Invocation) (limit : Duration) : Error :=
  .timeout invocation.command limit

end Child

end SecretEnv
