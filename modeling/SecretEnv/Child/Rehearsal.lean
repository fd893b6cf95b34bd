import SecretEnv.Child.Run

/-!
# Rehearsed runs

**An executor that answers from a table, and remembers what it was asked.** Answers are entered for
a command with its arguments, or for a command whatever its arguments. Both kinds share one table,
whose keys are texts: the command and its arguments with blanks between them, or the command alone.
The first kind is looked for first.
-/

namespace SecretEnv

/-- What a rehearsed child does. -/
structure Answer where
  stdout : Octets
  stderr : Octets
  status : Int
  /-- How long it takes. -/
  delay : Option Duration
  deriving Repr, DecidableEq

/-- The child's end: the low eight bits of its status are its exit code. -/
def Answer.output (answer : Answer) : Output :=
  ⟨.exited (answer.status % 256).toNat, answer.stdout, answer.stderr⟩

/-- A table of answers, and the calls so far, the oldest first. -/
structure Rehearsal where
  answers : Std.ExtTreeMap String Answer
  calls : List Invocation

namespace Rehearsal

/-- A table without answers, and no calls. -/
def empty : Rehearsal := ⟨∅, []⟩

/-- The key for a command with its arguments. -/
def callKey (command : String) (args : List String) : String :=
  command ++ " " ++ " ".intercalate args

/-- Enters the answer for a command with exactly these arguments. -/
def answerCall (rehearsal : Rehearsal) (command : String) (args : List String) (answer : Answer) :
    Rehearsal :=
  { rehearsal with answers := rehearsal.answers.insert (callKey command args) answer }

/-- Enters the answer for a command whatever its arguments. -/
def answerCommand (rehearsal : Rehearsal) (command : String) (answer : Answer) : Rehearsal :=
  { rehearsal with answers := rehearsal.answers.insert command answer }

/-- The answer for a command with its arguments. -/
def find? (rehearsal : Rehearsal) (command : String) (args : List String) : Option Answer :=
  match rehearsal.answers[callKey command args]? with
  | some answer => some answer
  | none => rehearsal.answers[command]?

/-- Answers a call. A delay beyond the call's time makes it fail. -/
def respond (rehearsal : Rehearsal) : Executor := fun invocation =>
  match rehearsal.find? invocation.command invocation.args with
  | none =>
    .error (Child.notRun invocation
      ("no test response configured for " ++ callKey invocation.command invocation.args))
  | some answer =>
    match answer.delay, invocation.timeout with
    | some delay, some limit =>
      if limit.nanoseconds < delay.nanoseconds then .error (Child.timedOut invocation limit)
      else .ok answer.output
    | _, _ => .ok answer.output

/-- Remembers calls that were made. -/
def record (rehearsal : Rehearsal) (calls : List Invocation) : Rehearsal :=
  { rehearsal with calls := rehearsal.calls ++ calls }

/-- Answers a call and remembers it, whatever the answer. -/
def execute (rehearsal : Rehearsal) (invocation : Invocation) :
    Except Error Output × Rehearsal :=
  (rehearsal.respond invocation, rehearsal.record [invocation])

end Rehearsal

end SecretEnv
