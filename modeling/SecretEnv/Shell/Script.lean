import SecretEnv.Text.Utf8

/-!
# Shell scripts

**A script is commands, and the words of a command are parts that are put together when it runs.**
The shell reads octets: each character of a script stands for one, so every code is below 256.
-/

namespace SecretEnv.Shell

/-- A text of octets, one to a character. -/
abbrev Text := List Char

/-- The text of octets. -/
def ofOctets (octets : Octets) : Text := octets.map fun b => Char.ofNat b.toNat

/-- The octets of a text. -/
def toOctets (text : Text) : Octets := text.map fun c => UInt8.ofNat c.toNat

/-- The text of the octets of a string. -/
def ofString (text : String) : Text := ofOctets (Utf8.encode text)

/-- How a parameter without a value is made up for. -/
inductive Fallback where
  /-- The word stands for it. -/
  | useWord
  /-- The word becomes its value. -/
  | assign
  /-- It ends the script. -/
  | fail
  /-- The word stands for a parameter that has a value. -/
  | useIfSet
  deriving Repr, DecidableEq

mutual

/-- A part of a word. -/
inductive Part where
  /-- Characters that stand for themselves; quoted ones are never taken apart. -/
  | literal (text : List Char) (quoted : Bool)
  /-- The value of a parameter. -/
  | parameter (name : List Char) (change : Change) (quoted : Bool)
  /-- The value of an arithmetic expression, whose text is put together first. -/
  | arithmetic (expression : List Part)
  /-- What a command writes. -/
  | output (command : Command) (quoted : Bool)

/-- What is done to the value of a parameter. -/
inductive Change where
  | none
  /-- It is counted. -/
  | length
  /-- It is made up for where there is none, or where it is empty too. -/
  | fallback (emptyToo : Bool) (kind : Fallback) (word : List Part)
  /-- What matches a pattern is cut off, the longest or the shortest such part. -/
  | cut (atEnd longest : Bool) (pattern : List Part)

/-- Where a command reads or writes. -/
inductive Redirect where
  /-- One channel becomes the same as another. -/
  | same (channel other : Nat)
  /-- A channel is written to a file. -/
  | toFile (channel : Nat) (append : Bool) (path : List Part)
  /-- A file is read as input. -/
  | fromFile (path : List Part)
  /-- A text of the script itself is read as input. -/
  | fromText (text : List Part)

/-- A command. -/
inductive Command where
  /-- Assignments, words and redirections, and how many line ends follow in the script. -/
  | simple (linesBelow : Nat) (assignments : List (List Char × List Part))
      (words : List (List Part)) (redirects : List Redirect)
  | sequence (first second : Command)
  | andThen (first second : Command)
  | orElse (first second : Command)
  | negated (command : Command)
  | pipe (first second : Command)
  /-- Commands with redirections of their own; in a shell of their own or in this one. -/
  | group (isolated : Bool) (body : Command) (redirects : List Redirect)
  | conditional (test yes no : Command)
  /-- A loop as long as the test succeeds, or until it does. -/
  | loop (untilTrue : Bool) (test body : Command)
  /-- A loop over words, or over the arguments. -/
  | forEach (name : List Char) (words : Option (List (List Part))) (body : Command)
  /-- The first clause with a pattern that the word matches. -/
  | choose (word : List Part) (clauses : List (List (List Part) × Command))
  | define (name : List Char) (body : Command)
  | nothing

end

/-- A word of a command. -/
abbrev Word := List Part

end SecretEnv.Shell
