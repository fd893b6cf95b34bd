import SecretEnv.Text.Alphanumeric

/-!
# Values in override files

**A value is read one character at a time, and what a character means depends on where it stands**:
in the open, in double or single quotes, behind a backslash, in a reference to a variable, or after
the end of the value. A reference is replaced by what a look-up gives for its name.

Reading fails at a character, by its place in the value, or at the end, where a quote or a braced
reference is still open.
-/

namespace SecretEnv.Override

/-- Where in a value a character stands. `quoted` says whether that is inside double quotes. -/
inductive Place where
  /-- Among ordinary characters. -/
  | plain (quoted : Bool)
  /-- Right behind a backslash. -/
  | escape (quoted : Bool)
  /-- Inside single quotes. -/
  | single
  /-- In a reference `$name`, after so much of the name. -/
  | reference (quoted : Bool) (name : List Char)
  /-- In a reference in braces, after so much of the name. -/
  | braced (quoted : Bool) (name : List Char)
  /-- After an unquoted blank, where only blanks and a comment may follow. -/
  | done
  deriving Repr, DecidableEq

/-- What a character does to the reading of a value. -/
inductive Move where
  /-- It adds text to the value, and the next character stands at the given place. -/
  | go (text : List Char) (place : Place)
  /-- It ends the value. -/
  | stop
  /-- It may not stand where it stands. -/
  | refuse
  deriving Repr, DecidableEq

/-- The character that stands for itself, or for a line end, behind a backslash. -/
def escaped? (c : Char) : Option Char :=
  if c = 'n' then some '\n'
  else if c = '\\' || c = '\'' || c = '"' || c = '$' || c = ' ' then some c
  else none

/-- What a character does at a place. In a reference, letters and digits belong to the name. A brace
right behind the dollar starts a name that goes on to the closing brace; any other character ends
the name, and but for another dollar it is taken as it is, even a quote, a backslash or a blank. -/
def move (lookup : String → String) (place : Place) (c : Char) : Move :=
  match place with
  | .done =>
    if c = ' ' || c = '\t' then .go [] .done
    else if c = '#' then .stop
    else .refuse
  | .escape quoted =>
    match escaped? c with
    | some text => .go [text] (.plain quoted)
    | none => .refuse
  | .single => if c = '\'' then .go [] (.plain false) else .go [c] .single
  | .reference quoted name =>
    if Text.isAlphanumeric c then .go [] (.reference quoted (name ++ [c]))
    else if c = '\x7b' ∧ name = [] then .go [] (.braced quoted [])
    else
      let value := (lookup (String.ofList name)).toList
      if c = '$' then .go value (.reference quoted []) else .go (value ++ [c]) (.plain quoted)
  | .braced quoted name =>
    if c = '\x7d' then .go (lookup (String.ofList name)).toList (.plain quoted)
    else .go [] (.braced quoted (name ++ [c]))
  | .plain quoted =>
    if c = '$' then .go [] (.reference quoted [])
    else if c = '\\' then .go [] (.escape quoted)
    else if c = '"' then .go [] (.plain (!quoted))
    else if quoted then .go [c] (.plain true)
    else if c = '\'' then .go [] .single
    else if c = ' ' || c = '\t' then .go [] .done
    else .go [c] (.plain false)

/-- What the end of the line adds to a value, if it may end at the place. A backslash with nothing
behind it may, in the open. -/
def finish? (lookup : String → String) : Place → Option (List Char)
  | .plain false => some []
  | .escape false => some []
  | .reference false name => some (lookup (String.ofList name)).toList
  | .done => some []
  | _ => none

/-- Where the reading of a value failed. -/
inductive Failure where
  /-- At the character with this number. -/
  | character (index : Nat)
  /-- At the end of the line. -/
  | atEnd
  deriving Repr, DecidableEq

/-- Reads the rest of a value from a place, whose next character has the given number. -/
def readFrom (lookup : String → String) (index : Nat) (place : Place) :
    List Char → Except Failure (List Char)
  | [] =>
    match finish? lookup place with
    | some text => .ok text
    | none => .error .atEnd
  | c :: rest =>
    match move lookup place c with
    | .go text next => (readFrom lookup (index + 1) next rest).map (text ++ ·)
    | .stop => .ok []
    | .refuse => .error (.character index)

/-- Reads a value. -/
def readValue (lookup : String → String) (cs : List Char) : Except Failure (List Char) :=
  readFrom lookup 0 (.plain false) cs

end SecretEnv.Override
