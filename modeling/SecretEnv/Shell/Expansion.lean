import SecretEnv.Shell.Utility

/-!
# Putting words together

**A word becomes fragments, and fragments become words**: parameters give their values, expressions
their numbers, and a command in a word what it writes. What runs such a command is a parameter here,
so that words do not depend on the commands that are made of them.
-/

namespace SecretEnv.Shell

/-- What runs a command. -/
abbrev Runner := Command → Action Unit

/-! ### Running apart -/

/-- Runs an action, and says what ended it before its end, if anything did. -/
def halted (action : Action Unit) : Action (Option Halt) :=
  tryCatch (do action; return none) fun halt => return some halt

/-- Whether a halt ends not only a shell within the shell, but the shell as well. -/
def Halt.endsAll : Halt → Bool
  | .killed => true
  | .tooLong => true
  | _ => false

/-- Runs an action in a shell of its own. -/
def apart (action : Action Unit) : Action Unit := do
  let before ← get
  let halt ← halted action
  modify before.afterApart
  match halt.filter Halt.endsAll with
  | some halt => throw halt
  | none => pure ()

/-- Runs an action in a shell of its own, and gives what it writes. -/
def captured (action : Action Unit) : Action Text := do
  let before ← get
  set { before with output := [], outSink := .output }
  let halt ← halted (apart action)
  let after ← get
  set { after with output := before.output, outSink := before.outSink }
  match halt with
  | some halt => throw halt
  | none => return State.joined after.output

/-- What a command in a word stands for: what it wrote, without NULs and without the line ends that
it closes with. -/
def withoutLineEnds (text : Text) : Text :=
  ((text.filter (· != '\x00')).reverse.dropWhile (· == '\n')).reverse

/-! ### Parameters -/

/-- The arguments of the shell as fragments, each its own word. -/
def argumentFragments (quoted : Bool) : List Text → List Fragment
  | [] => []
  | [arg] => [.text arg quoted]
  | arg :: rest => .text arg quoted :: .border :: argumentFragments quoted rest

/-- The fragments that a parameter stands for. -/
def parameterFragments (s : State) (name : Text) (quoted : Bool) : List Fragment :=
  if name = ['@'] || (name = ['*'] && !quoted) then argumentFragments quoted s.args
  else [.text ((s.parameter? name).getD []) quoted]

/-- The length of what a parameter stands for; the number of arguments for all of them. -/
def parameterLength (s : State) (name : Text) : Nat :=
  if name = ['@'] || name = ['*'] then s.args.length else ((s.parameter? name).getD []).length

/-- Whether a parameter has no value, or an empty one where that counts too. -/
def isMissing (s : State) (name : Text) (emptyToo : Bool) : Bool :=
  match s.parameter? name with
  | none => true
  | some value => emptyToo && value.isEmpty

/-- A fragment that is quoted if what surrounds it is. -/
def Fragment.quoteIf (quoted : Bool) : Fragment → Fragment
  | .text cs q => .text cs (quoted || q)
  | .border => .border

/-- What becomes of a parameter for which there is a word to fall back to. -/
def fallBack (name : Text) (quoted emptyToo : Bool) (kind : Fallback)
    (word : Action (List Fragment)) : Action (List Fragment) := do
  let s ← get
  let missing := isMissing s name emptyToo
  let own := parameterFragments s name quoted
  match kind with
  | .useWord => if missing then return (← word).map (Fragment.quoteIf quoted) else return own
  | .useIfSet => if missing then return [] else return (← word).map (Fragment.quoteIf quoted)
  | .assign =>
    if missing then
      let value := Fragment.joined (← word)
      modify (·.assign name value)
      return [.text value quoted]
    else return own
  | .fail =>
    if missing then
      let words := Fragment.joined (← word)
      let reason := if words.isEmpty then "parameter not set".toList else words
      complain 2 (name ++ ": ".toList ++ reason)
      throw .exit
    else return own

/-! ### Words -/

mutual

/-- The fragments that a part of a word stands for. -/
def expandPart (run : Runner) : Part → Action (List Fragment)
  | .literal text quoted => return [.text text quoted]
  | .parameter name change quoted => expandChange run name quoted change
  | .arithmetic expression => do
    let text := Fragment.joined (← expandParts run expression)
    let s ← get
    match Arithmetic.evaluate? (fun name => (s.value? name).getD []) text with
    | some n => return [.text (ofString (toString n)) true]
    | none =>
      complain 2 ("arithmetic expression: expecting primary: \"".toList ++ text ++ ['"'])
      throw .exit
  | .output command quoted => do
    return [.text (withoutLineEnds (← captured (run command))) quoted]

/-- The fragments that parts of a word stand for. -/
def expandParts (run : Runner) : List Part → Action (List Fragment)
  | [] => return []
  | part :: rest => do
    let fragments ← expandPart run part
    return fragments ++ (← expandParts run rest)

/-- The fragments that a parameter with a change stands for. -/
def expandChange (run : Runner) (name : Text) (quoted : Bool) : Change → Action (List Fragment)
  | .none => do return parameterFragments (← get) name quoted
  | .length => do return [.text (Nat.toDigits 10 (parameterLength (← get) name)) quoted]
  | .fallback emptyToo kind word => fallBack name quoted emptyToo kind (expandParts run word)
  | .cut atEnd longest pattern => do
    let wildcards := Wildcard.ofChars (Fragment.patternChars (← expandParts run pattern))
    let value := ((← get).parameter? name).getD []
    return [.text (Wildcard.cutText wildcards atEnd longest value) quoted]

end

/-- The words that some words stand for, each taken apart at blanks that are not quoted. -/
def expandWords (run : Runner) (words : List Word) : Action (List Text) :=
  words.flatMapM fun word => return Fragment.words (← expandParts run word)

/-- The one text that a word stands for. -/
def expandText (run : Runner) (word : Word) : Action Text :=
  return Fragment.joined (← expandParts run word)

/-- The pattern that a word stands for. -/
def expandPattern (run : Runner) (word : Word) : Action (List Wildcard) :=
  return Wildcard.ofChars (Fragment.patternChars (← expandParts run word))

end SecretEnv.Shell
