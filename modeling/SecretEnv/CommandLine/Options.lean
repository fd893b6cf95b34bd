/-!
# Options on a command line

**A command line is read from left to right: options with their values, then words.** An option is
given as `--name value` or `--name=value`, where a value that stands by itself may not look like an
option; a flag takes no value. A command that takes words may have options after the first of them
too, but what follows something that is neither an option nor the first word is passed on as it is,
and so is what follows `--`. From the first word on, what looks like an option that the command does
not have is a word, or the value that an option waits for. Every command can be asked for help, by
`--help` or `-h`.
-/

namespace SecretEnv.CommandLine

/-- What an option takes. -/
inductive Takes where
  /-- Nothing, and it is given once. -/
  | nothing
  /-- A value, and it is given once. -/
  | value
  /-- A path, which is not empty, and it is given once. -/
  | path
  /-- A value each time that it is given. -/
  | values
  deriving Repr, DecidableEq

/-- Why reading ends early. -/
inductive Stop where
  /-- The command line is not one. -/
  | misuse
  /-- It asks for help, which is this text. -/
  | help (text : String)
  /-- It asks for the version. -/
  | version
  deriving Repr, DecidableEq

/-- What the command line of a command may hold. -/
structure Form where
  /-- The options, but for the one that asks for help. -/
  options : List (String × Takes)
  /-- Whether there may be words. -/
  takesWords : Bool
  /-- What is said when help is asked for. -/
  help : String
  deriving Repr, DecidableEq

/-- The options and the words that were given, in order. -/
structure Given where
  options : List (String × String)
  words : List String
  deriving Repr, DecidableEq

namespace Given

/-- Nothing. -/
def nothing : Given := ⟨[], []⟩

/-- Whether an option was given. -/
def has (given : Given) (name : String) : Bool := given.options.any (·.1 == name)

/-- The value of an option, the first if there are more. -/
def value? (given : Given) (name : String) : Option String := given.options.lookup name

/-- The values of an option. -/
def values (given : Given) (name : String) : List String :=
  (given.options.filter (·.1 == name)).map (·.2)

/-- With one more option, which may have to be the first of its name. -/
def withOption (given : Given) (takes : Takes) (name value : String) : Except Stop Given :=
  if takes != .values && given.has name then .error .misuse
  else if takes == .path && value.isEmpty then .error .misuse
  else .ok { given with options := given.options ++ [(name, value)] }

/-- With more words. -/
def withWords (given : Given) (words : List String) : Given :=
  { given with words := given.words ++ words }

end Given

/-- The name in what follows two hyphens, and the value after `=`. -/
def nameAndValue (text : List Char) : String × Option String :=
  let value : Option String :=
    match text.dropWhile (· != '=') with
    | [] => none
    | _ :: value => some (String.ofList value)
  (String.ofList (text.takeWhile (· != '=')), value)

/-- Whether an argument looks like an option: it starts with a hyphen and is more than that. -/
def looksLikeOption (arg : String) : Bool :=
  match arg.toList with
  | '-' :: _ :: _ => true
  | _ => false

/-- What an argument comes to, after others. -/
inductive Step where
  /-- Reading ends early. -/
  | stop (why : Stop)
  /-- Reading goes on. -/
  | goOn (given : Given)
  /-- Reading goes on with the value of an option. -/
  | wantsValue (takes : Takes) (name : String)
  /-- What follows is words, and so is the argument itself unless it only says so. -/
  | wordsFollow (itself : Bool)

/-- The step that adds an option. -/
def Step.add (given : Given) (takes : Takes) (name value : String) : Step :=
  match given.withOption takes name value with
  | .ok given => .goOn given
  | .error why => .stop why

/-- What an option comes to that the command does not have: a word, if words have begun. -/
def Step.unknown (given : Given) : Step :=
  if given.words.isEmpty then .stop .misuse else .wordsFollow true

/-- What an argument with two hyphens and a name comes to. -/
def longStep (form : Form) (given : Given) (name : String) (attached : Option String) : Step :=
  if name = "help" then .stop (if attached.isSome then .misuse else .help form.help)
  else
    match form.options.lookup name, attached with
    | none, _ => .unknown given
    | some .nothing, none => .add given .nothing name ""
    | some .nothing, some _ => .stop .misuse
    | some takes, none => .wantsValue takes name
    | some takes, some value => .add given takes name value

/-- What an argument with one hyphen and letters comes to. The only letter that is known asks for
help. Before the first word the letters count one by one, so that the first decides; after it, they
are a word unless all are known. -/
def shortStep (form : Form) (given : Given) (letters : List Char) : Step :=
  let asksHelp :=
    if given.words.isEmpty then letters.head? == some 'h' else letters.all (· == 'h')
  if asksHelp then .stop (.help form.help) else .unknown given

/-- What an argument comes to. -/
def step (form : Form) (given : Given) (arg : String) : Step :=
  match arg.toList with
  | ['-', '-'] => .wordsFollow false
  | '-' :: '-' :: text => longStep form given (nameAndValue text).1 (nameAndValue text).2
  | '-' :: letter :: letters => shortStep form given (letter :: letters)
  | _ =>
    if !given.words.isEmpty then .wordsFollow true
    else if form.takesWords then .goOn (given.withWords [arg])
    else .stop .misuse

/-- Whether an argument can be the value of the option before it: it does not look like an option,
or it would be a word all the same. -/
def canBeValue (form : Form) (given : Given) (arg : String) : Bool :=
  !looksLikeOption arg ||
    match step form given arg with
    | .wordsFollow itself => itself
    | _ => false

/-- Reads arguments after others, the first of them perhaps as the value of an option. -/
def readOptions (form : Form) :
    Given → Option (Takes × String) → List String → Except Stop Given
  | given, none, [] => .ok given
  | _, some _, [] => .error .misuse
  | given, some (takes, name), value :: rest =>
    if canBeValue form given value then
      match given.withOption takes name value with
      | .ok given => readOptions form given none rest
      | .error why => .error why
    else .error .misuse
  | given, none, arg :: rest =>
    match step form given arg with
    | .stop why => .error why
    | .goOn given => readOptions form given none rest
    | .wantsValue takes name => readOptions form given (some (takes, name)) rest
    | .wordsFollow itself => .ok (given.withWords (if itself then arg :: rest else rest))

/-- Reads the arguments of a command. -/
def Given.read (form : Form) (args : List String) : Except Stop Given :=
  readOptions form .nothing none args

end SecretEnv.CommandLine
