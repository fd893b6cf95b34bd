import SecretEnv.Shell.Script

/-!
# Reading shell scripts

**A reader by recursive descent, one function to a construct.** Each takes what is left of the
script and gives the construct and the rest, or nothing where the script is no script. Every
recursive step takes fuel; the length of a script gives enough of it.
-/

namespace SecretEnv.Shell

/-! ### Characters -/

/-- Whether a character ends a word that is not quoted. -/
def endsWord (c : Char) : Bool :=
  c = ' ' || c = '\t' || c = '\n' || c = ';' || c = '&' || c = '|' || c = '<' || c = '>' ||
    c = '(' || c = ')'

/-- Whether a name may begin with a character. -/
def startsName (c : Char) : Bool := c.isAlpha || c = '_'

/-- Whether a name may go on with a character. -/
def continuesName (c : Char) : Bool := c.isAlphanum || c = '_'

/-- Whether a character names a parameter by itself. -/
def isSpecial (c : Char) : Bool :=
  c = '@' || c = '*' || c = '#' || c = '?' || c = '$' || c = '!' || c = '-'

/-- Skips blanks, joined lines and a comment. -/
def skipBlanks : Text → Text
  | ' ' :: rest => skipBlanks rest
  | '\t' :: rest => skipBlanks rest
  | '\\' :: '\n' :: rest => skipBlanks rest
  | '#' :: rest => rest.dropWhile (· != '\n')
  | cs => cs

/-- Skips blanks, comments and line ends. -/
def skipLines : Nat → Text → Text
  | 0, cs => cs
  | fuel + 1, cs =>
    match skipBlanks cs with
    | '\n' :: rest => skipLines fuel rest
    | rest => rest

/-- The reserved word at the front of a text, if one of the given ones is there. -/
def reserved? (words : List String) (cs : Text) : Option (String × Text) :=
  let isLetter (c : Char) : Bool := c.isAlpha || c = '\x7b' || c = '\x7d' || c = '!'
  let word := String.ofList (cs.takeWhile isLetter)
  let rest := cs.dropWhile isLetter
  let ended :=
    match rest with
    | [] => true
    | c :: _ => endsWord c
  if words.contains word && ended then some (word, rest) else none

/-- Takes a reserved word off the front of a text, after blanks and line ends. -/
def expect? (word : String) (cs : Text) : Option Text :=
  (reserved? [word] (skipLines cs.length cs)).map (·.2)

/-- The words that end a list of commands. -/
def closers : List String :=
  ["then", "else", "elif", "fi", "do", "done", "esac", "\x7d"]

/-- Whether a list of commands ends here. -/
def atClose (cs : Text) : Bool :=
  match cs with
  | [] => true
  | ')' :: _ => true
  | ';' :: ';' :: _ => true
  | _ => (reserved? closers cs).isSome

/-- The text before two closing parentheses that match, and what follows them. -/
def arithmeticText (depth : Nat) : Text → Option (Text × Text)
  | [] => none
  | ')' :: rest =>
    match depth with
    | 0 =>
      match rest with
      | ')' :: after => some ([], after)
      | _ => none
    | depth + 1 => (arithmeticText depth rest).map fun (text, after) => (')' :: text, after)
  | '(' :: rest => (arithmeticText (depth + 1) rest).map fun (text, after) => ('(' :: text, after)
  | c :: rest => (arithmeticText depth rest).map fun (text, after) => (c :: text, after)

/-- The text before the next backquote, with backslashes taken off what they protect there. -/
def backquoted : Text → Option (Text × Text)
  | [] => none
  | '\x60' :: rest => some ([], rest)
  | '\\' :: c :: rest =>
    (backquoted rest).map fun (text, after) =>
      (if c = '\x60' || c = '\\' || c = '$' then c :: text else '\\' :: c :: text, after)
  | c :: rest => (backquoted rest).map fun (text, after) => (c :: text, after)

/-- Puts a part in front of others. -/
def consPart (part : Part) (parsed : List Part × Text) : List Part × Text :=
  (part :: parsed.1, parsed.2)

/-- The change that a mark between a parameter's name and a word asks for. -/
def changeMark? : Text → Option ((Word → Change) × Text)
  | ':' :: '-' :: rest => some (.fallback true .useWord, rest)
  | ':' :: '=' :: rest => some (.fallback true .assign, rest)
  | ':' :: '?' :: rest => some (.fallback true .fail, rest)
  | ':' :: '+' :: rest => some (.fallback true .useIfSet, rest)
  | '-' :: rest => some (.fallback false .useWord, rest)
  | '=' :: rest => some (.fallback false .assign, rest)
  | '?' :: rest => some (.fallback false .fail, rest)
  | '+' :: rest => some (.fallback false .useIfSet, rest)
  | '#' :: '#' :: rest => some (.cut false true, rest)
  | '#' :: rest => some (.cut false false, rest)
  | '%' :: '%' :: rest => some (.cut true true, rest)
  | '%' :: rest => some (.cut true false, rest)
  | _ => none

/-- The name of a parameter in braces. -/
def parameterName (cs : Text) : Option (Text × Text) :=
  match cs with
  | [] => none
  | c :: rest =>
    if startsName c then some (cs.takeWhile continuesName, cs.dropWhile continuesName)
    else if c.isDigit then some (cs.takeWhile Char.isDigit, cs.dropWhile Char.isDigit)
    else if isSpecial c then some ([c], rest)
    else none

/-- The lines before one that consists of a word, and what follows it. All lines where none does.
Tabs in front of the lines are dropped where `dropsTabs` holds. -/
def linesBefore (dropsTabs : Bool) (word : Text) : Nat → Text → Text × Text
  | 0, cs => (cs, [])
  | _, [] => ([], [])
  | fuel + 1, cs =>
    let whole := cs.takeWhile (· != '\n')
    let line := if dropsTabs then whole.dropWhile (· == '\t') else whole
    let rest := (cs.dropWhile (· != '\n')).drop 1
    if line = word then ([], rest)
    else
      let (lines, after) := linesBefore dropsTabs word fuel rest
      (line ++ '\n' :: lines, after)

/-- A text in which double quotes stand for themselves, as it would be written inside them. -/
def protectQuotes : Text → Text
  | [] => []
  | '\\' :: '"' :: rest => '\\' :: '\\' :: '\\' :: '"' :: protectQuotes rest
  | '\\' :: c :: rest => '\\' :: c :: protectQuotes rest
  | '"' :: rest => '\\' :: '"' :: protectQuotes rest
  | c :: rest => c :: protectQuotes rest

/-- Whether a character quotes others. -/
def isQuote (c : Char) : Bool := c = '\'' || c = '"' || c = '\\'

/-- The parts of a text in double quotes. It is a word even where they come to nothing, unless they
are just the arguments. -/
def quotedParts (parts : List Part) : List Part :=
  match parts with
  | [.parameter ['@'] .none true] => parts
  | _ => .literal [] true :: parts

/-! ### Words and commands -/

mutual

/-- Reads what a dollar sign begins, after it. -/
def readDollar : Nat → Bool → Text → Option (Part × Text)
  | 0, _, _ => none
  | fuel + 1, quoted, cs =>
    match cs with
    | '(' :: '(' :: rest =>
      match arithmeticText 0 rest with
      | none => none
      | some (text, after) =>
        (readQuoted fuel (text ++ ['"'])).map fun (parts, _) => (.arithmetic parts, after)
    | '(' :: rest =>
      match readList fuel rest with
      | some (command, ')' :: after) => some (.output command quoted, after)
      | _ => none
    | '\x7b' :: '#' :: '\x7d' :: after => some (.parameter ['#'] .none quoted, after)
    | '\x7b' :: '#' :: rest =>
      match parameterName rest with
      | some (name, '\x7d' :: after) => some (.parameter name .length quoted, after)
      | _ => none
    | '\x7b' :: rest =>
      match parameterName rest with
      | none => none
      | some (name, '\x7d' :: after) => some (.parameter name .none quoted, after)
      | some (name, more) =>
        match changeMark? more with
        | none => none
        | some (change, word) =>
          (readBraced fuel word).map fun (parts, after) =>
            (.parameter name (change parts) quoted, after)
    | c :: rest =>
      if startsName c then
        some (.parameter (cs.takeWhile continuesName) .none quoted, cs.dropWhile continuesName)
      else if c.isDigit || isSpecial c then some (.parameter [c] .none quoted, rest)
      else some (.literal ['$'] quoted, cs)
    | [] => some (.literal ['$'] quoted, [])

/-- Reads the rest of a text in double quotes, and the closing quote. -/
def readQuoted : Nat → Text → Option (List Part × Text)
  | 0, _ => none
  | fuel + 1, cs =>
    match cs with
    | [] => none
    | '"' :: rest => some ([], rest)
    | '\\' :: '\n' :: rest => readQuoted fuel rest
    | '\\' :: c :: rest =>
      if c = '$' || c = '\x60' || c = '"' || c = '\\' then
        (readQuoted fuel rest).map (consPart (.literal [c] true))
      else (readQuoted fuel rest).map (consPart (.literal ['\\', c] true))
    | '$' :: rest =>
      match readDollar fuel true rest with
      | none => none
      | some (part, after) => (readQuoted fuel after).map (consPart part)
    | '\x60' :: rest =>
      match readBackquote fuel true rest with
      | none => none
      | some (part, after) => (readQuoted fuel after).map (consPart part)
    | c :: rest => (readQuoted fuel rest).map (consPart (.literal [c] true))

/-- Reads the rest of a command in backquotes. -/
def readBackquote : Nat → Bool → Text → Option (Part × Text)
  | 0, _, _ => none
  | fuel + 1, quoted, cs =>
    match backquoted cs with
    | none => none
    | some (text, after) =>
      match readList fuel text with
      | some (command, []) => some (.output command quoted, after)
      | _ => none

/-- Reads the rest of a word in the braces of a parameter, and the closing brace. -/
def readBraced : Nat → Text → Option (List Part × Text)
  | 0, _ => none
  | fuel + 1, cs =>
    match cs with
    | [] => none
    | '\x7d' :: rest => some ([], rest)
    | _ =>
      match readPart fuel cs with
      | none => none
      | some (parts, after) =>
        (readBraced fuel after).map fun (more, after) => (parts ++ more, after)

/-- Reads one piece of a word that is not quoted as a whole. -/
def readPart : Nat → Text → Option (List Part × Text)
  | 0, _ => none
  | fuel + 1, cs =>
    match cs with
    | [] => none
    | '\'' :: rest =>
      match rest.dropWhile (· != '\'') with
      | [] => none
      | _ :: after => some ([.literal (rest.takeWhile (· != '\'')) true], after)
    | '"' :: rest =>
      (readQuoted fuel rest).map fun (parts, after) => (quotedParts parts, after)
    | '\\' :: '\n' :: rest => some ([], rest)
    | '\\' :: c :: rest => some ([.literal [c] true], rest)
    | '$' :: rest => (readDollar fuel false rest).map fun (part, after) => ([part], after)
    | '\x60' :: rest => (readBackquote fuel false rest).map fun (part, after) => ([part], after)
    | c :: rest => some ([.literal [c] false], rest)

/-- Reads the rest of a word. -/
def readWord : Nat → Text → Option (Word × Text)
  | 0, _ => none
  | fuel + 1, cs =>
    match cs with
    | [] => some ([], [])
    | c :: _ =>
      if endsWord c then some ([], cs)
      else
        match readPart fuel cs with
        | none => none
        | some (parts, after) =>
          (readWord fuel after).map fun (more, after) => (parts ++ more, after)

/-- Reads a redirection, if one is there. -/
def readRedirect? : Nat → Text → Option (Option Redirect × Text)
  | 0, _ => none
  | fuel + 1, cs =>
    let digits := cs.takeWhile Char.isDigit
    let channel (default : Nat) : Nat := ((String.ofList digits).toNat?).getD default
    match cs.dropWhile Char.isDigit with
    | '>' :: '&' :: rest =>
      match readWord fuel rest with
      | some ([.literal [d] false], after) =>
        if d.isDigit then some (some (.same (channel 1) (d.toNat - '0'.toNat)), after) else none
      | _ => none
    | '>' :: '>' :: rest =>
      (readWord fuel (skipBlanks rest)).map fun (word, after) =>
        (some (.toFile (channel 1) true word), after)
    | '>' :: rest =>
      (readWord fuel (skipBlanks rest)).map fun (word, after) =>
        (some (.toFile (channel 1) false word), after)
    | '<' :: '<' :: '-' :: rest => (readInline fuel true rest).map fun (r, after) => (some r, after)
    | '<' :: '<' :: rest => (readInline fuel false rest).map fun (r, after) => (some r, after)
    | '<' :: '&' :: _ => none
    | '<' :: rest =>
      (readWord fuel (skipBlanks rest)).map fun (word, after) => (some (.fromFile word), after)
    | _ => some (none, cs)

/-- Reads the word that ends an input in the script, and takes the input out of the lines below. It
is taken as it is if the word is quoted. -/
def readInline : Nat → Bool → Text → Option (Redirect × Text)
  | 0, _, _ => none
  | fuel + 1, dropsTabs, text =>
    let start := skipBlanks text
    let word := start.takeWhile (!endsWord ·)
    let after := start.dropWhile (!endsWord ·)
    let below := (after.dropWhile (· != '\n')).drop 1
    let (lines, rest) := linesBefore dropsTabs (word.filter (!isQuote ·)) below.length below
    let remaining := after.takeWhile (· != '\n') ++ '\n' :: rest
    if word.isEmpty then none
    else if word.any isQuote then some (.fromText [.literal lines true], remaining)
    else
      (readQuoted fuel (protectQuotes lines ++ ['"'])).map fun (parts, _) =>
        (.fromText parts, remaining)

/-- Reads redirections. -/
def readRedirects : Nat → Text → Option (List Redirect × Text)
  | 0, _ => none
  | fuel + 1, cs =>
    match readRedirect? fuel (skipBlanks cs) with
    | none => none
    | some (none, after) => some ([], after)
    | some (some redirect, after) =>
      (readRedirects fuel after).map fun (more, after) => (redirect :: more, after)

/-- Reads the rest of a simple command that began above so many line ends. -/
def readSimple : Nat → Nat → List (List Char × List Part) → List Word → List Redirect → Text →
    Option (Command × Text)
  | 0, _, _, _, _, _ => none
  | fuel + 1, linesBelow, assignments, words, redirects, text =>
    let cs := skipBlanks text
    match readRedirect? fuel cs with
    | none => none
    | some (some redirect, after) =>
      readSimple fuel linesBelow assignments words (redirects ++ [redirect]) after
    | some (none, _) =>
      match cs with
      | [] => some (.simple linesBelow assignments words redirects, [])
      | c :: _ =>
        if endsWord c then some (.simple linesBelow assignments words redirects, cs)
        else
          let name := cs.takeWhile continuesName
          match words.isEmpty && startsName c, cs.dropWhile continuesName with
          | true, '=' :: value =>
            match readWord fuel value with
            | none => none
            | some (word, after) =>
              readSimple fuel linesBelow (assignments ++ [(name, word)]) words redirects after
          | _, _ =>
            match readWord fuel cs with
            | none => none
            | some (word, after) =>
              readSimple fuel linesBelow assignments (words ++ [word]) redirects after

/-- Reads a command that is no pipeline. -/
def readCommand : Nat → Text → Option (Command × Text)
  | 0, _ => none
  | fuel + 1, text =>
    let cs := skipBlanks text
    match cs with
    | '(' :: rest =>
      match readList fuel rest with
      | some (body, ')' :: after) =>
        (readRedirects fuel after).map fun (redirects, after) =>
          (.group true body redirects, after)
      | _ => none
    | _ =>
      match reserved? ["\x7b", "if", "while", "until", "for", "case"] cs with
      | some ("\x7b", rest) =>
        match readList fuel rest with
        | none => none
        | some (body, after) =>
          match expect? "\x7d" after with
          | none => none
          | some after =>
            (readRedirects fuel after).map fun (redirects, after) =>
              (.group false body redirects, after)
      | some ("if", rest) =>
        match readIf fuel rest with
        | none => none
        | some (command, after) =>
          (readRedirects fuel after).map fun (redirects, after) =>
            (.group false command redirects, after)
      | some ("for", rest) => readFor fuel rest
      | some ("case", rest) => readCase fuel rest
      | some (word, rest) =>
        match readList fuel rest with
        | none => none
        | some (test, after) =>
          match readBody fuel after with
          | none => none
          | some (body, after) =>
            (readRedirects fuel after).map fun (redirects, after) =>
              (.group false (.loop (word == "until") test body) redirects, after)
      | none =>
        match cs.takeWhile continuesName, skipBlanks (cs.dropWhile continuesName) with
        | c :: name, '(' :: rest =>
          match skipBlanks rest with
          | ')' :: after =>
            (readCommand fuel (skipLines after.length after)).map fun (body, after) =>
              (.define (c :: name) body, after)
          | _ => none
        | _, _ => readSimple fuel (cs.count '\n') [] [] [] cs

/-- Reads the body of a loop, between its two words. -/
def readBody : Nat → Text → Option (Command × Text)
  | 0, _ => none
  | fuel + 1, cs =>
    match expect? "do" cs with
    | none => none
    | some rest =>
      match readList fuel rest with
      | none => none
      | some (body, after) => (expect? "done" after).map fun after => (body, after)

/-- Reads a conditional after its first word. -/
def readIf : Nat → Text → Option (Command × Text)
  | 0, _ => none
  | fuel + 1, cs =>
    match readList fuel cs with
    | none => none
    | some (test, after) =>
      match expect? "then" after with
      | none => none
      | some rest =>
        match readList fuel rest with
        | none => none
        | some (yes, after) =>
          match reserved? ["elif", "else", "fi"] (skipLines after.length after) with
          | some ("elif", rest) =>
            (readIf fuel rest).map fun (no, after) => (.conditional test yes no, after)
          | some ("else", rest) =>
            match readList fuel rest with
            | none => none
            | some (no, after) =>
              (expect? "fi" after).map fun after => (.conditional test yes no, after)
          | some (_, rest) => some (.conditional test yes .nothing, rest)
          | none => none

/-- Reads words up to the end of a command. -/
def readWords : Nat → Text → Option (List Word × Text)
  | 0, _ => none
  | fuel + 1, text =>
    match skipBlanks text with
    | [] => some ([], [])
    | c :: rest =>
      if endsWord c then some ([], c :: rest)
      else
        match readWord fuel (c :: rest) with
        | none => none
        | some (word, after) =>
          (readWords fuel after).map fun (more, after) => (word :: more, after)

/-- Reads a loop over words after its first word. -/
def readFor : Nat → Text → Option (Command × Text)
  | 0, _ => none
  | fuel + 1, text =>
    let cs := skipBlanks text
    let name := cs.takeWhile continuesName
    let afterName := cs.dropWhile continuesName
    let body (words : Option (List Word)) (rest : Text) : Option (Command × Text) :=
      let rest :=
        match skipBlanks rest with
        | ';' :: more => more
        | other => other
      (readBody fuel rest).map fun (body, after) => (.forEach name words body, after)
    if name.isEmpty then none
    else
      match expect? "in" afterName with
      | none => body none afterName
      | some rest =>
        match readWords fuel rest with
        | none => none
        | some (words, after) => body (some words) after

/-- Reads a choice by patterns after its first word. -/
def readCase : Nat → Text → Option (Command × Text)
  | 0, _ => none
  | fuel + 1, cs =>
    match readWord fuel (skipBlanks cs) with
    | none => none
    | some (word, after) =>
      match expect? "in" after with
      | none => none
      | some rest =>
        (readClauses fuel rest).map fun (clauses, after) => (.choose word clauses, after)

/-- Reads the clauses of a choice, and its last word. -/
def readClauses : Nat → Text → Option (List (List Word × Command) × Text)
  | 0, _ => none
  | fuel + 1, text =>
    let cs := skipLines text.length text
    match reserved? ["esac"] cs with
    | some (_, after) => some ([], after)
    | none =>
      let start :=
        match cs with
        | '(' :: rest => rest
        | _ => cs
      match readPatterns fuel start with
      | none => none
      | some (patterns, rest) =>
        match readList fuel rest with
        | none => none
        | some (body, after) =>
          match skipLines after.length after with
          | ';' :: ';' :: more =>
            (readClauses fuel more).map fun (clauses, after) => ((patterns, body) :: clauses, after)
          | other => (reserved? ["esac"] other).map fun (_, after) => ([(patterns, body)], after)

/-- Reads the patterns of a clause, and the parenthesis behind them. -/
def readPatterns : Nat → Text → Option (List Word × Text)
  | 0, _ => none
  | fuel + 1, cs =>
    match readWord fuel (skipBlanks cs) with
    | none => none
    | some (word, after) =>
      match skipBlanks after with
      | '|' :: rest => (readPatterns fuel rest).map fun (more, after) => (word :: more, after)
      | ')' :: rest => some ([word], rest)
      | _ => none

/-- Reads the rest of a pipeline. -/
def readPipeline : Nat → Text → Option (Command × Text)
  | 0, _ => none
  | fuel + 1, text =>
    match reserved? ["!"] (skipBlanks text) with
    | some (_, rest) =>
      (readPipeline fuel rest).map fun (command, after) => (.negated command, after)
    | none =>
      match readCommand fuel text with
      | none => none
      | some (first, after) =>
        match skipBlanks after with
        | '|' :: '|' :: rest => some (first, '|' :: '|' :: rest)
        | '|' :: rest =>
          (readPipeline fuel (skipLines rest.length rest)).map fun (second, after) =>
            (.pipe first second, after)
        | other => some (first, other)

/-- Reads pipelines after a first one, each run if the one before succeeds or fails. -/
def readChain : Nat → Command → Text → Option (Command × Text)
  | 0, _, _ => none
  | fuel + 1, first, cs =>
    match skipBlanks cs with
    | '&' :: '&' :: rest =>
      match readPipeline fuel (skipLines rest.length rest) with
      | none => none
      | some (second, after) => readChain fuel (.andThen first second) after
    | '|' :: '|' :: rest =>
      match readPipeline fuel (skipLines rest.length rest) with
      | none => none
      | some (second, after) => readChain fuel (.orElse first second) after
    | other => some (first, other)

/-- Reads commands up to the end, a closing parenthesis or a closing word. -/
def readList : Nat → Text → Option (Command × Text)
  | 0, _ => none
  | fuel + 1, text =>
    let cs := skipLines text.length text
    if atClose cs then some (.nothing, cs)
    else
      match readPipeline fuel cs with
      | none => none
      | some (pipeline, after) =>
        match readChain fuel pipeline after with
        | none => none
        | some (first, after) =>
          match skipBlanks after with
          | ';' :: ';' :: rest => some (first, ';' :: ';' :: rest)
          | ';' :: rest =>
            (readList fuel rest).map fun (more, after) => (.sequence first more, after)
          | '&' :: rest =>
            (readList fuel rest).map fun (more, after) => (.sequence first more, after)
          | '\n' :: rest =>
            (readList fuel rest).map fun (more, after) => (.sequence first more, after)
          | other => some (first, other)

end

/-- The commands of a script. -/
def parse? (script : Text) : Option Command :=
  match readList (8 * script.length + 16) script with
  | some (command, []) => some command
  | _ => none

end SecretEnv.Shell
