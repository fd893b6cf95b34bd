import SecretEnv.Shell.Arithmetic

/-!
# Writing text from a shell: `echo` and `printf`

**Both take backslash escapes; a format also takes arguments**, and is used again as long as there
are some left. An octal escape is an octet. A backslash before any other character stays.
-/

namespace SecretEnv.Shell.Format

/-- The character that an escape letter stands for. -/
def letter? : Char → Option Char
  | '\\' => some '\\'
  | 'a' => some '\x07'
  | 'b' => some '\x08'
  | 'f' => some '\x0c'
  | 'n' => some '\n'
  | 'r' => some '\r'
  | 't' => some '\t'
  | 'v' => some '\x0b'
  | _ => none

/-- Whether a character is an octal digit. -/
def isOctal (c : Char) : Bool := '0' ≤ c && c ≤ '7'

/-- The octet that octal digits write. -/
def octalChar (digits : Text) : Char :=
  Char.ofNat (digits.foldl (fun n d => n * 8 + (d.toNat - '0'.toNat)) 0 % 256)

/-- The octal digits at the front of a text, at most so many. -/
def takeOctal (most : Nat) (cs : Text) : Text := (cs.take most).takeWhile isOctal

/-- Text with its escapes read, and whether it says to stop there. Octal escapes begin with a zero
where `zeroFirst` holds. -/
def unescape (zeroFirst : Bool) : Nat → Text → Text × Bool
  | 0, _ => ([], false)
  | _, [] => ([], false)
  | fuel + 1, '\\' :: 'c' :: rest => if zeroFirst then ([], true) else
      let (text, stops) := unescape zeroFirst fuel rest
      ('\\' :: 'c' :: text, stops)
  | fuel + 1, '\\' :: c :: rest =>
    match letter? c with
    | some d =>
      let (text, stops) := unescape zeroFirst fuel rest
      (d :: text, stops)
    | none =>
      let digits :=
        if zeroFirst then (if c = '0' then takeOctal 3 rest else []) else takeOctal 3 (c :: rest)
      if (zeroFirst && c = '0') || !digits.isEmpty then
        let after := if zeroFirst then rest.drop digits.length else (c :: rest).drop digits.length
        let (text, stops) := unescape zeroFirst fuel after
        (octalChar digits :: text, stops)
      else
        let (text, stops) := unescape zeroFirst fuel (c :: rest)
        ('\\' :: text, stops)
  | fuel + 1, c :: rest =>
    let (text, stops) := unescape zeroFirst fuel rest
    (c :: text, stops)

/-- What `echo` writes: its arguments with a blank between them and a line end, which `-n` leaves
out. -/
def echo (args : List Text) : Text :=
  let (plain, args) :=
    match args with
    | ['-', 'n'] :: rest => (true, rest)
    | _ => (false, args)
  let joined := [' '].intercalate args
  let (text, stops) := unescape true (joined.length + 1) joined
  if plain || stops then text else text ++ ['\n']

/-- Whether an argument is options for `echo`. -/
def isEchoOption (arg : Text) : Bool :=
  match arg with
  | '-' :: c :: letters => (c :: letters).all fun d => d = 'n' || d = 'e' || d = 'E'
  | _ => false

/-- What `echo` writes where escapes are read only on demand: `-e` demands them, `-E` takes that
back, and `-n` leaves the line end out. -/
def echoWithOptions (args : List Text) : Text :=
  let options := (args.takeWhile isEchoOption).flatten
  let joined := [' '].intercalate (args.dropWhile isEchoOption)
  let escapes := (options.filter fun c => c = 'e' || c = 'E').getLast? == some 'e'
  let (text, stops) :=
    if escapes then unescape true (joined.length + 1) joined else (joined, false)
  if options.contains 'n' || stops then text else text ++ ['\n']

/-- How an argument is laid out: on the left or with zeros, its width, and its precision. -/
structure Layout where
  left : Bool
  zeros : Bool
  width : Nat
  precision : Option Nat

/-- Reads a layout off the front of a directive. -/
def readLayout (cs : Text) : Layout × Text :=
  let isFlag (c : Char) : Bool := c = '-' || c = '0' || c = '+' || c = ' ' || c = '#'
  let flags := cs.takeWhile isFlag
  let afterFlags := cs.dropWhile isFlag
  let width := afterFlags.takeWhile Char.isDigit
  let afterWidth := afterFlags.dropWhile Char.isDigit
  let value (digits : Text) : Nat := ((Arithmetic.number? digits).getD 0).toNat
  let (precision, rest) :=
    match afterWidth with
    | '.' :: more => (some (value (more.takeWhile Char.isDigit)), more.dropWhile Char.isDigit)
    | _ => (none, afterWidth)
  (⟨flags.contains '-', flags.contains '0', value width, precision⟩, rest)

/-- A text in its width. -/
def pad (layout : Layout) (text : Text) (filling : Char) : Text :=
  let missing := layout.width - text.length
  if layout.left then text ++ List.replicate missing ' ' else List.replicate missing filling ++ text

/-- A number in a base, in its width. -/
def padNumber (layout : Layout) (base : Nat) (n : Int) : Text :=
  let magnitude := if base = 10 then n.natAbs else (n % Arithmetic.wordCount).toNat
  let digits := Nat.toDigits base magnitude
  let digits :=
    List.replicate (layout.precision.getD 1 - digits.length) '0' ++ digits
  if base = 10 && n < 0 then
    if layout.zeros && !layout.left then
      '-' :: pad { layout with width := layout.width - 1 } digits '0'
    else pad layout ('-' :: digits) ' '
  else pad layout digits (if layout.zeros && !layout.left then '0' else ' ')

/-- The text of an argument for a directive; none for a letter that is no directive. -/
def directive? (layout : Layout) (kind : Char) (arg : Text) : Option Text :=
  let number : Int :=
    match arg with
    | '\'' :: c :: _ => (c.toNat : Int)
    | '"' :: c :: _ => (c.toNat : Int)
    | _ => (Arithmetic.number? arg).getD 0
  let cut (text : Text) : Text :=
    match layout.precision with
    | some n => text.take n
    | none => text
  if kind = 's' then some (pad layout (cut arg) ' ')
  else if kind = 'b' then some (pad layout (cut (unescape true (arg.length + 1) arg).1) ' ')
  else if kind = 'c' then some (pad layout (arg.take 1) ' ')
  else if kind = 'd' || kind = 'i' || kind = 'u' then some (padNumber layout 10 number)
  else if kind = 'x' then some (padNumber layout 16 number)
  else if kind = 'X' then some ((padNumber layout 16 number).map Char.toUpper)
  else if kind = 'o' then some (padNumber layout 8 number)
  else none

/-- A format filled in once, what is left of the arguments, and whether it took any. -/
def fillOnce : Nat → Text → List Text → Bool → Text × List Text × Bool
  | 0, _, args, took => ([], args, took)
  | _, [], args, took => ([], args, took)
  | fuel + 1, '%' :: '%' :: rest, args, took =>
    let (text, left) := fillOnce fuel rest args took
    ('%' :: text, left)
  | fuel + 1, '%' :: rest, args, took =>
    let (layout, more) := readLayout rest
    match more with
    | [] => ([], args, took)
    | kind :: after =>
      match directive? layout kind (args.headD []) with
      | none => ([], args, took)
      | some filled =>
        let (text, left) := fillOnce fuel after args.tail true
        (filled ++ text, left)
  | fuel + 1, '\\' :: c :: rest, args, took =>
    let digits := takeOctal 3 (c :: rest)
    match letter? c with
    | some d =>
      let (text, left) := fillOnce fuel rest args took
      (d :: text, left)
    | none =>
      if digits.isEmpty then
        let (text, left) := fillOnce fuel (c :: rest) args took
        ('\\' :: text, left)
      else
        let (text, left) := fillOnce fuel ((c :: rest).drop digits.length) args took
        (octalChar digits :: text, left)
  | fuel + 1, c :: rest, args, took =>
    let (text, left) := fillOnce fuel rest args took
    (c :: text, left)

/-- What `printf` writes: the format filled in, again and again as long as arguments are left. -/
def fill (format : Text) : Nat → List Text → Text
  | 0, _ => []
  | fuel + 1, args =>
    let (text, left, took) := fillOnce (format.length + 1) format args false
    if left.isEmpty || !took then text else text ++ fill format fuel left

/-- What `printf` writes. -/
def printf (format : Text) (args : List Text) : Text := fill format (args.length + 1) args

end SecretEnv.Shell.Format
