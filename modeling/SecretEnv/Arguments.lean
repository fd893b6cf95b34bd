/-!
# Argument lists

**The arguments of a command are a list of texts, and a flag's value is the argument after the
flag.** Looking for a flag finds its first occurrence.
-/

namespace SecretEnv

/-- The arguments of a command, in order. -/
structure Arguments where
  toList : List String
  deriving Repr, DecidableEq

namespace Arguments

/-- No arguments. -/
def empty : Arguments := ⟨[]⟩

/-- One argument more. -/
def push (args : Arguments) (arg : String) : Arguments := ⟨args.toList ++ [arg]⟩

/-- A flag and its value more. -/
def pushFlag (args : Arguments) (flag value : String) : Arguments := (args.push flag).push value

/-- A flag more, where a condition holds. -/
def pushIf (args : Arguments) (condition : Bool) (flag : String) : Arguments :=
  if condition then args.push flag else args

/-- Whether an argument occurs. -/
def contains (args : Arguments) (arg : String) : Bool := args.toList.contains arg

/-- The argument after the first occurrence of a flag. -/
def valueOf? (args : Arguments) (flag : String) : Option String :=
  (args.toList.dropWhile (· != flag)).tail.head?

/-- How many arguments there are. -/
def length (args : Arguments) : Nat := args.toList.length

/-- Whether there is no argument. -/
def isEmpty (args : Arguments) : Bool := args.toList.isEmpty

/-- The arguments with a blank between them. -/
def displayed (args : Arguments) : String := " ".intercalate args.toList

@[simp] theorem toList_empty : empty.toList = [] := rfl

@[simp] theorem toList_push (args : Arguments) (arg : String) :
    (args.push arg).toList = args.toList ++ [arg] := rfl

@[simp] theorem toList_pushFlag (args : Arguments) (flag value : String) :
    (args.pushFlag flag value).toList = args.toList ++ [flag, value] := by
  simp [pushFlag]

@[simp] theorem toList_pushIf (args : Arguments) (condition : Bool) (flag : String) :
    (args.pushIf condition flag).toList = args.toList ++ (if condition then [flag] else []) := by
  unfold pushIf
  split <;> simp

end Arguments

end SecretEnv
