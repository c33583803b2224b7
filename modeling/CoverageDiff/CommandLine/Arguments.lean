/-!
# CoverageDiff.CommandLine.Arguments

Options and words of a command line.

1. An argument that starts with a hyphen and goes on is an option.  Its value,
   if it takes one, follows an equals sign or is the next argument, whatever
   that starts with.
2. Letters of flags can stand together after one hyphen.
3. Two hyphens alone end the options.  A command whose options come first
   also ends them with its first word.
4. Names of options are not shortened.
-/

namespace CoverageDiff.CommandLine

/-- An option that a command knows. -/
inductive OptionSpec where
  /-- An option without value, with a name and perhaps a letter. -/
  | flag (name : String) (letter : Option Char)
  /-- An option with a value. -/
  | valued (name : String)
  deriving DecidableEq

/-- The name of an option. -/
def OptionSpec.name : OptionSpec → String
  | flag name _ => name
  | valued name => name

/-- Why the arguments of a command cannot be read. -/
inductive ArgumentError where
  /-- The command has no such option. -/
  | unknownOption (name : String)
  /-- The value of an option is missing. -/
  | missingValue (name : String)
  /-- An option without value is given one. -/
  | unexpectedValue (name : String)
  deriving DecidableEq

/-- The wording of an error. -/
def ArgumentError.message : ArgumentError → String
  | unknownOption name => "No such option: " ++ name
  | missingValue name => "Option '" ++ name ++ "' requires an argument."
  | unexpectedValue name => "Option '" ++ name ++ "' does not take a value."

/-- An option with the value it was given. -/
structure Given where
  /-- The name of the option. -/
  name : String
  /-- Its value; empty for a flag. -/
  value : String := ""
  deriving DecidableEq

/-- Options and words in the order given. -/
structure Arguments where
  options : List Given := []
  words : List String := []
  deriving DecidableEq

namespace Arguments

/-! ## Looking up -/

/-- All values of an option. -/
def values (a : Arguments) (name : String) : List String :=
  (a.options.filter fun g => g.name == name).map Given.value

/-- The last value of an option. -/
def last? (a : Arguments) (name : String) : Option String :=
  (a.values name).getLast?

/-- Whether an option is given. -/
def has (a : Arguments) (name : String) : Bool :=
  a.options.any fun g => g.name == name

/-! ## One argument -/

/-- Whether an argument is an option. -/
def isOption (arg : String) : Bool :=
  match arg.toList with
  | '-' :: _ :: _ => true
  | _ => false

/-- The name in front of an equals sign, and what follows it. -/
def splitValue (arg : String) : String × Option String :=
  let cs := arg.toList
  match cs.dropWhile (· ≠ '=') with
  | _ :: value => (String.ofList (cs.takeWhile (· ≠ '=')), some (String.ofList value))
  | [] => (arg, none)

/-- The flag with a letter. -/
def flagOf? (specs : List OptionSpec) (letter : Char) : Option Given :=
  specs.findSome? fun
    | .flag name (some c) => if c = letter then some { name } else none
    | _ => none

/-- The flags of an argument that is a hyphen and letters. -/
def cluster (specs : List OptionSpec) (arg : String) : Except ArgumentError (List Given) :=
  (arg.toList.drop 1).mapM fun letter =>
    match flagOf? specs letter with
    | some g => .ok g
    | none => .error (.unknownOption ("-" ++ String.singleton letter))

/-- What an option argument gives, and the arguments left after it. -/
def readOption (specs : List OptionSpec) (arg : String) (next : List String) :
    Except ArgumentError (List Given × List String) :=
  let (name, value) := splitValue arg
  match specs.find? fun s => s.name == name, value, next with
  | some (.valued _), some v, _ => .ok ([⟨name, v⟩], next)
  | some (.valued _), none, v :: left => .ok ([⟨name, v⟩], left)
  | some (.valued _), none, [] => .error (.missingValue name)
  | some (.flag _ _), none, _ => .ok ([{ name }], next)
  | some (.flag _ _), some _, _ => .error (.unexpectedValue name)
  | none, _, _ =>
    -- with two hyphens it is one name, with one hyphen a row of letters
    if "--".isPrefixOf arg then .error (.unknownOption name)
    else (cluster specs arg).map fun given => (given, next)

/-- Reading an option leaves no more arguments than there were. -/
theorem length_readOption_le {specs : List OptionSpec} {arg : String} {next left : List String}
    {given : List Given} (h : readOption specs arg next = .ok (given, left)) :
    left.length ≤ next.length := by
  unfold readOption at h
  simp only at h
  split at h
  case h_6 =>
    split at h
    · cases h
    · cases hc : cluster specs arg with
      | error e => rw [hc] at h; cases h
      | ok g => rw [hc] at h; cases h; exact Nat.le_refl _
  all_goals cases h
  all_goals simp

/-! ## All arguments -/

/-- The options and words of a command line; with `mixed`, options can follow words. -/
def read (specs : List OptionSpec) (mixed : Bool) (args : List String) :
    Except ArgumentError Arguments :=
  match args with
  | [] => .ok {}
  | arg :: next =>
    if arg = "--" then .ok { words := next }
    else if isOption arg then
      match h : readOption specs arg next with
      | .error e => .error e
      | .ok (given, left) =>
        have : left.length ≤ next.length := length_readOption_le h
        (read specs mixed left).map fun a => { a with options := given ++ a.options }
    else if mixed then (read specs mixed next).map fun a => { a with words := arg :: a.words }
    else .ok { words := arg :: next }
termination_by args.length

end Arguments

end CoverageDiff.CommandLine
