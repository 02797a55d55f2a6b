import Offside.CommandLine.Call

/-!
# The command line

`CommandLine.run` makes the arguments of a call into its options. Arguments that make no sense end
with code 2 before anything is read.
-/

namespace Offside

/-- The options that bound a run. -/
inductive LimitOption where
  | steps | range | sequence
  deriving DecidableEq, Repr

namespace LimitOption

/-- Every option that bounds a run. -/
def all : List LimitOption := [steps, range, sequence]

/-- The name of an option on the command line. -/
def name : LimitOption → String
  | steps => "step-limit"
  | range => "range-limit"
  | sequence => "sequence-limit"

/-- The environment variable that holds the bound if the option is not given. -/
def environmentName : LimitOption → String
  | steps => "LOOPQUEST_STEP_LIMIT"
  | range => "LOOPQUEST_RANGE_LIMIT"
  | sequence => "LOOPQUEST_SEQUENCE_LIMIT"

end LimitOption

/-- The options without a value. -/
inductive Flag where
  | check | tree | json | verbose | help
  deriving DecidableEq, Repr

namespace Flag

/-- Every flag. -/
def all : List Flag := [check, tree, json, verbose, help]

/-- The name of a flag on the command line. -/
def name : Flag → String
  | check => "check"
  | tree => "tree"
  | json => "json"
  | verbose => "verbose"
  | help => "help"

/-- The flag of a letter after a single hyphen. -/
def ofLetter? : Char → Option Flag
  | 'v' => some verbose
  | 'h' => some help
  | _ => none

end Flag

/-- Why arguments make no sense. -/
inductive UsageError where
  | unknownOption (argument : String)
  | repeatedOption (name : String)
  | unexpectedValue (name : String)
  | missingValue (name : String)
  | emptyPath
  | extraPath (argument : String)
  | invalidNumber (name value : String)
  | checkWithTree
  deriving DecidableEq, Repr

/-- The message of an error. -/
def UsageError.message : UsageError → String
  | unknownOption argument => s!"unexpected argument '{argument}'"
  | repeatedOption name => s!"'--{name}' cannot be used more than once"
  | unexpectedValue name => s!"'--{name}' takes no value"
  | missingValue name => s!"'--{name}' needs a value"
  | emptyPath => "a path cannot be empty"
  | extraPath argument => s!"unexpected argument '{argument}'"
  | invalidNumber name value => s!"invalid value '{value}' for '{name}'"
  | checkWithTree => "'--tree' cannot be used with '--check'"

/-- What a call is given on the command line, with each flag and each bound by itself. -/
structure Arguments where
  path? : Option String := none
  expected? : Option String := none
  flags : List Flag := []
  limits : List (LimitOption × Nat) := []

namespace Arguments

/-- Whether a flag is given. -/
def has (given : Arguments) (flag : Flag) : Bool :=
  given.flags.contains flag

/-- The arguments with one more flag. -/
def addFlag (given : Arguments) (flag : Flag) : Except UsageError Arguments :=
  if given.has flag then .error (.repeatedOption flag.name)
  else .ok { given with flags := flag :: given.flags }

/-- The arguments with the path of the program. -/
def addPath (given : Arguments) (path : String) : Except UsageError Arguments :=
  if path.isEmpty then .error .emptyPath
  else if given.path?.isSome then .error (.extraPath path)
  else .ok { given with path? := some path }

/-- The arguments with the path of the expected lines. -/
def addExpected (given : Arguments) (path : String) : Except UsageError Arguments :=
  if path.isEmpty then .error .emptyPath
  else if given.expected?.isSome then .error (.repeatedOption "expect")
  else .ok { given with expected? := some path }

/-- The greatest bound that can be given. -/
def mostBound : Nat := 0xFFFFFFFFFFFFFFFF

/-- The number that a bound is written as: decimal digits, perhaps after a plus sign. -/
def number? (written : String) : Option Nat :=
  let digits := match written.toList with
    | '+' :: digits => digits
    | digits => digits
  if digits.isEmpty || !digits.all Char.isDigit then none
  else
    let number := Token.digitsValue digits
    if number ≤ mostBound then some number else none

/-- The arguments with one more bound. -/
def addLimit (given : Arguments) (limit : LimitOption) (written : String) :
    Except UsageError Arguments :=
  match number? written with
  | none => .error (.invalidNumber limit.name written)
  | some number =>
      if (given.limits.lookup limit).isSome then .error (.repeatedOption limit.name)
      else .ok { given with limits := given.limits ++ [(limit, number)] }

/-- The option with a value that has a name: what it adds to the arguments. -/
def withValue? (name : String) : Option (Arguments → String → Except UsageError Arguments) :=
  if name = "expect" then some addExpected
  else (LimitOption.all.find? (·.name == name)).map fun limit given written =>
    given.addLimit limit written

/-- The name of a long option and the value behind its equals sign. -/
def splitLong (argument : List Char) : String × Option String :=
  let name := argument.takeWhile (· != '=')
  match argument.dropWhile (· != '=') with
  | [] => (String.ofList name, none)
  | _ :: value => (String.ofList name, some (String.ofList value))

/-- Whether an argument cannot be the value of an option. -/
def isOption (argument : String) : Bool :=
  match argument.toList with
  | '-' :: _ :: _ => true
  | _ => false

/-- Adds what some words ask for, from the left. -/
def addAll (given : Arguments) : List String → Except UsageError Arguments
  | [] => .ok given
  | argument :: later =>
      match argument.toList with
      | ['-', '-'] => later.foldlM addPath given
      | '-' :: '-' :: long =>
          let (name, value?) := splitLong long
          match Flag.all.find? (·.name == name), withValue? name, value? with
          | some flag, _, none => do (← given.addFlag flag).addAll later
          | some flag, _, some _ => .error (.unexpectedValue flag.name)
          | none, some add, some value => do (← add given value).addAll later
          | none, some add, none =>
              match later with
              | [] => .error (.missingValue name)
              | value :: later =>
                  if isOption value then .error (.missingValue name)
                  else do (← add given value).addAll later
          | none, none, _ => .error (.unknownOption argument)
      | '-' :: letter :: letters => do
          let given ← (letter :: letters).foldlM (fun given letter =>
            match Flag.ofLetter? letter with
            | some flag => given.addFlag flag
            | none => .error (.unknownOption argument)) given
          given.addAll later
      | _ => do (← given.addPath argument).addAll later

/-- The arguments with the bounds that the environment holds for those not given. -/
def addEnvironment (given : Arguments) (environment : String → Option String) :
    Except UsageError Arguments :=
  LimitOption.all.foldlM (fun given limit =>
    match given.limits.lookup limit, environment limit.environmentName with
    | none, some written => given.addLimit limit written
    | _, _ => .ok given) given

/-- What the arguments and the environment ask for. -/
def read (arguments : List String) (environment : String → Option String) :
    Except UsageError Arguments := do
  let given ← addAll {} arguments
  if given.has .help then .ok given
  else if given.has .check && given.has .tree then .error .checkWithTree
  else given.addEnvironment environment

/-- Whether the program is read from the standard input. -/
def readsInput (given : Arguments) : Bool :=
  !given.has .help && given.path?.isNone

/-- The paths of the files that may be read. -/
def paths (given : Arguments) : List String :=
  given.path?.toList ++ given.expected?.toList

/-- The options of the call. -/
def options (given : Arguments) : Options where
  path? := given.path?
  check := given.has .check
  tree := given.has .tree
  json := given.has .json
  expected? := given.expected?
  limits :=
    { steps? := given.limits.lookup .steps
      range? := given.limits.lookup .range
      sequence? := given.limits.lookup .sequence }

end Arguments

namespace CommandLine

/-- What a call finds around it, with the variables of its environment. -/
structure Shell extends Surroundings where
  /-- The text of a variable. -/
  environment : String → Option String

/-- The text that explains the arguments. -/
def helpText : String :=
  unlines
    ["Check and run programs whose blocks are given by indentation",
      "",
      "Usage: offside [OPTIONS] [PATH]",
      "",
      "Arguments:",
      "  [PATH]  Program to run (reads stdin when omitted)",
      "",
      "Options:",
      "      --check                Only look for defects of single lines",
      "      --tree                 Print the statement tree instead of running it",
      "      --json                 Print the result as JSON",
      "      --expect <FILE>        Compare the output with the lines of this file",
      "      --step-limit <N>       Maximum statements and loop iterations per run",
      "      --range-limit <N>      Maximum length of a single range() call",
      "      --sequence-limit <N>   Maximum length of a string or list built by + or *",
      "  -v, --verbose              Accepted; there is nothing more to say",
      "  -h, --help                 Print help"]

/-- What a call of the program with some arguments leaves behind. -/
def run (arguments : List String) (shell : Shell) : Outcome :=
  match Arguments.read arguments shell.environment with
  | .error error => { code := 2, errors := s!"error: {error.message}\n" }
  | .ok given =>
      if given.has .help then { code := 0, output := helpText }
      else call given.options shell.toSurroundings

end CommandLine

end Offside
