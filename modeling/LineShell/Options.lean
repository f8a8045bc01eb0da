import LineShell.LogLevel
import LineShell.Session

/-! The command line. Options take the next argument as their value, whatever it looks like;
one argument is left for the script. Help is given only after all arguments have been read
without an error. -/
namespace LineShell

/-- What a command line asks for. -/
structure Options where
  script : Option String := none
  searchPaths : List String := []
  maxStages : Option Nat := none
  maxWords : Option Nat := none
  maxLine : Option Nat := none
  threshold : Option LogThreshold := none
  logFile : Option String := none
  deriving DecidableEq, Repr

/-- What is wrong with a command line. -/
inductive OptionsError where
  | unrecognized (argument : String)
  | missingValue (name : String)
  | badValue (name value reason : String)
  /-- An option after a request for help. -/
  | afterHelp
  deriving DecidableEq, Repr

/-- What the user reads when the command line is refused. -/
def OptionsError.message : OptionsError → String
  | unrecognized argument => "Unrecognized argument: " ++ argument ++ "\n"
  | missingValue name => "No value provided for option '" ++ name ++ "'.\n"
  | badValue name value reason =>
    "Error parsing option '" ++ name ++ "' with value '" ++ value ++ "': " ++ reason ++ "\n"
  | afterHelp => "Trailing arguments are not allowed after `help`."

namespace Options

/-- The least number that is too large for a limit. -/
def limitBound : Nat := UInt64.size

/-- Reads decimal digits from left to right, given the value of those before. A character that
is no digit is found before the number is found too large. -/
def readDigits (value : Nat) : List Char → Except String Nat
  | [] => .ok value
  | c :: rest =>
    if !c.isDigit then .error "invalid digit found in string"
    else
      let next := value * 10 + (c.toNat - '0'.toNat)
      if next ≥ limitBound then .error "number too large to fit in target type"
      else readDigits next rest

/-- Reads a limit: decimal digits, with or without a plus sign in front. -/
def readLimit (text : String) : Except String Nat :=
  match text.toList with
  | [] => .error "cannot parse integer from empty string"
  | '+' :: c :: rest => readDigits 0 (c :: rest)
  | cs => readDigits 0 cs

/-- Reads a log threshold by its name. -/
def readThreshold (text : String) : Except String LogThreshold :=
  match LogThreshold.ofName? text with
  | some threshold => .ok threshold
  | none => .error "attempted to convert a string that doesn't match an existing log level"

/-- The value of an option that may be given once. -/
def once {α : Type} (before : Option α) (read : String → Except String α) (text : String) :
    Except String (Option α) :=
  match before with
  | some _ => .error "duplicate values provided"
  | none => (read text).map some

/-- The options with one value more, for the names that are options. -/
def set? (options : Options) (name value : String) : Option (Except String Options) :=
  match name with
  | "--path" => some (.ok { options with searchPaths := options.searchPaths ++ [value] })
  | "--max-stages" =>
    some ((once options.maxStages readLimit value).map fun v => { options with maxStages := v })
  | "--max-tokens" =>
    some ((once options.maxWords readLimit value).map fun v => { options with maxWords := v })
  | "--max-line" =>
    some ((once options.maxLine readLimit value).map fun v => { options with maxLine := v })
  | "--log-level" =>
    some ((once options.threshold readThreshold value).map fun v =>
      { options with threshold := v })
  | "--log-file" =>
    some ((once options.logFile .ok value).map fun v => { options with logFile := v })
  | _ => none

/-- The script, which is the only argument that is no option. -/
def addOperand (options : Options) (argument : String) : Except OptionsError Options :=
  match options.script with
  | none => .ok { options with script := some argument }
  | some _ => .error (.unrecognized argument)

/-- Reads the arguments after `--`, all of which are operands. -/
def readOperands (options : Options) (arguments : List String) : Except OptionsError Options :=
  arguments.foldlM addOperand options

/-- Reads arguments up to the end or to `--`, and tells whether help was asked for. -/
def readFrom (help : Bool) (options : Options) :
    List String → Except OptionsError (Bool × Options)
  | [] => .ok (help, options)
  | argument :: rest =>
    if argument == "--help" || argument == "help" then readFrom true options rest
    else if argument == "--" then (readOperands options rest).map (help, ·)
    else if argument.toList.head? == some '-' then
      if help then .error .afterHelp
      else match rest with
        | [] =>
          if (options.set? argument "").isSome then .error (.missingValue argument)
          else .error (.unrecognized argument)
        | value :: rest =>
          match options.set? argument value with
          | none => .error (.unrecognized argument)
          | some (.error reason) => .error (.badValue argument value reason)
          | some (.ok options) => readFrom help options rest
    else
      match addOperand options argument with
      | .error e => .error e
      | .ok options => readFrom help options rest

/-- Reads a command line, without the name of the program. -/
def read (arguments : List String) : Except OptionsError (Bool × Options) :=
  readFrom false {} arguments

/-- The session that the options ask for, in a directory and with variables. -/
def session (options : Options) (directory : String) (environment : Variables) : Session :=
  { searchPaths := if options.searchPaths.isEmpty then defaultSearchPaths else options.searchPaths
    limits :=
      { maxLine := options.maxLine.getD 1024
        maxStages := options.maxStages.getD 10
        maxWords := options.maxWords.getD 10 }
    directory := directory
    environment := environment }

/-- What a request for help prints. -/
def usage : String :=
  "Usage: pipesh [--path <path...>] [--max-stages <max-stages>] [--max-tokens <max-tokens>] " ++
  "[--max-line <max-line>] [--log-level <log-level>] [--log-file <log-file>] [--] [<script>]\n" ++
  "\n" ++
  "Run pipelines of programs, interactively or from a script file.\n" ++
  "\n" ++
  "Positional Arguments:\n" ++
  "  script            script to run, one command line per line; interactive when\n" ++
  "                    omitted.\n" ++
  "\n" ++
  "Options:\n" ++
  "  --path            directory searched for programs; repeat to add more,\n" ++
  "                    replaces the defaults.\n" ++
  "  --max-stages      most commands allowed in one pipeline.\n" ++
  "  --max-tokens      most words allowed in one command.\n" ++
  "  --max-line        longest input line in bytes; the rest of a longer line is\n" ++
  "                    dropped.\n" ++
  "  --log-level       diagnostic verbosity (off, error, warn, info, debug, trace).\n" ++
  "  --log-file        write diagnostics to this file instead of standard error.\n" ++
  "  --help, help      display usage information\n" ++
  "\n"

/-- What is written about a wrong command line. -/
def complaint (e : OptionsError) : String :=
  e.message ++ "\nRun pipesh --help for more information.\n"

end Options

end LineShell
