import LineShell.Machine.Tool.Condition
import LineShell.Machine.Tool.Format
import LineShell.Machine.Tool.Match
import LineShell.Machine.Tool.Text

/-! The remaining tools, and all tools by their names. -/
namespace LineShell.Machine.Tool

/-- Variables with some of them set anew, and the words after the settings. A setting replaces an
earlier value in its place. -/
def withSettings (entries : List String) : List String → List String × List String
  | [] => (entries, [])
  | "-i" :: rest | "-" :: rest => withSettings [] rest
  | word :: rest =>
    if word.toList.contains '=' then
      let own := String.ofList (word.toList.takeWhile (· != '=')) ++ "="
      let entries :=
        if entries.any (·.startsWith own) then
          entries.map fun entry => if entry.startsWith own then word else entry
        else entries ++ [word]
      withSettings entries rest
    else (entries, word :: rest)

/-- The tool `env` without a program to start: the variables of the process. -/
def env : Tool := fun name arguments => do
  let (entries, _) := withSettings (← Proc.self).environment.entries arguments
  emitText name (String.join (entries.map (· ++ "\n")))
  return 0

/-- The executable file of a name in the directories of a search path. -/
def findProgram? (fs : FileSystem) (here : Nat) (directories name : String) : Option String :=
  let candidates :=
    if name.toList.contains '/' then [name]
    else (directories.splitOn ":").map fun d => if d.isEmpty then name else d ++ "/" ++ name
  candidates.find? fun path =>
    match fs.find here path true with
    | .ok id => !fs.isDirectory id && fs.mayExecute id
    | .error _ => false

/-- The tool `which`: the files that the names stand for. -/
def which : Tool := fun name operands => do
  let directories := ((← Proc.self).environment.get? "PATH").getD ""
  if operands.isEmpty then return 1
  forOperands operands fun operand => do
    match findProgram? (← Proc.fileSystem) (← Proc.self).directory directories operand with
    | some path =>
      emitText name (path ++ "\n")
      return true
    | none => return false

/-- The tool `printenv`: the values of the variables named. -/
def printenv : Tool := fun name operands => do
  let environment := (← Proc.self).environment
  if operands.isEmpty then
    emitText name (String.join (environment.entries.map (· ++ "\n")))
    return 0
  forOperands operands fun operand => do
    match environment.get? operand with
    | some value =>
      emitText name (value ++ "\n")
      return true
    | none => return false

/-- Whether a word is a time in seconds, with a fraction and a unit if wanted. -/
def isDuration (word : String) : Bool :=
  let body := word.toList.filter fun c => c != '.'
  let body := if body.getLast?.any fun c => "smhd".toList.contains c then body.dropLast else body
  !body.isEmpty && body.all Char.isDigit

/-- The tool `sleep`. Nothing happens on the machine in the meantime. -/
def sleep : Tool := fun name operands => do
  if operands.isEmpty then return ← missingOperand name
  match operands.find? (!isDuration ·) with
  | some word =>
    complain name ("invalid time interval " ++ Quote.always word)
    Proc.say 2 ("Try '" ++ name ++ " --help' for more information.\n")
    return 1
  | none => return 0

/-- The tool `seq`, for whole numbers. -/
def seq : Tool := fun name operands => do
  let numbers := operands.filterMap Number.decimal?
  let (first, step, last) := match numbers with
    | [last] => (1, 1, last)
    | [first, last] => (first, 1, last)
    | [first, step, last] => (first, step, last)
    | _ => ((1 : Int), (1 : Int), (0 : Int))
  if operands.isEmpty then return ← missingOperand name
  if numbers.length != operands.length then
    let wrong := (operands.find? fun word => (Number.decimal? word).isNone).getD ""
    complain name ("invalid floating point argument: " ++ Quote.always wrong)
    Proc.say 2 ("Try '" ++ name ++ " --help' for more information.\n")
    return 1
  let count := if step > 0 then ((last - first) / step + 1).toNat
    else if step < 0 then ((first - last) / (-step) + 1).toNat else 0
  emitText name
    (String.join ((List.range count).map fun (i : Nat) =>
      toString (first + step * (i : Int)) ++ "\n"))
  return 0

/-- The tool `basename`. -/
def basename : Tool := fun name operands => do
  match operands with
  | [] => missingOperand name
  | path :: more =>
    let last := lastPart path
    let ending := more.headD ""
    let short :=
      if !ending.isEmpty && last != ending && last.endsWith ending then
        (last.dropEnd ending.length).toString
      else last
    emitText name (short ++ "\n")
    return 0

/-- The tool `dirname`. -/
def dirname : Tool := fun name operands => do
  match operands with
  | [] => missingOperand name
  | path :: _ =>
    let pieces := (path.splitOn "/").filter (· != "")
    let before := "/".intercalate pieces.dropLast
    let directory :=
      if path.startsWith "/" then "/" ++ before else if before.isEmpty then "." else before
    emitText name (directory ++ "\n")
    return 0

/-- The signal that a word names, or whose number it is. -/
def signal? (word : String) : Option Signal :=
  match Number.natural? word with
  | some n => if !word.isEmpty && n ≤ 64 then some ⟨n⟩ else none
  | none =>
    let name := String.ofList (word.toList.map Char.toUpper)
    if name == "EXIT" then some ⟨0⟩ else Signal.ofShortName? name

/-- The signal that a word names, also with the common beginning of all names. -/
def longSignal? (word : String) : Option Signal :=
  if word.startsWith "SIG" then signal? (word.drop 3).toString else signal? word

/-- A signal and the processes it is for, as the words of `kill` say. A word that names no signal
is an error. -/
def killWords (find? : String → Option Signal) :
    List String → Except String (Signal × List String)
  | "-s" :: name :: pids => match find? name with
    | some s => .ok (s, pids)
    | none => .error name
  | "--" :: pids => .ok (.terminate, pids)
  | word :: pids =>
    match word.toList with
    | '-' :: name => match find? (String.ofList name) with
      | some s => .ok (s, pids)
      | none => .error (String.ofList name)
    | _ => .ok (.terminate, word :: pids)
  | [] => .ok (.terminate, [])

/-- The tool `kill`. -/
def kill : Tool := fun name operands => do
  match killWords longSignal? operands with
  | .error word =>
    complain name ("unknown signal: " ++ word)
    return 1
  | .ok (s, pids) =>
    forOperands pids fun word => do
      match Number.natural? word with
      | none =>
        complain name ("Illegal number: " ++ word)
        return false
      | some pid =>
        match ← Proc.kill pid s with
        | .ok () => return true
        | .error reason =>
          complain name ("(" ++ word ++ ") - " ++ reason.sentence)
          return false

/-- The tools by their names. -/
def table : List (String × Tool) :=
  [ ("[", Condition.test), ("basename", basename), ("cat", cat), ("chmod", chmod), ("cp", cp),
    ("cut", cut), ("dirname", dirname), ("echo", Format.echo), ("env", env),
    ("false", fun _ _ => return 1), ("grep", grep), ("head", head), ("kill", kill), ("ln", ln),
    ("ls", ls), ("mkdir", mkdir), ("mv", mv), ("printenv", printenv), ("printf", Format.printf),
    ("pwd", pwd), ("readlink", readlink), ("realpath", realpath), ("rev", rev), ("rm", rm),
    ("rmdir", rmdir), ("seq", seq), ("sleep", sleep), ("sort", sort), ("tac", tac),
    ("tail", tail), ("tee", tee), ("test", Condition.test), ("touch", touch), ("tr", tr),
    ("true", fun _ _ => return 0), ("uniq", uniq), ("wc", wc), ("which", which), ("yes", yes) ]

end LineShell.Machine.Tool
