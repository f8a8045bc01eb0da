import LineShell.Machine.Tool.Files

/-! Conditions on files, texts and numbers, as the tool `test` decides them. -/
namespace LineShell.Machine.Condition

/-- What is wrong with a condition. -/
inductive Fault where
  | unexpected (word : String)
  | notNumber (word : String)
  | missing (word : String)
  /-- Two words that are no condition together. -/
  | unfinished (first second : String)
  /-- A condition is followed by another word. -/
  | surplus (word : String)

/-- A fault in the words of the tool. -/
def Fault.message : Fault → String
  | unexpected word => "'" ++ word ++ "': binary operator expected"
  | notNumber word => "invalid integer '" ++ word ++ "'"
  | missing word => "missing '" ++ word ++ "'"
  | unfinished _ second => "missing argument after '" ++ second ++ "'"
  | surplus word => "extra argument '" ++ word ++ "'"

/-- A fault in the words of the command interpreter. -/
def Fault.ownMessage : Fault → String
  | unexpected word => word ++ ": unexpected operator"
  | notNumber word => "Illegal number: " ++ word
  | missing word => "missing '" ++ word ++ "'"
  | unfinished first _ => first ++ ": unexpected operator"
  | surplus word => word ++ ": unexpected operator"

/-- A condition on one file or text. -/
def unary? (operator operand : String) : Proc (Option Bool) := do
  let fs ← Proc.fileSystem
  let node := (← Tool.nodeOf operand true).toOption
  let content := node.bind fs.content?
  match operator with
  | "-n" => return some (operand != "")
  | "-z" => return some (operand == "")
  | "-e" | "-r" | "-w" => return some node.isSome
  | "-f" => return some (match content with
    | some (.file _) | some (.program _) => true
    | _ => false)
  | "-d" => return some ((node.map fs.isDirectory).getD false)
  | "-x" => return some ((node.map fs.mayExecute).getD false)
  | "-s" => return some (match content with
    | some (.file bytes) => bytes.size > 0
    | some (.directory ..) | some (.program _) => true
    | _ => false)
  | "-L" | "-h" =>
    return some (match ((← Tool.nodeOf operand false).toOption).bind fs.content? with
      | some (.link _) => true
      | _ => false)
  | "-c" => return some (match content with
    | some .sink | some .zeros | some .full => true
    | _ => false)
  | "-t" | "-p" | "-S" | "-b" => return some false
  | _ => return none

/-- A comparison of two texts or two numbers. -/
def binary? (left operator right : String) : Option (Except Fault Bool) :=
  let numbers (compare : Int → Int → Bool) : Option (Except Fault Bool) := some <|
    match Number.decimal? left, Number.decimal? right with
    | some m, some n => .ok (compare m n)
    | none, _ => .error (.notNumber left)
    | _, none => .error (.notNumber right)
  match operator with
  | "=" | "==" => some (.ok (left == right))
  | "!=" => some (.ok (left != right))
  | "<" => some (.ok (left < right))
  | ">" => some (.ok (right < left))
  | "-eq" => numbers (· == ·)
  | "-ne" => numbers (· != ·)
  | "-lt" => numbers (· < ·)
  | "-le" => numbers (· ≤ ·)
  | "-gt" => numbers (· > ·)
  | "-ge" => numbers (· ≥ ·)
  | _ => none

/-- Decides a condition given by its words. Conjunction binds tighter than disjunction. At most
`fuel` words are looked at. -/
def decide : Nat → List String → Proc (Except Fault Bool)
  | 0, _ => return .ok false
  | fuel + 1, words => do
    let parts := words.splitOn "-o"
    if parts.length > 1 && parts.all (!·.isEmpty) then
      return ← anyOf fuel parts
    let parts := words.splitOn "-a"
    if parts.length > 1 && parts.all (!·.isEmpty) then
      return ← allOf fuel parts
    match words with
    | [] => return .ok false
    | [text] => return .ok (text != "")
    | [left, operator, right] =>
      match binary? left operator right with
      | some answer => return answer
      | none => one fuel words
    | _ => one fuel words
where
  anyOf (fuel : Nat) : List (List String) → Proc (Except Fault Bool)
    | [] => return .ok false
    | part :: rest => do
      match ← decide fuel part with
      | .ok false => anyOf fuel rest
      | answer => return answer
  allOf (fuel : Nat) : List (List String) → Proc (Except Fault Bool)
    | [] => return .ok true
    | part :: rest => do
      match ← decide fuel part with
      | .ok true => allOf fuel rest
      | answer => return answer
  /-- A negation, a condition in brackets, or a condition on one word. -/
  one (fuel : Nat) (words : List String) : Proc (Except Fault Bool) := do
    match words with
    | "!" :: rest => return (← decide fuel rest).map (!·)
    | "(" :: rest =>
      if rest.getLast? == some ")" then decide fuel rest.dropLast
      else return .error (.missing ")")
    | [operator, operand] =>
      match ← unary? operator operand with
      | some answer => return .ok answer
      | none => return .error (.unfinished operator operand)
    | left :: operator :: right :: next :: _ =>
      if (binary? left operator right).isSome then return .error (.surplus next)
      else return .error (.unexpected operator)
    | _ :: operator :: _ => return .error (.unexpected operator)
    | _ => return .ok false

/-- The status of a condition: 0 if it holds, 1 if not, 2 if it makes no sense. -/
def run (report : Fault → Proc Unit) (words : List String) : Proc Nat := do
  match ← decide (2 * words.length + 4) words with
  | .ok true => return 0
  | .ok false => return 1
  | .error fault =>
    report fault
    return 2

/-- The words of a condition, without the bracket that closes it if it was opened by one. -/
def wordsOf? (name : String) (arguments : List String) : Option (List String) :=
  if name.endsWith "[" then
    if arguments.getLast? == some "]" then some arguments.dropLast else none
  else some arguments

/-- The tools `test` and `[`. -/
def test : Tool := fun name arguments => do
  match wordsOf? name arguments with
  | some words => run (fun fault => Tool.complain name fault.message) words
  | none =>
    Tool.complain name "missing ']'"
    return 2

end LineShell.Machine.Condition
