import LineShell.Machine.Sh.Arithmetic
import LineShell.Machine.Sh.Glob
import LineShell.Machine.Sh.Reader
import LineShell.Machine.Tool.Misc

/-! What an interpreter of the command language knows while it runs: parameters, variables,
functions and traps. -/
namespace LineShell.Machine.Sh

/-- A variable and whether started programs see it. -/
structure Variable where
  name : String
  value : String
  exported : Bool
  /-- The value cannot be changed any more. -/
  fixed : Bool := false

/-- The state of an interpreter. -/
structure State where
  name : String
  arguments : List String := []
  bindings : List Variable := []
  status : Nat := 0
  /-- Commands to be run for a signal; the empty text means that it is ignored. -/
  traps : List (Signal × String) := []
  functions : List (String × Tree) := []
  /-- The process that the interpreter was started as. -/
  root : Nat
  line : Nat := 1
  lastBackground : Nat := 0
  /-- The interpreter ends with the first command that fails. -/
  strict : Bool := false
  /-- Commands are shown before they are run. -/
  traced : Bool := false
  /-- A parameter that is not set is an error. -/
  demanding : Bool := false
  /-- Inside of a function, what its own variables hid. -/
  hidden : Option (List (String × Option Variable)) := none

/-- Where a command leaves the flow of control. -/
inductive Flow where
  | on
  | break (levels : Nat)
  | continue (levels : Nat)
  | return

/-- An interpreter at work. -/
abbrev Run := StateT State Proc

namespace Run

/-- The value of the variable, if it is set. -/
def valueOf? (name : String) : Run (Option String) := do
  return ((← get).bindings.find? (·.name == name)).map Variable.value

/-- An error of the interpreter, with its name and the number of the line. -/
def complain (message : String) : Run Unit := do
  let s ← get
  Proc.say 2 (s.name ++ ": " ++ toString s.line ++ ": " ++ message ++ "\n")

/-- Gives a variable a value; the interpreter ends over one that is fixed. -/
def setVariable (name value : String) : Run Unit := do
  if (← get).bindings.any fun v => v.name == name && v.fixed then
    complain (name ++ ": is read only")
    Proc.exit 2
  modify fun s =>
    if s.bindings.any (·.name == name) then
      { s with bindings := s.bindings.map fun v =>
          if v.name == name then { v with value := value } else v }
    else { s with bindings := s.bindings ++ [⟨name, value, false, false⟩] }

/-- Removes the variable. -/
def unsetVariable (name : String) : Run Unit :=
  modify fun s => { s with bindings := s.bindings.filter (·.name != name) }

/-- Marks the variable for programs that are started. -/
def exportVariable (name : String) : Run Unit := do
  if (← valueOf? name).isNone then return
  modify fun s =>
    { s with bindings := s.bindings.map fun v =>
        if v.name == name then { v with exported := true } else v }

/-- Lets a variable keep its value for good. -/
def fixVariable (name : String) : Run Unit :=
  modify fun s =>
    { s with bindings := s.bindings.map fun v =>
        if v.name == name then { v with fixed := true } else v }

/-- Notes what a variable of a function hides. -/
def hideVariable (name : String) : Run Unit :=
  modify fun s =>
    { s with hidden := s.hidden.map fun hs =>
        if hs.any (·.1 == name) then hs else hs ++ [(name, s.bindings.find? (·.name == name))] }

/-- Brings back what the variables of a function hid, and goes on with what is hidden outside. -/
def unhideVariables (outside : Option (List (String × Option Variable))) : Run Unit :=
  modify fun s =>
    let restore (vs : List Variable) (h : String × Option Variable) : List Variable :=
      vs.filter (·.name != h.1) ++ h.2.toList
    { s with bindings := (s.hidden.getD []).foldl restore s.bindings, hidden := outside }

/-- Records the status of the last command. -/
def setStatus (status : Nat) : Run Unit :=
  modify fun s => { s with status := status }

/-- The entries that started programs see. -/
def environment : Run Variables := do
  return .ofPairs (((← get).bindings.filter Variable.exported).map fun v => (v.name, v.value))

/-- The value of a parameter, if it is set. -/
def parameter? (name : String) : Run (Option String) := do
  let s ← get
  match name with
  | "?" => return some (toString s.status)
  | "$" => return some (toString s.root)
  | "#" => return some (toString s.arguments.length)
  | "!" => return if s.lastBackground == 0 then none else some (toString s.lastBackground)
  | "-" => return some (if s.strict then "e" else "")
  | "@" | "*" => return some (" ".intercalate s.arguments)
  | "0" => return some s.name
  | "PPID" =>
    let m ← (get : Proc Machine)
    return ((m.processes.find? (·.pid == s.root)).map fun p => toString p.parent)
  | _ =>
    match Number.natural? name with
    | some n =>
      if name.isEmpty then return none
      else return if n == 0 then some s.name else s.arguments[n - 1]?
    | none => valueOf? name

/-- The value of an arithmetic expression. -/
def arithmetic (source : String) : Run (Except ArithFault String) := do
  let s ← get
  let value (name : String) : Int :=
    (((s.bindings.find? (·.name == name)).map Variable.value).bind Number.decimal?).getD 0
  return (arithValue value source).map toString

end Run

/-- A character of an expanded word, or a place where it may be split. -/
inductive Token where
  | char (c : Char) (quoted : Bool)
  /-- A separator out of an expansion that was not quoted. -/
  | gap
  /-- A place where a field ends in any case. -/
  | cut
  /-- A quotation, which makes a field even if it is empty. -/
  | quotation

/-- The fields of an expanded word: separators end a field, and empty fields remain only where
something was quoted. -/
def fieldsOf (tokens : List Token) : List (List Marked) :=
  go [] false tokens
where
  go (rev : List Marked) (real : Bool) : List Token → List (List Marked)
    | [] => if real then [rev.reverse] else []
    | .char c quoted :: rest => go ((c, quoted) :: rev) true rest
    | .quotation :: rest => go rev true rest
    | .gap :: rest => if real then rev.reverse :: go [] false rest else go [] false rest
    | .cut :: rest => rev.reverse :: go [] true rest

/-- The text of an expanded word that is not split. -/
def textOf (tokens : List Token) : String :=
  String.ofList (tokens.filterMap fun t => match t with
    | .char c _ => some c
    | .gap | .cut => some ' '
    | .quotation => none)

/-- The characters of an expansion. -/
def expansionTokens (separators : List Char) (quoted : Bool) (value : String) : List Token :=
  value.toList.map fun c =>
    if !quoted && separators.contains c then .gap else .char c quoted

/-- A text without the shortest or longest beginning or end that matches a pattern. -/
def strip (operator : String) (pattern : List GlobAtom) (value : List Char) : List Char :=
  let lengths := List.range (value.length + 1)
  match operator with
  | "#" | "##" =>
    let fits := lengths.filter fun n => globMatches pattern (value.take n)
    match if operator == "#" then fits.head? else fits.getLast? with
    | some n => value.drop n
    | none => value
  | _ =>
    let fits := lengths.filter fun n => globMatches pattern (value.drop n)
    match if operator == "%" then fits.getLast? else fits.head? with
    | some n => value.take n
    | none => value

end LineShell.Machine.Sh
