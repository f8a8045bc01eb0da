import LineShell.Builtin

/-! The commands every session has unless it is given others. Everything after the name is an
operand, also a word that looks like an option. A command that was given too many or too few
operands only says so. -/
namespace LineShell

/-- A standard command with its operands. -/
inductive Standard where
  | leave
  | changeDirectory (target : String)
  | printDirectory
  | setSearchPaths (directories : List String)
  | help
  | listVariables
  | listHistory
  | alias (operands : List String)
  /-- Stands for a command with a wrong number of operands. -/
  | misuse (message : String)
  deriving DecidableEq, Repr

namespace Standard

/-- The names in the order in which commands are looked for. -/
def names : List String :=
  ["exit", "cd", "pwd", "path", "paths", "help", "env", "history", "alias"]

/-- The first line of a message: what stands before the first line feed, without a carriage
return at its end. -/
def firstLine (message : String) : String :=
  let line := message.toList.takeWhile (· != '\n')
  String.ofList (if line.getLast? == some '\r' then line.dropLast else line)

/-- A command that was given one operand too many. -/
def surplus (operand : String) : Standard :=
  .misuse (firstLine ("Unrecognized argument: " ++ operand ++ "\n"))

/-- A command that takes no operand. -/
def alone (command : Standard) : List String → Standard
  | [] => command
  | operand :: _ => surplus operand

/-- The command of a name and its operands, for the names that have one. -/
def ofWords? (name : String) (operands : List String) : Option Standard :=
  match name with
  | "exit" => some (alone .leave operands)
  | "cd" => some <| match operands with
    | [] => .misuse "Required positional arguments not provided:"
    | [target] => .changeDirectory target
    | _ :: operand :: _ => surplus operand
  | "pwd" => some (alone .printDirectory operands)
  | "path" | "paths" => some (.setSearchPaths operands)
  | "help" => some (alone .help operands)
  | "env" => some (alone .listVariables operands)
  | "history" => some (alone .listHistory operands)
  | "alias" => some (.alias operands)
  | _ => none

/-- What `help` prints. -/
def helpText : String :=
  "pipesh - a small pipeline shell\n" ++
  "Built-in commands:\n" ++
  "  exit        - Exit the shell\n" ++
  "  cd <dir>    - Change directory\n" ++
  "  pwd         - Print working directory\n" ++
  "  path <dirs> - Set executable search paths\n" ++
  "  help        - Show this help message\n" ++
  "  env         - Show environment variables\n" ++
  "  history     - Show command history\n" ++
  "  alias       - Show/set command aliases\n" ++
  "\n" ++
  "Features:\n" ++
  "  - Piping: command1 | command2\n" ++
  "  - Redirection: command > file\n" ++
  "  - Signal handling: Ctrl+C, Ctrl+Z\n"

/-- A path taken relative to a directory; an absolute one stands for itself. -/
def joinPath (directory path : String) : String :=
  if path.toList.head? == some '/' then path
  else if directory.isEmpty || directory.toList.getLast? == some '/' then directory ++ path
  else directory ++ "/" ++ path

/-- Writes pieces of output one after the other, up to the first that cannot be written. -/
def printAll : List String → Shell (Except Failure Unit)
  | [] => return .ok ()
  | text :: rest => do
    match ← Shell.print text with
    | .ok () => printAll rest
    | .error fault => return .error [fault.message]

/-- Writes output on behalf of a command that then succeeds with the session given. -/
def printing (session : Session) (pieces : List String) : Shell (Session × Except Failure Int) :=
  return (session, (← printAll pieces).map fun _ => 0)

/-- Changes to a directory under its canonical path. -/
def enter (session : Session) (target : String) : Shell (Session × Except Failure Int) := do
  match ← Shell.canonicalPath (joinPath session.directory target) with
  | .error fault =>
    return (session, .error ["cd: cannot change directory to " ++ target, fault.message])
  | .ok path =>
    match ← Shell.changeDirectory path with
    | .error fault =>
      return (session, .error ["cd: cannot change directory to " ++ path, fault.message])
    | .ok () => return ({ session with directory := path }, .ok 0)

/-- The number of a line, three characters wide at least. -/
def lineNumber (n : Nat) : String :=
  let digits := toString n
  String.ofList (List.replicate (3 - digits.length) ' ') ++ digits

/-- The lines of the history with their numbers. -/
def historyLines (history : History) : List String :=
  history.lines.mapIdx fun i line => lineNumber (i + 1) ++ "  " ++ line ++ "\n"

/-- The definitions of the aliases, one to a line. -/
def aliasLines (aliases : AliasTable) : List String :=
  aliases.entries.map fun (name, command) => "alias " ++ name ++ "='" ++ command ++ "'\n"

/-- The lines, or a remark in place of none. -/
def linesOr (remark : String) (lines : List String) : List String :=
  if lines.isEmpty then [remark] else lines

/-- Lists the aliases or defines one. -/
def runAlias (session : Session) : List String → Shell (Session × Except Failure Int)
  | [] => printing session (linesOr "No aliases defined\n" (aliasLines session.aliases))
  | [name, command] =>
    match session.aliases.insert name command with
    | .error e => return (session, .error [e.message])
    | .ok aliases =>
      printing { session with aliases := aliases }
        ["Alias '" ++ name ++ "' set to '" ++ command ++ "'\n"]
  | _ => return (session, .error ["alias usage: alias [name command]"])

/-- Runs a standard command. -/
def run : Standard → Command
  | .leave, session => return ({ session with exiting := true }, .ok 0)
  | .changeDirectory target, session => enter session target
  | .printDirectory, session => printing session [session.directory ++ "\n"]
  | .setSearchPaths directories, session =>
    return ({ session with searchPaths := directories }, .ok 0)
  | .help, session => printing session [helpText]
  | .listVariables, session => printing session (session.environment.entries.map (· ++ "\n"))
  | .listHistory, session =>
    printing session (linesOr "No commands in history\n" (historyLines session.history))
  | .alias operands, session => runAlias session operands
  | .misuse message, session => return (session, .error [message])

/-- The standard commands as built-ins, one for each name. -/
def builtins : List Builtin :=
  names.map fun own =>
    ⟨fun name operands => if name == own then (ofWords? name operands).map run else none⟩

/-- The names that have a command have one for any operands. -/
theorem ofWords?_eq_none_iff {name : String} {operands : List String} :
    ofWords? name operands = none ↔ name ∉ names := by
  unfold ofWords?
  split
  all_goals simp_all [names]

theorem exists_ofWords? {name : String} (standard : name ∈ names) (operands : List String) :
    ∃ command, ofWords? name operands = some command := by
  apply Option.ne_none_iff_exists'.mp
  intro missing
  exact ofWords?_eq_none_iff.mp missing standard

private theorem alone_ne {command wanted : Standard} {operands : List String}
    (other : command ≠ wanted) (proper : ∀ message, wanted ≠ .misuse message) :
    alone command operands ≠ wanted := by
  cases operands with
  | nil => exact other
  | cons operand rest => exact (proper _).symm

/-- One command changes the directory, and it has one operand. -/
theorem ofWords?_eq_changeDirectory {name target : String} {operands : List String}
    (known : ofWords? name operands = some (.changeDirectory target)) :
    name = "cd" ∧ operands = [target] := by
  unfold ofWords? at known
  split at known
  case h_2 =>
    obtain _ | ⟨first, _ | ⟨second, rest⟩⟩ := operands
    · cases known
    · cases known
      exact ⟨rfl, rfl⟩
    · cases known
  case h_4 | h_5 | h_9 | h_10 => cases known
  all_goals exact absurd (Option.some.inj known) (alone_ne nofun nofun)

/-- One command is about aliases, with whatever operands it has. -/
theorem ofWords?_eq_alias {name : String} {operands given : List String}
    (known : ofWords? name operands = some (.alias given)) :
    name = "alias" ∧ operands = given := by
  unfold ofWords? at known
  split at known
  case h_2 => obtain _ | ⟨first, _ | ⟨second, rest⟩⟩ := operands <;> cases known
  case h_4 | h_5 | h_10 => cases known
  case h_9 =>
    cases known
    exact ⟨rfl, rfl⟩
  all_goals exact absurd (Option.some.inj known) (alone_ne nofun nofun)

private theorem findSome?_named (name : String) (operands known : List String) :
    (known.map fun own : String => (⟨fun name operands =>
        if name == own then (ofWords? name operands).map run else none⟩ : Builtin)).findSome?
      (fun builtin => builtin.create? name operands) =
    if name ∈ known then (ofWords? name operands).map run else none := by
  induction known with
  | nil => rfl
  | cons own known ih =>
    rw [List.map_cons, List.findSome?_cons, ih]
    by_cases same : name = own
    · subst same
      cases found : ofWords? name operands <;> simp [found]
    · simp [same]

/-- The command found for a name is the one that the name has. -/
theorem find?_builtins (name : String) (operands : List String) :
    Builtin.find? builtins name operands = (ofWords? name operands).map run := by
  rw [Builtin.find?, builtins, findSome?_named]
  split
  · rfl
  · rename_i unknown
    rw [ofWords?_eq_none_iff.mpr unknown]
    rfl

/-- What is found for a name is a standard command, run. -/
theorem find?_eq_some_iff {name : String} {operands : List String} {command : Command} :
    Builtin.find? builtins name operands = some command ↔
      ∃ standard, ofWords? name operands = some standard ∧ run standard = command := by
  rw [find?_builtins, Option.map_eq_some_iff]

end Standard

end LineShell
