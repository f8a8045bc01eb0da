import LineShell.Call
import LineShell.Session

/-! Commands that run inside the shell. They are asked for by name, may change the session, and
answer with an exit code or with the reasons of a failure. -/
namespace LineShell

/-- Why a command failed: what was attempted first, the cause last. -/
abbrev Failure := List String

/-- The reasons in one line. -/
def Failure.message (reasons : Failure) : String :=
  ": ".intercalate reasons

/-- A command with its operands. -/
abbrev Command := Session → Shell (Session × Except Failure Int)

/-- What makes a command of a name and its operands, if it answers to the name. -/
structure Builtin where
  create? : String → List String → Option Command

/-- The command of the first built-in that answers to the name. -/
def Builtin.find? (builtins : List Builtin) (name : String) (operands : List String) :
    Option Command :=
  builtins.findSome? fun builtin => builtin.create? name operands

end LineShell
