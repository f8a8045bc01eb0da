import LineShell.Errno

/-! What can stop the evaluation of a line. A built-in command that fails is not among these:
it has run, and its failure is a status of the line. -/
namespace LineShell

/-- The causes that stop a line, each with what its text has to name. -/
inductive LineError where
  /-- A segment ends while a quote is open. -/
  | unclosedQuote
  /-- A stage has no word. -/
  | emptyCommand
  /-- The line has more stages than allowed. -/
  | tooManyStages (limit : Nat)
  /-- A stage has more words than allowed. -/
  | tooManyWords (limit : Nat)
  /-- Neither a search directory nor the name itself leads to something executable. -/
  | commandNotFound (name : String)
  /-- The redirection operator is not followed by exactly one last word. -/
  | invalidRedirection
  | pipeFailed (reason : Errno)
  | forkFailed (reason : Errno)
  /-- A stage cannot be handed to the system, for instance because a word holds a NUL. -/
  | launchFailed (reason : String)
  | waitFailed (reason : Errno)
  | outOfMemory
  deriving DecidableEq, Repr

namespace LineError

/-- The text of an error, without the shell's mark in front. -/
def message : LineError → String
  | unclosedQuote => "unclosed quote"
  | emptyCommand => "empty command"
  | tooManyStages limit => "too many commands in pipeline (limit is " ++ toString limit ++ ")"
  | tooManyWords limit => "too many arguments (limit is " ++ toString limit ++ ")"
  | commandNotFound name => name ++ ": command not found"
  | invalidRedirection => "invalid redirection syntax"
  | pipeFailed reason => "cannot create pipe: " ++ reason.message
  | forkFailed reason => "fork failed: " ++ reason.message
  | launchFailed reason => "failed to execute: " ++ reason
  | waitFailed reason => "waitpid failed: " ++ reason.message
  | outOfMemory => "memory allocation failed"

/-- The reason of the system behind an error, where there is one. -/
def reason? : LineError → Option Errno
  | pipeFailed reason | forkFailed reason | waitFailed reason => some reason
  | _ => none

/-- The reason of the system is told at the end. -/
theorem message_of_reason {e : LineError} {reason : Errno} (given : e.reason? = some reason) :
    ∃ what, e.message = what ++ ": " ++ reason.message := by
  cases e <;> simp only [reason?, Option.some.injEq, reduceCtorEq] at given
  case pipeFailed => exact ⟨"cannot create pipe", given ▸ rfl⟩
  case forkFailed => exact ⟨"fork failed", given ▸ rfl⟩
  case waitFailed => exact ⟨"waitpid failed", given ▸ rfl⟩

/-- Whether the shell ends with the line. -/
def isFatal (e : LineError) : Bool :=
  e == outOfMemory

end LineError

/-- The mark in front of every error the shell writes. -/
def errorMark : String := "pipesh: "

/-- An error as it is written, with its mark and line end. -/
def errorLine (text : String) : String :=
  errorMark ++ text ++ "\n"

end LineShell
