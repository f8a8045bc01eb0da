import LineShell.LineError

/-! Output redirection. A command ends with the operator and one target; nothing else with the
operator in it is accepted. -/
namespace LineShell

/-- The word that introduces a redirection. -/
def redirectMark : String := ">"

/-- A command whose output goes to a file. -/
structure Redirection where
  argv : List String
  target : String
  deriving DecidableEq, Repr

/-- Splits a command at its first operator. Without an operator there is no redirection; with
one, a command has to stand before it and exactly one word after it. -/
def Redirection.find? (tokens : List String) : Except LineError (Option Redirection) :=
  match tokens.span (· != redirectMark) with
  | (_, []) => .ok none
  | (argv, _ :: after) =>
    match argv, after with
    | _ :: _, [target] => .ok (some ⟨argv, target⟩)
    | _, _ => .error .invalidRedirection

end LineShell
