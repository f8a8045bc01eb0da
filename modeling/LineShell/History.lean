/-! The lines entered in a session, oldest first. Only the latest ones are kept. -/
namespace LineShell

/-- The most lines that are kept. -/
def maxHistory : Nat := 100

/-- The lines entered, oldest first. -/
structure History where
  lines : List String := []
  deriving DecidableEq, Repr

/-- The history with one more line. An empty line leaves no trace, and a full history loses its
oldest line. -/
def History.push (history : History) (line : String) : History :=
  if line.isEmpty then history
  else if history.lines.length == maxHistory then ⟨history.lines.drop 1 ++ [line]⟩
  else ⟨history.lines ++ [line]⟩

end LineShell
