import LineShell.Evaluation
import LineShell.LineLoop
import LineShell.Text.Utf8

/-! Reading lines from a script: one command line per line, no prompt and no history. What is
not text is replaced, so a bad line spoils only itself. -/
namespace LineShell.Script

/-- The text of a line as read. -/
def decodeLine (bytes : List UInt8) : String :=
  Text.stripLineEnd (Text.Utf8.decodeLossy bytes)

/-- Each line is evaluated, and nothing is told but its error. -/
def loop (builtins : List Builtin) : LineLoop where
  visit session bytes := Evaluation.lineReported builtins session (decodeLine bytes)
  fail session fault := return (session, .error ["cannot read script", fault.message])

/-- Evaluates the lines of a source in order, until it ends or the session does. -/
def run (builtins : List Builtin) (source : Source) (session : Session) :
    Shell (Session × Except Failure Unit) :=
  (loop builtins).run source session

end LineShell.Script
