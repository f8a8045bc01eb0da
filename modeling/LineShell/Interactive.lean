import LineShell.Evaluation
import LineShell.LineLoop
import LineShell.Text.Cluster
import LineShell.Text.Utf8

/-! Reading lines from a user, or from a standard input that is no terminal. Lines are kept in
the history. A terminal that cannot move its cursor is prompted; without a terminal there is no
prompt. An interrupt at the prompt, after which a terminal is read again, has no part here: only the
terminal's own line editing tells of one, and any other read is taken up again by itself. -/
namespace LineShell.Interactive

/-- What is shown before a line is read. -/
def prompt : String := "pipesh> "

/-- The kinds of terminals that cannot move their cursor. -/
def plainTerminals : List String := ["dumb", "cons25", "emacs"]

/-- Whether the variables name such a terminal, in letters of either case. -/
def isPlainTerminal (session : Session) : Bool :=
  ((session.environment.get? "TERM").map fun kind =>
    plainTerminals.contains (String.ofList (kind.toList.map Char.toLower))).getD false

/-- The text of a line without its terminator, one line feed and one carriage return before it,
and with its backspaces carried out. -/
def editLine (line : String) : String :=
  let cs := line.toList
  let body :=
    if cs.getLast? == some '\n' then
      let cs := cs.dropLast
      if cs.getLast? == some '\r' then cs.dropLast else cs
    else cs
  String.ofList (Text.eraseBackspaced body)

/-- What happens before every line. -/
def invite (session : Session) : Shell (Except IoFault Unit) := do
  if isPlainTerminal session then
    Shell.log .debug "unsupported terminal"
    Shell.print prompt
  else
    Shell.log .debug "stdin is not a tty"
    return .ok ()

/-- The reasons of a line that could not be read, or asked for. -/
def readFailure (fault : IoFault) : Failure :=
  ["cannot read input", fault.message, fault.message]

/-- Asks for a line and goes on, unless it cannot be asked for. -/
def ask (session : Session) (next : Shell (Session × Except Failure Unit)) :
    Shell (Session × Except Failure Unit) := do
  match ← invite session with
  | .error fault => return (session, .error (readFailure fault))
  | .ok () => next

/-- Evaluates a line that was read and remembers it, unless it is blank. -/
def enter (builtins : List Builtin) (session : Session) (line : String) :
    Shell (Session × Except Failure Unit) :=
  let trimmed := Text.trim (editLine line)
  if trimmed.isEmpty then return (session, .ok ())
  else
    Evaluation.lineReported builtins
      { session with history := session.history.push trimmed } trimmed

/-- Asks for a line and takes the one that these bytes are, if they are a text. -/
def take (builtins : List Builtin) (session : Session) (bytes : List UInt8) :
    Shell (Session × Except Failure Unit) :=
  ask session <| match Text.Utf8.decode? bytes with
    | none => return (session, .error (readFailure .notText))
    | some line => enter builtins session line

/-- Every line is asked for, also one that cannot be read. -/
def loop (builtins : List Builtin) : LineLoop where
  visit := take builtins
  fail session fault := ask session (return (session, .error (readFailure fault)))

/-- Evaluates the lines of a source in order, until it ends or the session does. -/
def lines (builtins : List Builtin) (source : Source) (session : Session) :
    Shell (Session × Except Failure Unit) :=
  (loop builtins).run source session

/-- The end of the input is met where a line is asked for once more, and the line that this is on is
ended. -/
def meetEnd (session : Session) : Shell (Session × Except Failure Unit) :=
  ask session do
    Shell.require "stdout" (← Shell.print "\n")
    return (session, .ok ())

/-- What happens after the last line: the end of the input is met, unless the session has ended
itself. -/
def close (session : Session) : Shell (Session × Except Failure Unit) :=
  (if session.exiting then return (session, .ok ()) else meetEnd session) >>= LineLoop.proceed leave
where
  leave (session : Session) : Shell (Session × Except Failure Unit) := do
    Shell.log .info "leaving interactive session"
    return (session, .ok ())

/-- The whole loop over a source. -/
def run (builtins : List Builtin) (source : Source) (session : Session) :
    Shell (Session × Except Failure Unit) :=
  lines builtins source session >>= LineLoop.proceed close

end LineShell.Interactive
