import LineShell.Builtin.Standard
import LineShell.Interactive
import LineShell.Options
import LineShell.Script

/-! The shell as a program: it reads its command line, starts its log, opens its script, and
evaluates lines as they arrive until they end. Input is taken in whatever pieces the system
delivers, so a line is evaluated before anything after its piece is read. -/
namespace LineShell.Program

/-- The bytes up to and with the last line feed, and the bytes after it. -/
def cutLastLine (bytes : List UInt8) : List UInt8 × List UInt8 :=
  let rest := (bytes.reverse.takeWhile (· != Source.lineFeed)).reverse
  (bytes.take (bytes.length - rest.length), rest)

/-- Feeds what is read to a loop over lines, complete lines at once and an incomplete one together
with what follows it. At most `rounds` pieces are read. -/
def feed (loop : LineLoop) :
    Nat → List UInt8 → Session → Shell (Session × Except Failure Unit)
  | 0, _, session => return (session, .ok ())
  | rounds + 1, before, session => do
    if session.exiting then return (session, .ok ())
    match ← Shell.read with
    | .error fault => loop.run ⟨[before], some fault⟩ session
    | .ok [] =>
      if before.isEmpty then return (session, .ok ())
      loop.run ⟨[before], none⟩ session >>= LineLoop.proceed (feed loop rounds [])
    | .ok piece =>
      let (lines, rest) := cutLastLine (before ++ piece)
      loop.run ⟨[lines], none⟩ session >>= LineLoop.proceed (feed loop rounds rest)

/-- Lets the relayed signals be passed on, and notes it. -/
def installRelay : Shell (Except Errno Unit) := do
  match ← Shell.installRelay with
  | .error reason => return .error reason
  | .ok () =>
    let names := Signal.relayed.filterMap Signal.name?
    Shell.log .debug ("signal relay installed for [" ++ ", ".intercalate names ++ "]")
    return .ok ()

/-- The lines of the script, or those of the user. -/
def converse (rounds : Nat) (options : Options) (session : Session) :
    Shell (Except Failure Unit) := do
  if options.script.isSome then
    let ended ← feed (Script.loop Standard.builtins) rounds [] session
    return ended.2
  else
    let ended ← feed (Interactive.loop Standard.builtins) rounds [] session >>=
      LineLoop.proceed Interactive.close
    return ended.2

/-- Everything after the log has been started. -/
def work (rounds : Nat) (options : Options) (environment : Variables) :
    Shell (Except Failure Unit) := do
  if let some path := options.script then
    if let .error fault ← Shell.openScript path then
      return .error ["cannot open " ++ path, fault.message]
  if let .error reason ← installRelay then
    return .error ["cannot install signal handlers", reason.message]
  let directory := match ← Shell.currentDirectory with
    | .ok path => path
    | .error _ => "."
  match ← converse rounds options (options.session directory environment) with
  | .error reasons => return .error reasons
  | .ok () =>
    Shell.log .info "bye"
    return .ok ()

/-- The log, then the work, and the exit status. -/
def runWith (rounds : Nat) (options : Options) (environment : Variables) : Shell Nat := do
  let outcome ← do
    match ← Shell.openLog (options.threshold.getD (some .warn)) options.logFile with
    | .error fault =>
      pure (.error ["cannot open log file " ++ options.logFile.getD "", fault.message])
    | .ok () => work rounds options environment
  match (outcome : Except Failure Unit) with
  | .ok () => return 0
  | .error reasons =>
    Shell.complain reasons.message
    return 1

/-- The program with its arguments and variables; it ends with its exit status. -/
def run (rounds : Nat) (arguments : List String) (environment : Variables) : Shell Nat := do
  match Options.read arguments with
  | .error e =>
    Shell.require "stderr" (← Shell.printError (Options.complaint e))
    return 1
  | .ok (true, _) =>
    Shell.require "stdout" (← Shell.print Options.usage)
    return 0
  | .ok (false, options) => runWith rounds options environment

end LineShell.Program
