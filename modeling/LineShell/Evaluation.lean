import LineShell.Builtin
import LineShell.Expansion
import LineShell.Job
import LineShell.Redirection

/-! The evaluation of one line. Only a line with a single stage can be an alias, a built-in
command or a redirection; in a longer pipeline every word is an argument of its stage. -/
namespace LineShell

/-- What a line has come to: an exit code, or the error that stopped it. -/
abbrev LineResult := Except LineError Int

namespace Evaluation

/-- Runs a pipeline and gives its exit code. Failed waits are reported at once, and an error
that kept stages from being started is the error of the line. -/
def runPipeline (session : Session) (pipeline : Pipeline) : Shell (Session × LineResult) := do
  match (← Job.run session.searchPaths pipeline).2 with
  | .error e => return (session, .error e)
  | .ok report =>
    report.waitErrors.forM fun e => Shell.complain e.message
    match report.failure with
    | some e => return (session, .error e)
    | none => return (session, .ok report.exitCode)

/-- Runs a built-in command. A failure is reported and is the status 1 of the line. -/
def runBuiltin (session : Session) (name : String) (command : Command) :
    Shell (Session × LineResult) := do
  Shell.log .debug ("running builtin " ++ name)
  match ← command session with
  | (session, .ok code) => return (session, .ok code)
  | (session, .error reasons) =>
    Shell.complain reasons.message
    return (session, .ok 1)

/-- The words of a single stage after the alias of its name, which is looked up once. -/
def substituteAlias (session : Session) (argv : List String) : Shell (List String) := do
  match argv with
  | [] => return []
  | name :: operands =>
    match session.aliases.lookup name with
    | none => return name :: operands
    | some command =>
      Shell.log .debug ("alias " ++ name ++ " -> " ++ command)
      return command :: operands

/-- Evaluates a line with a single stage. -/
def runSingle (builtins : List Builtin) (session : Session) (stage : Stage) :
    Shell (Session × LineResult) := do
  let argv ← substituteAlias session stage.argv
  match Builtin.find? builtins (argv.headD "") argv.tail with
  | some command => runBuiltin session (argv.headD "") command
  | none =>
    match Redirection.find? argv with
    | .error e => return (session, .error e)
    | .ok none => runPipeline session ⟨[{ argv := argv }]⟩
    | .ok (some r) => runPipeline session ⟨[{ argv := r.argv, redirect := some r.target }]⟩

/-- Evaluates a line. A blank line does nothing. -/
def line (builtins : List Builtin) (session : Session) (text : String) :
    Shell (Session × LineResult) := do
  let trimmed := Text.trim text
  if trimmed.isEmpty then return (session, .ok 0)
  match Pipeline.readWith (Expansion.word session) session.limits trimmed with
  | .error e => return (session, .error e)
  | .ok ⟨[stage]⟩ => runSingle builtins session stage
  | .ok pipeline => runPipeline session pipeline

/-- Evaluates a line that was read, cut to the length allowed, and reports its error. Only a
fatal error is passed on. -/
def lineReported (builtins : List Builtin) (session : Session) (text : String) :
    Shell (Session × Except Failure Unit) := do
  match ← line builtins session (cutLine text session.limits.maxLine) with
  | (session, .ok code) =>
    Shell.log .debug ("line finished with status " ++ toString code)
    return (session, .ok ())
  | (session, .error e) =>
    if e.isFatal then return (session, .error ["unrecoverable error", e.message])
    else
      Shell.complain e.message
      return (session, .ok ())

end Evaluation

end LineShell
