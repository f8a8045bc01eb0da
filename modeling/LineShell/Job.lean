import LineShell.Pipeline
import LineShell.Resolver

/-! Running a pipeline: the pipes between its stages, one child for each stage, and the wait for
every child. Stages are started one at a time; where one cannot be started no later one is, and
the children started before are left to end by themselves and are waited for like any other. -/
namespace LineShell

/-- A child and the stage it runs. -/
structure ChildProcess where
  pid : Nat
  stage : Nat
  deriving DecidableEq, Repr

/-- How the child of one stage ended. -/
structure StageExit where
  child : ChildProcess
  status : Except LineError WaitStatus

/-- The exit code of a stage whose child is known to have ended. -/
def StageExit.code? (e : StageExit) : Option Int :=
  e.status.toOption.bind WaitStatus.code?

/-- The exit code of a pipeline without a stage that tells one. -/
def notStartedCode : Int := 127

/-- The outcome of a pipeline. -/
structure Report where
  /-- The stages that were started, in order. -/
  stages : List StageExit
  /-- What kept the other stages from being started. -/
  failure : Option LineError

namespace Report

/-- The exit code of a pipeline is that of its last stage. -/
def exitCode (report : Report) : Int :=
  (report.stages.getLast?.bind StageExit.code?).getD notStartedCode

/-- The failed waits, in the order of their stages. -/
def waitErrors (report : Report) : List LineError :=
  report.stages.filterMap fun e =>
    match e.status with
    | .ok _ => none
    | .error reason => some reason

end Report

namespace Job

/-- Closes both ends of every pipe. -/
def closePipes : List PipeEnds → Shell Unit
  | [] => return ()
  | pipe :: rest => do
    Shell.close pipe.read
    Shell.close pipe.write
    closePipes rest

/-- Undoes what has been opened when a pipe cannot be made ready: the pipe at hand first. -/
def abandon (opened : List PipeEnds) (pipe : PipeEnds) (reason : Errno) :
    Shell (Except Errno (List PipeEnds)) := do
  Shell.close pipe.write
  Shell.close pipe.read
  closePipes opened
  return .error reason

/-- Opens a number of pipes more, whose ends no child keeps in its program. -/
def openPipes (opened : List PipeEnds) : Nat → Shell (Except Errno (List PipeEnds))
  | 0 => return .ok opened
  | count + 1 => do
    match ← Shell.openPipe with
    | .error reason =>
      closePipes opened
      return .error reason
    | .ok pipe =>
      match ← Shell.closeOnExec pipe.read with
      | .error reason => abandon opened pipe reason
      | .ok () =>
        match ← Shell.closeOnExec pipe.write with
        | .error reason => abandon opened pipe reason
        | .ok () => openPipes (opened ++ [pipe]) count

/-- Whether the system can take the text as a string of its own. -/
def holdsNul (text : String) : Bool :=
  text.toList.contains '\x00'

/-- What is wrong with handing a stage to the system, once its program is known. -/
def textFault? (stage : Stage) (path : String) : Option String :=
  if holdsNul path then some (path ++ ": path contains a NUL byte")
  else if stage.argv.any holdsNul then some (stage.name ++ ": argument contains a NUL byte")
  else if stage.redirect.any holdsNul then some (stage.name ++ ": target contains a NUL byte")
  else none

/-- What a child says when it cannot connect its input or output. -/
def setupFailure (stage : Stage) : String :=
  match stage.redirect with
  | some target => "cannot open output file " ++ target
  | none => stage.name ++ ": cannot set up pipes"

/-- The launch of a stage whose program is known. -/
def launchOf (stage : Stage) (path : String) : Launch :=
  { name := stage.name
    path := path
    argv := stage.argv
    redirect := stage.redirect
    launchFailure := errorLine (LineError.launchFailed stage.name).message
    setupFailure := errorLine (setupFailure stage) }

/-- Looks for the program of a stage and prepares its launch. The stage remembers the program as
soon as it is found and its path can be handed to the system. -/
def prepare (searchPaths : List String) (stage : Stage) :
    Shell (Stage × Except LineError Launch) := do
  match ← Resolver.resolve searchPaths stage.name with
  | .error e => return (stage, .error e)
  | .ok path =>
    let found := if holdsNul path then stage else { stage with program := some path }
    match textFault? stage path with
    | some reason => return (found, .error (.launchFailed reason))
    | none => return (found, .ok (launchOf stage path))

/-- What has come of starting the stages of a pipeline. -/
structure Started where
  stages : List Stage
  children : List ChildProcess
  failure : Option LineError

/-- Starts the stages in order from a position on, up to the first that cannot be started. -/
def start (searchPaths : List String) (pipes : List PipeEnds) :
    Nat → List Stage → Shell Started
  | _, [] => return ⟨[], [], none⟩
  | position, stage :: rest => do
    match ← prepare searchPaths stage with
    | (stage, .error e) =>
      Shell.log .info ("not starting stage " ++ toString position ++ " or later: " ++ e.message)
      return ⟨stage :: rest, [], some e⟩
    | (stage, .ok launch) =>
      match ← Shell.fork ⟨launch, position, pipes⟩ with
      | .error reason =>
        Shell.log .info ("fork failed for stage " ++ toString position ++ ": " ++ reason.message)
        return ⟨stage :: rest, [], some (.forkFailed reason)⟩
      | .ok pid =>
        Shell.log .debug ("stage " ++ toString position ++ " (" ++ launch.name ++
          ") started as pid " ++ toString pid)
        let later ← start searchPaths pipes (position + 1) rest
        return ⟨stage :: later.stages, ⟨pid, position⟩ :: later.children, later.failure⟩

/-- The outcome of a wait as it stands in diagnostics. -/
def renderStatus : Except Errno WaitStatus → String
  | .ok status => "Ok(" ++ status.render ++ ")"
  | .error reason => "Err(WaitFailed(" ++ reason.name ++ "))"

/-- Waits for a child. It is the foreground job from before the wait until after it has been
noted. -/
def reap (child : ChildProcess) : Shell StageExit := do
  Shell.setForeground child.pid
  let answer ← Shell.wait child.pid
  Shell.log .debug ("stage " ++ toString child.stage ++ " (pid " ++ toString child.pid ++
    ") reaped: " ++ renderStatus answer)
  Shell.setForeground 0
  return ⟨child, answer.mapError .waitFailed⟩

/-- Runs the stages of a pipeline and waits for all of them. The error is that of a pipe that
could not be made, in which case nothing has been started. -/
def run (searchPaths : List String) (pipeline : Pipeline) :
    Shell (Pipeline × Except LineError Report) := do
  match ← openPipes [] (pipeline.stages.length - 1) with
  | .error reason => return (pipeline, .error (.pipeFailed reason))
  | .ok pipes =>
    let started ← start searchPaths pipes 0 pipeline.stages
    closePipes pipes
    let exits ← started.children.mapM reap
    return (⟨started.stages⟩, .ok ⟨exits, started.failure⟩)

end Job

end LineShell
