import LineShell.Dialogue
import LineShell.LineError

/-! What a child process does between its start and the program it becomes: it connects its
standard input and output, closes what is left of the pipes, and replaces itself. Everything it
needs is prepared before, so the child only makes system calls. -/
namespace LineShell

/-- The two ends of a pipe as descriptors of the shell. -/
structure PipeEnds where
  read : Nat
  write : Nat
  deriving DecidableEq, Repr

/-- A program ready to be started. -/
structure Launch where
  name : String
  path : String
  argv : List String
  redirect : Option String
  /-- What the child says when the program cannot be executed. -/
  launchFailure : String
  /-- What the child says when it cannot connect its input or output. -/
  setupFailure : String
  deriving DecidableEq, Repr

/-- The work of one child: a program, its position in the pipeline, and the pipes between all
stages. -/
structure ChildTask where
  launch : Launch
  position : Nat
  pipes : List PipeEnds
  deriving DecidableEq, Repr

/-- The exit status of a child whose program could not be executed. -/
def launchFailureStatus : Nat := 126

/-- The exit status of a child that could not connect its input or output. -/
def setupFailureStatus : Nat := 1

/-- The system calls of a child. -/
inductive ChildCall where
  /-- Lets the second descriptor refer to what the first one refers to. -/
  | duplicate (source target : Nat)
  /-- Opens a file for writing, creating it or emptying it. -/
  | openOutput (path : String)
  | close (descriptor : Nat)
  /-- Replaces the program of the process. There is an answer only if that fails. -/
  | execute (path : String) (argv : List String)
  | printError (text : String)
  deriving DecidableEq, Repr

/-- The answers to the system calls of a child. -/
abbrev ChildCall.Answer : ChildCall → Type
  | duplicate .. => Except Errno Unit
  | openOutput _ => Except Errno Nat
  | close _ => Unit
  | execute .. => Errno
  | printError _ => Unit

/-- A child as a program that ends with its exit status, unless it becomes another program. -/
abbrev Child := Dialogue ChildCall ChildCall.Answer

namespace Child

/-- Makes `target` another name for what `source` refers to. -/
def duplicate (source target : Nat) : Child (Except Errno Unit) :=
  Dialogue.request (ChildCall.duplicate source target)

/-- Opens the file for writing, created or emptied. -/
def openOutput (path : String) : Child (Except Errno Nat) :=
  Dialogue.request (ChildCall.openOutput path)

/-- Closes the descriptor. -/
def close (descriptor : Nat) : Child Unit :=
  Dialogue.request (ChildCall.close descriptor)

/-- Becomes the program; an answer means that it could not be started. -/
def execute (path : String) (argv : List String) : Child Errno :=
  Dialogue.request (ChildCall.execute path argv)

/-- Writes to standard error. -/
def printError (text : String) : Child Unit :=
  Dialogue.request (ChildCall.printError text)

end Child

namespace ChildTask

/-- The child says why it cannot go on and ends. -/
def giveUp (message : String) (status : Nat) : Child Nat := do
  Child.printError message
  return status

/-- Closes both ends of every pipe. -/
def closePipes : List PipeEnds → Child Unit
  | [] => return ()
  | pipe :: rest => do
    Child.close pipe.read
    Child.close pipe.write
    closePipes rest

/-- Closes the pipes and becomes the program. -/
def become (task : ChildTask) : Child Nat := do
  closePipes task.pipes
  let _ ← Child.execute task.launch.path task.launch.argv
  giveUp task.launch.launchFailure launchFailureStatus

/-- Connects one descriptor and goes on, or gives up. -/
def rewire (task : ChildTask) (source target : Nat) (next : Child Nat) : Child Nat := do
  match ← Child.duplicate source target with
  | .ok () => next
  | .error _ => giveUp task.launch.setupFailure setupFailureStatus

/-- Connects standard output: to the pipe that follows the stage, or after the last stage to the
target of its redirection. -/
def connectOutput (task : ChildTask) : Child Nat :=
  match task.pipes[task.position]? with
  | some pipe => task.rewire pipe.write 1 task.become
  | none =>
    match task.launch.redirect with
    | none => task.become
    | some target => do
      match ← Child.openOutput target with
      | .error _ => giveUp task.launch.setupFailure setupFailureStatus
      | .ok descriptor =>
        if descriptor == 1 then task.become
        else task.rewire descriptor 1 do
          Child.close descriptor
          task.become

/-- Everything a child does: standard input first, from the pipe before its stage. -/
def run (task : ChildTask) : Child Nat :=
  match task.position with
  | 0 => task.connectOutput
  | before + 1 =>
    match task.pipes[before]? with
    | some pipe => task.rewire pipe.read 0 task.connectOutput
    | none => task.connectOutput

end ChildTask

end LineShell
