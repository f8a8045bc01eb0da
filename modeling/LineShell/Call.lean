import LineShell.IoFault
import LineShell.Launch
import LineShell.LogLevel
import LineShell.WaitStatus

/-! The system calls of the shell itself and what they may answer. The evaluation of a line is a
program of these calls, so what holds for all of its runs holds whatever the system does. Paths are
texts in all of them: a canonical path or a current directory that is not UTF-8 has no answer here,
and neither has the text that would be shown in its place. -/
namespace LineShell

/-- The system calls of the shell. -/
inductive Call where
  /-- Whether the process may execute the file or search the directory. -/
  | isExecutable (path : String)
  /-- The path without links and without relative parts. -/
  | canonicalPath (path : String)
  | changeDirectory (path : String)
  /-- The directory the process works in. -/
  | currentDirectory
  /-- Writes to standard output. -/
  | print (text : String)
  /-- Writes to standard error. -/
  | printError (text : String)
  /-- Ends the shell where it is, with a message on standard error if that takes it, and with the
  status 101. -/
  | die (message : String)
  /-- Hands a diagnostic to the log. -/
  | log (level : LogLevel) (message : String)
  | openPipe
  /-- Lets the descriptor be closed in every program that a child becomes. -/
  | closeOnExec (descriptor : Nat)
  | close (descriptor : Nat)
  /-- Starts a child that does the task. -/
  | fork (task : ChildTask)
  /-- Puts a process into the foreground slot, or empties the slot with 0. -/
  | setForeground (pid : Int)
  /-- Waits until a child ends. -/
  | wait (pid : Nat)
  /-- Starts to write diagnostics, to a file or to standard error. -/
  | openLog (threshold : LogThreshold) (file : Option String)
  /-- Opens the script that lines are read from. -/
  | openScript (path : String)
  /-- Passes the relayed signals on to the foreground job from now on. -/
  | installRelay
  /-- The next bytes of the script, or of standard input without one; none at the end. -/
  | read

/-- The answers to the system calls of the shell. -/
abbrev Call.Answer : Call → Type
  | isExecutable _ => Bool
  | canonicalPath _ => Except IoFault String
  | changeDirectory _ => Except IoFault Unit
  | currentDirectory => Except IoFault String
  | print _ => Except IoFault Unit
  | printError _ => Except IoFault Unit
  | die _ => Empty
  | log .. => Unit
  | openPipe => Except Errno PipeEnds
  | closeOnExec _ => Except Errno Unit
  | close _ => Unit
  | fork _ => Except Errno Nat
  | setForeground _ => Unit
  | wait _ => Except Errno WaitStatus
  | openLog .. => Except IoFault Unit
  | openScript _ => Except IoFault Unit
  | installRelay => Except Errno Unit
  | read => Except IoFault (List UInt8)

/-- A part of the shell as a program of system calls. -/
abbrev Shell := Dialogue Call Call.Answer

namespace Shell

/-- Whether the path names something that may be executed. -/
def isExecutable (path : String) : Shell Bool :=
  Dialogue.request (Call.isExecutable path)

/-- The path without links, `.` and `..`. -/
def canonicalPath (path : String) : Shell (Except IoFault String) :=
  Dialogue.request (Call.canonicalPath path)

/-- Makes the path the current directory. -/
def changeDirectory (path : String) : Shell (Except IoFault Unit) :=
  Dialogue.request (Call.changeDirectory path)

/-- The path of the current directory. -/
def currentDirectory : Shell (Except IoFault String) :=
  Dialogue.request Call.currentDirectory

/-- Writes to standard output. -/
def print (text : String) : Shell (Except IoFault Unit) :=
  Dialogue.request (Call.print text)

/-- Hands the log one line at the given level. -/
def log (level : LogLevel) (message : String) : Shell Unit :=
  Dialogue.request (Call.log level message)

/-- Writes to standard error. -/
def printError (text : String) : Shell (Except IoFault Unit) :=
  Dialogue.request (Call.printError text)

/-- Ends the shell, whatever it was about to do. -/
def die {α : Type} (message : String) : Shell α :=
  .ask (.die message) nofun

/-- Goes on if a stream has taken what had to be written. The shell does not outlive a stream that
has not. -/
def require (stream : String) : Except IoFault Unit → Shell Unit
  | .ok () => return ()
  | .error fault => die ("failed printing to " ++ stream ++ ": " ++ fault.message)

/-- Writes an error to standard error, with the shell's mark. -/
def complain (message : String) : Shell Unit := do
  require "stderr" (← printError (errorLine message))

/-- A new pipe. -/
def openPipe : Shell (Except Errno PipeEnds) :=
  Dialogue.request Call.openPipe

/-- Has the descriptor closed when another program is executed. -/
def closeOnExec (descriptor : Nat) : Shell (Except Errno Unit) :=
  Dialogue.request (Call.closeOnExec descriptor)

/-- Closes the descriptor. -/
def close (descriptor : Nat) : Shell Unit :=
  Dialogue.request (Call.close descriptor)

/-- Starts a child that performs the task; the answer is its process number. -/
def fork (task : ChildTask) : Shell (Except Errno Nat) :=
  Dialogue.request (Call.fork task)

/-- Records the process that an interrupt is relayed to. -/
def setForeground (pid : Int) : Shell Unit :=
  Dialogue.request (Call.setForeground pid)

/-- Whether a wait has told something about the child, rather than having been interrupted. -/
def isFinal (answer : Except Errno WaitStatus) : Bool :=
  match answer with
  | .ok _ => true
  | .error reason => reason != .interrupted

/-- Waits for a child, again after every interruption. -/
def wait (pid : Nat) : Shell (Except Errno WaitStatus) :=
  Dialogue.requestUntil (Call.wait pid) isFinal

/-- Starts the log, in a file or on standard error. -/
def openLog (threshold : LogThreshold) (file : Option String) : Shell (Except IoFault Unit) :=
  Dialogue.request (Call.openLog threshold file)

/-- Opens the script whose lines `read` returns. -/
def openScript (path : String) : Shell (Except IoFault Unit) :=
  Dialogue.request (Call.openScript path)

/-- Has interrupts relayed to the foreground process. -/
def installRelay : Shell (Except Errno Unit) :=
  Dialogue.request Call.installRelay

/-- The next bytes of the script, none at its end. -/
def read : Shell (Except IoFault (List UInt8)) :=
  Dialogue.request Call.read

end Shell

end LineShell
