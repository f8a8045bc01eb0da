import LineShell.Machine.Exec
import LineShell.Program

/-! The machine as the host of the shell: what it answers to the system calls of the shell and of
its children. -/
namespace LineShell.Machine

/-- How many pieces of input a shell takes at most. -/
def maxPieces : Nat := 1000000

/-- How often the shell asks again about a child before it takes the answer as it is. -/
def patience : Nat := 100

section Children

variable (shell : List String → Proc Nat)

/-- What the machine answers to a child at work. A child that becomes a program ends with it. -/
def answerChild : (c : ChildCall) → Proc c.Answer
  | .duplicate source target => Proc.duplicateDescriptor source target
  | .openOutput path =>
    Proc.openPath path { writing := true, create := true, truncate := true } false
  | .close descriptor => Proc.closeDescriptor descriptor
  | .execute path argv => do
    match ← execute shell nesting path argv with
    | .ok status => Proc.exit status
    | .error reason => return reason
  | .printError text => Proc.say 2 text

/-- Runs a child that has not run yet. -/
def runChild (pid : Nat) : Proc Unit := do
  match (← get).processes.find? (·.pid == pid) with
  | some { task := some task, ending := none, .. } =>
    let _ ← Proc.runAs pid do
      Proc.obeySignals
      task.run.interpret (answerChild shell) patience
  | _ => return ()

/-- The pipe that a child which has not run yet will write to. -/
def outputPipe? (m : Machine) (pid : Nat) : Option Nat := do
  let p ← m.processes.find? (·.pid == pid)
  let task ← p.task
  pipeBehind? m p (← task.pipes[task.position]?).write

/-- The child that has not run yet and will read from a pipe. -/
def readerOf? (m : Machine) (pipe : Nat) : Option Nat :=
  (m.processes.find? fun p =>
    match p.task with
    | some ⟨_, before + 1, pipes⟩ =>
      (pipes[before]?.bind fun ends => pipeBehind? m p ends.read) == some pipe
    | _ => false).map Process.pid

/-- Runs a child that has not run yet. What becomes of a child that writes more than its pipe
holds is up to its reader, which is tried out on a copy of the machine. If the reader ends with
more than that left over, it goes first, with the bytes it is going to find, and the child is
without a reader after these. At most `depth` readers are tried out at once. -/
def runPending : Nat → Nat → Proc Unit
  | 0, pid => runChild shell pid
  | depth + 1, pid => do
    let before ← get
    runChild shell pid
    let after ← get
    let some pipe := outputPipe? before pid | return
    let written := pipeWritten after pipe
    if written ≤ pipeCapacity then return
    let some reader := readerOf? after pipe | return
    runPending depth reader
    let room := pipeTaken (← get) pipe + pipeCapacity
    if written ≤ room then set after
    else
      set (foreseePipe before after pipe room)
      runPending depth reader
      runChild shell pid

/-- What the system tells about a child that ended. A signal without a name cannot be told. -/
def statusOf (pid : Nat) : Ending → Except Errno WaitStatus
  | .exited status => .ok (.exited pid status)
  | .killed signal =>
    if signal.name?.isSome then .ok (.signaled pid signal false) else .error .invalidArgument

/-- Waits for a child of the shell. -/
def waitFor (pid : Nat) : Proc (Except Errno WaitStatus) := do
  if (← get).forgetful then
    let depth := (← get).processes.length
    for p in (← get).processes do runPending shell depth p.pid
    for p in (← get).processes do
      if p.parent == (← get).shell then Proc.forget p.pid
    return .error .noChild
  runPending shell (← get).processes.length pid
  match (← get).processes.find? (·.pid == pid) with
  | some { ending := some ending, .. } =>
    Proc.forget pid
    Proc.obeySignals
    return statusOf pid ending
  | _ => return .error .noChild

end Children

/-- A path that can be handed to the system. -/
def withPath {α : Type} (path : String) (act : Proc (Except Errno α)) :
    Proc (Except IoFault α) := do
  if path.toList.contains '\x00' then return .error .nulInPath
  else return (← act).mapError .refused

/-- Opens the log of the shell: standard error, or the end of a file. -/
def openLog (threshold : LogThreshold) (file : Option String) : Proc (Except IoFault Unit) := do
  let start (descriptor : Nat) : Proc Unit := do
    let found ← Proc.openFile? descriptor
    modify fun m => { m with threshold := threshold, logFile := found.map (·.1) }
  match file with
  | none =>
    start 2
    return .ok ()
  | some path =>
    let opened ← withPath path <|
      Proc.openPath path { writing := true, create := true, append := true } true
    match opened with
    | .error fault => return .error fault
    | .ok descriptor =>
      start descriptor
      return .ok ()

/-- A diagnostic as a line of the log. The clock of the machine stands at midnight. -/
def logLine (level : LogLevel) (message : String) : String :=
  "00:00:00 [" ++ level.label ++ "] " ++ message ++ "\n"

/-- Writes a diagnostic that is urgent enough. -/
def log (level : LogLevel) (message : String) : Proc Unit := do
  let m ← get
  if m.threshold.admits level then
    if let some index := m.logFile then
      if let some file := m.opened[index]? then
        let _ ← Proc.writeFile index file (logLine level message).toUTF8

/-- How many bytes of input the shell takes at once. -/
def inputPiece : Nat := 8192

/-- The next bytes of the script or of standard input. -/
def readInput : Proc (Except IoFault (List UInt8)) := do
  let m ← get
  let bytes ← match m.scriptFile with
    | some index =>
      match m.opened[index]? with
      | some file => Proc.readFile index file inputPiece
      | none => pure (.error .badDescriptor)
    | none => Proc.readBytes 0 inputPiece
  return (bytes.map ByteArray.toList).mapError .refused

/-- Writes to a stream of the shell. One that is closed takes everything and keeps nothing. -/
def writeStream (descriptor : Nat) (text : String) : Proc (Except IoFault Unit) := do
  match ← Proc.writeBytes descriptor text.toUTF8 with
  | .ok () => return .ok ()
  | .error reason =>
    return if reason == .badDescriptor then .ok () else .error (.refused reason)

/-- The status of a shell that has died. -/
def deathStatus : Nat := 101

/-- What the machine answers to a shell. A child that becomes a shell does as `shell`. -/
def answerShell (shell : List String → Proc Nat) : (c : Call) → Proc c.Answer
  | .isExecutable path => do
    if path.toList.contains '\x00' then return false
    let fs ← Proc.fileSystem
    match fs.find (← Proc.self).directory path true with
    | .ok id => return fs.mayExecute id
    | .error _ => return false
  | .canonicalPath path => withPath path do
    let fs ← Proc.fileSystem
    match fs.walk (← Proc.self).directory path true with
    | .error reason => return .error reason
    | .ok place =>
      if place.node?.isNone then return .error .noSuchFile
      return match fs.canonical? place with
        | some path => .ok path
        | none => .error .noSuchFile
  | .changeDirectory path => withPath path do
    let fs ← Proc.fileSystem
    match fs.find (← Proc.self).directory path true with
    | .error reason => return .error reason
    | .ok id =>
      if !fs.isDirectory id then return .error .notDirectory
      Proc.updateSelf fun p => { p with directory := id }
      return .ok ()
  | .currentDirectory => do
    return match (← Proc.fileSystem).pathOf? (← Proc.self).directory with
      | some path => .ok path
      | none => .error (.refused .noSuchFile)
  | .print text => writeStream 1 text
  | .printError text => writeStream 2 text
  | .die message => do
    Proc.say 2 (message ++ "\n")
    Proc.exit deathStatus
  | .log level message => log level message
  | .openPipe => Proc.openPipe
  | .closeOnExec descriptor => do
    match (← Proc.self).table.markCloseOnExec? descriptor with
    | none => return .error .badDescriptor
    | some table =>
      Proc.updateSelf fun p => { p with table := table }
      return .ok ()
  | .close descriptor => Proc.closeDescriptor descriptor
  | .fork task => do return .ok (← Proc.spawn (some task))
  | .setForeground pid => modify fun m => { m with foreground := ⟨pid⟩ }
  | .wait pid => waitFor shell pid
  | .openLog threshold file => openLog threshold file
  | .openScript path => do
    let opened ← withPath path (Proc.openPath path { reading := true } true)
    match opened with
    | .error fault => return .error fault
    | .ok descriptor =>
      let found ← Proc.openFile? descriptor
      modify fun m => { m with scriptFile := found.map (·.1) }
      return .ok ()
  | .installRelay => do
    modify fun m => { m with relaying := true }
    return .ok ()
  | .read => readInput

/-- Runs the shell in the process at work, which has become it, and then lets the shell that was at
work before go on as it was. At most `depth` shells run inside it. -/
def runShell : Nat → List String → Proc Nat
  | 0, _ => return 126
  | depth + 1, argv => do
    let outer ← get
    let environment := (← Proc.self).environment
    let program := Program.run maxPieces argv.tail environment
    modify fun m =>
      { m with shell := m.current, foreground := {}, relaying := false, threshold := none
               logFile := none, scriptFile := none }
    let ended ← tryCatch
      (return Except.ok (← program.interpret (answerShell (runShell depth)) patience))
      fun ending => return .error ending
    modify fun m =>
      { m with shell := outer.shell, foreground := outer.foreground, relaying := outer.relaying
               threshold := outer.threshold, logFile := outer.logFile
               scriptFile := outer.scriptFile }
    match ended with
    | .ok status => return status
    | .error ending => throw ending

/-- Runs a part of the shell on a machine. There is no value when the shell was ended by a
signal. -/
def perform {α : Type} (m : Machine) (program : Shell α) : Option α × Machine :=
  match (program.interpret (answerShell (runShell nesting)) patience).run m with
  | .ok value m => (some value, m)
  | .error _ m => (none, m)

end LineShell.Machine
