import LineShell.DescriptorTable
import LineShell.Foreground
import LineShell.Launch
import LineShell.LogLevel
import LineShell.Machine.FileSystem
import LineShell.Variables

/-! A machine that the shell can be run on: files, open files, pipes and processes as values.
Processes take turns; each runs to its end when somebody waits for it, so a run is the same every
time. Pipes hold whatever is written to them. -/
namespace LineShell.Machine

/-- What an open file leads to. -/
inductive Target where
  | node (id : Nat)
  | pipeOut (pipe : Nat)
  | pipeIn (pipe : Nat)
  deriving DecidableEq, Repr

/-- An open file with the place where it goes on. -/
structure OpenFile where
  target : Target
  offset : Nat := 0
  append : Bool := false
  readable : Bool := true
  writable : Bool := true

/-- Bytes on their way, and how many of them have been taken. -/
structure PipeBuffer where
  bytes : ByteArray := ByteArray.empty
  taken : Nat := 0
  /-- Where all that will ever go in is there already: how much of it is still to be written. -/
  awaited : Option Nat := none

/-- How many bytes a pipe holds before its writer has to wait. -/
def pipeCapacity : Nat := 65536

/-- How a process ended. -/
inductive Ending where
  | exited (status : Nat)
  | killed (signal : Signal)
  deriving DecidableEq, Repr

/-- The name of the shell among the programs. -/
def shellName : String := "pipesh"

/-- A process. -/
structure Process where
  pid : Nat
  parent : Nat
  table : DescriptorTable Nat := {}
  directory : Nat
  environment : Variables := {}
  /-- The name of the program it runs. -/
  program : String := shellName
  /-- Signals that have been sent and not yet been noticed. -/
  signals : List Signal := []
  /-- What a process that has not run yet will do. -/
  task : Option ChildTask := none
  ending : Option Ending := none

end Machine

open Machine in
/-- The state of a machine. -/
structure Machine where
  files : FileSystem
  opened : Array OpenFile := #[]
  pipes : Array PipeBuffer := #[]
  processes : List Process := []
  /-- The process that runs. -/
  current : Nat := 1
  nextPid : Nat := 1000
  /-- The process of the shell. -/
  shell : Nat := 1
  foreground : Foreground := {}
  /-- The shell passes the relayed signals on. -/
  relaying : Bool := false
  /-- Children vanish as soon as they end, and nobody can wait for them. -/
  forgetful : Bool := false
  threshold : LogThreshold := none
  /-- The open file that takes diagnostics. -/
  logFile : Option Nat := none
  /-- The open file that lines are read from. -/
  scriptFile : Option Nat := none
  /-- The most descriptors of a process. -/
  maxDescriptors : Nat := 1024

namespace Machine

/-- The pipe behind a descriptor of a process. -/
def pipeBehind? (m : Machine) (p : Process) (descriptor : Nat) : Option Nat := do
  let file ← m.opened[← p.table.file? descriptor]?
  match file.target with
  | .pipeOut pipe | .pipeIn pipe => some pipe
  | .node _ => none

/-- How many bytes have gone into a pipe. -/
def pipeWritten (m : Machine) (pipe : Nat) : Nat :=
  (m.pipes[pipe]?.map (·.bytes.size)).getD 0

/-- How many bytes have been taken out of a pipe. -/
def pipeTaken (m : Machine) (pipe : Nat) : Nat :=
  (m.pipes[pipe]?.map (·.taken)).getD 0

/-- The machine with a pipe that holds all that its reader will ever find there: the first bytes
that went into the pipe of another machine. -/
def foreseePipe (m other : Machine) (pipe count : Nat) : Machine :=
  let bytes := ((other.pipes[pipe]?.map PipeBuffer.bytes).getD ByteArray.empty).extract 0 count
  { m with pipes := m.pipes.modify pipe fun b => { b with bytes := bytes, awaited := some count } }

/-- A process at work: it may change the machine, and it may end. -/
abbrev Proc := EStateM Ending Machine

namespace Proc

/-- The process that runs now. -/
def self : Proc Process := do
  let m ← get
  let process := m.processes.find? (·.pid == m.current)
  return process.getD { pid := m.current, parent := 0, directory := 0 }

/-- The name of the program that a process runs, or the process at work. -/
def programOf? (pid? : Option Nat) : Proc (Option String) := do
  let m ← get
  let pid := pid?.getD m.current
  return (m.processes.find? (·.pid == pid)).map Process.program

/-- Changes one process. -/
def updateProcess (pid : Nat) (change : Process → Process) : Proc Unit :=
  modify fun m =>
    { m with processes := m.processes.map fun p => if p.pid == pid then change p else p }

/-- Changes the process that runs now. -/
def updateSelf (change : Process → Process) : Proc Unit := do
  updateProcess (← get).current change

/-- The files as they are now. -/
def fileSystem : Proc FileSystem := return (← get).files

/-- Puts other files in place of the present ones. -/
def setFiles (files : FileSystem) : Proc Unit :=
  modify fun m => { m with files := files }

/-- Ends the current process with the status. -/
def exit {α : Type} (status : Nat) : Proc α :=
  throw (.exited (status % 256))

/-- The open file behind a descriptor of the process, with its number. -/
def openFile? (descriptor : Nat) : Proc (Option (Nat × OpenFile)) := do
  match (← self).table.file? descriptor with
  | none => return none
  | some index => return (← get).opened[index]?.map (index, ·)

/-- Gives an open file another state. -/
def updateOpenFile (index : Nat) (change : OpenFile → OpenFile) : Proc Unit :=
  modify fun m => { m with opened := m.opened.modify index change }

/-- Whether a process has a descriptor of the pipe's end for reading. -/
def hasReader (pipe : Nat) : Proc Bool := do
  let m ← get
  return m.processes.any fun p => p.ending.isNone && p.table.files.any fun index =>
    match m.opened[index]? with
    | some file => file.target == .pipeOut pipe
    | none => false

/-- A file with bytes written over it from a place on. -/
def overwrite (old : ByteArray) (offset : Nat) (bytes : ByteArray) : ByteArray :=
  let start := if offset ≤ old.size then old.extract 0 offset
    else old ++ ⟨Array.replicate (offset - old.size) 0⟩
  start ++ bytes ++ old.extract (offset + bytes.size) old.size

/-- Writes to an open file. -/
def writeFile (index : Nat) (file : OpenFile) (bytes : ByteArray) : Proc (Except Errno Unit) := do
  if !file.writable then return .error .badDescriptor
  match file.target with
  | .pipeOut _ => return .error .badDescriptor
  | .pipeIn pipe =>
    let change (act : PipeBuffer → PipeBuffer) : Proc Unit :=
      modify fun m => { m with pipes := m.pipes.modify pipe act }
    match (← get).pipes[pipe]?.bind PipeBuffer.awaited with
    | some left =>
      change fun b => { b with awaited := some (left - bytes.size) }
      return if bytes.size ≤ left then .ok () else .error .brokenPipe
    | none =>
      if ← hasReader pipe then
        change fun b => { b with bytes := b.bytes ++ bytes }
        return .ok ()
      else return .error .brokenPipe
  | .node id =>
    let fs ← fileSystem
    match fs.content? id with
    | some (.file old) =>
      let offset := if file.append then old.size else file.offset
      modify fun m => { m with files := m.files.setContent id (.file ByteArray.empty) }
      modify fun m =>
        { m with files := m.files.setContent id (.file (overwrite old offset bytes)) }
      updateOpenFile index fun f => { f with offset := offset + bytes.size }
      return .ok ()
    | some .sink | some .zeros => return .ok ()
    | some .full => return .error ⟨28⟩
    | some (.directory ..) | some .descriptors => return .error .isDirectory
    | _ => return .error .invalidArgument

/-- Writes to a descriptor. -/
def writeBytes (descriptor : Nat) (bytes : ByteArray) : Proc (Except Errno Unit) := do
  match ← openFile? descriptor with
  | none => return .error .badDescriptor
  | some (index, file) => writeFile index file bytes

/-- Writes text to a descriptor, whatever comes of it. -/
def say (descriptor : Nat) (text : String) : Proc Unit := do
  let _ ← writeBytes descriptor text.toUTF8

/-- Reads from an open file, at most a number of bytes; none are left at the end. -/
def readFile (index : Nat) (file : OpenFile) (count : Nat) : Proc (Except Errno ByteArray) := do
  if !file.readable then return .error .badDescriptor
  match file.target with
  | .pipeIn _ => return .error .badDescriptor
  | .pipeOut pipe =>
    match (← get).pipes[pipe]? with
    | none => return .error .badDescriptor
    | some b =>
      let bytes := b.bytes.extract b.taken (b.taken + count)
      modify fun m =>
        { m with pipes := m.pipes.modify pipe fun b => { b with taken := b.taken + bytes.size } }
      return .ok bytes
  | .node id =>
    match (← fileSystem).content? id with
    | some (.file bytes) =>
      let piece := bytes.extract file.offset (file.offset + count)
      updateOpenFile index fun f => { f with offset := f.offset + piece.size }
      return .ok piece
    | some .sink => return .ok ByteArray.empty
    | some .zeros | some .full => return .ok ⟨Array.replicate count 0⟩
    | some (.directory ..) | some .descriptors => return .error .isDirectory
    | some (.program name) => return .ok name.toUTF8
    | some (.running pid?) =>
      return match ← programOf? pid? with
        | some name => .ok name.toUTF8
        | none => .error .noSuchProcess
    | _ => return .error .invalidArgument

/-- Reads from a descriptor, at most a number of bytes. -/
def readBytes (descriptor count : Nat) : Proc (Except Errno ByteArray) := do
  match ← openFile? descriptor with
  | none => return .error .badDescriptor
  | some (index, file) => readFile index file count

/-- The most bytes a process takes that reads to the end; what has no end is cut there. -/
def readLimit : Nat := 4194304

/-- Reads from a descriptor to the end. -/
def readAll (descriptor : Nat) : Proc (Except Errno ByteArray) :=
  readBytes descriptor readLimit

/-- How a file is opened. -/
structure OpenMode where
  reading : Bool := false
  writing : Bool := false
  create : Bool := false
  truncate : Bool := false
  append : Bool := false
  /-- Fails when the file is there. -/
  exclusive : Bool := false

/-- The node a path leads to for opening, made or emptied as the mode asks. -/
def openNode (path : String) (mode : OpenMode) : Proc (Except Errno Nat) := do
  let fs ← fileSystem
  match fs.locate (← self).directory path true with
  | .error e => return .error e
  | .ok place =>
    match place.node? with
    | none =>
      if !mode.create || (fs.pathOf? place.directory).isNone then return .error .noSuchFile
      let (fs, id) := fs.add place.directory place.name ⟨.file ByteArray.empty, 0o644⟩
      setFiles fs
      return .ok id
    | some id =>
      if mode.exclusive then return .error .fileExists
      if mode.writing && fs.isDirectory id then return .error .isDirectory
      if mode.truncate then
        if let some (.file _) := fs.content? id then
          setFiles (fs.setContent id (.file ByteArray.empty))
      return .ok id

/-- Gives an open file a descriptor of the process. -/
def addDescriptor (file : OpenFile) (closeOnExec : Bool) : Proc (Except Errno Nat) := do
  let m ← get
  let index := m.opened.size
  let (number, table) := (← self).table.add ⟨index, closeOnExec⟩
  if number ≥ m.maxDescriptors then return .error .tooManyOpenFiles
  modify fun m => { m with opened := m.opened.push file }
  updateSelf fun p => { p with table := table }
  return .ok number

/-- Opens a path with a descriptor of the process. -/
def openPath (path : String) (mode : OpenMode) (closeOnExec : Bool) :
    Proc (Except Errno Nat) := do
  if (← self).table.lowestFree ≥ (← get).maxDescriptors then return .error .tooManyOpenFiles
  match ← openNode path mode with
  | .error e => return .error e
  | .ok id =>
    addDescriptor
      { target := .node id, append := mode.append, readable := mode.reading,
        writable := mode.writing }
      closeOnExec

/-- Closes the descriptor of the current process. -/
def closeDescriptor (descriptor : Nat) : Proc Unit :=
  updateSelf fun p => { p with table := p.table.close descriptor }

/-- Makes `target` another name for what `source` refers to. -/
def duplicateDescriptor (source target : Nat) : Proc (Except Errno Unit) := do
  match (← self).table.duplicate? source target with
  | none => return .error .badDescriptor
  | some table =>
    updateSelf fun p => { p with table := table }
    return .ok ()

/-- A pipe with descriptors for its two ends. -/
def openPipe : Proc (Except Errno PipeEnds) := do
  let pipe := (← get).pipes.size
  modify fun m => { m with pipes := m.pipes.push {} }
  match ← addDescriptor { target := .pipeOut pipe, writable := false } false with
  | .error e => return .error e
  | .ok read =>
    match ← addDescriptor { target := .pipeIn pipe, readable := false } false with
    | .error e =>
      closeDescriptor read
      return .error e
    | .ok write => return .ok ⟨read, write⟩

/-- An open file that holds the given bytes and has no name. -/
def openNameless (bytes : ByteArray) : Proc (Except Errno Nat) := do
  let id := (← fileSystem).nodes.size
  modify fun m => { m with files := ⟨m.files.nodes.push ⟨.file bytes, 0o600⟩⟩ }
  addDescriptor { target := .node id, writable := false } false

/-- The contents of the file at a path. -/
def contentsOf (path : String) : Proc (Except Errno ByteArray) := do
  match ← openPath path { reading := true } true with
  | .error e => return .error e
  | .ok descriptor =>
    let bytes ← readAll descriptor
    closeDescriptor descriptor
    return bytes

/-- Sends a signal to a process. The shell passes the relayed signals on to its foreground
job. -/
def kill (pid : Nat) (signal : Signal) : Proc (Except Errno Unit) := do
  let m ← get
  if !m.processes.any fun p => p.pid == pid && p.ending.isNone then return .error .noSuchProcess
  if pid == m.shell && m.relaying && Signal.relayed.contains signal then
    if let some (job, signal) := m.foreground.forward? signal then
      updateProcess job.toNat fun p => { p with signals := p.signals ++ [signal] }
    return .ok ()
  if signal.number != 0 then
    updateProcess pid fun p => { p with signals := p.signals ++ [signal] }
  return .ok ()

/-- The process notices the signals it has been sent and obeys those that end it. -/
def obeySignals : Proc Unit := do
  let p ← self
  match p.signals.find? fun s => !s.isHarmless && s != .brokenPipe && !s.isSuspending with
  | some signal => throw (.killed signal)
  | none => updateSelf fun p => { p with signals := [] }

/-- Starts a process like the one at work, with the same files and directory. -/
def spawn (task : Option ChildTask) : Proc Nat := do
  let m ← get
  let p ← self
  let child := { p with pid := m.nextPid, parent := p.pid, signals := [], task := task }
  modify fun m =>
    { m with nextPid := m.nextPid + 1, processes := m.processes ++ [child]
             files := m.files.showProcess child.pid }
  return child.pid

/-- Lets a process run to its end, and comes back to the one at work. -/
def runAs (pid : Nat) (program : Proc Nat) : Proc Ending := do
  let before := (← get).current
  modify fun m => { m with current := pid }
  let ending ← tryCatch
    (do
      let status ← program
      obeySignals
      return Ending.exited (status % 256))
    fun e => return e
  updateProcess pid fun p => { p with ending := some ending, table := {}, task := none }
  modify fun m => { m with current := before }
  return ending

/-- Forgets a process that has ended. -/
def forget (pid : Nat) : Proc Unit :=
  modify fun m =>
    { m with processes := m.processes.filter (·.pid != pid), files := m.files.hideProcess pid }

end Proc

end Machine

end LineShell
