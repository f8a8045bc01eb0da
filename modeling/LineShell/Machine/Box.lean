import LineShell.Machine.Host

/-! A machine with a directory of its own for the shell to work in, made from a list of files,
and what can be seen of it afterwards. -/
namespace LineShell.Machine

/-- Something to be put into the directory. -/
inductive Placed where
  | directory
  | link (target : String)
  | file (bytes : ByteArray) (mode : Nat)

/-- The files that take standard output, standard error and diagnostics. -/
structure Streams where
  output : Nat
  error : Nat
  log : Nat

/-- A machine with the directory the shell starts in. -/
structure Box where
  machine : Machine
  directory : Nat
  streams : Streams

namespace Box

/-- The file system every machine starts with: the tools, the devices and the directories around
them. -/
def baseSystem : FileSystem := Id.run do
  let mut fs := FileSystem.empty
  for path in ["usr/bin", "usr/local/bin", "usr/sbin", "usr/lib", "tmp", "dev", "etc", "proc/self",
      "home", "root", "var", "opt", "run", "sys", "mnt", "srv", "boot", "media"] do
    fs := (fs.ensureDirectory 0 (path.splitOn "/")).1
  for (name, target) in [("bin", "usr/bin"), ("sbin", "usr/sbin"), ("lib", "usr/lib")] do
    fs := (fs.add 0 name ⟨.link target, 0o777⟩).1
  let (_, bin) := fs.ensureDirectory 0 ["usr", "bin"]
  for name in interpreterNames ++ Tool.table.map (·.1) do
    fs := (fs.add bin name ⟨.program name, 0o755⟩).1
  let (_, dev) := fs.ensureDirectory 0 ["dev"]
  for (name, content) in [("null", Content.sink), ("zero", .zeros), ("full", .full)] do
    fs := (fs.add dev name ⟨content, 0o666⟩).1
  let (_, own) := fs.ensureDirectory 0 ["proc", "self"]
  for (name, content, mode) in [("fd", Content.descriptors, 0o500), ("exe", .running none, 0o777)] do
    fs := (fs.add own name ⟨content, mode⟩).1
  return fs

/-- Puts something under a path seen from a directory, with the directories on the way. -/
def place (fs : FileSystem) (directory : Nat) (path : String) (what : Placed) : FileSystem :=
  let parts := (path.splitOn "/").filter fun part => part != "" && part != "."
  let (fs, parent) := fs.ensureDirectory (FileSystem.startOf directory path) parts.dropLast
  match parts.getLast? with
  | none => fs
  | some name =>
    match what with
    | .directory => (fs.ensureDirectory parent [name]).1
    | .link target => (fs.add parent name ⟨.link target, 0o777⟩).1
    | .file bytes mode => ((fs.remove parent name).add parent name ⟨.file bytes, mode⟩).1

/-- An open file that text is added to. -/
def sinkFile (id : Nat) : OpenFile :=
  { target := .node id, append := true, readable := false }

/-- A machine with a directory at a path that holds the given files, in which the shell is about
to start with a standard input and with variables. -/
def make (path : String) (placed : List (String × Placed)) (input : ByteArray)
    (environment : Variables) : Box := Id.run do
  let (fs, directory) := baseSystem.ensureDirectory 0 ((path.splitOn "/").filter (· != ""))
  let mut fs := fs.showProcess 1
  for (name, what) in placed do fs := place fs directory name what
  let first := fs.nodes.size
  fs := ⟨fs.nodes ++ #[⟨.file input, 0o600⟩, ⟨.file ByteArray.empty, 0o600⟩,
    ⟨.file ByteArray.empty, 0o600⟩, ⟨.file ByteArray.empty, 0o600⟩]⟩
  let shell : Process :=
    { pid := 1, parent := 0, directory := directory, environment := environment
      table := ⟨[some ⟨0, false⟩, some ⟨1, false⟩, some ⟨2, false⟩]⟩ }
  let opened := #[{ target := .node first, writable := false }, sinkFile (first + 1),
    sinkFile (first + 2), sinkFile (first + 3)]
  return ⟨{ files := fs, opened := opened, processes := [shell] }, directory,
    ⟨first + 1, first + 2, first + 3⟩⟩

/-- Lets diagnostics go to a file of their own. -/
def logAside (box : Box) (threshold : LogThreshold) : Box :=
  { box with machine := { box.machine with threshold := threshold, logFile := some 3 } }

/-- The bytes of a file, taken out of it. -/
def take (box : Box) (id : Nat) : ByteArray × Box :=
  match box.machine.files.content? id with
  | some (.file bytes) =>
    (bytes, { box with machine :=
      { box.machine with files := box.machine.files.setContent id (.file ByteArray.empty) } })
  | _ => (ByteArray.empty, box)

/-- Everything in the directory with its path, each directory before its contents. -/
def listing (box : Box) : List (String × Node) :=
  box.machine.files.below (box.machine.files.nodes.size + 1) "" box.directory

/-- Runs a part of the shell in the box. -/
def perform {α : Type} (box : Box) (program : Shell α) : Option α × Box :=
  let (value, machine) := box.machine.perform program
  (value, { box with machine := machine })

end Box

end LineShell.Machine
