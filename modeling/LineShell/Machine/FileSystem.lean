import LineShell.Errno

/-! A file system in memory: nodes that hold files, directories and links, and the walk from a
path to its node with the system's rules about links, missing parts and long names. -/
namespace LineShell.Machine

/-- What a node of the file system holds. -/
inductive Content where
  | file (bytes : ByteArray)
  | directory (parent : Nat) (entries : List (String × Nat))
  | link (target : String)
  /-- A program of the system, which is known by its name. -/
  | program (name : String)
  /-- Takes everything and holds nothing. -/
  | sink
  /-- Holds zeros without end. -/
  | zeros
  /-- Takes nothing, as a full disk. -/
  | full
  /-- Lists the descriptors of the process that looks. -/
  | descriptors
  /-- Is the program that a process is running, or the process that looks. -/
  | running (pid? : Option Nat)

/-- A node with its permission bits. -/
structure Node where
  content : Content
  mode : Nat

/-- The nodes by their numbers; number 0 is the root directory. -/
structure FileSystem where
  nodes : Array Node

/-- Where a path leads: a name in a directory, and the node of that name if there is one. -/
structure Place where
  directory : Nat
  name : String
  node? : Option Nat

namespace FileSystem

/-- The most links followed on the way to one node. -/
def maxLinks : Nat := 40

/-- The most bytes of a name. -/
def maxName : Nat := 255

/-- The most bytes of a path, with its end mark. -/
def maxPath : Nat := 4096

/-- The system with nothing but an empty root directory. -/
def empty : FileSystem :=
  ⟨#[⟨.directory 0 [], 0o755⟩]⟩

/-- What the file or directory with this number holds. -/
def content? (fs : FileSystem) (id : Nat) : Option Content :=
  fs.nodes[id]?.map Node.content

/-- Whether the number is that of a directory. -/
def isDirectory (fs : FileSystem) (id : Nat) : Bool :=
  match fs.content? id with
  | some (.directory ..) | some .descriptors => true
  | _ => false

/-- The parts of a path. A path that ends in a slash has to lead to a directory, so it goes on
with that directory itself. -/
def parts (path : String) : List String :=
  let named := (path.splitOn "/").filter (· != "")
  if path.endsWith "/" then named ++ ["."] else named

/-- The directory a path starts from. -/
def startOf (here : Nat) (path : String) : Nat :=
  if path.startsWith "/" then 0 else here

/-- Follows the parts of a path from a directory, with a number of links that may be followed
on the way. A link at the end is followed only if asked for. -/
def walkFrom (fs : FileSystem) (follow : Bool) (links here : Nat) :
    List String → Except Errno Place
  | [] => .ok ⟨here, ".", some here⟩
  | part :: rest =>
    match fs.content? here with
    | some (.directory parent entries) =>
      if part == "." || part == ".." then
        let next := if part == "." then here else parent
        if rest.isEmpty then .ok ⟨next, ".", some next⟩ else walkFrom fs follow links next rest
      else if part.utf8ByteSize > maxName then .error .nameTooLong
      else
        match entries.lookup part with
        | none => if rest.isEmpty then .ok ⟨here, part, none⟩ else .error .noSuchFile
        | some id =>
          match fs.content? id with
          | some (.link target) =>
            if rest.isEmpty && !follow then .ok ⟨here, part, some id⟩
            else match links with
              | 0 => .error .linkLoop
              | links + 1 => walkFrom fs follow links (startOf here target) (parts target ++ rest)
          | _ =>
            if rest.isEmpty then .ok ⟨here, part, some id⟩ else walkFrom fs follow links id rest
    | _ => .error .notDirectory
termination_by parts => (links, parts.length)

/-- Where a path leads from a directory. -/
def walk (fs : FileSystem) (here : Nat) (path : String) (follow : Bool) : Except Errno Place :=
  if path.isEmpty then .error .noSuchFile
  else walkFrom fs follow maxLinks (startOf here path) (parts path)

/-- Where a path that is handed to the system leads, which may not be too long. -/
def locate (fs : FileSystem) (here : Nat) (path : String) (follow : Bool) : Except Errno Place :=
  if path.utf8ByteSize ≥ maxPath then .error .nameTooLong else fs.walk here path follow

/-- The node a path leads to. -/
def find (fs : FileSystem) (here : Nat) (path : String) (follow : Bool) : Except Errno Nat := do
  match (← fs.locate here path follow).node? with
  | some id => return id
  | none => throw .noSuchFile

/-- The name of a node in a directory. -/
def nameIn? (fs : FileSystem) (directory id : Nat) : Option String :=
  match fs.content? directory with
  | some (.directory _ entries) => (entries.find? (·.2 == id)).map (·.1)
  | _ => none

/-- The names on the way from the root to a directory, at most `depth` of them. -/
def ancestry (fs : FileSystem) : Nat → Nat → Option (List String)
  | 0, _ => none
  | depth + 1, id =>
    if id == 0 then some []
    else match fs.content? id with
      | some (.directory parent _) => do
        return (← fs.ancestry depth parent) ++ [← fs.nameIn? parent id]
      | _ => none

/-- The path of a directory without links, unless it has been removed. -/
def pathOf? (fs : FileSystem) (id : Nat) : Option String :=
  (fs.ancestry (fs.nodes.size + 1) id).map fun names => "/" ++ "/".intercalate names

/-- The path of a place without links. -/
def canonical? (fs : FileSystem) (place : Place) : Option String := do
  let directory ← fs.pathOf? place.directory
  if place.name == "." then return directory
  else if directory == "/" then return "/" ++ place.name
  else return directory ++ "/" ++ place.name

/-- Replaces what a node holds. -/
def setContent (fs : FileSystem) (id : Nat) (content : Content) : FileSystem :=
  ⟨fs.nodes.modify id fun node => { node with content := content }⟩

/-- Gives the file other permissions. -/
def setMode (fs : FileSystem) (id : Nat) (mode : Nat) : FileSystem :=
  ⟨fs.nodes.modify id fun node => { node with mode := mode }⟩

/-- Changes the entries of a directory. -/
def mapEntries (fs : FileSystem) (directory : Nat)
    (change : List (String × Nat) → List (String × Nat)) : FileSystem :=
  match fs.content? directory with
  | some (.directory parent entries) => fs.setContent directory (.directory parent (change entries))
  | _ => fs

/-- A new node under a name in a directory. -/
def add (fs : FileSystem) (directory : Nat) (name : String) (node : Node) : FileSystem × Nat :=
  let id := fs.nodes.size
  ((⟨fs.nodes.push node⟩ : FileSystem).mapEntries directory (· ++ [(name, id)]), id)

/-- A new directory under a name in a directory. -/
def addDirectory (fs : FileSystem) (directory : Nat) (name : String) : FileSystem × Nat :=
  fs.add directory name ⟨.directory directory [], 0o755⟩

/-- Takes a name out of a directory. -/
def remove (fs : FileSystem) (directory : Nat) (name : String) : FileSystem :=
  fs.mapEntries directory (·.filter (·.1 != name))

/-- The directory at the end of the given names, made where it is missing. -/
def ensureDirectory (fs : FileSystem) (start : Nat) : List String → FileSystem × Nat
  | [] => (fs, start)
  | name :: rest =>
    match fs.walkFrom true maxLinks start [name] with
    | .ok ⟨_, _, some id⟩ => fs.ensureDirectory id rest
    | _ =>
      let (fs, id) := fs.addDirectory start name
      fs.ensureDirectory id rest

/-- The system with a view of a process. -/
def showProcess (fs : FileSystem) (pid : Nat) : FileSystem :=
  let (fs, directory) := fs.ensureDirectory 0 ["proc", toString pid]
  (fs.add directory "exe" ⟨.running (some pid), 0o777⟩).1

/-- The system without a view of a process. -/
def hideProcess (fs : FileSystem) (pid : Nat) : FileSystem :=
  let (fs, directory) := fs.ensureDirectory 0 ["proc"]
  fs.remove directory (toString pid)

/-- The entries of a directory in the order of their names. -/
def entries (fs : FileSystem) (id : Nat) : List (String × Nat) :=
  match fs.content? id with
  | some (.directory _ entries) => entries.mergeSort fun a b => a.1 ≤ b.1
  | _ => []

/-- Everything below a directory with its path from there, each directory before its contents,
down to a depth. -/
def below (fs : FileSystem) : Nat → String → Nat → List (String × Node)
  | 0, _, _ => []
  | depth + 1, path, id =>
    (fs.entries id).flatMap fun (name, child) =>
      match fs.nodes[child]? with
      | none => []
      | some node => (path ++ name, node) :: fs.below depth (path ++ name ++ "/") child

/-- The process may search any directory, and execute a file that anyone may execute. -/
def mayExecute (fs : FileSystem) (id : Nat) : Bool :=
  match fs.nodes[id]? with
  | some ⟨.directory .., _⟩ | some ⟨.descriptors, _⟩ => true
  | some ⟨_, mode⟩ => mode.land 0o111 != 0
  | none => false

end FileSystem

end LineShell.Machine
