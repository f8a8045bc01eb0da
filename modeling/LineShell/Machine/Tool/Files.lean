import LineShell.Machine.Tool.Basic

/-! The tools that look at the file system and change it. -/
namespace LineShell.Machine.Tool

open Proc (fileSystem setFiles)

/-- Where an operand leads, seen from the process. -/
def placeOf (operand : String) (follow : Bool) : Proc (Except Errno Place) := do
  return (← fileSystem).locate (← Proc.self).directory operand follow

/-- The node of an operand. -/
def nodeOf (operand : String) (follow : Bool) : Proc (Except Errno Nat) := do
  return (← fileSystem).find (← Proc.self).directory operand follow

/-- The names in a directory, or the open descriptors where the directory lists them. -/
def namesIn (id : Nat) : Proc (List String) := do
  let fs ← fileSystem
  match fs.content? id with
  | some .descriptors =>
    let names := (← Proc.self).table.numbers.map toString
    return names.mergeSort fun a b => a ≤ b
  | _ => return (fs.entries id).map (·.1)

/-- What `ls` shows of a directory: no name that starts with a point, unless asked for. -/
def listing (options : List Char) (operand : String) (id : Nat) : Proc (List String) := do
  match ← Proc.openPath operand { reading := true } true with
  | .error _ => return []
  | .ok descriptor =>
    let names ← namesIn id
    Proc.closeDescriptor descriptor
    let shown :=
      if options.contains 'a' then "." :: ".." :: names
      else if options.contains 'A' then names
      else names.filter fun n => !n.startsWith "."
    return if options.contains 'r' then shown.reverse else shown

/-- The tool `ls`, one name to a line. -/
def ls : Tool := fun name arguments => do
  let (options, operands) ← optionsOf name "1aAdrCUfltSxFp" 2 arguments
  let operands := if operands.isEmpty then ["."] else operands
  let mut status := 0
  let mut plain := []
  let mut directories := []
  for operand in operands do
    match ← nodeOf operand true with
    | .error reason =>
      match ← nodeOf operand false with
      | .ok _ => plain := plain ++ [operand]
      | .error _ =>
        complain name ("cannot access " ++ Quote.always operand ++ ": " ++ reason.sentence)
        status := 2
    | .ok id =>
      if (← fileSystem).isDirectory id && !options.contains 'd' then
        directories := directories ++ [(operand, id)]
      else plain := plain ++ [operand]
  emitText name (String.join ((plain.mergeSort fun a b => a ≤ b).map (· ++ "\n")))
  let mut first := plain.isEmpty
  for (operand, id) in directories.mergeSort fun a b => a.1 ≤ b.1 do
    if operands.length > 1 then
      emitText name ((if first then "" else "\n") ++ operand ++ ":\n")
    first := false
    emitText name (String.join ((← listing options operand id).map (· ++ "\n")))
  return status

/-- Does something to every operand; the status tells whether all went well. -/
def forOperands (operands : List String) (act : String → Proc Bool) : Proc Nat := do
  let mut status := 0
  for operand in operands do
    unless ← act operand do status := 1
  return status

/-- What a tool says that was given no operand. -/
def missingOperand (name : String) : Proc Nat := do
  complain name "missing operand"
  Proc.say 2 ("Try '" ++ name ++ " --help' for more information.\n")
  return 1

/-- The tool `mkdir`. -/
def mkdir : Tool := fun name arguments => do
  let (options, operands) ← optionsOf name "pv" 1 arguments
  if operands.isEmpty then return ← missingOperand name
  forOperands operands fun operand => do
    let refuse (reason : Errno) : Proc Bool := do
      complain name ("cannot create directory " ++ Quote.always operand ++ ": " ++ reason.sentence)
      return false
    if options.contains 'p' then
      let fs ← fileSystem
      let start := FileSystem.startOf (← Proc.self).directory operand
      match fs.walk (← Proc.self).directory operand true with
      | .ok ⟨_, _, some id⟩ =>
        if fs.isDirectory id then return true else refuse .fileExists
      | .error .notDirectory => refuse .notDirectory
      | _ =>
        setFiles (fs.ensureDirectory start ((FileSystem.parts operand).filter (· != "."))).1
        return true
    else
      let trimmed := if operand.endsWith "/" then (operand.dropEnd 1).toString else operand
      match ← placeOf trimmed false with
      | .error reason => refuse reason
      | .ok ⟨_, _, some _⟩ => refuse .fileExists
      | .ok ⟨directory, entry, none⟩ =>
        setFiles ((← fileSystem).addDirectory directory entry).1
        return true

/-- The tool `rmdir`. -/
def rmdir : Tool := fun name arguments => do
  let (_, operands) ← optionsOf name "pv" 1 arguments
  if operands.isEmpty then return ← missingOperand name
  forOperands operands fun operand => do
    let refuse (reason : Errno) : Proc Bool := do
      complain name ("failed to remove " ++ Quote.always operand ++ ": " ++ reason.sentence)
      return false
    match ← placeOf operand false with
    | .error reason => refuse reason
    | .ok ⟨_, _, none⟩ => refuse .noSuchFile
    | .ok ⟨directory, entry, some id⟩ =>
      let fs ← fileSystem
      match fs.content? id with
      | some (.directory parent []) =>
        if entry == "." then
          match fs.nameIn? parent id with
          | some own =>
            if operand.endsWith "." then refuse .invalidArgument
            else
              setFiles (fs.remove parent own)
              return true
          | none => refuse .invalidArgument
        else
          setFiles (fs.remove directory entry)
          return true
      | some (.directory ..) => refuse .directoryNotEmpty
      | _ => refuse .notDirectory

/-- The tool `rm`. -/
def rm : Tool := fun name arguments => do
  let (options, operands) ← optionsOf name "dfiIrRv" 1 arguments
  let (force, deep) := (options.contains 'f', options.contains 'r' || options.contains 'R')
  if operands.isEmpty && force then return 0
  if operands.isEmpty then return ← missingOperand name
  forOperands operands fun operand => do
    let refuse (reason : Errno) : Proc Bool := do
      complain name ("cannot remove " ++ Quote.always operand ++ ": " ++ reason.sentence)
      return false
    match ← placeOf operand false with
    | .error reason => if force && reason == .noSuchFile then return true else refuse reason
    | .ok ⟨_, _, none⟩ => if force then return true else refuse .noSuchFile
    | .ok ⟨directory, entry, some id⟩ =>
      let fs ← fileSystem
      if fs.isDirectory id && !deep then refuse .isDirectory
      else
        setFiles (fs.remove directory entry)
        return true

/-- The tool `touch`. -/
def touch : Tool := fun name arguments => do
  let (_, operands) ← optionsOf name "acfm" 1 arguments
  if operands.isEmpty then
    complain name "missing file operand"
    Proc.say 2 ("Try '" ++ name ++ " --help' for more information.\n")
    return 1
  forOperands operands fun operand => do
    match ← nodeOf operand true with
    | .ok _ => return true
    | .error _ =>
      match ← Proc.openPath operand { writing := true, create := true } true with
      | .ok descriptor =>
        Proc.closeDescriptor descriptor
        return true
      | .error reason =>
        complain name ("cannot touch " ++ Quote.always operand ++ ": " ++ reason.sentence)
        return false

/-- The last part of a path. -/
def lastPart (path : String) : String :=
  ((path.splitOn "/").filter (· != "")).getLast?.getD "/"

/-- The path of a copy: inside the target if that is a directory. -/
def copyTarget (source target : String) : Proc String := do
  match ← nodeOf target true with
  | .ok id =>
    if (← fileSystem).isDirectory id then return target ++ "/" ++ lastPart source else return target
  | .error _ => return target

/-- The last of at least two operands; without it a tool says what is missing. -/
def withTarget (name : String) (operands : List String) : Proc (Option String) := do
  match operands with
  | _ :: _ :: _ => return operands.getLast?
  | [] => complain name "missing file operand"
  | [source] => complain name ("missing destination file operand after " ++ Quote.always source)
  Proc.say 2 ("Try '" ++ name ++ " --help' for more information.\n")
  return none

/-- The tool `cp`, for files. -/
def cp : Tool := fun name arguments => do
  let (_, operands) ← optionsOf name "afinprRuv" 1 arguments
  match ← withTarget name operands with
  | none => return 1
  | some target =>
    forOperands operands.dropLast fun source => do
      match ← Proc.contentsOf source with
      | .error reason =>
        if reason == .isDirectory then
          complain name ("-r not specified; omitting directory " ++ Quote.always source)
        else complain name ("cannot stat " ++ Quote.always source ++ ": " ++ reason.sentence)
        return false
      | .ok bytes =>
        let path ← copyTarget source target
        let origin := (← nodeOf source true).toOption
        match ← Proc.openPath path { writing := true, create := true, truncate := true } true with
        | .error reason =>
          complain name ("cannot create regular file " ++ Quote.always path ++ ": " ++
            reason.sentence)
          return false
        | .ok descriptor =>
          let _ ← Proc.writeBytes descriptor bytes
          Proc.closeDescriptor descriptor
          if let some id := origin then
            let fs ← fileSystem
            if let some node := fs.nodes[id]? then
              if let .ok copy ← nodeOf path true then setFiles (fs.setMode copy node.mode)
          return true

/-- The tool `mv`. -/
def mv : Tool := fun name arguments => do
  let (_, operands) ← optionsOf name "finuv" 1 arguments
  match ← withTarget name operands with
  | none => return 1
  | some target =>
    forOperands operands.dropLast fun source => do
      match ← placeOf source false with
      | .ok ⟨directory, entry, some id⟩ =>
        let path ← copyTarget source target
        match ← placeOf path false with
        | .error reason =>
          complain name ("cannot move " ++ Quote.always source ++ " to " ++ Quote.always path ++
            ": " ++ reason.sentence)
          return false
        | .ok goal =>
          let fs := ((← fileSystem).remove directory entry).remove goal.directory goal.name
          let fs := fs.mapEntries goal.directory (· ++ [(goal.name, id)])
          let fs := match fs.content? id with
            | some (.directory _ entries) => fs.setContent id (.directory goal.directory entries)
            | _ => fs
          setFiles fs
          return true
      | .ok ⟨_, _, none⟩ =>
        complain name ("cannot stat " ++ Quote.always source ++ ": " ++ Errno.noSuchFile.sentence)
        return false
      | .error reason =>
        complain name ("cannot stat " ++ Quote.always source ++ ": " ++ reason.sentence)
        return false

/-- The tool `ln`. -/
def ln : Tool := fun name arguments => do
  let (options, operands) := letters arguments
  match operands with
  | [source, target] =>
    let path ← copyTarget source target
    match ← placeOf path false with
    | .ok place =>
      let kind := if options.contains 's' then "symbolic" else "hard"
      if place.node?.isSome && !options.contains 'f' then
        complain name ("failed to create " ++ kind ++ " link " ++ Quote.always path ++ ": " ++
          Errno.fileExists.sentence)
        return 1
      let fs := (← fileSystem).remove place.directory place.name
      if options.contains 's' then
        setFiles (fs.add place.directory place.name ⟨.link source, 0o777⟩).1
        return 0
      match ← nodeOf source false with
      | .error reason =>
        complain name ("failed to access " ++ Quote.always source ++ ": " ++ reason.sentence)
        return 1
      | .ok id =>
        setFiles (fs.mapEntries place.directory (· ++ [(place.name, id)]))
        return 0
    | .error reason =>
      complain name ("failed to create link " ++ Quote.always path ++ ": " ++ reason.sentence)
      return 1
  | _ =>
    complain name "missing file operand"
    return 1

/-- The mode a description of `chmod` asks for: octal digits, or bits given or taken. -/
def newMode? (text : String) (old : Nat) : Option Nat :=
  let cs := text.toList
  if !cs.isEmpty && cs.all fun c => '0' ≤ c && c ≤ '7' then
    some (Number.takeDigits 8 cs.length cs).1
  else
    let bit (c : Char) : Nat := match c with
      | 'r' => 4
      | 'w' => 2
      | 'x' => 1
      | _ => 0
    let who := cs.takeWhile fun c => "ugoa".toList.contains c
    let each (bits : Nat) : Nat :=
      (if who.isEmpty || who.contains 'a' || who.contains 'u' then bits * 64 else 0) +
        (if who.isEmpty || who.contains 'a' || who.contains 'g' then bits * 8 else 0) +
        (if who.isEmpty || who.contains 'a' || who.contains 'o' then bits else 0)
    match cs.drop who.length with
    | '+' :: bits => some (bits.foldl (fun m c => m.lor (each (bit c))) old)
    | '-' :: bits => some (bits.foldl (fun m c => m - m.land (each (bit c))) old)
    | _ => none

/-- The tool `chmod`. -/
def chmod : Tool := fun name arguments => do
  match arguments with
  | [mode] =>
    complain name ("missing operand after '" ++ mode ++ "'")
    Proc.say 2 ("Try '" ++ name ++ " --help' for more information.\n")
    return 1
  | mode :: operands =>
    forOperands operands fun operand => do
      match ← nodeOf operand true with
      | .error reason =>
        complain name ("cannot access " ++ Quote.always operand ++ ": " ++ reason.sentence)
        return false
      | .ok id =>
        let fs ← fileSystem
        match newMode? mode ((fs.nodes[id]?.map Node.mode).getD 0) with
        | some m =>
          setFiles (fs.setMode id m)
          return true
        | none =>
          complain name ("invalid mode: '" ++ mode ++ "'")
          Proc.say 2 ("Try '" ++ name ++ " --help' for more information.\n")
          return false
  | [] => missingOperand name

/-- The tool `readlink`. -/
def readlink : Tool := fun name arguments => do
  let (options, operands) := letters arguments
  forOperands operands fun operand => do
    if options.contains 'f' then
      match ← placeOf operand true with
      | .ok place =>
        match (← fileSystem).canonical? place with
        | some path =>
          emitText name (path ++ "\n")
          return true
        | none => return false
      | .error _ => return false
    else
      match ← nodeOf operand false with
      | .ok id =>
        match (← fileSystem).content? id with
        | some (.link target) =>
          emitText name (target ++ "\n")
          return true
        | _ => return false
      | .error _ => return false

/-- The tool `realpath`. -/
def realpath : Tool := fun name arguments => do
  let (_, operands) := letters arguments
  forOperands operands fun operand => do
    match ← placeOf operand true with
    | .ok place =>
      match (← fileSystem).canonical? place with
      | some path =>
        emitText name (path ++ "\n")
        return true
      | none => return false
    | .error reason =>
      complain name (operand ++ ": " ++ reason.sentence)
      return false

/-- The tool `pwd`. -/
def pwd : Tool := fun name _ => do
  match (← fileSystem).pathOf? (← Proc.self).directory with
  | some path =>
    emitText name (path ++ "\n")
    return 0
  | none =>
    complain name ("couldn't find directory entry in '..' with matching i-node")
    return 1

end LineShell.Machine.Tool
