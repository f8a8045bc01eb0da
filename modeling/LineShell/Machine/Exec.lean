import LineShell.Machine.Sh.Run

/-! How a process of the machine becomes another program: a tool, the interpreter, or the
interpreter that the first line of a script names. -/
namespace LineShell.Machine

/-- The program and the argument that the first line of a script names after its mark. -/
def interpreterLine? (bytes : List UInt8) : Option (String × Option String) :=
  match bytes with
  | 35 :: 33 :: rest =>
    let isGap (b : UInt8) : Bool := b == 32 || b == 9
    let line := ((rest.take 254).takeWhile (· != 10)).dropWhile isGap
    let program := line.takeWhile fun b => !isGap b && b != 0
    let argument := ((line.drop program.length).dropWhile isGap).reverse.dropWhile isGap
    if program.isEmpty then none
    else some (Bytes.toText program,
      if argument.isEmpty then none else some (Bytes.toText argument.reverse))
  | _ => none

/-- The names under which the interpreter is installed. -/
def interpreterNames : List String := ["sh", "dash"]

/-- How deep programs may start programs. -/
def nesting : Nat := 64

/-- Becomes the program at a path and runs it to its end, the shell itself as `shell` does. There is
an error when that is no program that can be started. -/
def execute (shell : List String → Proc Nat) : Nat → String → List String → Proc (Except Errno Nat)
  | 0, _, _ => return .error .linkLoop
  | fuel + 1, path, argv => do
    let fs ← Proc.fileSystem
    match fs.find (← Proc.self).directory path true with
    | .error reason => return .error reason
    | .ok id =>
      if fs.isDirectory id || !fs.mayExecute id then return .error .accessDenied
      let content ← match fs.content? id with
        | some (.running pid?) => pure ((← Proc.programOf? pid?).map Content.program)
        | content => pure content
      match content with
      | some (.program name) =>
        Proc.updateSelf fun p => { p with table := p.table.afterExec, program := name }
        if name == shellName then return .ok (← shell argv)
        else if interpreterNames.contains name then
          return .ok (← Sh.program (start fuel) (argv.headD "") argv.tail)
        else if let some status ← startNamed fuel name argv then return .ok status
        else match Tool.table.lookup name with
          | some tool => return .ok (← tool (argv.headD "") argv.tail)
          | none => return .ok 127
      | some (.file bytes) =>
        match interpreterLine? bytes.toList with
        | some (program, argument) =>
          execute shell fuel program (program :: argument.toList ++ path :: argv.tail)
        | none => return .error .notExecutableFormat
      | _ => return .error .accessDenied
where
  /-- Lets `env` start the program it was given, after the settings. -/
  startNamed (fuel : Nat) (name : String) (argv : List String) : Proc (Option Nat) := do
    if name != "env" then return none
    match Tool.withSettings (← Proc.self).environment.entries argv.tail with
    | (_, []) => return none
    | (entries, program :: operands) =>
      Proc.updateSelf fun p => { p with environment := ⟨entries⟩ }
      let directories := ((← Proc.self).environment.get? "PATH").getD "/bin:/usr/bin"
      let here := (← Proc.self).directory
      match Tool.findProgram? (← Proc.fileSystem) here directories program with
      | some path => return some (← start fuel path (program :: operands))
      | none =>
        Tool.complain "env" (Quote.always program ++ ": " ++ Errno.noSuchFile.sentence)
        return some 127
  /-- Becomes a program out of the interpreter, which reads a file without a known format itself. -/
  start (fuel : Nat) : Sh.Starter := fun path argv => do
    match ← execute shell fuel path argv with
    | .ok status => return status
    | .error reason =>
      if reason == .notExecutableFormat then
        match ← Proc.contentsOf path with
        | .ok bytes =>
          Sh.interpret (fun _ _ => return 126) {} path argv.tail (Bytes.toText bytes.toList)
        | .error _ => return 126
      else
        Proc.say 2 (argv.headD "" ++ ": " ++ reason.sentence ++ "\n")
        return 126

end LineShell.Machine
