import LineShell.Machine.Sh.State

/-! Running commands of the command language. Commands of a pipeline run one after the other,
each to its end. -/
namespace LineShell.Machine.Sh

open Run

/-- Becomes a program in the process at work: a path and its arguments. -/
abbrev Starter := String → List String → Proc Nat

/-- Reads a list of commands out of a text. -/
def readAllOf (source : String) (line : Nat) : Except Problem Tree :=
  let cs := source.toList
  match (Reader.list (2 * cs.length + 16)).run ⟨cs, line⟩ with
  | .error p => .error p
  | .ok (tree, ⟨[], _⟩) => .ok tree
  | .ok (_, cursor) =>
    match (Reader.unexpected none : Reader Unit).run cursor with
    | .error p => .error p
    | .ok _ => .ok .nothing

/-- The names that are commands of the interpreter itself. -/
def ownCommands : List String :=
  [":", ".", "[", "break", "cd", "command", "continue", "echo", "eval", "exec", "exit", "export",
   "false", "kill", "local", "printf", "pwd", "read", "readonly", "return", "set", "shift", "test",
   "trap", "true",
   "type", "umask", "unset", "wait"]

/-- The executable file of a command name: the path itself, or the first in the directories of
the search path. The flag tells whether it may be executed. -/
def findCommand (name : String) : Run (Option (String × Bool)) := do
  let fs ← Proc.fileSystem
  let here := (← Proc.self).directory
  let check (path : String) : Option (String × Bool) :=
    match fs.find here path true with
    | .ok id => if fs.isDirectory id then some (path, false) else some (path, fs.mayExecute id)
    | .error _ => none
  if name.toList.contains '/' then return check name
  let directories := ((← valueOf? "PATH").getD
    "/usr/local/sbin:/usr/local/bin:/usr/sbin:/usr/bin:/sbin:/bin").splitOn ":"
  let candidates := directories.filterMap fun d =>
    (check (if d.isEmpty then name else d ++ "/" ++ name)).filter (·.2)
  return candidates.head?

/-- A number as an operand of a command of the interpreter. -/
def numberOperand (command : String) (operand : String) : Run Nat := do
  match Number.natural? operand with
  | some n => if operand.isEmpty then pure 0 else return n
  | none =>
    complain (command ++ ": Illegal number: " ++ operand)
    Proc.exit 2

/-- Applies a change to the descriptors; the answer tells whether all went well. -/
def applyRedirect (r : Redirect) (target : String) : Run Bool := do
  let cannot (verb : String) (reason : Errno) : Run Bool := do
    let text := if reason == .noSuchFile then
        if verb == "create" then "Directory nonexistent" else "No such file"
      else reason.sentence
    complain ("cannot " ++ verb ++ " " ++ target ++ ": " ++ text)
    return false
  let connect (verb : String) (mode : Proc.OpenMode) : Run Bool := do
    match ← Proc.openPath target mode false with
    | .error reason => cannot verb reason
    | .ok descriptor =>
      if descriptor != r.descriptor then
        let _ ← Proc.duplicateDescriptor descriptor r.descriptor
        Proc.closeDescriptor descriptor
      return true
  match r.kind with
  | .here =>
    match ← Proc.openNameless target.toUTF8 with
    | .error reason => cannot "open" reason
    | .ok descriptor =>
      let _ ← Proc.duplicateDescriptor descriptor r.descriptor
      Proc.closeDescriptor descriptor
      return true
  | .input => connect "open" { reading := true }
  | .output => connect "create" { writing := true, create := true, truncate := true }
  | .append => connect "create" { writing := true, create := true, append := true }
  | .copy =>
    if target == "-" then
      Proc.closeDescriptor r.descriptor
      return true
    match Number.natural? target with
    | none =>
      complain ("Syntax error: Bad fd number")
      return false
    | some source =>
      match ← Proc.duplicateDescriptor source r.descriptor with
      | .ok () => return true
      | .error reason =>
        complain (target ++ ": " ++ reason.sentence)
        return false

/-- Reads one line of standard input, byte by byte. -/
def readLineBytes : Nat → Run (List UInt8 × Bool)
  | 0 => return ([], false)
  | fuel + 1 => do
    match ← Proc.readBytes 0 1 with
    | .error _ => return ([], false)
    | .ok bytes =>
      match bytes.toList with
      | [] => return ([], false)
      | b :: _ =>
        if b == 10 then return ([], true)
        let (more, whole) ← readLineBytes fuel
        return (b :: more, whole)

/-- Gives the words of a line to variables, the last one taking the rest. -/
def assignWords : List String → List Char → Run Unit
  | [], _ => return ()
  | [name], cs =>
    let trimmed := ((cs.dropWhile (· == ' ')).reverse.dropWhile (· == ' ')).reverse
    setVariable name (String.ofList trimmed)
  | name :: names, cs => do
    let cs := cs.dropWhile (· == ' ')
    setVariable name (String.ofList (cs.takeWhile (· != ' ')))
    assignWords names (cs.dropWhile (· != ' '))

/-- The path of the directory of the process, which is empty once that has been removed. -/
def workingDirectory : Run String := do
  return ((← Proc.fileSystem).pathOf? (← Proc.self).directory).getD ""

/-- Changes the directory of the process. -/
def changeDirectory (operand : Option String) : Run Nat := do
  let target ← match operand with
    | some "-" => pure ((← valueOf? "OLDPWD").getD "")
    | some path => pure path
    | none => pure ((← valueOf? "HOME").getD "")
  let before ← workingDirectory
  match (← Proc.fileSystem).find (← Proc.self).directory target true with
  | .ok id =>
    if (← Proc.fileSystem).isDirectory id then
      Proc.updateSelf fun p => { p with directory := id }
      setVariable "OLDPWD" before
      exportVariable "OLDPWD"
      setVariable "PWD" (← workingDirectory)
      if operand == some "-" then Proc.say 1 (target ++ "\n")
      return 0
    else
      complain ("cd: can't cd to " ++ target)
      return 2
  | .error _ =>
    complain ("cd: can't cd to " ++ target)
    return 2

/-- Sets the commands for signals. -/
def setTraps : List String → Run Nat
  | [] => return 0
  | [_] => return 0
  | action :: names => do
    for name in names do
      match Tool.signal? name with
      | none =>
        complain ("trap: " ++ name ++ ": bad trap")
        return 1
      | some signal =>
        modify fun s =>
          let others := s.traps.filter (·.1 != signal)
          { s with traps := if action == "-" then others else others ++ [(signal, action)] }
    return 0

/-- Sets options and the positional parameters. -/
def setOptions : List String → Run Nat
  | [] => return 0
  | "--" :: rest => do
    modify fun s => { s with arguments := rest }
    return 0
  | word :: rest => do
    let switch (value : Bool) (letters : List Char) : Run Unit :=
      modify fun s =>
        { s with
          strict := if letters.contains 'e' then value else s.strict
          traced := if letters.contains 'x' then value else s.traced
          demanding := if letters.contains 'u' then value else s.demanding }
    match word.toList with
    | '-' :: letters =>
      switch true letters
      setOptions rest
    | '+' :: letters =>
      switch false letters
      setOptions rest
    | _ =>
      modify fun s => { s with arguments := word :: rest }
      return 0

/-- Lists the names of the signals in the order of their numbers. -/
def signalNames : List String :=
  "0" :: (List.range 31).map fun n =>
    ((Signal.name? ⟨n + 1⟩).map fun name => (name.drop 3).toString).getD (toString (n + 1))

/-- Sends a signal to processes. A wrong word ends the interpreter. -/
def killOwn (operands : List String) : Run Nat := do
  let wrong (message : String) : Run Nat := do
    complain ("kill: " ++ message)
    Proc.exit 2
  let usage := "Usage: kill [-s sigspec | -signum | -sigspec] [pid | job]... or\n" ++
    "kill -l [exitstatus]"
  match operands with
  | ["-l"] =>
    Proc.say 1 (String.join (signalNames.map (· ++ "\n")))
    return 0
  | "-l" :: word :: _ =>
    let n ← numberOperand "kill" word
    Proc.say 1 ((signalNames[n % 128]?).getD (toString (n % 128)) ++ "\n")
    return 0
  | _ =>
    match Tool.killWords Tool.signal? operands with
    | .error word =>
      if operands.head? == some "-s" then wrong ("invalid signal number or name: " ++ word)
      else wrong ("Illegal option -" ++ (word.take 1).toString)
    | .ok (_, []) => wrong usage
    | .ok (signal, pids) =>
      let mut status := 0
      for word in pids do
        let pid ← numberOperand "kill" word
        if let .error reason ← Proc.kill pid signal then
          complain ("kill: " ++ reason.sentence ++ "\n")
          status := 1
      return status

/-- How a child that ended shows in the status. -/
def endingStatus : Ending → Nat
  | .exited status => status
  | .killed signal => 128 + signal.number

/-- What the interpreter says about a child that was ended by a signal. -/
def reportEnding (ending : Ending) : Proc Unit :=
  match ending with
  | .killed signal =>
    match signal.number with
    | 2 | 13 => return ()
    | 1 => Proc.say 2 "Hangup\n"
    | 3 => Proc.say 2 "Quit\n"
    | 4 => Proc.say 2 "Illegal instruction\n"
    | 6 => Proc.say 2 "Aborted\n"
    | 7 => Proc.say 2 "Bus error\n"
    | 8 => Proc.say 2 "Floating point exception\n"
    | 9 => Proc.say 2 "Killed\n"
    | 10 => Proc.say 2 "User defined signal 1\n"
    | 11 => Proc.say 2 "Segmentation fault\n"
    | 12 => Proc.say 2 "User defined signal 2\n"
    | 14 => Proc.say 2 "Alarm clock\n"
    | 15 => Proc.say 2 "Terminated\n"
    | n => Proc.say 2 ("Signal " ++ toString n ++ "\n")
  | .exited _ => return ()

/-- Runs part of the interpreter in a child with its own copy of everything, and gives the way the
child ended. -/
def inChild (body : Run Flow) : Run Ending := do
  let s ← get
  let pid ← Proc.spawn none
  Proc.runAs pid do
    let (_, after) ← body.run { s with traps := s.traps.filter (·.2 == "") }
    return after.status

/-- The path of a temporary pipe for the output of a part of the interpreter, and that output. -/
def capture (body : Run Flow) : Run (List UInt8 × Ending) := do
  match ← Proc.openPipe with
  | .error _ => return ([], .exited 2)
  | .ok ends =>
    let ending ← inChild do
      let _ ← Proc.duplicateDescriptor ends.write 1
      Proc.closeDescriptor ends.write
      Proc.closeDescriptor ends.read
      body
    Proc.closeDescriptor ends.write
    let bytes ← Proc.readAll ends.read
    Proc.closeDescriptor ends.read
    return ((bytes.toOption.map ByteArray.toList).getD [], ending)

mutual

/-- Expands the pieces of a word. -/
def expand (starter : Starter) : Nat → Word → Run (List Token)
  | 0, _ => return []
  | _, [] => return []
  | fuel + 1, piece :: rest => do
    let separators := ((← valueOf? "IFS").getD " \t\n").toList
    let tokens ← match piece with
      | .text chars quoted =>
        pure ((if quoted then [Token.quotation] else []) ++
          chars.toList.map fun c => .char c quoted)
      | .arithmetic source quoted =>
        let source ← expandText starter fuel source
        match ← Run.arithmetic source with
        | .ok value => pure (expansionTokens separators quoted value)
        | .error fault =>
          complain ("arithmetic expression: " ++ fault.message ++ ": \"" ++ source ++ "\"")
          Proc.exit 2
      | .output source quoted =>
        match readAllOf source (← get).line with
        | .error p =>
          Proc.say 2 ((← get).name ++ ": " ++ toString p.line ++ ": " ++ p.message ++ "\n")
          Proc.exit 2
        | .ok tree =>
          let (bytes, ending) ← capture (run starter fuel tree)
          setStatus (endingStatus ending)
          let kept := (bytes.reverse.dropWhile (· == 10)).reverse
          pure (expansionTokens separators quoted (Bytes.toText (kept.filter (· != 0))))
      | .parameter name operator word quoted =>
        expandParameter starter fuel separators name operator word quoted
    return tokens ++ (← expand starter fuel rest)

/-- Expands the text inside of arithmetic or after an operator, as if in double quotes. -/
def expandText (starter : Starter) : Nat → String → Run String
  | 0, text => return text
  | fuel + 1, text => do
    let cs := text.toList ++ ['"']
    match (Reader.doubleQuoted (cs.length + 1)).run ⟨cs, 1⟩ with
    | .ok (word, _) => return textOf (← expand starter fuel word)
    | .error _ => return text

/-- Expands a parameter with its operator. -/
def expandParameter (starter : Starter) : Nat → List Char → String → String → String → Bool →
    Run (List Token)
  | 0, _, _, _, _, _ => return []
  | fuel + 1, separators, name, operator, word, quoted => do
    let value ← parameter? name
    let missing :=
      if operator.startsWith ":" then (value.getD "").isEmpty else value.isNone
    let alternative : Run (List Token) := do
      if quoted then
        return (← expandText starter fuel word).toList.map fun c => Token.char c true
      let cs := word.toList
      match (Reader.word (cs.length + 1)).run ⟨cs, 1⟩ with
      | .ok (w, ⟨[], _⟩) => expand starter fuel w
      | _ => return expansionTokens separators false (← expandText starter fuel word)
    let plain (value : String) : List Token :=
      (if quoted then [Token.quotation] else []) ++ expansionTokens separators quoted value
    if value.isNone && (← get).demanding && name != "@" && name != "*" &&
        ["", "#count", "#", "##", "%", "%%"].contains operator then
      complain (name ++ ": parameter not set")
      Proc.exit 2
    match operator with
    | "#count" => return plain (toString (value.getD "").utf8ByteSize)
    | ":-" | "-" => if missing then alternative else return plain (value.getD "")
    | ":=" | "=" =>
      if missing then
        let tokens ← alternative
        setVariable name (textOf tokens)
        return tokens
      else return plain (value.getD "")
    | ":+" | "+" => if missing then return [] else alternative
    | ":?" | "?" =>
      if missing then
        let text ← expandText starter fuel word
        complain (name ++ ": " ++ if text.isEmpty then "parameter not set" else text)
        Proc.exit 2
      else return plain (value.getD "")
    | "#" | "##" | "%" | "%%" =>
      let pattern ← expandText starter fuel word
      let marked := pattern.toList.map fun c => (c, false)
      return plain (String.ofList
        (strip operator (readGlob marked.length marked) (value.getD "").toList))
    | _ =>
      if name == "@" && quoted then
        match (← get).arguments with
        | [] => return []
        | first :: more =>
          let field (text : String) : List Token :=
            Token.quotation :: expansionTokens separators true text
          return field first ++ more.flatMap fun text => Token.cut :: field text
      else return plain (value.getD "")

/-- The text of a word that is not split into fields. -/
def expandSingle (starter : Starter) : Nat → Word → Run String
  | 0, _ => return ""
  | fuel + 1, word => do
    match word with
    | .text "~" false :: rest =>
      match rest with
      | [] | .text "/" false :: _ =>
        return ((← valueOf? "HOME").getD "~") ++ textOf (← expand starter fuel rest)
      | _ => return textOf (← expand starter fuel word)
    | _ => return textOf (← expand starter fuel word)

/-- The fields of words, after file names have been matched. -/
def expandWords (starter : Starter) : Nat → List Word → Run (List String)
  | 0, _ => return []
  | _, [] => return []
  | fuel + 1, word :: rest => do
    let fields ← match word with
      | .text "~" false :: _ => pure [← expandSingle starter fuel word]
      | _ =>
        let found := fieldsOf (← expand starter fuel word)
        let fs ← Proc.fileSystem
        let here := (← Proc.self).directory
        pure (found.flatMap (globField fs here))
    return fields ++ (← expandWords starter fuel rest)

/-- Applies redirections in order, up to the first that fails. -/
def applyRedirects (starter : Starter) : Nat → List Redirect → Run Bool
  | 0, _ => return true
  | _, [] => return true
  | fuel + 1, r :: rest => do
    let target ← expandSingle starter fuel r.target
    if ← applyRedirect r target then applyRedirects starter fuel rest else return false

/-- Runs a part with redirections in force, which end with it. -/
def redirected (starter : Starter) : Nat → List Redirect → Run Flow → Run Flow
  | 0, _, body => body
  | fuel + 1, redirects, body => do
    if redirects.isEmpty then body
    else
      let before := (← Proc.self).table
      if ← applyRedirects starter fuel redirects then
        let flow ← body
        Proc.updateSelf fun p => { p with table := before }
        return flow
      else
        Proc.updateSelf fun p => { p with table := before }
        setStatus 2
        return .on

/-- Sees to the signals that have been sent. -/
def notice (starter : Starter) : Nat → Run Unit
  | 0 => return ()
  | fuel + 1 => do
    let signals := (← Proc.self).signals
    if signals.isEmpty then return
    Proc.updateSelf fun p => { p with signals := [] }
    for signal in signals do
      match (← get).traps.lookup signal with
      | some "" => pure ()
      | some source =>
        if signal == .kill then throw (Ending.killed signal)
        let before := (← get).status
        let _ ← evaluate starter fuel source
        setStatus before
      | none =>
        if !signal.isHarmless && signal != .brokenPipe && !signal.isSuspending then
          throw (Ending.killed signal)

/-- Runs the commands of a text. -/
def evaluate (starter : Starter) : Nat → String → Run Flow
  | 0, _ => return .on
  | fuel + 1, source => do
    match readAllOf source 1 with
    | .ok tree => run starter fuel tree
    | .error p =>
      Proc.say 2 ((← get).name ++ ": " ++ toString p.line ++ ": " ++ p.message ++ "\n")
      Proc.exit 2

/-- Ends the interpreter, after the commands that were set for that. -/
def finish (starter : Starter) : Nat → Nat → Run Flow
  | 0, status => Proc.exit status
  | fuel + 1, status => do
    setStatus status
    match (← get).traps.lookup ⟨0⟩ with
    | some source =>
      modify fun s => { s with traps := s.traps.filter (·.1 != ⟨0⟩) }
      if source.isEmpty then Proc.exit status
      let _ ← evaluate starter fuel source
      Proc.exit status
    | none => Proc.exit status

/-- Runs a command of the interpreter itself. -/
def runOwn (starter : Starter) : Nat → String → List String → Run Flow
  | 0, _, _ => return .on
  | fuel + 1, name, operands => do
    let done (status : Nat) : Run Flow := do
      setStatus status
      return .on
    match name with
    | ":" | "true" | "wait" => done 0
    | "umask" =>
      if operands.isEmpty then Proc.say 1 "0022\n"
      done 0
    | "false" => done 1
    | "echo" =>
      let (newline, words) := match operands with
        | "-n" :: rest => (false, rest)
        | rest => (true, rest)
      let bytes := Format.echoText true newline true words
      match ← Proc.writeBytes 1 (Bytes.ofList bytes) with
      | .ok () => done 0
      | .error _ =>
        complain "echo: echo: I/O error"
        done 1
    | "printf" =>
      let s ← get
      match operands with
      | [] =>
        complain "printf: usage: printf format [arg ...]"
        done 2
      | _ => done (← Format.printfOwn (s.name ++ ": " ++ toString s.line ++ ": printf") operands)
    | "test" | "[" =>
      match Condition.wordsOf? name operands with
      | none =>
        complain "[: missing ]"
        done 2
      | some words =>
        let s ← get
        done (← Condition.run (fun fault => Proc.say 2
          (s.name ++ ": " ++ toString s.line ++ ": " ++ name ++ ": " ++ fault.ownMessage ++ "\n"))
          words)
    | "exit" =>
      match operands with
      | [] => finish starter fuel (← get).status
      | word :: _ => finish starter fuel (← numberOperand "exit" word)
    | "return" =>
      match operands with
      | [] => return .return
      | word :: _ =>
        setStatus (← numberOperand "return" word)
        return .return
    | "break" => return .break ((operands.head?.bind Number.natural?).getD 1)
    | "continue" => return .continue ((operands.head?.bind Number.natural?).getD 1)
    | "cd" => done (← changeDirectory operands.head?)
    | "pwd" =>
      Proc.say 1 ((← workingDirectory) ++ "\n")
      done 0
    | "shift" =>
      let n ← match operands with
        | [] => pure 1
        | word :: _ => numberOperand "shift" word
      if n > (← get).arguments.length then
        complain "shift: can't shift that many"
        Proc.exit 2
      modify fun s => { s with arguments := s.arguments.drop n }
      done 0
    | "export" =>
      for word in operands do
        match word.splitOn "=" with
        | [own] => exportVariable own
        | own :: value =>
          setVariable own ("=".intercalate value)
          exportVariable own
        | [] => pure ()
      done 0
    | "unset" =>
      for word in operands do unsetVariable word
      done 0
    | "set" => done (← setOptions operands)
    | "trap" => done (← setTraps operands)
    | "kill" => done (← killOwn operands)
    | "local" =>
      if (← get).hidden.isNone then
        complain "local: not in a function"
        Proc.exit 2
      for word in operands do
        match word.splitOn "=" with
        | own :: value =>
          hideVariable own
          unless value.isEmpty do setVariable own ("=".intercalate value)
        | [] => pure ()
      done 0
    | "readonly" =>
      for word in operands do
        match word.splitOn "=" with
        | own :: value =>
          unless value.isEmpty do setVariable own ("=".intercalate value)
          fixVariable own
        | [] => pure ()
      done 0
    | "read" =>
      let names := operands.filter (· != "-r")
      let (bytes, whole) ← readLineBytes 65536
      assignWords (if names.isEmpty then ["REPLY"] else names) (Bytes.toText bytes).toList
      done (if whole then 0 else 1)
    | "eval" => evaluate starter fuel (" ".intercalate operands)
    | "." =>
      match operands with
      | [] => done 2
      | path :: _ =>
        let candidates ← if path.toList.contains '/' then pure [path]
          else do
            pure ((((← valueOf? "PATH").getD "").splitOn ":").map fun d =>
              if d.isEmpty then path else d ++ "/" ++ path)
        let readable ← candidates.findM? fun candidate => do
          return (← Proc.contentsOf candidate).isOk
        match readable with
        | some candidate =>
          match ← Proc.contentsOf candidate with
          | .ok bytes => evaluate starter fuel (Bytes.toText bytes.toList)
          | .error _ => done 2
        | none =>
          complain <| if path.toList.contains '/' then ".: cannot open " ++ path ++ ": No such file"
            else ".: " ++ path ++ ": not found"
          Proc.exit 2
    | "exec" =>
      match operands with
      | [] => done 0
      | command :: _ =>
        match ← findCommand command with
        | some (path, true) =>
          let environment ← environment
          Proc.updateSelf fun p => { p with environment := environment }
          let status ← starter path operands
          Proc.exit status
        | _ =>
          complain ("exec: " ++ command ++ ": not found")
          Proc.exit 127
    | "command" =>
      match operands with
      | "-v" :: word :: _ =>
        if ownCommands.contains word then
          Proc.say 1 (word ++ "\n")
          done 0
        else match ← findCommand word with
          | some (path, true) =>
            Proc.say 1 (path ++ "\n")
            done 0
          | _ => done 127
      | [] => done 0
      | _ => runFields starter fuel operands
    | "type" =>
      match operands with
      | [] => done 0
      | word :: _ =>
        if ownCommands.contains word then
          Proc.say 1 (word ++ " is a shell builtin\n")
          done 0
        else match ← findCommand word with
          | some (path, true) =>
            Proc.say 1 (word ++ " is " ++ path ++ "\n")
            done 0
          | _ =>
            Proc.say 1 (word ++ ": not found\n")
            done 127
    | _ => done 0

/-- Runs a command given by its fields. -/
def runFields (starter : Starter) : Nat → List String → Run Flow
  | 0, _ => return .on
  | _, [] => return .on
  | fuel + 1, name :: operands => do
    match (← get).functions.lookup name with
    | some body =>
      let before := (← get).arguments
      let outside := (← get).hidden
      modify fun s => { s with arguments := operands, hidden := some [] }
      let flow ← run starter fuel body
      unhideVariables outside
      modify fun s => { s with arguments := before }
      match flow with
      | .return => return .on
      | flow => return flow
    | none =>
      if ownCommands.contains name then runOwn starter fuel name operands
      else match ← findCommand name with
        | none =>
          complain (name ++ ": not found")
          setStatus 127
          return .on
        | some (_, false) =>
          complain (name ++ ": Permission denied")
          setStatus 126
          return .on
        | some (path, true) =>
          let environment ← environment
          let pid ← Proc.spawn none
          let ending ← Proc.runAs pid do
            Proc.updateSelf fun p => { p with environment := environment }
            starter path (name :: operands)
          reportEnding ending
          setStatus (endingStatus ending)
          return .on

/-- Runs the body of a loop as long as its condition allows. -/
def runLoop (starter : Starter) (awaits : Bool) : Nat → Tree → Tree → Nat → Run Flow
  | 0, _, _, _ => return .on
  | fuel + 1, condition, body, last => do
    match ← run starter fuel condition with
    | .on =>
      if ((← get).status == 0) == awaits then
        setStatus last
        return .on
      match ← run starter fuel body with
      | .on | .continue 1 | .continue 0 =>
        runLoop starter awaits fuel condition body (← get).status
      | .break n => return if n ≤ 1 then .on else .break (n - 1)
      | .continue n => return .continue (n - 1)
      | .return => return .return
    | .break n => return if n ≤ 1 then .on else .break (n - 1)
    | .continue n => return .continue (n - 1)
    | .return => return .return

/-- Runs the body once for every field. -/
def runEach (starter : Starter) (name : String) : Nat → List String → Tree → Run Flow
  | 0, _, _ => return .on
  | _, [], _ => return .on
  | fuel + 1, field :: rest, body => do
    setVariable name field
    match ← run starter fuel body with
    | .on | .continue 1 | .continue 0 => runEach starter name fuel rest body
    | .break n => return if n ≤ 1 then .on else .break (n - 1)
    | .continue n => return .continue (n - 1)
    | .return => return .return

/-- Runs the first branch with a pattern that matches. -/
def runBranches (starter : Starter) (subject : String) :
    Nat → List (List Word × Tree) → Run Flow
  | 0, _ => return .on
  | _, [] => do
    setStatus 0
    return .on
  | fuel + 1, (alternatives, body) :: rest => do
    let matching ← alternatives.anyM fun word => do
      let marked := (← expand starter fuel word).filterMap fun t => match t with
        | .char c quoted => some (c, quoted)
        | _ => none
      return globMatches (readGlob marked.length marked) subject.toList
    if matching then
      setStatus 0
      run starter fuel body
    else runBranches starter subject fuel rest

/-- Runs a simple command. -/
def runSimple (starter : Starter) : Nat → List (String × Word) → List Word → List Redirect →
    Run Flow
  | 0, _, _, _ => return .on
  | fuel + 1, assignments, words, redirects => do
    let fields ← expandWords starter fuel words
    if (← get).traced then Proc.say 2 ("+ " ++ " ".intercalate fields ++ "\n")
    let before := (← get).bindings
    for (name, word) in assignments do
      let value ← expandSingle starter fuel word
      setVariable name value
    match fields with
    | [] =>
      let substituted := assignments.any fun (_, w) => w.any fun piece => match piece with
        | .output .. => true
        | _ => false
      unless substituted do setStatus 0
      redirected starter fuel redirects (return .on)
    | "exec" :: operands =>
      if operands.isEmpty then
        if ← applyRedirects starter fuel redirects then
          setStatus 0
          return .on
        else Proc.exit 2
      else redirected starter fuel redirects (runOwn starter fuel "exec" operands)
    | fields =>
      for (name, _) in assignments do exportVariable name
      let flow ← redirected starter fuel redirects (runFields starter fuel fields)
      if !assignments.isEmpty then modify fun s => { s with bindings := before }
      return flow

/-- Runs a command. -/
def run (starter : Starter) : Nat → Tree → Run Flow
  | 0, _ => return .on
  | fuel + 1, tree => do
    match tree with
    | .nothing => return .on
    | .simple line assignments words redirects =>
      modify fun s => { s with line := line }
      let flow ← runSimple starter fuel assignments words redirects
      notice starter fuel
      match flow with
      | .on =>
        if (← get).strict && (← get).status != 0 then finish starter fuel (← get).status
        else return .on
      | flow => return flow
    | .sequence first second =>
      match ← run starter fuel first with
      | .on => run starter fuel second
      | flow => return flow
    | .both left right =>
      match ← relaxed starter fuel left with
      | .on => if (← get).status == 0 then run starter fuel right else return .on
      | flow => return flow
    | .either left right =>
      match ← relaxed starter fuel left with
      | .on => if (← get).status == 0 then return .on else run starter fuel right
      | flow => return flow
    | .negate command =>
      match ← relaxed starter fuel command with
      | .on =>
        setStatus (if (← get).status == 0 then 1 else 0)
        return .on
      | flow => return flow
    | .choose condition whenTrue whenFalse =>
      match ← relaxed starter fuel condition with
      | .on =>
        if (← get).status == 0 then run starter fuel whenTrue
        else
          setStatus 0
          run starter fuel whenFalse
      | flow => return flow
    | .loop awaits condition body => runLoop starter awaits fuel condition body 0
    | .each name words body =>
      let fields ← match words with
        | some ws => expandWords starter fuel ws
        | none => pure (← get).arguments
      setStatus 0
      runEach starter name fuel fields body
    | .select subject branches =>
      let text ← expandSingle starter fuel subject
      runBranches starter text fuel branches
    | .group body redirects => redirected starter fuel redirects (run starter fuel body)
    | .subshell body redirects =>
      let ending ← inChild (redirected starter fuel redirects (run starter fuel body))
      reportEnding ending
      setStatus (endingStatus ending)
      notice starter fuel
      return .on
    | .background command =>
      let pid := (← (get : Proc Machine)).nextPid
      let ending ← inChild (run starter fuel command)
      let _ := ending
      modify fun s => { s with lastBackground := pid, status := 0 }
      return .on
    | .define name body =>
      modify fun s => { s with functions := (name, body) :: s.functions.filter (·.1 != name) }
      setStatus 0
      return .on
    | .pipe left right =>
      match ← Proc.openPipe with
      | .error reason =>
        complain ("Pipe call failed: " ++ reason.sentence)
        setStatus 2
        return .on
      | .ok ends =>
        let fresh ← (get : Proc Machine)
        let pipe := (pipeBehind? fresh (← Proc.self) ends.write).getD 0
        let write : Run Unit := do
          let _ ← inChild do
            let _ ← Proc.duplicateDescriptor ends.write 1
            Proc.closeDescriptor ends.write
            Proc.closeDescriptor ends.read
            run starter fuel left
          Proc.closeDescriptor ends.write
        let read : Run Ending := inChild do
          let _ ← Proc.duplicateDescriptor ends.read 0
          Proc.closeDescriptor ends.read
          run starter fuel right
        write
        let full ← (get : Proc Machine)
        let written := pipeWritten full pipe
        let last ← read
        let room := pipeTaken (← (get : Proc Machine)) pipe + pipeCapacity
        let last ← do
          if written ≤ room then pure last
          else
            (set (foreseePipe fresh full pipe room) : Proc Unit)
            let last ← read
            write
            pure last
        Proc.closeDescriptor ends.read
        reportEnding last
        setStatus (endingStatus last)
        notice starter fuel
        return .on

/-- Runs a command whose failure is expected. -/
def relaxed (starter : Starter) : Nat → Tree → Run Flow
  | 0, _ => return .on
  | fuel + 1, tree => do
    let strict := (← get).strict
    modify fun s => { s with strict := false }
    let flow ← run starter fuel tree
    modify fun s => { s with strict := strict }
    return flow

end

/-- Runs the complete commands of a text one after the other. -/
def runText (starter : Starter) : Nat → Cursor → Run Unit
  | 0, _ => return ()
  | fuel + 1, cursor => do
    if cursor.rest.isEmpty then return
    match (Reader.completeCommand (cursor.rest.length + 1)).run cursor with
    | .error p =>
      Proc.say 2 ((← get).name ++ ": " ++ toString p.line ++ ": " ++ p.message ++ "\n")
      let _ ← finish starter fuel 2
    | .ok (tree, next) =>
      match ← run starter fuel tree with
      | .return => return
      | _ => runText starter fuel next

/-- How the interpreter is called: options, and what it is to run. -/
structure Invocation where
  commands : Bool := false
  strict : Bool := false
  traced : Bool := false
  demanding : Bool := false
  operands : List String := []

/-- Reads the arguments of the interpreter. -/
def readInvocation (i : Invocation) : List String → Invocation
  | [] => i
  | "--" :: rest => { i with operands := rest }
  | word :: rest =>
    match word.toList with
    | '-' :: letter :: more =>
      let letters := letter :: more
      readInvocation
        { i with
          commands := i.commands || letters.contains 'c'
          strict := i.strict || letters.contains 'e'
          traced := i.traced || letters.contains 'x'
          demanding := i.demanding || letters.contains 'u' }
        rest
    | _ => { i with operands := word :: rest }

/-- How many steps an interpreter may take. -/
def stepLimit : Nat := 100000

/-- Runs a text as the interpreter. -/
def interpret (starter : Starter) (i : Invocation) (name : String) (arguments : List String)
    (source : String) : Proc Nat := do
  let p ← Proc.self
  let bindings := p.environment.entries.map fun entry =>
    let name := entry.toList.takeWhile (· != '=')
    let value := entry.toList.drop (name.length + 1)
    (⟨String.ofList name, String.ofList value, true, false⟩ : Variable)
  let state : State :=
    { name := name, arguments := arguments, bindings := bindings, root := p.pid
      strict := i.strict, traced := i.traced, demanding := i.demanding }
  let body : Run Nat := do
    let directory ← workingDirectory
    if directory.isEmpty then
      Proc.say 2 (name ++ ": 0: getcwd() failed: " ++ Errno.noSuchFile.sentence ++ "\n")
    setVariable "PWD" directory
    exportVariable "PWD"
    runText starter stepLimit ⟨source.toList, 1⟩
    let _ ← finish starter stepLimit (← get).status
    return (← get).status
  return (← body.run state).1

/-- The program `sh`. -/
def program (starter : Starter) (name : String) (arguments : List String) : Proc Nat := do
  let options := arguments.takeWhile fun word => word.startsWith "-" && word != "--"
  let unknown := options.flatMap fun word =>
    (word.toList.drop 1).filter fun c => !"aCefIimnqVvuxbEsc".toList.contains c
  if let c :: _ := unknown then
    Proc.say 2 (name ++ ": 0: Illegal option -" ++ String.singleton c ++ "\n")
    return 2
  let i := readInvocation {} arguments
  match i.commands, i.operands with
  | true, [] =>
    Proc.say 2 (name ++ ": 0: -c requires an argument\n")
    return 2
  | true, source :: [] => interpret starter i name [] source
  | true, source :: zero :: more => interpret starter i zero more source
  | false, [] =>
    match ← Proc.readAll 0 with
    | .ok bytes => interpret starter i name [] (Bytes.toText bytes.toList)
    | .error _ => return 2
  | false, path :: more =>
    match ← Proc.contentsOf path with
    | .ok bytes => interpret starter i path more (Bytes.toText bytes.toList)
    | .error reason =>
      let text := if reason == .noSuchFile then "No such file" else reason.sentence
      Proc.say 2 (name ++ ": 0: cannot open " ++ path ++ ": " ++ text ++ "\n")
      return 2

end LineShell.Machine.Sh
