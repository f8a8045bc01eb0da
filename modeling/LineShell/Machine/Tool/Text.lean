import LineShell.Machine.Tool.Basic

/-! The tools that read bytes and write bytes. -/
namespace LineShell.Machine.Tool

/-- What is output at once rather than at the end. -/
def bufferSize : Nat := 4096

/-- How many bytes a tool takes at once. -/
def pieceSize : Nat := 65536

/-- Writes what a descriptor gives, piece by piece. -/
def copyOut (name : String) (descriptor : Nat) : Nat → Proc (Except Errno Unit)
  | 0 => return .ok ()
  | fuel + 1 => do
    match ← Proc.readBytes descriptor pieceSize with
    | .error reason => return .error reason
    | .ok piece =>
      if piece.isEmpty then return .ok ()
      emitOr "write error" name piece
      copyOut name descriptor fuel

/-- A byte of a line as `cat` makes it visible. -/
def visible (tabs : Bool) (b : UInt8) : List UInt8 :=
  let plain (b : UInt8) : List UInt8 :=
    if b < 32 then [94, b + 64] else if b == 127 then [94, 63] else [b]
  if b == 9 then if tabs then [94, 73] else [9]
  else if b < 128 then plain b
  else [77, 45] ++ plain (b - 128)

/-- The lines of `cat` with the marks asked for, numbered from a number on; and the number after
them. -/
def markLines (options : List Char) (next : Nat) (bytes : List UInt8) : List UInt8 × Nat :=
  let has (cs : String) : Bool := cs.toList.any options.contains
  let (ls, openEnd) := Bytes.lines bytes
  let mark (state : List UInt8 × Nat) (line : List UInt8) (ended : Bool) : List UInt8 × Nat :=
    let numbered := has "b" && !line.isEmpty || has "n" && !has "b"
    let number :=
      if numbered then Bytes.ofText (Number.padLeft 6 (toString state.2) ++ "\t") else []
    let text :=
      if has "vAet" then line.flatMap (visible (has "TAt"))
      else if has "T" then line.flatMap fun b => if b == 9 then [94, 73] else [b]
      else line
    let close := if ended then (if has "EAe" then [36, 10] else [10]) else []
    (state.1 ++ number ++ text ++ close, if numbered then state.2 + 1 else state.2)
  let whole := if openEnd then ls.dropLast else ls
  let marked := whole.foldl (fun state line => mark state line true) ([], next)
  match openEnd, ls.getLast? with
  | true, some last => mark marked last false
  | _, _ => marked

/-- The tool `cat`: the operands one after the other. -/
def cat : Tool := fun name arguments => do
  let (options, operands) ← optionsOf name "AbeEnstTuv" 1 arguments
  let pieces := Proc.readLimit / pieceSize
  let plain := options.all (· == 'u')
  let mut status := 0
  let mut next := 1
  for operand in if operands.isEmpty then ["-"] else operands do
    let mut outcome : Except Errno Unit := .ok ()
    if plain then
      if operand == "-" then outcome ← copyOut name 0 pieces
      else match ← Proc.openPath operand { reading := true } true with
        | .error reason => outcome := .error reason
        | .ok descriptor =>
          outcome ← copyOut name descriptor pieces
          Proc.closeDescriptor descriptor
    else match ← input operand with
      | .error reason => outcome := .error reason
      | .ok bytes =>
        let (marked, after) := markLines options next bytes
        next := after
        emit name marked
    if let .error reason := outcome then
      complain name (Quote.ifNeeded operand ++ ": " ++ reason.sentence)
      status := 1
  return status

/-- The characters of a class of `tr`. -/
def classMembers (name : String) : List UInt8 :=
  let all := (List.range 128).map Nat.toUInt8
  let of (p : Char → Bool) := all.filter fun b => p (Char.ofNat b.toNat)
  match name with
  | "upper" => of Char.isUpper
  | "lower" => of Char.isLower
  | "alpha" => of Char.isAlpha
  | "digit" => of Char.isDigit
  | "alnum" => of Char.isAlphanum
  | "space" => all.filter Bytes.isBlank
  | "blank" => [9, 32]
  | "punct" => of fun c => 0x21 ≤ c.toNat && c.toNat ≤ 0x7E && !c.isAlphanum
  | _ => []

/-- One member of a set of `tr`, with backslashes carried out, and what follows it. -/
def setMember : List UInt8 → Option (UInt8 × List UInt8)
  | [] => none
  | 92 :: 110 :: rest => some (10, rest)
  | 92 :: 116 :: rest => some (9, rest)
  | 92 :: 114 :: rest => some (13, rest)
  | 92 :: 92 :: rest => some (92, rest)
  | 92 :: 48 :: rest => some (0, rest)
  | 92 :: b :: rest => some (b, rest)
  | b :: rest => some (b, rest)

/-- The members of a set of `tr` in their order. At most `fuel` bytes are looked at. -/
def setMembers : Nat → List UInt8 → List UInt8
  | 0, _ => []
  | fuel + 1, cs =>
    match cs with
    | 91 :: 58 :: rest =>
      let name := rest.takeWhile (· != 58)
      match rest.drop name.length with
      | 58 :: 93 :: after => classMembers (Bytes.toText name) ++ setMembers fuel after
      | _ => 91 :: setMembers fuel (58 :: rest)
    | cs =>
      match setMember cs with
      | none => []
      | some (first, 45 :: rest) =>
        match setMember rest with
        | none => first :: setMembers fuel (45 :: rest)
        | some (last, after) =>
          (List.range (last.toNat + 1 - first.toNat)).map (fun i => (first.toNat + i).toUInt8) ++
            setMembers fuel after
      | some (b, rest) => b :: setMembers fuel rest

/-- What takes the place of a byte; a second set that is too short goes on with its last
member. -/
def replacement (source target : List UInt8) (b : UInt8) : UInt8 :=
  match source.findIdx? (· == b) with
  | none => b
  | some i => (target[i]?.or target.getLast?).getD b

/-- Runs of a member of the set become one. -/
def squeeze (members : UInt8 → Bool) (bytes : List UInt8) : List UInt8 :=
  (bytes.foldl
    (fun (done, last) b =>
      if some b == last && members b then (done, last) else (b :: done, some b))
    (([], none) : List UInt8 × Option UInt8)).1.reverse

/-- The tool `tr`. -/
def tr : Tool := fun name arguments => do
  let isOption (word : String) : Bool := word.startsWith "-" && word != "-"
  let given := arguments.takeWhile isOption
  let (options, more) ← optionsOf name "cCdst" 1 given
  let operands := more ++ arguments.dropWhile isOption
  let sets := operands.map fun s =>
    let bytes := Bytes.ofText s
    setMembers (bytes.length + 1) bytes
  let (deleting, squeezing) := (options.contains 'd', options.contains 's')
  let complement := options.contains 'c' || options.contains 'C'
  match sets with
  | [] =>
    complain name "missing operand"
    Proc.say 2 ("Try '" ++ name ++ " --help' for more information.\n")
    return 1
  | _ :: _ :: _ :: _ =>
    complain name ("extra operand '" ++ operands.getD 2 "" ++ "'")
    Proc.say 2 ("Try '" ++ name ++ " --help' for more information.\n")
    return 1
  | first :: more =>
    let source := if complement then
        ((List.range 256).map Nat.toUInt8).filter fun b => !first.contains b
      else first
    if more.isEmpty && !deleting && !squeezing then
      complain name ("missing operand after '" ++ operands.headD "" ++ "'")
      Proc.say 2 ("Two strings must be given when translating.\n" ++
        "Try '" ++ name ++ " --help' for more information.\n")
      return 1
    match ← input "-" with
    | .error reason =>
      complain name ("read error: " ++ reason.sentence)
      return 1
    | .ok bytes =>
      let bytes :=
        if deleting then bytes.filter fun b => !source.contains b
        else match more with
          | target :: _ => bytes.map (replacement source target)
          | [] => bytes
      let bytes :=
        if squeezing then squeeze ((more.getLast?.getD source).contains ·) bytes else bytes
      emit name bytes
      return 0

/-- Lines in which equal neighbours stand once. -/
def distinct (ls : List (List UInt8)) : List (List UInt8) :=
  ls.foldr (fun line kept => if kept.head? == some line then kept else line :: kept) []

/-- The tool `sort`: byte by byte, or by the number at the start of the line. -/
def sort : Tool := fun name arguments => do
  let (options, operands) ← optionsOf name "bdfgiMhnRrVcCmsuz" 2 arguments
  let mut bytes := []
  for operand in if operands.isEmpty then ["-"] else operands do
    match ← input operand with
    | .ok found => bytes := bytes ++ found
    | .error reason =>
      complain name ((if reason == .isDirectory then "read failed: " else "cannot read: ") ++
        Quote.ifNeeded operand ++ ": " ++ reason.sentence)
      return 2
  let numeric := options.contains 'n'
  let before (a b : List UInt8) : Bool :=
    if numeric then
      let (m, n) := (Bytes.leadingNumber a, Bytes.leadingNumber b)
      m < n || (m == n && Bytes.le a b)
    else Bytes.le a b
  let ordered := (Bytes.lines bytes).1.mergeSort before
  let ordered := if options.contains 'r' then ordered.reverse else ordered
  let kept := if options.contains 'u' then distinct ordered else ordered
  let output := Bytes.ofList (Bytes.unlines kept)
  if output.size ≥ bufferSize then emitOr "write failed: 'standard output'" name output
  else match ← Proc.writeBytes 1 output with
    | .ok () => return 0
    | .error reason =>
      complain name ("fflush failed: 'standard output': " ++ reason.sentence)
      complain name "write error"
      return 2
  return 0

/-- Runs of equal lines with their lengths. -/
def runs (ls : List (List UInt8)) : List (Nat × List UInt8) :=
  ls.foldr
    (fun line found => match found with
      | (n, other) :: rest => if line == other then (n + 1, line) :: rest else (1, line) :: found
      | [] => [(1, line)])
    []

/-- The tool `uniq`. -/
def uniq : Tool := fun name arguments => do
  let (options, operands) ← optionsOf name "cdDiuz" 1 arguments
  let (bytes, good) ← inputs name (operands.take 1)
  if !good then return 1
  let found := (runs (Bytes.lines bytes).1).filter fun (n, _) =>
    (!options.contains 'd' || n > 1) && (!options.contains 'u' || n == 1)
  emit name <| found.flatMap fun (n, line) =>
    (if options.contains 'c' then Bytes.ofText (Number.padLeft 7 (toString n) ++ " ") else []) ++
      line ++ [10]
  return 0

/-- The counts of `wc` that were asked for, in their fixed order. -/
def counts (options : List Char) (bytes : List UInt8) : List Nat :=
  let all := options.all fun c => c != 'l' && c != 'w' && c != 'c' && c != 'm'
  (if all || options.contains 'l' then [bytes.count 10] else []) ++
    (if all || options.contains 'w' then [Bytes.wordCount bytes] else []) ++
    (if options.contains 'm' then [bytes.length] else []) ++
    (if all || options.contains 'c' then [bytes.length] else [])

/-- Whether a descriptor leads to a file with a size. -/
def isRegular (descriptor : Nat) : Proc Bool := do
  match ← Proc.openFile? descriptor with
  | some (_, ⟨.node id, _, _, _, _⟩) =>
    match (← Proc.fileSystem).content? id with
    | some (.file _) => return true
    | _ => return false
  | _ => return false

/-- The tool `wc`: columns are as wide as the greatest size needs. -/
def wc : Tool := fun name arguments => do
  let (options, operands) ← optionsOf name "clLmw" 1 arguments
  let files := if operands.isEmpty then ["-"] else operands
  let regular ← isRegular 0
  let mut rows := []
  let mut size := 0
  let mut least := 1
  let mut status := 0
  for file in files do
    match ← input file with
    | .error reason =>
      complain name (Quote.ifNeeded file ++ ": " ++ reason.sentence)
      status := 1
      if reason == .isDirectory then
        least := 7
        rows := rows ++ [(counts options [], " " ++ file)]
    | .ok bytes =>
      if file == "-" && !regular then least := 7 else size := size + bytes.length
      let label := if operands.isEmpty then "" else " " ++ file
      rows := rows ++ [(counts options bytes, label)]
  let width :=
    if files.length == 1 && (counts options []).length == 1 then 1
    else Nat.max least (toString size).length
  let total := rows.foldl (fun sums (row, _) => List.zipWith (· + ·) sums row)
    ((counts options []).map fun _ => 0)
  let shown := if files.length > 1 then rows ++ [(total, " total")] else rows
  let lines := shown.map fun (row, label) =>
    " ".intercalate (row.map fun n => Number.padLeft width (toString n)) ++ label ++ "\n"
  match ← Proc.writeBytes 1 (String.join lines).toUTF8 with
  | .ok () => return status
  | .error _ =>
    complain name "write error"
    return 1

/-- How much of its input a tool takes. -/
inductive Extent where
  | lines (n : Nat)
  | bytes (n : Nat)
  | fromLine (n : Nat)
  | fromByte (n : Nat)
  /-- All but the last lines. -/
  | butLines (n : Nat)
  /-- All but the last bytes. -/
  | butBytes (n : Nat)

/-- The number of an option. A sign turns the count around: a plus sign for `tail`, a minus sign
for `head`. -/
def extent? (fromEnd inBytes : Bool) (text : String) : Option Extent := do
  match text.toList with
  | '+' :: rest =>
    let n ← Number.natural? (String.ofList rest)
    return if fromEnd then if inBytes then .fromByte n else .fromLine n
      else if inBytes then .bytes n else .lines n
  | '-' :: rest =>
    let n ← Number.natural? (String.ofList rest)
    return if fromEnd then if inBytes then .bytes n else .lines n
      else if inBytes then .butBytes n else .butLines n
  | _ =>
    let n ← Number.natural? text
    return if inBytes then .bytes n else .lines n

/-- What is wrong with the arguments of `head` or `tail`. -/
inductive ExtentFault where
  | badNumber (inBytes : Bool) (text : String)
  | noNumber (c : Char)
  | badOption (c : Char)

/-- What the arguments of `head` or `tail` ask for. -/
structure ExtentRequest where
  extent : Extent := .lines 10
  /-- Titles are shown always or never, rather than over several files. -/
  titles : Option Bool := none
  operands : List String := []

/-- Reads the arguments of `head` or `tail`. -/
def extentRequest (fromEnd : Bool) : ExtentRequest → List String →
    Except ExtentFault ExtentRequest
  | request, [] => .ok request
  | request, argument :: rest =>
    let read (inBytes : Bool) (text : String) : Except ExtentFault ExtentRequest :=
      match extent? fromEnd inBytes text with
      | some e => .ok { request with extent := e }
      | none => .error (.badNumber inBytes text)
    match argument.toList with
    | ['-', '-'] => .ok { request with operands := request.operands ++ rest }
    | ['-', 'n'] => match rest with
      | value :: rest => (read false value).bind fun r => extentRequest fromEnd r rest
      | [] => .error (.noNumber 'n')
    | ['-', 'c'] => match rest with
      | value :: rest => (read true value).bind fun r => extentRequest fromEnd r rest
      | [] => .error (.noNumber 'c')
    | '-' :: 'n' :: value =>
      (read false (String.ofList value)).bind fun r => extentRequest fromEnd r rest
    | '-' :: 'c' :: value =>
      (read true (String.ofList value)).bind fun r => extentRequest fromEnd r rest
    | ['-', 'q'] => extentRequest fromEnd { request with titles := some false } rest
    | ['-', 'v'] => extentRequest fromEnd { request with titles := some true } rest
    | '-' :: c :: value =>
      if c.isDigit then
        (read false (String.ofList (c :: value))).bind fun r => extentRequest fromEnd r rest
      else .error (.badOption c)
    | _ => extentRequest fromEnd { request with operands := request.operands ++ [argument] } rest

/-- The first lines of some bytes with their ends. -/
def firstLines : Nat → List UInt8 → List UInt8
  | 0, _ => []
  | _, [] => []
  | n + 1, b :: rest => b :: firstLines (if b == 10 then n else n + 1) rest

/-- What `head` takes. -/
def takeHead : Extent → List UInt8 → List UInt8
  | .lines n, bytes | .fromLine n, bytes => firstLines n bytes
  | .bytes n, bytes | .fromByte n, bytes => bytes.take n
  | .butLines n, bytes =>
    let (ls, openEnd) := Bytes.lines bytes
    Bytes.rejoin (ls.take (ls.length - n)) (openEnd && n == 0)
  | .butBytes n, bytes => bytes.take (bytes.length - n)

/-- What `tail` takes. -/
def takeTail : Extent → List UInt8 → List UInt8
  | .lines n, bytes =>
    let (ls, openEnd) := Bytes.lines bytes
    Bytes.rejoin (ls.drop (ls.length - n)) (openEnd && n != 0)
  | .bytes n, bytes => bytes.drop (bytes.length - n)
  | .fromLine n, bytes => bytes.drop (firstLines (n - 1) bytes).length
  | .fromByte n, bytes => bytes.drop (n - 1)
  | .butLines _, bytes | .butBytes _, bytes => bytes

/-- What is still to be taken after some bytes; none when nothing is. -/
def Extent.after? (extent : Extent) (bytes : ByteArray) : Option Extent :=
  match extent with
  | .lines n | .fromLine n =>
    let left := n - bytes.toList.count 10
    if left == 0 then none else some (.lines left)
  | .bytes n | .fromByte n =>
    let left := n - bytes.size
    if left == 0 then none else some (.bytes left)
  | .butLines _ | .butBytes _ => some extent

/-- How many bytes `head` takes at once. -/
def headPiece : Extent → Nat
  | .bytes n | .fromByte n => Nat.min n 8192
  | _ => 8192

/-- Reads from a descriptor, piece by piece, until enough is there or nothing is left. -/
def readEnough (descriptor : Nat) : Nat → Extent → ByteArray → Proc (Except Errno ByteArray)
  | 0, _, found => return .ok found
  | fuel + 1, extent, found => do
    match ← Proc.readBytes descriptor (headPiece extent) with
    | .error reason => return .error reason
    | .ok piece =>
      if piece.isEmpty then return .ok found
      match extent.after? piece with
      | none => return .ok (found ++ piece)
      | some left => readEnough descriptor fuel left (found ++ piece)

/-- Reads what is needed of a descriptor, and leaves the rest of a file to whoever reads next. -/
def readPart (descriptor : Nat) (extent : Extent) : Proc (Except Errno (List UInt8)) := do
  let some extent := extent.after? ByteArray.empty | return .ok []
  match ← readEnough descriptor (Proc.readLimit / 512) extent ByteArray.empty with
  | .error reason => return .error reason
  | .ok bytes =>
    let bytes := bytes.toList
    let part := takeHead extent bytes
    if ← isRegular descriptor then
      if let some (index, _) ← Proc.openFile? descriptor then
        Proc.updateOpenFile index fun f =>
          { f with offset := f.offset - (bytes.length - part.length) }
    return .ok part

/-- The part of an operand that `head` shows. -/
def headOf (operand : String) (extent : Extent) : Proc (Except Errno (List UInt8)) := do
  if operand == "-" then readPart 0 extent
  else match ← Proc.openPath operand { reading := true } true with
    | .error reason => return .error reason
    | .ok descriptor =>
      let part ← readPart descriptor extent
      Proc.closeDescriptor descriptor
      return part

/-- Shows a part of every operand, under titles if there are several. -/
def showParts (name : String) (titles : Option Bool) (operands : List String)
    (part : String → Proc (Except Errno (List UInt8))) : Proc Nat := do
  let files := if operands.isEmpty then ["-"] else operands
  let mut status := 0
  let mut first := true
  for file in files do
    match ← part file with
    | .error reason =>
      if reason == .isDirectory then
        complain name ("error reading " ++ Quote.always file ++ ": " ++ reason.sentence)
      else
        complain name ("cannot open " ++ Quote.always file ++ " for reading: " ++ reason.sentence)
      status := 1
    | .ok bytes =>
      if titles.getD (files.length > 1) then
        let title := if file == "-" then "standard input" else file
        emitText name ((if first then "" else "\n") ++ "==> " ++ title ++ " <==\n")
      emitOr (if bytes.length ≥ bufferSize then "error writing 'standard output'"
        else "write error") name (Bytes.ofList bytes)
      first := false
  return status

/-- A tool that shows a part of its input. -/
def showing (fromEnd : Bool) (part : Extent → String → Proc (Except Errno (List UInt8))) : Tool :=
  fun name arguments => do
    match extentRequest fromEnd {} arguments with
    | .ok request => showParts name request.titles request.operands (part request.extent)
    | .error (.badNumber inBytes value) =>
      complain name ("invalid number of " ++ (if inBytes then "bytes" else "lines") ++ ": '" ++
        value ++ "'")
      return 1
    | .error (.noNumber c) =>
      complain name ("option requires an argument -- '" ++ String.singleton c ++ "'")
      Proc.say 2 ("Try '" ++ name ++ " --help' for more information.\n")
      return 1
    | .error (.badOption c) =>
      refuseOption name c
      return 1

/-- `head`: the first part of each file. -/
def head : Tool := showing false fun extent file => headOf file extent

/-- `tail`: the last part of each file. -/
def tail : Tool := showing true fun extent file => do
  return (← input file).map (takeTail extent)

/-- The tool `tee`: standard output and every operand. -/
def tee : Tool := fun name arguments => do
  let (options, operands) ← optionsOf name "aip" 1 arguments
  match ← input "-" with
  | .error _ => return 1
  | .ok bytes =>
    let mut status := 0
    for operand in operands do
      let mode : Proc.OpenMode :=
        { writing := true, create := true, truncate := !options.contains 'a'
          append := options.contains 'a' }
      match ← Proc.openPath operand mode true with
      | .error reason =>
        complain name (Quote.ifNeeded operand ++ ": " ++ reason.sentence)
        status := 1
      | .ok descriptor =>
        let _ ← Proc.writeBytes descriptor (Bytes.ofList bytes)
        Proc.closeDescriptor descriptor
    emitOr "'standard output'" name (Bytes.ofList bytes)
    return status

/-- A tool that changes every line. -/
def mapLines (change : List (List UInt8) → List (List UInt8)) : Tool := fun name arguments => do
  let (_, operands) ← optionsOf name "" 1 arguments
  let (bytes, good) ← inputs name operands
  emit name (Bytes.unlines (change (Bytes.lines bytes).1))
  return if good then 0 else 1

/-- `rev`: every line backwards. -/
def rev : Tool := mapLines (·.map List.reverse)

/-- `tac`: the lines, the last one first. -/
def tac : Tool := mapLines List.reverse

/-- The positions of a list such as `1,3-5,7-`. -/
def inList (spec : String) (position : Nat) : Bool :=
  (spec.splitOn ",").any fun piece =>
    match piece.splitOn "-" with
    | [one] => Number.natural? one == some position
    | [first, last] =>
      (Number.natural? first).getD 1 ≤ position &&
        (last.isEmpty || position ≤ (Number.natural? last).getD 0)
    | _ => false

/-- The value of an option, in the same argument or in the next. -/
def optionValue? (letter : Char) : List String → Option String
  | [] => none
  | argument :: rest =>
    match argument.toList with
    | '-' :: c :: value =>
      if c == letter then
        if value.isEmpty then rest.head? else some (String.ofList value)
      else optionValue? letter rest
    | _ => optionValue? letter rest

/-- The arguments of `cut` that are neither options nor their values. -/
def cutOperands : List String → List String
  | [] => []
  | argument :: rest =>
    match argument.toList with
    | ['-', c] =>
      if c == '-' then rest
      else if "dfcb".toList.contains c then cutOperands (rest.drop 1) else cutOperands rest
    | '-' :: _ :: _ => cutOperands rest
    | _ => argument :: cutOperands rest
termination_by arguments => arguments.length
decreasing_by all_goals simp; try omega

/-- The tool `cut`: fields between a separator, or bytes. -/
def cut : Tool := fun name arguments => do
  let separator := ((optionValue? 'd' arguments).map Bytes.ofText).bind List.head? |>.getD 9
  let fields := optionValue? 'f' arguments
  let bytesAt := (optionValue? 'c' arguments).or (optionValue? 'b' arguments)
  if fields.isNone && bytesAt.isNone then
    complain name "you must specify a list of bytes, characters, or fields"
    Proc.say 2 ("Try '" ++ name ++ " --help' for more information.\n")
    return 1
  let (bytes, good) ← inputs name (cutOperands arguments)
  let change (line : List UInt8) : List UInt8 :=
    match fields, bytesAt with
    | some spec, _ =>
      if !line.contains separator then line
      else
        let kept := ((line.splitOn separator).mapIdx fun i piece => (i + 1, piece)).filter
          fun (i, _) => inList spec i
        [separator].intercalate (kept.map (·.2))
    | none, some spec =>
      ((line.mapIdx fun i b => (i + 1, b)).filter fun (i, _) => inList spec i).map (·.2)
    | none, none => line
  emit name (Bytes.unlines ((Bytes.lines bytes).1.map change))
  return if good then 0 else 1

/-- The tool `yes`: its words again and again, as long as somebody may take them. -/
def yes : Tool := fun name arguments => do
  let line := (" ".intercalate (if arguments.isEmpty then ["y"] else arguments) ++ "\n").toUTF8
  let block := (List.range (Nat.max 1 (8192 / line.size))).foldl (fun b _ => b ++ line)
    ByteArray.empty
  for _ in List.range 64 do emitOr "standard output" name block
  complain name ("standard output: " ++ Errno.brokenPipe.sentence)
  return 1

end LineShell.Machine.Tool
