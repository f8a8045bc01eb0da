import LineShell.Machine.Tool.Basic

/-! Output with escapes and formats: the backslash notation, and the formats of `printf`. -/
namespace LineShell.Machine.Format

/-- One character of the backslash notation and what follows it; nothing for the escape that
ends all output. -/
def escape (zeroOctal : Bool) : List Char → Option (List UInt8 × List Char)
  | 'n' :: rest => some ([10], rest)
  | 't' :: rest => some ([9], rest)
  | 'r' :: rest => some ([13], rest)
  | 'a' :: rest => some ([7], rest)
  | 'b' :: rest => some ([8], rest)
  | 'f' :: rest => some ([12], rest)
  | 'v' :: rest => some ([11], rest)
  | 'e' :: rest => some ([27], rest)
  | '\\' :: rest => some ([92], rest)
  | 'c' :: _ => none
  | 'x' :: rest =>
    let (value, count, after) := Number.takeDigits 16 2 rest
    if count == 0 then some (Bytes.ofText "\\x", rest) else some ([value.toUInt8], after)
  | c :: rest =>
    if zeroOctal && c == '0' then
      let (value, _, after) := Number.takeDigits 8 3 rest
      some ([value.toUInt8], after)
    else if !zeroOctal && '0' ≤ c && c ≤ '7' then
      let (value, _, after) := Number.takeDigits 8 3 (c :: rest)
      some ([value.toUInt8], after)
    else some (Bytes.ofText (String.ofList ['\\', c]), rest)
  | [] => some ([92], [])

/-- Text with its backslash notation carried out, and whether all of it is to be written. At most
`fuel` characters are looked at. -/
def unescape (zeroOctal : Bool) : Nat → List Char → List UInt8 × Bool
  | 0, _ => ([], true)
  | _, [] => ([], true)
  | fuel + 1, '\\' :: rest =>
    match escape zeroOctal rest with
    | none => ([], false)
    | some (bytes, after) =>
      let (more, whole) := unescape zeroOctal fuel after
      (bytes ++ more, whole)
  | fuel + 1, c :: rest =>
    let (more, whole) := unescape zeroOctal fuel rest
    (Bytes.ofText (String.singleton c) ++ more, whole)

/-- A directive of a format. -/
structure Directive where
  flags : List Char
  width : Nat
  precision : Option Nat
  conversion : Char

/-- Reads a directive after its percent sign. -/
def directive? (cs : List Char) : Option (Directive × List Char) :=
  let flags := cs.takeWhile fun c => c == '-' || c == '+' || c == ' ' || c == '0' || c == '#'
  let (width, _, rest) := Number.takeDigits 10 9 (cs.drop flags.length)
  let (precision, rest) := match rest with
    | '.' :: rest =>
      let (value, _, rest) := Number.takeDigits 10 9 rest
      (some value, rest)
    | rest => (none, rest)
  match rest with
  | c :: rest => some (⟨flags, width, precision, c⟩, rest)
  | [] => none

/-- Fills a field up to its width. -/
def fill (d : Directive) (bytes : List UInt8) : List UInt8 :=
  let missing := d.width - bytes.length
  if d.flags.contains '-' then bytes ++ List.replicate missing 32
  else List.replicate missing 32 ++ bytes

/-- A number in its field. -/
def number (d : Directive) (n : Int) : List UInt8 :=
  let base := match d.conversion with
    | 'o' => 8
    | 'x' | 'X' => 16
    | _ => 10
  let digits := Number.digits base n.natAbs
  let digits := if d.conversion == 'X' then digits.toUpper else digits
  let digits := String.ofList (List.replicate (d.precision.getD 1 - digits.length) '0') ++ digits
  let sign := if n < 0 then "-" else if d.flags.contains '+' then "+"
    else if d.flags.contains ' ' then " " else ""
  let zeros :=
    if d.flags.contains '0' && !d.flags.contains '-' && d.precision.isNone then
      String.ofList (List.replicate (d.width - digits.length - sign.length) '0')
    else ""
  fill d (Bytes.ofText (sign ++ zeros ++ digits))

/-- What a pass over the format has written, what is left of the arguments, whether output goes
on, whether an argument was used, and the arguments that are no numbers. -/
structure Pass where
  bytes : List UInt8 := []
  arguments : List String
  goesOn : Bool := true
  used : Bool := false
  wrong : List String := []
  /-- A directive that means nothing, where the output ended. -/
  invalid : Option String := none

/-- Adds one directive to a pass. -/
def apply (d : Directive) (p : Pass) : Pass :=
  let argument := p.arguments.headD ""
  let used := { p with arguments := p.arguments.tail, used := p.used || !p.arguments.isEmpty }
  match d.conversion with
  | '%' => { p with bytes := p.bytes ++ [37] }
  | 's' =>
    let bytes := Bytes.ofText argument
    let bytes := match d.precision with
      | some most => bytes.take most
      | none => bytes
    { used with bytes := p.bytes ++ fill d bytes }
  | 'b' =>
    let (bytes, whole) := unescape true (argument.length + 1) argument.toList
    { used with bytes := p.bytes ++ fill d bytes, goesOn := whole }
  | 'c' => { used with bytes := p.bytes ++ fill d ((Bytes.ofText argument).take 1) }
  | _ =>
    let value := if argument.isEmpty then some 0 else match argument.toList with
      | '\'' :: c :: _ | '"' :: c :: _ => some (c.toNat : Int)
      | _ => Number.decimal? argument
    match value with
    | some n => { used with bytes := p.bytes ++ number d n }
    | none =>
      { used with bytes := p.bytes ++ number d 0, wrong := p.wrong ++ [argument] }

/-- One pass over the format. At most `fuel` characters are looked at. -/
def pass : Nat → List Char → Pass → Pass
  | 0, _, p => p
  | _, [], p => p
  | fuel + 1, '\\' :: rest, p =>
    match escape false rest with
    | none => { p with goesOn := false }
    | some (bytes, after) => pass fuel after { p with bytes := p.bytes ++ bytes }
  | fuel + 1, '%' :: rest, p =>
    match directive? rest with
    | none => { p with goesOn := false, invalid := some ("%" ++ String.ofList rest) }
    | some (d, after) =>
      if !"%sbcdiouxX".toList.contains d.conversion then
        let length := rest.length - after.length
        { p with goesOn := false, invalid := some ("%" ++ String.ofList (rest.take length)) }
      else
        let p := apply d p
        if p.goesOn then pass fuel after p else p
  | fuel + 1, c :: rest, p =>
    pass fuel rest { p with bytes := p.bytes ++ Bytes.ofText (String.singleton c) }

/-- The format is used again as long as arguments are left over and it takes some. -/
def passes (format : List Char) : Nat → Pass → Pass
  | 0, p => p
  | fuel + 1, p =>
    let p := pass (format.length + 1) format { p with used := false }
    if p.goesOn && p.used && !p.arguments.isEmpty then passes format fuel p else p

/-- The words in which a fault of `printf` is told. -/
structure Wording where
  notNumber : String → String
  invalid : String → String
  /-- Whether arguments that the format does not take are worth a warning. -/
  warns : Bool

/-- The tool `printf`. -/
def printfWith (wording : Wording) : Tool := fun name arguments => do
  let arguments := match arguments with
    | "--" :: rest => rest
    | rest => rest
  match arguments with
  | [] =>
    Tool.complain name "missing operand"
    Proc.say 2 ("Try '" ++ name ++ " --help' for more information.\n")
    return 1
  | format :: operands =>
    let p := passes format.toList (operands.length + 1) { arguments := operands }
    for wrong in p.wrong do
      Tool.complain name (wording.notNumber wrong)
    if let some directive := p.invalid then
      Tool.complain name (wording.invalid directive)
    if let (true, true, some first) := (wording.warns, p.goesOn, p.arguments.head?) then
      Tool.complain name ("warning: ignoring excess arguments, starting with '" ++ first ++ "'")
    Tool.emit name p.bytes
    return if p.wrong.isEmpty && p.invalid.isNone then 0 else 1

/-- The tool `printf` in its own words. -/
def printf : Tool :=
  printfWith ⟨fun argument => "'" ++ argument ++ "': expected a numeric value",
    (· ++ ": invalid conversion specification"), true⟩

/-- The tool `printf` in the words of the command interpreter. -/
def printfOwn : Tool :=
  printfWith ⟨(· ++ ": expected numeric value"), (· ++ ": invalid directive"), false⟩

/-- The words of `echo` between blanks, with a line end unless it is unwanted. -/
def echoText (escapes newline zeroOctal : Bool) (words : List String) : List UInt8 :=
  let text := " ".intercalate words
  let (bytes, whole) :=
    if escapes then unescape zeroOctal (text.length + 1) text.toList
    else (Bytes.ofText text, true)
  if newline && whole then bytes ++ [10] else bytes

/-- Whether a word is a bundle of options of `echo`. -/
def isEchoOption (word : String) : Bool :=
  match word.toList with
  | '-' :: c :: rest => (c :: rest).all fun c => c == 'n' || c == 'e' || c == 'E'
  | _ => false

/-- The tool `echo`: the backslash notation is carried out only on demand. -/
def echo : Tool := fun name arguments => do
  let options := (arguments.takeWhile isEchoOption).flatMap fun o => o.toList.drop 1
  let escapes := (options.filter (· != 'n')).getLast? == some 'e'
  Tool.emit name
    (echoText escapes (!options.contains 'n') true (arguments.dropWhile isEchoOption))
  return 0

end LineShell.Machine.Format
