import LineShell.Machine.Basic
import LineShell.Machine.Bytes
import LineShell.Machine.Number
import LineShell.Machine.Quote

/-! What the tools of the machine have in common: how they read their input, write their output
and complain. -/
namespace LineShell.Machine

/-- A tool with the name it was called by and its arguments; it ends with its exit status. -/
abbrev Tool := String → List String → Proc Nat

namespace Tool

/-- Writes an error under the name of the tool. -/
def complain (name message : String) : Proc Unit :=
  Proc.say 2 (name ++ ": " ++ message ++ "\n")

/-- The status of a tool that could not write. -/
def writeFailureStatus (name : String) : Nat :=
  match name with
  | "ls" | "sort" | "grep" => 2
  | "env" => 125
  | _ => 1

/-- Writes output; a tool that cannot write says so in its own words and ends. -/
def emitOr (failure name : String) (bytes : ByteArray) : Proc Unit := do
  if !bytes.isEmpty then
    match ← Proc.writeBytes 1 bytes with
    | .ok () => return
    | .error reason =>
      complain name (failure ++ ": " ++ reason.sentence)
      Proc.exit (writeFailureStatus name)

/-- Writes output on behalf of a tool that calls a failure a write error. -/
def emit (name : String) (bytes : List UInt8) : Proc Unit :=
  emitOr "write error" name (Bytes.ofList bytes)

/-- Writes the text to standard output. -/
def emitText (name text : String) : Proc Unit :=
  emit name (Bytes.ofText text)

/-- The bytes of an operand: a file, or standard input for a hyphen. -/
def input (operand : String) : Proc (Except Errno (List UInt8)) := do
  let bytes ← if operand == "-" then Proc.readAll 0 else Proc.contentsOf operand
  return bytes.map ByteArray.toList

/-- The bytes of all operands one after the other, or of standard input without any; a missing
file is complained of. The flag tells whether all could be read. -/
def inputs (name : String) (operands : List String) : Proc (List UInt8 × Bool) := do
  let operands := if operands.isEmpty then ["-"] else operands
  let mut all := []
  let mut good := true
  for operand in operands do
    match ← input operand with
    | .ok bytes => all := all ++ bytes
    | .error reason =>
      complain name (Quote.ifNeeded operand ++ ": " ++ reason.sentence)
      good := false
  return (all, good)

/-- Options are single letters behind one hyphen. They may stand between the operands, and end at
two hyphens. -/
def letters : List String → List Char × List String
  | "--" :: rest => ([], rest)
  | argument :: rest =>
    let (found, operands) := letters rest
    match argument.toList with
    | '-' :: c :: more => (c :: more ++ found, operands)
    | _ => (found, argument :: operands)
  | [] => ([], [])

/-- What a tool says about an option it does not have. -/
def refuseOption (name : String) (c : Char) : Proc Unit := do
  complain name ("invalid option -- '" ++ String.singleton c ++ "'")
  Proc.say 2 ("Try '" ++ name ++ " --help' for more information.\n")

/-- The options and operands of a tool; over an option it does not have it ends with a status. -/
def optionsOf (name known : String) (status : Nat) (arguments : List String) :
    Proc (List Char × List String) := do
  let long := (arguments.takeWhile (· != "--")).find? (·.startsWith "--")
  if let some word := long then
    complain name ("unrecognized option '" ++ word ++ "'")
    Proc.say 2 ("Try '" ++ name ++ " --help' for more information.\n")
    Proc.exit status
  let (options, operands) := letters arguments
  if let some c := options.find? (!known.toList.contains ·) then
    refuseOption name c
    Proc.exit status
  return (options, operands)

end Tool

end LineShell.Machine
