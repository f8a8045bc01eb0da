import LineShell.Machine.Tool.Basic

/-! Searching lines for a pattern of characters, sets of characters, repetitions and anchors. -/
namespace LineShell.Machine.Tool

/-- What one place of a pattern takes. -/
inductive Atom where
  | one (b : UInt8)
  | any
  | set (negated : Bool) (members : List (UInt8 × UInt8))

/-- Whether the atom takes the byte, letters compared without case if `fold`. -/
def Atom.takes (fold : Bool) (atom : Atom) (b : UInt8) : Bool :=
  let lower (b : UInt8) : UInt8 := if 65 ≤ b && b ≤ 90 then b + 32 else b
  match atom with
  | one c => if fold then lower b == lower c else b == c
  | any => true
  | set negated members =>
    (members.any fun (low, high) => low ≤ b && b ≤ high) != negated

/-- An atom and whether it may stand any number of times. -/
abbrev Pattern := List (Atom × Bool)

/-- The members of a set up to its closing bracket, and what follows. -/
def readSet : Nat → List UInt8 → List (UInt8 × UInt8) × List UInt8
  | 0, cs => ([], cs)
  | _, [] => ([], [])
  | _, 93 :: rest => ([], rest)
  | fuel + 1, low :: 45 :: high :: rest =>
    if high == 93 then ([(low, low), (45, 45)], rest)
    else
      let (more, after) := readSet fuel rest
      ((low, high) :: more, after)
  | fuel + 1, b :: rest =>
    let (more, after) := readSet fuel rest
    ((b, b) :: more, after)

/-- Reads a pattern. At most `fuel` bytes are looked at. -/
def readPattern : Nat → List UInt8 → Pattern
  | 0, _ => []
  | fuel + 1, cs =>
    let next : Option (Atom × List UInt8) := match cs with
      | [] => none
      | 92 :: b :: rest => some (.one b, rest)
      | 46 :: rest => some (.any, rest)
      | 91 :: 94 :: rest =>
        let (members, after) := readSet rest.length rest
        some (.set true members, after)
      | 91 :: rest =>
        let (members, after) := readSet rest.length rest
        some (.set false members, after)
      | b :: rest => some (.one b, rest)
    match next with
    | none => []
    | some (atom, 42 :: rest) => (atom, true) :: readPattern fuel rest
    | some (atom, rest) => (atom, false) :: readPattern fuel rest

/-- Whether a pattern takes a beginning of the bytes, or all of them if it is anchored there. -/
def matchesHere (fold atEnd : Bool) : Pattern → List UInt8 → Bool
  | [], rest => !atEnd || rest.isEmpty
  | (_, true) :: more, [] => matchesHere fold atEnd more []
  | (_, false) :: _, [] => false
  | (atom, false) :: more, b :: rest => atom.takes fold b && matchesHere fold atEnd more rest
  | (atom, true) :: more, b :: rest =>
    matchesHere fold atEnd more (b :: rest) ||
      (atom.takes fold b && matchesHere fold atEnd ((atom, true) :: more) rest)
termination_by pattern bytes => (bytes.length, pattern.length)

/-- Whether a pattern is found somewhere in a line. -/
def foundIn (fold atEnd : Bool) (pattern : Pattern) : List UInt8 → Bool
  | [] => matchesHere fold atEnd pattern []
  | b :: rest => matchesHere fold atEnd pattern (b :: rest) || foundIn fold atEnd pattern rest

/-- Whether a pattern is found in a line, where its anchors allow. -/
def found (fold atStart atEnd : Bool) (pattern : Pattern) (line : List UInt8) : Bool :=
  if atStart then matchesHere fold atEnd pattern line else foundIn fold atEnd pattern line

/-- The tool `grep`. -/
def grep : Tool := fun name arguments => do
  let (options, operands) := letters arguments
  match operands with
  | [] =>
    Proc.say 2 ("Usage: grep [OPTION]... PATTERNS [FILE]...\n" ++
      "Try 'grep --help' for more information.\n")
    return 2
  | text :: files =>
    let cs := Bytes.ofText text
    let fixed := options.contains 'F'
    let (atStart, cs) := match fixed, cs with
      | false, 94 :: rest => (true, rest)
      | _, cs => (false, cs)
    let atEnd := !fixed && cs.getLast? == some 36
    let cs := if atEnd then cs.dropLast else cs
    let pattern := if fixed then cs.map fun b => (Atom.one b, false) else readPattern cs.length cs
    let matching (line : List UInt8) : Bool :=
      found (options.contains 'i') atStart atEnd pattern line != options.contains 'v'
    let mut any := false
    let mut failed := false
    for file in if files.isEmpty then ["-"] else files do
      match ← input file with
      | .error reason =>
        complain name (file ++ ": " ++ reason.sentence)
        failed := true
      | .ok bytes =>
        let numbered := (Bytes.lines bytes).1.mapIdx fun i line => (i + 1, line)
        let hits := numbered.filter fun (_, line) => matching line
        if !hits.isEmpty then any := true
        let titled := files.length > 1 && !options.contains 'h'
        let title := if titled then Bytes.ofText (file ++ ":") else []
        if options.contains 'q' then pure ()
        else if options.contains 'c' then
          emit name (title ++ Bytes.ofText (toString hits.length ++ "\n"))
        else if options.contains 'l' then
          if !hits.isEmpty then emitText name (file ++ "\n")
        else
          emit name <| hits.flatMap fun (i, line) =>
            title ++ (if options.contains 'n' then Bytes.ofText (toString i ++ ":") else []) ++
              line ++ [10]
    return if failed then 2 else if any then 0 else 1

end LineShell.Machine.Tool
