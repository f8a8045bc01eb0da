/-! Numbers as tools write and read them. -/
namespace LineShell.Machine.Number

/-- The digits of a number in a base up to sixteen. -/
def digits (base n : Nat) : String :=
  String.ofList (Nat.toDigits base n)

/-- Text filled with blanks on its left up to a width. -/
def padLeft (width : Nat) (text : String) : String :=
  String.ofList (List.replicate (width - text.length) ' ') ++ text

/-- A decimal number with an optional sign. -/
def decimal? (text : String) : Option Int :=
  let (negative, digits) := match text.toList with
    | '-' :: rest => (true, rest)
    | '+' :: rest => (false, rest)
    | rest => (false, rest)
  if digits.isEmpty || !digits.all Char.isDigit then none
  else
    let value : Nat := digits.foldl (fun n c => n * 10 + (c.toNat - '0'.toNat)) 0
    some (if negative then -(value : Int) else value)

/-- The number that the text writes in decimal digits alone. -/
def natural? (text : String) : Option Nat :=
  if text.toList.all Char.isDigit then (decimal? text).map Int.toNat else none

/-- The value of a digit in octal or hexadecimal notation. -/
def digitValue? (base : Nat) (c : Char) : Option Nat :=
  let value :=
    if c.isDigit then some (c.toNat - '0'.toNat)
    else if 'a' ≤ c && c ≤ 'f' then some (c.toNat - 'a'.toNat + 10)
    else if 'A' ≤ c && c ≤ 'F' then some (c.toNat - 'A'.toNat + 10)
    else none
  value.filter (· < base)

/-- Reads at most a number of digits: their value, how many there are, and what follows. -/
def takeDigits (base : Nat) : Nat → List Char → Nat × Nat × List Char
  | 0, cs => (0, 0, cs)
  | most + 1, cs =>
    go most 0 0 cs
where
  go : Nat → Nat → Nat → List Char → Nat × Nat × List Char
    | _, value, count, [] => (value, count, [])
    | most, value, count, c :: rest =>
      match digitValue? base c with
      | none => (value, count, c :: rest)
      | some d =>
        match most with
        | 0 => (value * base + d, count + 1, rest)
        | most + 1 => go most (value * base + d) (count + 1) rest

end LineShell.Machine.Number
