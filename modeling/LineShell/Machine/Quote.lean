import LineShell.Machine.Number

/-! File names as they stand in the messages of the tools: in quotes that the command language
would read back to the same name. -/
namespace LineShell.Machine.Quote

/-- A byte that is written by its number or letter. -/
def isHidden (b : UInt8) : Bool := b < 32 || b ≥ 127

/-- The notation of a hidden byte. -/
def escape (b : UInt8) : String :=
  match b.toNat with
  | 7 => "\\a"
  | 8 => "\\b"
  | 9 => "\\t"
  | 10 => "\\n"
  | 11 => "\\v"
  | 12 => "\\f"
  | 13 => "\\r"
  | n =>
    let digits := Number.digits 8 n
    "\\" ++ String.ofList (List.replicate (3 - digits.length) '0') ++ digits

/-- The characters that mean something to the command language, wherever they stand. -/
def isSpecial (b : UInt8) : Bool :=
  " !\"$&'()*;<=>?[\\^`|:".toList.any fun c => c.toNat == b.toNat

/-- Whether a name cannot stand without quotes. -/
def needsQuotes (bytes : List UInt8) : Bool :=
  bytes.any (fun b => isHidden b || isSpecial b) ||
    match bytes with
    | [] => true
    | [b] => b == 35 || b == 126 || b == 123 || b == 125
    | b :: _ => b == 35 || b == 126

/-- A name between single quotes. Hidden bytes stand outside of them, in a notation of their own;
the flag tells whether the one before was hidden. -/
def single : Bool → List UInt8 → String
  | _, [] => "'"
  | hidden, b :: rest =>
    if isHidden b then (if hidden then "" else "'$'") ++ escape b ++ single true rest
    else
      (if hidden then "''" else "") ++
        (if b == 39 then "'\\''" else String.singleton (Char.ofNat b.toNat)) ++ single false rest

/-- A name in quotes. Double quotes are taken where only an apostrophe asks for them. -/
def always (name : String) : String :=
  let bytes := name.toUTF8.toList
  let plain := bytes.all fun b => !isHidden b && b != 34 && b != 36 && b != 92 && b != 96
  if bytes.contains 39 && plain then "\"" ++ name ++ "\"" else "'" ++ single false bytes

/-- A name, in quotes if it needs them. -/
def ifNeeded (name : String) : String :=
  if needsQuotes name.toUTF8.toList then always name else name

end LineShell.Machine.Quote
