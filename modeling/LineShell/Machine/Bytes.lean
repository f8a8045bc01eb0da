/-! Bytes as lines, words and numbers, the way simple tools look at them. -/
namespace LineShell.Machine.Bytes

/-- The byte that ends a line. -/
def lineFeed : UInt8 := 10

/-- The bytes as an array. -/
def ofList (bytes : List UInt8) : ByteArray :=
  ⟨bytes.toArray⟩

/-- The text in UTF-8. -/
def ofText (text : String) : List UInt8 :=
  text.toUTF8.toList

/-- The bytes as text, when they are text, and else byte by byte. -/
def toText (bytes : List UInt8) : String :=
  match String.fromUTF8? (ofList bytes) with
  | some text => text
  | none => String.ofList (bytes.map fun b => Char.ofNat b.toNat)

/-- The lines without their ends, and whether the last one has none. -/
def lines (bytes : List UInt8) : List (List UInt8) × Bool :=
  let (done, line) := bytes.foldl
    (fun (done, line) b =>
      if b == lineFeed then (line.reverse :: done, []) else (done, b :: line))
    (([], []) : List (List UInt8) × List UInt8)
  if line.isEmpty then (done.reverse, false) else ((line.reverse :: done).reverse, true)

/-- Lines with their ends. -/
def unlines (ls : List (List UInt8)) : List UInt8 :=
  ls.flatMap (· ++ [lineFeed])

/-- Lines with their ends, the last one without if it had none. -/
def rejoin (ls : List (List UInt8)) (openEnd : Bool) : List UInt8 :=
  let all := unlines ls
  if openEnd then all.dropLast else all

/-- The ASCII blank characters. -/
def isBlank (b : UInt8) : Bool :=
  b == 32 || (9 ≤ b && b ≤ 13)

/-- The number of words between blanks. -/
def wordCount (bytes : List UInt8) : Nat :=
  (bytes.foldl
    (fun (count, inside) b =>
      if isBlank b then (count, false) else if inside then (count, true) else (count + 1, true))
    ((0, false) : Nat × Bool)).1

/-- Order byte by byte, a beginning before what goes on. -/
def le : List UInt8 → List UInt8 → Bool
  | [], _ => true
  | _ :: _, [] => false
  | a :: as, b :: bs => if a == b then le as bs else a < b

/-- The number at the start of a line, after blanks. -/
def leadingNumber (bytes : List UInt8) : Int :=
  let rest := bytes.dropWhile isBlank
  let (negative, rest) := match rest with
    | 45 :: rest => (true, rest)
    | rest => (false, rest)
  let value : Nat := (rest.takeWhile fun b => 48 ≤ b && b ≤ 57).foldl
    (fun n b => n * 10 + (b.toNat - 48)) 0
  if negative then -(value : Int) else value

end LineShell.Machine.Bytes
