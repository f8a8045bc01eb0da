/-! Reading bytes as UTF-8. A byte sequence splits in one way into encoded characters and
faults, where a fault is a longest proper start of an encoded character or a single byte that
starts none. The lossy reading puts a replacement character for each fault, so the damage of
one fault never spreads to the well-formed bytes around it. -/
namespace LineShell.Text.Utf8

/-- A character under way: the value of the bytes read so far, how many bytes are missing after
the next one, and the range the next byte has to lie in. The ranges exclude overlong forms,
surrogates and values beyond U+10FFFF at the second byte, where the encoding decides them. -/
structure Unfinished where
  value : Nat
  missing : Nat
  low : Nat
  high : Nat

/-- What a byte means at the start of a character. -/
inductive Lead where
  | complete (c : Char)
  | unfinished (u : Unfinished)
  | fault

/-- The meaning of a byte at the start of a character. -/
def lead (b : UInt8) : Lead :=
  let n := b.toNat
  if n < 0x80 then .complete (Char.ofNat n)
  else if n < 0xC2 then .fault
  else if n < 0xE0 then .unfinished ⟨n - 0xC0, 0, 0x80, 0xBF⟩
  else if n == 0xE0 then .unfinished ⟨0, 1, 0xA0, 0xBF⟩
  else if n == 0xED then .unfinished ⟨0xD, 1, 0x80, 0x9F⟩
  else if n < 0xF0 then .unfinished ⟨n - 0xE0, 1, 0x80, 0xBF⟩
  else if n == 0xF0 then .unfinished ⟨0, 2, 0x90, 0xBF⟩
  else if n < 0xF4 then .unfinished ⟨n - 0xF0, 2, 0x80, 0xBF⟩
  else if n == 0xF4 then .unfinished ⟨4, 2, 0x80, 0x8F⟩
  else .fault

/-- One byte at the start of a character: what it completes and what stays under way. A fault
is written `none`. -/
def begin (b : UInt8) : List (Option Char) × Option Unfinished :=
  match lead b with
  | .complete c => ([some c], none)
  | .unfinished u => ([], some u)
  | .fault => ([none], none)

/-- One byte of the text: what it completes and what stays under way. A byte that cannot go on
with the character under way ends that one as a fault and is read as a start of its own. -/
def step (under : Option Unfinished) (b : UInt8) : List (Option Char) × Option Unfinished :=
  match under with
  | none => begin b
  | some u =>
    if u.low ≤ b.toNat && b.toNat ≤ u.high then
      let value := u.value * 64 + (b.toNat - 0x80)
      if u.missing == 0 then ([some (Char.ofNat value)], none)
      else ([], some ⟨value, u.missing - 1, 0x80, 0xBF⟩)
    else
      let (read, next) := begin b
      (none :: read, next)

/-- The characters and faults of a byte sequence, given what is under way before it. -/
def scalarsFrom : Option Unfinished → List UInt8 → List (Option Char)
  | none, [] => []
  | some _, [] => [none]
  | under, b :: rest =>
    let (read, next) := step under b
    read ++ scalarsFrom next rest

/-- The characters of a byte sequence in order, with `none` for each fault. -/
def scalars (bytes : List UInt8) : List (Option Char) :=
  scalarsFrom none bytes

/-- The text of a byte sequence, with a replacement character for each fault. -/
def decodeLossy (bytes : List UInt8) : String :=
  String.ofList ((scalars bytes).map (·.getD '\uFFFD'))

/-- The text of a byte sequence that has no fault. -/
def decode? (bytes : List UInt8) : Option String :=
  ((scalars bytes).mapM id).map String.ofList

/-- The bytes of a text. -/
def encode (s : String) : List UInt8 :=
  s.toUTF8.toList

end LineShell.Text.Utf8
