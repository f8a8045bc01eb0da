/-! The bounds a line is held to. A line that is too long in bytes is cut; one with too many
stages or words is refused later, when it is read as a pipeline. -/
namespace LineShell

/-- The bounds of a line. -/
structure Limits where
  /-- The most bytes of a line that are looked at. -/
  maxLine : Nat := 1024
  /-- The most stages of a pipeline. -/
  maxStages : Nat := 10
  /-- The most words of a stage, its name included. -/
  maxWords : Nat := 10
  deriving DecidableEq, Repr

namespace Limits

/-- The largest number the machine counts to. -/
def maxCount : Nat := UInt64.size - 1

/-- Bounds that the machine can hold. -/
structure Fits (limits : Limits) : Prop where
  line : limits.maxLine ≤ maxCount
  stages : limits.maxStages ≤ maxCount
  words : limits.maxWords ≤ maxCount

/-- One more than a bound, so that an excess is noticed. The largest number stays as it is. -/
def oneBeyond (bound : Nat) : Nat :=
  min (bound + 1) maxCount

end Limits

/-- The longest beginning of the characters that takes at most `room` bytes. -/
def takeBytes : Nat → List Char → List Char
  | _, [] => []
  | room, c :: rest =>
    if c.utf8Size ≤ room then c :: takeBytes (room - c.utf8Size) rest else []

/-- The longest beginning of a line that consists of whole characters and takes at most
`maxBytes` bytes. -/
def cutLine (line : String) (maxBytes : Nat) : String :=
  String.ofList (takeBytes maxBytes line.toList)

end LineShell
