import LineShell.Errno

/-! How file and stream operations fail, and the text of each failure. -/
namespace LineShell

/-- The failure of a file or stream operation. -/
inductive IoFault where
  | refused (reason : Errno)
  /-- A path holds a NUL and cannot be handed to the system. -/
  | nulInPath
  /-- What was read is not a text. -/
  | notText
  | other (text : String)
  deriving DecidableEq, Repr

/-- The sentence shown for the fault. -/
def IoFault.message : IoFault → String
  | refused reason => reason.sentence ++ " (os error " ++ toString reason.number ++ ")"
  | nulInPath => "file name contained an unexpected NUL byte"
  | notText => "stream did not contain valid UTF-8"
  | other text => text

end LineShell
