/-! The signals a process may be ended with. Only the numbers 1 to 31 have names; the numbers
above are free for programs to use and carry no meaning of their own. -/
namespace LineShell

/-- A signal by its number. -/
structure Signal where
  number : Nat
  deriving DecidableEq, Repr

namespace Signal

/-! The signals that this library tells apart. -/

def interrupt : Signal := ⟨2⟩
def kill : Signal := ⟨9⟩
def brokenPipe : Signal := ⟨13⟩
def terminate : Signal := ⟨15⟩
def child : Signal := ⟨17⟩
def stop : Signal := ⟨19⟩
def suspend : Signal := ⟨20⟩

/-- The names without their common beginning, from number 1 on. -/
def shortNames : List String :=
  ["HUP", "INT", "QUIT", "ILL", "TRAP", "ABRT", "BUS", "FPE", "KILL", "USR1", "SEGV", "USR2",
   "PIPE", "ALRM", "TERM", "STKFLT", "CHLD", "CONT", "STOP", "TSTP", "TTIN", "TTOU", "URG",
   "XCPU", "XFSZ", "VTALRM", "PROF", "WINCH", "IO", "PWR", "SYS"]

/-- The name without its common beginning, of a signal that has one. -/
def shortName? (s : Signal) : Option String :=
  if s.number == 0 then none else shortNames[s.number - 1]?

/-- The name of a signal that has one. -/
def name? (s : Signal) : Option String :=
  s.shortName?.map ("SIG" ++ ·)

/-- The signal with a given short name. -/
def ofShortName? (name : String) : Option Signal :=
  (shortNames.findIdx? (· == name)).map fun i => ⟨i + 1⟩

/-- The signals the shell passes on to the job it waits for instead of obeying them. -/
def relayed : List Signal :=
  [interrupt, suspend]

/-- Whether the signal, left to itself, does no harm to the process that gets it. -/
def isHarmless (s : Signal) : Bool :=
  s.number == 0 || s.number == 17 || s.number == 18 || s.number == 23 || s.number == 28

/-- Whether the signal, left to itself, suspends the process that gets it. -/
def isSuspending (s : Signal) : Bool :=
  s.number == 19 || s.number == 20 || s.number == 21 || s.number == 22

end Signal

end LineShell
