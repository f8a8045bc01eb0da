import LineShell.Signal

/-! How a child ended, as the system tells a process that waits for it. -/
namespace LineShell

/-- The answer of the system about a child. -/
inductive WaitStatus where
  | exited (pid : Nat) (code : Nat)
  | signaled (pid : Nat) (signal : Signal) (core : Bool)
  /-- The child is suspended and may go on. -/
  | stopped (pid : Nat) (signal : Signal)
  deriving DecidableEq, Repr

namespace WaitStatus

/-- The exit code of a child that ended: its own status, or 128 and the number of the signal
that ended it. -/
def code? : WaitStatus → Option Int
  | exited _ code => some code
  | signaled _ signal _ => some (128 + signal.number)
  | stopped .. => none

/-- The status as it stands in diagnostics. -/
def render : WaitStatus → String
  | exited pid code => "Exited(Pid(" ++ toString pid ++ "), " ++ toString code ++ ")"
  | signaled pid signal core =>
    "Signaled(Pid(" ++ toString pid ++ "), " ++ signal.name?.getD "?" ++ ", " ++
      toString core ++ ")"
  | stopped pid signal =>
    "Stopped(Pid(" ++ toString pid ++ "), " ++ signal.name?.getD "?" ++ ")"

end WaitStatus

end LineShell
