import LineShell.Signal

/-! The foreground slot names the one process that gets the signals the shell is sent for its
job. A guard puts a process into the slot when it is created, and whichever guard goes away
empties the slot, also when another one was created since. -/
namespace LineShell

/-- The slot, 0 while the shell is idle. -/
structure Foreground where
  slot : Int := 0
  deriving DecidableEq, Repr

namespace Foreground

/-- The process signals go to. Numbers that are not positive name groups of processes and are
never used. -/
def job? (f : Foreground) : Option Int :=
  if f.slot > 0 then some f.slot else none

/-- Where a signal is passed on to: the process and the signal it gets. -/
def forward? (f : Foreground) (signal : Signal) : Option (Int × Signal) :=
  f.job?.map (·, signal)

end Foreground

/-- The slot together with the guards that are alive, oldest first. -/
structure Guards where
  foreground : Foreground := {}
  living : List Int := []
  deriving DecidableEq, Repr

namespace Guards

/-- A new guard for a process. -/
def create (g : Guards) (pid : Int) : Guards :=
  ⟨⟨pid⟩, g.living ++ [pid]⟩

/-- The guard at a position goes away. -/
def release (g : Guards) (position : Nat) : Guards :=
  if position < g.living.length then ⟨⟨0⟩, g.living.eraseIdx position⟩ else g

end Guards

end LineShell
