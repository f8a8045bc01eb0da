import LineShell.Builtin
import LineShell.Source

/-! The loop over the lines of a source. What is done with a line, and where the source has a fault,
is all that tells the lines of a script from those of a user. -/
namespace LineShell

/-- What a loop does with a line, and where its source has a fault. -/
structure LineLoop where
  visit : Session → List UInt8 → Shell (Session × Except Failure Unit)
  fail : Session → IoFault → Shell (Session × Except Failure Unit)

namespace LineLoop

/-- Goes on in the session that lines have left, unless they have ended the shell. -/
def proceed (next : Session → Shell (Session × Except Failure Unit)) :
    Session × Except Failure Unit → Shell (Session × Except Failure Unit)
  | (session, .error reasons) => return (session, .error reasons)
  | (session, .ok ()) => next session

/-- Visits the lines of a source in order, until it ends or the session does. -/
def run (loop : LineLoop) (source : Source) (session : Session) :
    Shell (Session × Except Failure Unit) :=
  if session.exiting then return (session, .ok ())
  else match h : source.readLine with
    | .error fault => loop.fail session fault
    | .ok (bytes, rest) =>
      if nonempty : bytes = [] then return (session, .ok ())
      else do
        match ← loop.visit session bytes with
        | (session, .error reasons) => return (session, .error reasons)
        | (session, .ok ()) =>
          have := Source.readLine_size h nonempty
          run loop rest session
termination_by source.size

end LineLoop

end LineShell
