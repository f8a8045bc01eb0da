import LineShell.LineLoop
import LineShell.Proofs.DialogueRuns
import LineShell.Proofs.SourceLines

/-! A loop over the lines of a source as a visit to one line after the other, up to the first that
ends the session or fails. What the loop comes to depends on the lines alone, so a source can be cut
after any line, and its parts be looped over one after the other. -/
namespace LineShell.LineLoops
open Dialogue Source SourceLines LineLoop

/-- Visits lines in their order, until the session ends or one of them fails. -/
def visitAll (loop : LineLoop) : List (List UInt8) → Session → Shell (Session × Except Failure Unit)
  | [], session => return (session, .ok ())
  | bytes :: others, session =>
    if session.exiting then return (session, .ok ())
    else loop.visit session bytes >>= proceed (visitAll loop others)

/-- What the loop does where its source ends, in a session that may have ended before. -/
def finish (loop : LineLoop) (fault : Option IoFault) (session : Session) :
    Shell (Session × Except Failure Unit) :=
  match fault with
  | none => return (session, .ok ())
  | some fault => if session.exiting then return (session, .ok ()) else loop.fail session fault

section Outcomes

variable {next later : Session → Shell (Session × Except Failure Unit)} {session : Session}

/-- Lines that are gone through one after the other can be grouped in any way. -/
theorem proceed_proceed (outcome : Session × Except Failure Unit) :
    proceed next outcome >>= proceed later = proceed (fun s => next s >>= proceed later) outcome := by
  obtain ⟨session, reasons | ⟨⟩⟩ := outcome
  · rfl
  · rfl

theorem proceed_done (outcome : Session × Except Failure Unit) :
    proceed (fun s => .done (s, .ok ())) outcome = .done outcome := by
  obtain ⟨session, reasons | ⟨⟩⟩ := outcome
  · rfl
  · rfl

/-- What goes on with nothing is what has been. -/
theorem bind_proceed_done (program : Shell (Session × Except Failure Unit)) :
    program >>= proceed (fun s => .done (s, .ok ())) = program := by
  rw [funext proceed_done]
  exact bind_done program

end Outcomes

section Loops

variable {loop : LineLoop} {source : Source} {session : Session}

theorem run_exiting (ended : session.exiting = true) :
    loop.run source session = .done (session, .ok ()) := by
  rw [LineLoop.run, if_pos ended]
  rfl

private theorem run_fault {fault : IoFault} (going : session.exiting = false)
    (read : source.readLine = .error fault) : loop.run source session = loop.fail session fault := by
  rw [LineLoop.run, if_neg (by simp [going])]
  split
  · rename_i other same
    cases same.symm.trans read
    rfl
  · rename_i same
    cases same.symm.trans read

private theorem run_end {left : Source} (going : session.exiting = false)
    (read : source.readLine = .ok ([], left)) :
    loop.run source session = .done (session, .ok ()) := by
  rw [LineLoop.run, if_neg (by simp [going])]
  split
  · rename_i same
    cases same.symm.trans read
  · rename_i same
    cases same.symm.trans read
    rfl

private theorem run_line {bytes : List UInt8} {left : Source} (going : session.exiting = false)
    (read : source.readLine = .ok (bytes, left)) (nonempty : bytes ≠ []) :
    loop.run source session = loop.visit session bytes >>= proceed (loop.run left) := by
  rw [LineLoop.run, if_neg (by simp [going])]
  split
  · rename_i same
    cases same.symm.trans read
  · rename_i same
    cases same.symm.trans read
    rw [dif_neg nonempty]
    refine congrArg _ (funext fun result => ?_)
    obtain ⟨after, reasons | ⟨⟩⟩ := result <;> rfl

theorem visitAll_exiting (ended : session.exiting = true) (lines : List (List UInt8)) :
    visitAll loop lines session = .done (session, .ok ()) := by
  cases lines with
  | nil => rfl
  | cons bytes lines => exact if_pos ended

theorem visitAll_cons (going : session.exiting = false) (bytes : List UInt8)
    (lines : List (List UInt8)) :
    visitAll loop (bytes :: lines) session =
      loop.visit session bytes >>= proceed (visitAll loop lines) :=
  if_neg (by simp [going])

theorem visitAll_append (earlier lines : List (List UInt8)) :
    visitAll loop (earlier ++ lines) session =
      visitAll loop earlier session >>= proceed (visitAll loop lines) := by
  induction earlier generalizing session with
  | nil => rfl
  | cons bytes earlier ih =>
    cases ended : session.exiting with
    | true =>
      rw [visitAll_exiting ended, visitAll_exiting ended]
      exact (visitAll_exiting ended lines).symm
    | false =>
      rw [List.cons_append, visitAll_cons ended, visitAll_cons ended, bind_assoc,
        funext proceed_proceed]
      exact congrArg (_ >>= proceed ·) (funext fun _ => ih)

private theorem finish_exiting {fault : Option IoFault} (ended : session.exiting = true) :
    finish loop fault session = .done (session, .ok ()) := by
  cases fault with
  | none => rfl
  | some fault => exact if_pos ended

/-- Nothing is done for a source without any bytes. -/
theorem run_nothing (empty : source.chunks.flatten = []) (faultless : source.fault = none) :
    loop.run source session = .done (session, .ok ()) := by
  cases ended : session.exiting with
  | true => exact run_exiting ended
  | false =>
    have lines : Lines source.chunks.flatten [] [] := ⟨empty, nofun, nofun⟩
    have read := readLine_rest lines
    rw [faultless] at read
    exact run_end ended read

variable {complete : List (List UInt8)} {rest : List UInt8}

private theorem run_eq_of_exiting (ended : session.exiting = true) (lines : List (List UInt8)) :
    loop.run source session =
      visitAll loop lines session >>= proceed (finish loop source.fault) := by
  rw [run_exiting ended, visitAll_exiting ended]
  exact (finish_exiting ended).symm

/-- Without a complete line, at most the rest is visited. -/
private theorem run_rest (lines : Lines source.chunks.flatten [] rest) :
    loop.run source session =
      visitAll loop (linesOf source.fault [] rest) session >>=
        proceed (finish loop source.fault) := by
  cases ended : session.exiting with
  | true => exact run_eq_of_exiting ended _
  | false =>
    have read := readLine_rest lines
    obtain ⟨chunks, fault⟩ := source
    cases fault with
    | some fault =>
      rw [run_fault ended read]
      exact (if_neg (by simp [ended])).symm
    | none =>
      by_cases empty : rest = []
      · subst empty
        exact run_end ended read
      · have only : linesOf none [] rest = [rest] := if_neg empty
        have nothing (after : Session) : loop.run ⟨[], none⟩ after = .done (after, .ok ()) :=
          run_nothing rfl rfl
        rw [run_line ended read empty, only, visitAll_cons ended, bind_assoc, funext nothing,
          funext proceed_proceed]
        rfl

/-- A loop over a source visits the lines of the source. -/
theorem run_eq_visitAll (lines : Lines source.chunks.flatten complete rest) :
    loop.run source session =
      visitAll loop (linesOf source.fault complete rest) session >>=
        proceed (finish loop source.fault) := by
  induction complete generalizing source session with
  | nil => exact run_rest lines
  | cons line complete ih =>
    cases ended : session.exiting with
    | true => exact run_eq_of_exiting ended _
    | false =>
      obtain ⟨chunks, read, further⟩ := readLine_line lines
      have more : linesOf source.fault (line :: complete) rest =
          line :: linesOf source.fault complete rest := linesOf_append source.fault [line] complete rest
      rw [run_line ended read lines.cut.2.2, more, visitAll_cons ended, bind_assoc,
        funext proceed_proceed]
      exact congrArg (_ >>= proceed ·) (funext fun middle => ih further)

/-- How the bytes of a source are cut into chunks makes no difference. -/
theorem run_congr {other : Source} (bytes : source.chunks.flatten = other.chunks.flatten)
    (faulty : source.fault = other.fault) : loop.run source session = loop.run other session := by
  obtain ⟨complete, rest, lines⟩ := exists_lines source.chunks.flatten
  rw [run_eq_visitAll lines, run_eq_visitAll (bytes ▸ lines), faulty]

/-- A source that begins with complete lines is looped over by looping over these first and then over
the others. -/
theorem run_append {earlier later : Source}
    (whole : earlier.chunks.flatten ++ later.chunks.flatten = source.chunks.flatten)
    (closed : ∀ last ∈ earlier.chunks.flatten.getLast?, last = lineFeed)
    (faultless : earlier.fault = none) (faulty : later.fault = source.fault) :
    loop.run source session = loop.run earlier session >>= proceed (loop.run later) := by
  obtain ⟨first, tail, begins⟩ := exists_lines earlier.chunks.flatten
  obtain ⟨second, left, goesOn⟩ := exists_lines later.chunks.flatten
  obtain rfl := begins.closed closed
  have both : Lines source.chunks.flatten (first ++ second) left := whole ▸ begins.append goesOn
  have only : linesOf earlier.fault first [] = first := by simp [faultless, linesOf]
  have further (middle : Session) : loop.run later middle = _ := run_eq_visitAll goesOn
  have idle : finish loop earlier.fault = fun s => .done (s, .ok ()) := by rw [faultless]; rfl
  rw [run_eq_visitAll both, run_eq_visitAll begins, only, idle, bind_proceed_done, linesOf_append,
    visitAll_append, bind_assoc, funext proceed_proceed, funext further, faulty]

end Loops

end LineShell.LineLoops
