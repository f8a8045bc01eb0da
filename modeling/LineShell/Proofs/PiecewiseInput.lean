import LineShell.Program
import LineShell.Proofs.LineLoops
import LineShell.Proofs.LinePlans
import LineShell.Proofs.PipelineCalls
import LineShell.Proofs.ScriptLines
import LineShell.Proofs.SessionFrame

/-! Input that arrives in pieces. The shell evaluates the complete lines of a piece before it reads
the next one, and keeps what a piece has of an unfinished line. However the input is cut into pieces,
this comes to a loop over the lines of the whole input, with the same calls in the same order. -/
namespace LineShell.PiecewiseInput
open Dialogue Source LineLoop LineLoops LinePlans Program ScriptLines

/-- A program with its input at hand. It reads the chunks of the source one after the other, and then
its end or its fault, as often as it likes. Whatever else it asks is asked as before. -/
def supply {α : Type} : Shell α → Source → Shell α
  | .done value, _ => .done value
  | .ask .read next, ⟨piece :: pieces, fault⟩ => supply (next (.ok piece)) ⟨pieces, fault⟩
  | .ask .read next, ⟨[], none⟩ => supply (next (.ok [])) ⟨[], none⟩
  | .ask .read next, ⟨[], some fault⟩ => supply (next (.error fault)) ⟨[], some fault⟩
  | .ask call next, source => .ask call fun answer => supply (next answer) source
  | .insist call settled next, source =>
    .insist call settled fun answer => supply (next answer) source

/-- The call takes no input. -/
def Unread : Call → Prop
  | .read => False
  | _ => True

/-- The program takes no input, whatever it is answered. -/
structure Abstains {α : Type} (program : Shell α) : Prop where
  -- A structure of one field, since a goal that is `Only` itself is unfolded along with its program.
  only : Only Unread program

section Supply

variable {α β : Type} {program : Shell α} {next : α → Shell β} {source : Source}

theorem Abstains.done (value : α) : Abstains (.done value) :=
  ⟨trivial⟩

theorem Abstains.bind (abstains : Abstains program) (further : ∀ value, Abstains (next value)) :
    Abstains (program >>= next) :=
  ⟨abstains.only.bind fun value => (further value).only⟩

theorem Abstains.request {call : Call} (unread : Unread call) :
    Abstains (Dialogue.request call) :=
  ⟨Only.request unread⟩

theorem Abstains.ask {call : Call} {further : call.Answer → Shell β} (unread : Unread call)
    (abstains : ∀ answer, Abstains (further answer)) :
    Abstains (Dialogue.request call >>= further) :=
  (Abstains.request unread).bind abstains

/-- What reads nothing leaves the whole input to what follows. -/
theorem supply_bind (abstains : Abstains program) :
    supply (program >>= next) source = program >>= fun value => supply (next value) source := by
  obtain ⟨only⟩ := abstains
  induction program with
  | done value => rfl
  | ask call further ih =>
    have same : (fun answer => supply (further answer >>= next) source) =
        fun answer => further answer >>= fun value => supply (next value) source :=
      funext fun answer => ih answer (only.2 answer)
    have here := only.1
    cases call with
    | read => cases here
    | _ => exact congrArg (Dialogue.ask _) same
  | insist call settled further ih =>
    exact congrArg (Dialogue.insist call settled) (funext fun answer => ih answer (only.2 answer))

theorem supply_of_abstains (abstains : Abstains program) : supply program source = program := by
  have alone : program >>= Dialogue.done = program := bind_done program
  rw [← alone, supply_bind abstains]
  rfl

/-- What reads nothing after a program is of no concern for its input. -/
theorem supply_bind_of_abstains (abstains : ∀ value, Abstains (next value)) :
    supply (program >>= next) source = supply program source >>= next := by
  induction program generalizing source with
  | done value => exact supply_of_abstains (abstains value)
  | ask call further ih =>
    have same : (fun answer => supply (further answer >>= next) source) =
        fun answer => supply (further answer) source >>= next :=
      funext fun answer => ih answer
    cases call with
    | read =>
      obtain ⟨_ | ⟨piece, pieces⟩, _ | fault⟩ := source
      all_goals exact ih _
    | _ => exact congrArg (Dialogue.ask _) same
  | insist call settled further ih =>
    exact congrArg (Dialogue.insist call settled) (funext fun answer => ih answer)

end Supply

/-! ### Loops -/

/-- Nothing that a loop does for a line, or for a fault, takes input. -/
structure Contained (loop : LineLoop) : Prop where
  visit : ∀ session bytes, Abstains (loop.visit session bytes)
  fail : ∀ session fault, Abstains (loop.fail session fault)

section Loops

variable {loop : LineLoop} {session : Session}

private theorem proceed_abstains {next : Session → Shell (Session × Except Failure Unit)}
    (further : ∀ session, Abstains (next session)) (outcome : Session × Except Failure Unit) :
    Abstains (proceed next outcome) := by
  obtain ⟨session, reasons | ⟨⟩⟩ := outcome
  · exact .done _
  · exact further session

private theorem visitAll_abstains (contained : Contained loop) (lines : List (List UInt8))
    (session : Session) : Abstains (visitAll loop lines session) := by
  induction lines generalizing session with
  | nil => exact .done _
  | cons bytes lines ih =>
    rw [visitAll]
    split
    · exact .done _
    · exact (contained.visit session bytes).bind (proceed_abstains ih)

/-- A loop reads nothing by itself: the lines that it goes over have been read for it. -/
theorem Contained.run (contained : Contained loop) (source : Source) (session : Session) :
    Abstains (loop.run source session) := by
  obtain ⟨complete, rest, lines⟩ := SourceLines.exists_lines source.chunks.flatten
  rw [run_eq_visitAll lines]
  refine (visitAll_abstains contained _ session).bind (proceed_abstains fun after => ?_)
  unfold finish
  split
  · exact .done _
  · split
    · exact .done _
    · exact contained.fail after _

/-- What is cut off after the last line feed leaves nothing, or bytes that end with it. -/
theorem cutLastLine_eq (bytes : List UInt8) :
    (cutLastLine bytes).1 ++ (cutLastLine bytes).2 = bytes ∧
      ∀ last ∈ (cutLastLine bytes).1.getLast?, last = lineFeed := by
  let lines := (bytes.reverse.dropWhile (· != lineFeed)).reverse
  let rest := (bytes.reverse.takeWhile (· != lineFeed)).reverse
  have parts : lines ++ rest = bytes := by
    rw [← List.reverse_append, List.takeWhile_append_dropWhile, List.reverse_reverse]
  have kept : (cutLastLine bytes).1 = lines := by
    change bytes.take (bytes.length - rest.length) = lines
    have sizes := congrArg List.length parts
    rw [List.length_append] at sizes
    rw [← sizes, Nat.add_sub_cancel, ← parts, List.take_left]
  refine ⟨kept ▸ parts, fun last ends => ?_⟩
  rw [kept, List.getLast?_reverse, Option.mem_def] at ends
  have found := List.head?_dropWhile_not (· != lineFeed) bytes.reverse
  rw [ends] at found
  simpa using found

private theorem supply_proceed {next : Session → Shell (Session × Except Failure Unit)}
    {source : Source} (outcome : Session × Except Failure Unit) :
    supply (proceed next outcome) source =
      proceed (fun session => supply (next session) source) outcome := by
  obtain ⟨session, reasons | ⟨⟩⟩ := outcome
  · rfl
  · rfl

private theorem supply_feed_exiting {source : Source} {rounds : Nat} {before : List UInt8}
    (ended : session.exiting = true) :
    supply (feed loop (rounds + 1) before session) source = .done (session, .ok ()) := by
  rw [feed, if_pos ended]
  rfl

/-- Without a piece left there is only an unfinished line, for the end or the fault to come to. -/
private theorem supply_feed_end (contained : Contained loop) {fault : Option IoFault} {rounds : Nat}
    (going : session.exiting = false) (before : List UInt8) :
    supply (feed loop (rounds + 2) before session) ⟨[], fault⟩ =
      loop.run ⟨[before], fault⟩ session := by
  rw [feed, going]
  cases fault with
  | some fault => exact supply_of_abstains (contained.run ⟨[before], some fault⟩ session)
  | none =>
    cases before with
    | nil => exact (run_nothing rfl rfl).symm
    | cons byte before =>
      -- The end of the input is read once more after the line that it has ended.
      have nothing (after : Session) :
          supply (feed loop (rounds + 1) [] after) ⟨[], none⟩ = .done (after, .ok ()) := by
        rw [feed]
        cases after.exiting <;> rfl
      change supply (loop.run ⟨[byte :: before], none⟩ session >>=
        proceed (feed loop (rounds + 1) [])) ⟨[], none⟩ = _
      rw [supply_bind (contained.run _ _), funext supply_proceed, funext nothing]
      exact bind_proceed_done _

/-- Of a piece the complete lines are looped over, with what was there before it, and the rest is kept
for the piece that follows. -/
private theorem supply_feed_piece (contained : Contained loop) {fault : Option IoFault} {rounds : Nat}
    {before piece : List UInt8} {pieces : List (List UInt8)} (going : session.exiting = false)
    (nonempty : piece ≠ []) :
    supply (feed loop (rounds + 1) before session) ⟨piece :: pieces, fault⟩ =
      loop.run ⟨[(cutLastLine (before ++ piece)).1], none⟩ session >>= proceed fun after =>
        supply (feed loop rounds (cutLastLine (before ++ piece)).2 after) ⟨pieces, fault⟩ := by
  rw [feed, going]
  cases piece with
  | nil => exact absurd rfl nonempty
  | cons byte piece =>
    rw [← funext supply_proceed, ← supply_bind (contained.run _ session)]
    rfl

/-- Whatever the pieces are, the lines of the whole input are looped over, those that begin in one
piece and end in another among them. There are enough rounds if there is one for each piece, one for
the end of the input and one for the end after a last line without a line feed. -/
theorem supply_feed (contained : Contained loop) {pieces : List (List UInt8)} {fault : Option IoFault}
    (filled : ∀ piece ∈ pieces, piece ≠ []) {rounds : Nat} (enough : pieces.length ≤ rounds)
    (before : List UInt8) :
    supply (feed loop (rounds + 2) before session) ⟨pieces, fault⟩ =
      loop.run ⟨before :: pieces, fault⟩ session := by
  induction pieces generalizing rounds before session with
  | nil =>
    cases ended : session.exiting with
    | true => rw [supply_feed_exiting ended, run_exiting ended]
    | false => exact supply_feed_end contained ended before
  | cons piece pieces ih =>
    cases ended : session.exiting with
    | true => rw [supply_feed_exiting ended, run_exiting ended]
    | false =>
      obtain ⟨nonempty, others⟩ := List.forall_mem_cons.mp filled
      obtain ⟨whole, closed⟩ := cutLastLine_eq (before ++ piece)
      obtain ⟨fewer, rfl⟩ := Nat.exists_eq_add_of_le' enough
      have further (after : Session) := @ih after others (fewer + pieces.length) (by omega)
        (cutLastLine (before ++ piece)).2
      calc
        _ = loop.run ⟨[(cutLastLine (before ++ piece)).1], none⟩ session >>= proceed _ :=
          supply_feed_piece contained ended nonempty
        _ = loop.run ⟨[(cutLastLine (before ++ piece)).1], none⟩ session >>=
            proceed (loop.run ⟨(cutLastLine (before ++ piece)).2 :: pieces, fault⟩) := by
          rw [← funext further]
          rfl
        _ = loop.run ⟨before :: piece :: pieces, fault⟩ session := by
          symm
          apply run_append
          case whole => simp [← List.append_assoc, whole]
          case closed => simpa using closed
          case faultless => rfl
          case faulty => rfl

end Loops

/-! ### The loops of the shell -/

section Evaluation

variable (session : Session)

private theorem abstains_of_only {α : Type} {program : Shell α} {allowed : Call → Prop}
    (only : Only allowed program) (reads : ¬allowed .read) : Abstains program := by
  refine ⟨only.mono fun call made => ?_⟩
  cases call with
  | read => exact reads made
  | _ => trivial

private theorem run_abstains (searchPaths : List String) (pipeline : Pipeline) :
    Abstains (Job.run searchPaths pipeline) := by
  refine abstains_of_only (PipelineCalls.run_calls searchPaths pipeline) ?_
  rintro (opens | starts | awaits) <;> contradiction

private theorem complain_abstains (text : String) : Abstains (Shell.complain text) :=
  abstains_of_only (RefusedReports.complain_reports text) id

private theorem runPipeline_abstains (pipeline : Pipeline) :
    Abstains (Evaluation.runPipeline session pipeline) := by
  refine (run_abstains session.searchPaths pipeline).bind fun (after, outcome) => ?_
  cases outcome with
  | error e => exact .done _
  | ok report =>
    refine (abstains_of_only (RefusedReports.complaints_report _ _) id).bind fun _ => ?_
    cases report.failure <;> exact .done _

private theorem runBuiltin_abstains (name : String) (command : Standard) :
    Abstains (Evaluation.runBuiltin session name command.run) := by
  have served := abstains_of_only (SessionFrame.run_serves session command) id
  refine Abstains.ask trivial fun _ => served.bind fun (after, outcome) => ?_
  cases outcome with
  | error reasons => exact (complain_abstains _).bind fun _ => .done _
  | ok code => exact .done _

private theorem line_abstains (text : String) :
    Abstains (Evaluation.line Standard.builtins session text) := by
  rw [line_eq_carryOut]
  refine (abstains_of_only (noteLine_logs session text) id).bind fun _ => ?_
  cases planned : Plan.ofLine Standard.builtins session text with
  | nothing | refuse e => exact .done _
  | launch pipeline => exact runPipeline_abstains session pipeline
  | perform name command =>
    obtain ⟨stage, operands, -, -, found⟩ := Plan.ofLine_eq_perform planned
    obtain ⟨standard, -, rfl⟩ := Standard.find?_eq_some_iff.mp found
    exact runBuiltin_abstains session name standard

/-- The evaluation of a line takes no input, so it cannot take a line from the shell. -/
theorem lineReported_abstains (text : String) :
    Abstains (Evaluation.lineReported Standard.builtins session text) := by
  rw [lineReported_eq]
  refine (line_abstains session _).bind fun (after, outcome) => Abstains.bind ?_ fun _ => .done _
  cases outcome with
  | ok code => exact .request trivial
  | error e => exact complain_abstains e.message

theorem script_contained : Contained (Script.loop Standard.builtins) where
  visit session bytes := lineReported_abstains session (Script.decodeLine bytes)
  fail _ _ := .done _

private theorem ask_abstains {next : Shell (Session × Except Failure Unit)}
    (further : Abstains next) : Abstains (Interactive.ask session next) := by
  have invited : Abstains (Interactive.invite session) := by
    unfold Interactive.invite
    split
    · exact Abstains.ask trivial fun _ => .request trivial
    · exact Abstains.ask trivial fun _ => .done _
  refine invited.bind fun answer => ?_
  cases answer with
  | error fault => exact .done _
  | ok done => exact further

private theorem enter_abstains (line : String) :
    Abstains (Interactive.enter Standard.builtins session line) := by
  unfold Interactive.enter
  dsimp only
  split
  · exact .done _
  · exact lineReported_abstains _ _

theorem interactive_contained : Contained (Interactive.loop Standard.builtins) where
  visit session bytes := by
    refine ask_abstains session ?_
    split
    · exact .done _
    · exact enter_abstains session _
  fail session fault := ask_abstains session (.done _)

private theorem close_abstains : Abstains (Interactive.close session) := by
  have left (after : Session) : Abstains (Interactive.close.leave after) :=
    Abstains.ask trivial fun _ => .done _
  refine Abstains.bind ?_ (proceed_abstains left)
  split
  · exact .done _
  · refine ask_abstains session (.ask trivial fun answer => ?_)
    refine Abstains.bind ?_ fun _ => .done _
    cases answer with
    | ok done => exact .done _
    | error fault => exact ⟨trivial, nofun⟩

end Evaluation

/-- The shell that reads its input piece by piece does what the loops over the whole input do. -/
theorem supply_converse (options : Options) (session : Session) {pieces : List (List UInt8)}
    (fault : Option IoFault) (filled : ∀ piece ∈ pieces, piece ≠ []) {rounds : Nat}
    (enough : pieces.length ≤ rounds) :
    supply (converse (rounds + 2) options session) ⟨pieces, fault⟩ =
      Prod.snd <$> if options.script.isSome then
          Script.run Standard.builtins ⟨pieces, fault⟩ session
        else Interactive.run Standard.builtins ⟨pieces, fault⟩ session := by
  have whole {loop : LineLoop} (contained : Contained loop) :
      supply (feed loop (rounds + 2) [] session) ⟨pieces, fault⟩ =
        loop.run ⟨pieces, fault⟩ session :=
    (supply_feed contained filled enough []).trans (run_congr rfl rfl)
  have told (ended : Session × Except Failure Unit) :
      Abstains (.done ended.2 : Shell (Except Failure Unit)) := .done _
  unfold converse
  split
  · refine (supply_bind_of_abstains told).trans ?_
    rw [whole script_contained]
    rfl
  · refine (supply_bind_of_abstains told).trans ?_
    rw [supply_bind_of_abstains (proceed_abstains close_abstains), whole interactive_contained]
    rfl

end LineShell.PiecewiseInput
