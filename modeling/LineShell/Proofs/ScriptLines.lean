import LineShell.Builtin.Standard
import LineShell.Proofs.LineErrors
import LineShell.Proofs.LineLoops
import LineShell.Proofs.RefusedReports
import LineShell.Script

/-! A script as the sequence of its lines. However the bytes arrive, the shell evaluates one line
after the other in the session that the lines before have left, until the session ends. So a script
can be cut after any line, and its parts be run one after the other. An error of a line that cannot
be told ends the shell there, and no further line is read. -/
namespace LineShell.ScriptLines
open Dialogue Source SourceLines LineLoops RefusedReports

/-! ### Line after line -/

/-- What the shell tells about a line. -/
def report : LineResult → Shell Unit
  | .ok code => Shell.log .debug ("line finished with status " ++ toString code)
  | .error e => Shell.complain e.message

/-- The text of a line as far as the session looks at it. -/
def textOf (session : Session) (bytes : List UInt8) : String :=
  cutLine (Script.decodeLine bytes) session.limits.maxLine

/-- One line in a session: it is evaluated and told about, unless the session has ended. -/
def evaluateLine (builtins : List Builtin) (session : Session) (bytes : List UInt8) :
    Shell Session := do
  if session.exiting then return session
  let (after, outcome) ← Evaluation.line builtins session (textOf session bytes)
  report outcome
  return after

section Evaluations

variable {builtins : List Builtin} {session : Session} {source : Source}

/-- No line ends the shell, whatever it comes to. -/
theorem lineReported_eq (text : String) :
    Evaluation.lineReported builtins session text =
      (Evaluation.line builtins session (cutLine text session.limits.maxLine) >>= fun result =>
        report result.2 >>= fun _ => return (result.1, .ok ())) := by
  refine (LineErrors.line_ends builtins session _).bind_congr fun (after, outcome) known => ?_
  cases outcome with
  | ok code => rfl
  | error e =>
    have goesOn : e.isFatal = false := LineErrors.not_fatal (known e rfl)
    simp only [goesOn]
    rfl

private theorem evaluateLine_going (going : session.exiting = false) (bytes : List UInt8) :
    evaluateLine builtins session bytes =
      (Evaluation.line builtins session (textOf session bytes) >>= fun result =>
        report result.2 >>= fun _ => return result.1) := by
  simp only [evaluateLine, going]
  rfl

private theorem evaluateLine_exiting (ended : session.exiting = true) (bytes : List UInt8) :
    evaluateLine builtins session bytes = .done session := by
  simp only [evaluateLine, ended]
  rfl

/-- Nothing is evaluated in a session that has ended. -/
private theorem foldlM_exiting (ended : session.exiting = true) (lines : List (List UInt8)) :
    lines.foldlM (evaluateLine builtins) session = .done session := by
  induction lines with
  | nil => rfl
  | cons bytes lines ih =>
    rw [List.foldlM_cons, evaluateLine_exiting ended]
    exact ih

/-- What the shell has come to after the lines: a fault counts only for a session that would go
on. -/
def ending (fault : Option IoFault) (after : Session) : Except Failure Unit :=
  match fault with
  | some fault => if after.exiting then .ok () else .error ["cannot read script", fault.message]
  | none => .ok ()

/-- What a script does with its lines, one after the other, is to evaluate and report them. -/
private theorem visitAll_eq_fold (lines : List (List UInt8)) :
    visitAll (Script.loop builtins) lines session =
      (lines.foldlM (evaluateLine builtins) session >>= fun after => return (after, .ok ())) := by
  induction lines generalizing session with
  | nil => rfl
  | cons bytes lines ih =>
    cases ended : session.exiting with
    | true => rw [visitAll_exiting ended, foldlM_exiting ended]; rfl
    | false =>
      have visits : (Script.loop builtins).visit session bytes =
          evaluateLine builtins session bytes >>= fun after => return (after, .ok ()) := by
        rw [evaluateLine_going ended]
        simp only [Script.loop, lineReported_eq, textOf, bind_assoc, pure_bind]
      rw [visitAll_cons ended, visits, List.foldlM_cons, bind_assoc, bind_assoc]
      exact congrArg _ (funext fun middle => ih)

/-- A session that would go on comes to the fault of its source. -/
private theorem finish_eq (fault : Option IoFault) (after : Session) :
    finish (Script.loop builtins) fault after = .done (after, ending fault after) := by
  cases fault with
  | none => rfl
  | some fault =>
    cases ended : after.exiting with
    | true => simp only [finish, ending, ended]; rfl
    | false => simp only [finish, ending, ended]; rfl

variable {complete : List (List UInt8)} {rest : List UInt8}

/-- A script is the fold of the evaluation over its lines. -/
theorem run_eq_fold (lines : Lines source.chunks.flatten complete rest) :
    Script.run builtins source session =
      ((linesOf source.fault complete rest).foldlM (evaluateLine builtins) session >>= fun after =>
        return (after, ending source.fault after)) := by
  rw [Script.run, run_eq_visitAll lines, visitAll_eq_fold, bind_assoc]
  exact congrArg _ (funext fun after => finish_eq source.fault after)

/-- No line of a script ends it but by ending the session. -/
private theorem run_ends :
    (Script.run builtins source session).Ends fun r => r.2 = ending source.fault r.1 := by
  obtain ⟨complete, rest, lines⟩ := exists_lines source.chunks.flatten
  rw [run_eq_fold lines]
  exact .after fun after => .done rfl

/-- A source that begins with complete lines is run by running these first and then the others. -/
private theorem run_parts {earlier later : Source}
    (whole : earlier.chunks.flatten ++ later.chunks.flatten = source.chunks.flatten)
    (closed : ∀ last ∈ earlier.chunks.flatten.getLast?, last = lineFeed)
    (faultless : earlier.fault = none) (faulty : later.fault = source.fault) :
    Script.run builtins source session =
      Script.run builtins earlier session >>= fun (middle, _) =>
        Script.run builtins later middle := by
  refine (run_append whole closed faultless faulty).trans ?_
  refine run_ends.bind_congr fun (middle, outcome) ended => ?_
  rw [faultless] at ended
  obtain rfl : outcome = .ok () := ended
  rfl

end Evaluations

/-! ### The lines that are evaluated -/

/-- The shell has evaluated and told about these lines, one after the other, each in the session
that the line before it has left, which had not ended yet. -/
inductive Evaluates (builtins : List Builtin) :
    Session → List (List UInt8) → List (Exchange Call Call.Answer) → Session → Prop where
  | none (session : Session) : Evaluates builtins session [] [] session
  | line {session middle after : Session} {bytes : List UInt8} {others : List (List UInt8)}
      {evaluating telling later : List (Exchange Call Call.Answer)} {outcome : LineResult}
      (going : session.exiting = false)
      (evaluated : Run (Evaluation.line builtins session (textOf session bytes)) evaluating
        (middle, outcome))
      (told : Run (report outcome) telling ()) (further : Evaluates builtins middle others later after) :
      Evaluates builtins session (bytes :: others) (evaluating ++ telling ++ later) after

section Runs

variable {builtins : List Builtin} {session after : Session}
  {history : List (Exchange Call Call.Answer)}

private theorem run_evaluateLine {bytes : List UInt8} (going : session.exiting = false) :
    Run (evaluateLine builtins session bytes) history after ↔
      ∃ evaluating telling outcome, history = evaluating ++ telling ∧
        Run (Evaluation.line builtins session (textOf session bytes)) evaluating (after, outcome) ∧
        Run (report outcome) telling () := by
  rw [evaluateLine_going going]
  constructor
  · intro ran
    obtain ⟨evaluating, ⟨middle, outcome⟩, telling, rfl, evaluated, further⟩ := run_bind_iff.mp ran
    obtain ⟨_, told, rfl⟩ := run_bind_done_iff.mp further
    exact ⟨evaluating, telling, outcome, rfl, evaluated, told⟩
  · rintro ⟨evaluating, telling, outcome, rfl, evaluated, told⟩
    exact evaluated.bind (run_bind_done_iff.mpr ⟨(), told, rfl⟩)

/-- The lines are evaluated up to the first that ends the session, and none after it. -/
private theorem run_foldlM_iff {lines : List (List UInt8)} :
    Run (lines.foldlM (evaluateLine builtins) session) history after ↔
      ∃ evaluated skipped, lines = evaluated ++ skipped ∧
        Evaluates builtins session evaluated history after ∧
        (skipped ≠ [] → after.exiting = true) := by
  induction lines generalizing session history with
  | nil =>
    constructor
    · intro ran
      obtain ⟨rfl, rfl⟩ := run_done_iff.mp ran
      exact ⟨[], [], rfl, .none after, nofun⟩
    · rintro ⟨evaluated, skipped, same, evaluates, -⟩
      obtain ⟨rfl, -⟩ := List.append_eq_nil_iff.mp same.symm
      cases evaluates
      exact .done _
  | cons bytes lines ih =>
    cases ended : session.exiting with
    | true =>
      rw [foldlM_exiting ended]
      constructor
      · intro ran
        obtain ⟨rfl, rfl⟩ := run_done_iff.mp ran
        exact ⟨[], bytes :: lines, rfl, .none after, fun _ => ended⟩
      · rintro ⟨evaluated, skipped, -, evaluates, -⟩
        cases evaluates with
        | none => exact .done _
        | line going => cases ended.symm.trans going
    | false =>
      rw [List.foldlM_cons]
      constructor
      · intro ran
        obtain ⟨first, middle, later, rfl, evaluating, remaining⟩ := run_bind_iff.mp ran
        obtain ⟨before, telling, outcome, rfl, evaluated, told⟩ :=
          (run_evaluateLine ended).mp evaluating
        obtain ⟨others, skipped, rfl, further, stops⟩ := ih.mp remaining
        exact ⟨bytes :: others, skipped, rfl, .line ended evaluated told further, stops⟩
      · rintro ⟨evaluated, skipped, same, evaluates, stops⟩
        cases evaluates with
        | none =>
          -- Nothing was evaluated although the session had not ended.
          obtain rfl : bytes :: lines = skipped := same
          cases ended.symm.trans (stops (List.cons_ne_nil _ _))
        | line going evaluated told further =>
          obtain ⟨rfl, rfl⟩ := List.cons.inj same
          refine ((run_evaluateLine ended).mpr ⟨_, _, _, rfl, evaluated, told⟩).bind ?_
          exact ih.mpr ⟨_, skipped, rfl, further, stops⟩

/-- A run of a script is the evaluation of its lines, up to the first that ends the session. -/
theorem run_iff_evaluates {source : Source} {complete : List (List UInt8)} {rest : List UInt8}
    {outcome : Except Failure Unit} (lines : Lines source.chunks.flatten complete rest) :
    Run (Script.run builtins source session) history (after, outcome) ↔
      ∃ evaluated skipped, linesOf source.fault complete rest = evaluated ++ skipped ∧
        Evaluates builtins session evaluated history after ∧
        (skipped ≠ [] → after.exiting = true) ∧ outcome = ending source.fault after := by
  rw [run_eq_fold lines]
  refine run_bind_done_iff.trans ?_
  constructor
  · rintro ⟨middle, ran, same⟩
    cases same
    obtain ⟨evaluated, skipped, cut, evaluates, stops⟩ := run_foldlM_iff.mp ran
    exact ⟨evaluated, skipped, cut, evaluates, stops, rfl⟩
  · rintro ⟨evaluated, skipped, cut, evaluates, stops, rfl⟩
    exact ⟨after, run_foldlM_iff.mpr ⟨evaluated, skipped, cut, evaluates, stops⟩, rfl⟩

end Runs

/-! ### Lines that the shell does not outlive -/

/-- The line ends the shell: within its evaluation, or where its error cannot be told. -/
inductive EndsShell (builtins : List Builtin) (session : Session) (bytes : List UInt8) :
    List (Exchange Call Call.Answer) → String → Prop where
  | evaluating {history : List (Exchange Call Call.Answer)} {message : String}
      (died : Dies (Evaluation.line builtins session (textOf session bytes)) history message) :
      EndsShell builtins session bytes history message
  | telling {history : List (Exchange Call Call.Answer)} {after : Session} {e : LineError}
      {fault : IoFault}
      (evaluated : Run (Evaluation.line builtins session (textOf session bytes)) history
        (after, .error e)) :
      EndsShell builtins session bytes
        (history ++ [⟨.printError ("pipesh: " ++ e.message ++ "\n"), .error fault⟩])
        ("failed printing to stderr: " ++ fault.message)

section Deaths

variable {builtins : List Builtin} {session : Session} {history : List (Exchange Call Call.Answer)}
  {message : String}

/-- Of what a line has come to, only an error has to be told. -/
theorem dies_report_iff {outcome : LineResult} :
    Dies (report outcome) history message ↔
      ∃ e fault, outcome = .error e ∧ history = [refused e.message fault] ∧
        message = lastWords fault := by
  cases outcome with
  | ok code =>
    have noted : Only Spares (report (.ok code)) := ⟨trivial, fun _ => trivial⟩
    constructor
    · intro died
      exact absurd died (not_dies_of_spares noted)
    · rintro ⟨e, fault, impossible, -⟩
      cases impossible
  | error e =>
    refine dies_complain_iff.trans ?_
    constructor
    · rintro ⟨fault, rfl, rfl⟩
      exact ⟨e, fault, rfl, rfl, rfl⟩
    · rintro ⟨_, fault, same, rfl, rfl⟩
      cases same
      exact ⟨fault, rfl, rfl⟩

private theorem dies_evaluateLine_iff {bytes : List UInt8} (going : session.exiting = false) :
    Dies (evaluateLine builtins session bytes) history message ↔
      EndsShell builtins session bytes history message := by
  rw [evaluateLine_going going, dies_bind_iff]
  constructor
  · rintro (died | ⟨evaluating, ⟨after, outcome⟩, _, rfl, evaluated, died⟩)
    · exact .evaluating died
    · obtain ⟨e, fault, rfl, rfl, rfl⟩ := dies_report_iff.mp (dies_bind_done_iff.mp died)
      exact .telling evaluated
  · intro ends
    cases ends with
    | evaluating died => exact .inl died
    | @telling evaluating after e fault evaluated =>
      refine .inr ⟨evaluating, _, _, rfl, evaluated, dies_bind_done_iff.mpr ?_⟩
      exact dies_report_iff.mpr ⟨e, fault, rfl, rfl, rfl⟩

/-- The shell dies of one of the lines, after it has evaluated those before it. -/
private theorem dies_foldlM_iff {lines : List (List UInt8)} :
    Dies (lines.foldlM (evaluateLine builtins) session) history message ↔
      ∃ evaluated bytes skipped earlier middle last, lines = evaluated ++ bytes :: skipped ∧
        history = earlier ++ last ∧ Evaluates builtins session evaluated earlier middle ∧
        middle.exiting = false ∧ EndsShell builtins middle bytes last message := by
  induction lines generalizing session history with
  | nil =>
    constructor
    · intro died
      exact absurd died not_dies_done
    · rintro ⟨evaluated, bytes, skipped, _, _, _, impossible, -⟩
      simp at impossible
  | cons bytes lines ih =>
    cases ended : session.exiting with
    | true =>
      rw [foldlM_exiting ended]
      constructor
      · intro died
        exact absurd died not_dies_done
      · rintro ⟨evaluated, _, _, _, middle, _, -, -, evaluates, going, -⟩
        cases evaluates with
        | none => cases ended.symm.trans going
        | line going => cases ended.symm.trans going
    | false =>
      rw [List.foldlM_cons, dies_bind_iff, dies_evaluateLine_iff ended]
      constructor
      · rintro (ends | ⟨_, middle, _, rfl, evaluating, died⟩)
        · exact ⟨[], bytes, lines, [], session, history, rfl, rfl, .none session, ended, ends⟩
        · obtain ⟨before, telling, outcome, rfl, evaluated, told⟩ :=
            (run_evaluateLine ended).mp evaluating
          obtain ⟨others, next, skipped, earlier, left, last, rfl, rfl, further, going, ends⟩ :=
            ih.mp died
          exact ⟨bytes :: others, next, skipped, _, left, last, rfl,
            (List.append_assoc _ _ _).symm, .line ended evaluated told further, going, ends⟩
      · rintro ⟨evaluated, next, skipped, _, middle, last, same, rfl, evaluates, going, ends⟩
        cases evaluates with
        | none =>
          obtain ⟨rfl, rfl⟩ := List.cons.inj same
          exact .inl ends
        | line started evaluated told further =>
          obtain ⟨rfl, rfl⟩ := List.cons.inj same
          refine .inr ⟨_, _, _, List.append_assoc _ _ _, (run_evaluateLine ended).mpr
            ⟨_, _, _, rfl, evaluated, told⟩, ih.mpr ?_⟩
          exact ⟨_, next, skipped, _, middle, last, rfl, rfl, further, going, ends⟩

/-- A script that the shell does not outlive ends with the line that the shell dies of. -/
theorem run_dies_iff {source : Source} {complete : List (List UInt8)} {rest : List UInt8}
    (lines : Lines source.chunks.flatten complete rest) :
    Dies (Script.run builtins source session) history message ↔
      ∃ evaluated bytes skipped earlier middle last,
        linesOf source.fault complete rest = evaluated ++ bytes :: skipped ∧
        history = earlier ++ last ∧ Evaluates builtins session evaluated earlier middle ∧
        middle.exiting = false ∧ EndsShell builtins middle bytes last message := by
  rw [run_eq_fold lines]
  exact dies_bind_done_iff.trans dies_foldlM_iff

end Deaths

/-- A script is the fold of the evaluation of a line over the lines of its source, which are told
apart in one way only. So it has evaluated lines in their order until one of them has ended the
session or none was left, each as the text that the limits of that moment leave of it, and it fails
exactly if the source has a fault that a session still going on comes to. It comes to neither exactly
if one of the lines ends the shell: in the evaluation of the line, or because the error of the line
is not taken by standard error. A source that begins with complete lines is run by running these
first and then the others. -/
theorem script_folds_lines (builtins : List Builtin) (source : Source) :
    ∃ complete rest, Lines source.chunks.flatten complete rest ∧
      (∀ others left, Lines source.chunks.flatten others left → others = complete ∧ left = rest) ∧
      (∀ session, Script.run builtins source session = do
        let after ← (linesOf source.fault complete rest).foldlM (evaluateLine builtins) session
        return (after, ending source.fault after)) ∧
      (∀ session history after outcome,
        Run (Script.run builtins source session) history (after, outcome) ↔
          ∃ evaluated skipped, linesOf source.fault complete rest = evaluated ++ skipped ∧
            Evaluates builtins session evaluated history after ∧
            (skipped ≠ [] → after.exiting = true) ∧ outcome = ending source.fault after) ∧
      (∀ session history message, Dies (Script.run builtins source session) history message ↔
        ∃ evaluated bytes skipped earlier middle last,
          linesOf source.fault complete rest = evaluated ++ bytes :: skipped ∧
          history = earlier ++ last ∧ Evaluates builtins session evaluated earlier middle ∧
          middle.exiting = false ∧ EndsShell builtins middle bytes last message) ∧
      ∀ earlier later : Source,
        earlier.chunks.flatten ++ later.chunks.flatten = source.chunks.flatten →
        (∀ last ∈ earlier.chunks.flatten.getLast?, last = lineFeed) →
        earlier.fault = none → later.fault = source.fault →
        ∀ session, Script.run builtins source session =
          Script.run builtins earlier session >>= fun (middle, _) =>
            Script.run builtins later middle := by
  obtain ⟨complete, rest, lines⟩ := exists_lines source.chunks.flatten
  exact ⟨complete, rest, lines, fun others left again => lines.unique again,
    fun session => run_eq_fold lines, fun _ _ _ _ => run_iff_evaluates lines,
    fun _ _ _ => run_dies_iff lines,
    fun _ _ whole closed faultless faulty _ => run_parts whole closed faultless faulty⟩

/-- A script that leaves the shell and goes on after that. -/
def leavingScript : Source :=
  ⟨[[101, 120, 105, 116], [13, lineFeed, 108, 115]], some .notText⟩

/-- Its first line, spread over two chunks, ends the session, so the fault is not come to. -/
theorem script_folds_lines_leaving :
    (∃ history, Run (Script.run Standard.builtins leavingScript { directory := "/" }) history
      ({ directory := "/", exiting := true }, .ok ())) ∧
    Script.run Standard.builtins leavingScript { directory := "/" } =
      Script.run Standard.builtins ⟨[[101, 120, 105, 116, 13, lineFeed]], none⟩ { directory := "/" }
        >>= fun (middle, _) => Script.run Standard.builtins ⟨[[108, 115]], some .notText⟩ middle := by
  have lines : Lines leavingScript.chunks.flatten [[101, 120, 105, 116, 13, lineFeed]] [108, 115] := by
    refine ⟨rfl, fun line member => ?_, by decide⟩
    exact ⟨[101, 120, 105, 116, 13], by decide, List.mem_singleton.mp member⟩
  obtain ⟨complete, rest, -, unique, -, runs, -, parts⟩ :=
    script_folds_lines Standard.builtins leavingScript
  obtain ⟨rfl, rfl⟩ := unique _ _ lines
  have text : textOf { directory := "/" } [101, 120, 105, 116, 13, lineFeed] = "exit" := by decide
  have words : (Text.trim "exit").isEmpty = false := by decide
  have reads : Pipeline.readWith (Expansion.word { directory := "/" })
      ({ directory := "/" } : Session).limits (Text.trim "exit") =
        .ok ⟨[{ argv := ["exit"] }]⟩ := by rfl
  have single : Evaluation.line Standard.builtins { directory := "/" } "exit" =
      Evaluation.runSingle Standard.builtins { directory := "/" } { argv := ["exit"] } := by
    rw [LineErrors.line_of_words words, reads]
  have leaves : Run (Evaluation.runSingle Standard.builtins { directory := "/" } { argv := ["exit"] })
      [⟨.log _ _, ()⟩] ({ directory := "/", exiting := true }, .ok 0) := .ask _ <| .done _
  rw [← single, ← text] at leaves
  have evaluates := Evaluates.line rfl leaves (.ask () (.done ())) (.none _)
  refine ⟨⟨_, (runs _ _ _ _).mpr ⟨_, [], rfl, evaluates, nofun, rfl⟩⟩, ?_⟩
  exact parts _ ⟨[[108, 115]], some .notText⟩ rfl (fun last same => by cases same; rfl) rfl rfl _

/-- A script with a line that is none, and one line more. -/
def unclosedScript : Source :=
  ⟨[[34, 97, lineFeed], [112, 119, 100, lineFeed]], none⟩

/-- The error of its first line cannot be told, so the second is never read. -/
theorem script_ends_at_untold_error :
    Dies (Script.run Standard.builtins unclosedScript { directory := "/" })
      [⟨.printError "pipesh: unclosed quote\n", .error (.refused ⟨28⟩)⟩]
      "failed printing to stderr: No space left on device (os error 28)" ∧
    ∀ later after outcome, ¬Run (Script.run Standard.builtins unclosedScript { directory := "/" })
      (⟨.printError "pipesh: unclosed quote\n", .error (.refused ⟨28⟩)⟩ :: later)
      (after, outcome) := by
  have lines : Lines unclosedScript.chunks.flatten
      [[34, 97, lineFeed], [112, 119, 100, lineFeed]] [] := by
    refine ⟨rfl, ?_, nofun⟩
    simp only [List.mem_cons, List.not_mem_nil, or_false, forall_eq_or_imp, forall_eq]
    exact ⟨⟨[34, 97], by decide, rfl⟩, ⟨[112, 119, 100], by decide, rfl⟩⟩
  have text : textOf { directory := "/" } [34, 97, lineFeed] = "\"a" := by decide
  have words : (Text.trim "\"a").isEmpty = false := by decide
  have reads : Pipeline.readWith (Expansion.word { directory := "/" })
      ({ directory := "/" } : Session).limits (Text.trim "\"a") = .error .unclosedQuote := by rfl
  have fails : Run (Evaluation.line Standard.builtins { directory := "/" }
      (textOf { directory := "/" } [34, 97, lineFeed])) []
      ({ directory := "/" }, .error .unclosedQuote) := by
    rw [text, LineErrors.line_of_words words, reads]
    exact .done _
  have dies := (run_dies_iff lines).mpr ⟨[], _, _, [], _, _, rfl, rfl, .none _, rfl,
    @EndsShell.telling Standard.builtins _ _ _ _ _ (.refused ⟨28⟩) fails⟩
  exact ⟨dies, fun later after outcome => dies.not_run⟩

end LineShell.ScriptLines
