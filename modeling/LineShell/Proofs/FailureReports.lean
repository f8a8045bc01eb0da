import LineShell.Proofs.PipelineReport
import LineShell.Proofs.ScriptLines
import LineShell.Proofs.SessionFrame

/-! What the shell tells of failures. A failed wait and a failed built-in command are told where
they happen, and every other error is told by the caller, once the evaluation of the line is over.
Together each failure of a line is told once, in the order in which the line has come to it, and
then the next line is read. A report that standard error does not take is the last thing that the
shell does: the reports after it are never made, and the next line is not read. -/
namespace LineShell.FailureReports
open Dialogue PipelineDescriptors PipelineCalls PipelineReport LinePlans SourceLines ScriptLines
open RefusedReports

/-- What an exchange has written to standard error. -/
def told? : Exchange Call Call.Answer → Option String
  | ⟨.printError text, .ok ()⟩ => some text
  | _ => none

/-- All that the shell has written to standard error, in its order. -/
def told (history : List (Exchange Call Call.Answer)) : List String :=
  history.filterMap told?

/-- A report of the shell. -/
def reportOf (message : String) : String :=
  "pipesh: " ++ message ++ "\n"

/-- An error as the shell tells it. -/
def complaint (e : LineError) : String :=
  reportOf e.message

/-- The error that a line has come to. -/
def errorOf : LineResult → Option LineError
  | .ok _ => none
  | .error e => some e

/-- The process that an exchange has started. -/
def begun? : Exchange Call Call.Answer → Option ChildProcess
  | ⟨.fork task, .ok pid⟩ => some ⟨pid, task.position⟩
  | _ => none

/-- The error of a wait. The end of a process, with whatever status or by a signal, is none. -/
def failedWait? (w : Awaited) : Option LineError :=
  match w.answer with
  | .ok _ => none
  | .error reason => some (.waitFailed reason)

/-- Why a stage was not started: its launch could not be prepared, or there was no process for it. -/
inductive Halts (searchPaths : List String) (stage : Stage)
    (history : List (Exchange Call Call.Answer)) : LineError → Prop where
  | unprepared {searching : List (Exchange Call Call.Answer)} {found : Stage} {e : LineError}
      (prepared : Run (Job.prepare searchPaths stage) searching (found, .error e))
      (within : searching <:+: history) : Halts searchPaths stage history e
  | unforked {searching : List (Exchange Call Call.Answer)} {found : Stage} {task : ChildTask}
      {reason : Errno}
      (prepared : Run (Job.prepare searchPaths stage) searching (found, .ok task.launch))
      (within : searching ++ [⟨.fork task, .error reason⟩] <:+: history) :
      Halts searchPaths stage history (.forkFailed reason)

/-- The processes are those of the first stages, each started and then waited for in their order. If
these are not all of the stages, the failure is what has kept the next one from being started. -/
structure Conducted (searchPaths : List String) (stages : List Stage)
    (history : List (Exchange Call Call.Answer)) (awaited : List Awaited)
    (failure : Option LineError) : Prop where
  begun : history.filterMap begun? = awaited.map Awaited.child
  positions : awaited.map (·.child.stage) = List.range awaited.length
  waits : history.filterMap wait? = awaited.flatMap Awaited.waits
  all : failure = none → awaited.length = stages.length
  next : ∀ e, failure = some e → ∃ stage, stages[awaited.length]? = some stage ∧
    Halts searchPaths stage history e

/-- What is to be told of a line, by what it has come to. -/
inductive Owed (builtins : List Builtin) (session : Session) (text : String)
    (history : List (Exchange Call Call.Answer)) : List String → Prop where
  | nothing (planned : Plan.ofLine builtins session text = .nothing) :
      Owed builtins session text history []
  | refused {e : LineError} (planned : Plan.ofLine builtins session text = .refuse e) :
      Owed builtins session text history [complaint e]
  /-- What a command may write to standard error by itself is no report of the shell. -/
  | performed {name : String} {command : Command} {running : List (Exchange Call Call.Answer)}
      {after : Session} {code : Int}
      (planned : Plan.ofLine builtins session text = .perform name command)
      (ran : Run (command session) running (after, .ok code)) (within : running <:+: history) :
      Owed builtins session text history (told running)
  | failed {name : String} {command : Command} {running : List (Exchange Call Call.Answer)}
      {after : Session} {reasons : Failure}
      (planned : Plan.ofLine builtins session text = .perform name command)
      (ran : Run (command session) running (after, .error reasons)) (within : running <:+: history) :
      Owed builtins session text history (told running ++ [reportOf reasons.message])
  | unpiped {pipeline : Pipeline} {opening : List (Exchange Call Call.Answer)} {reason : Errno}
      (planned : Plan.ofLine builtins session text = .launch pipeline)
      (refused : Run (Job.openPipes [] (pipeline.stages.length - 1)) opening (.error reason))
      (within : opening <:+: history) :
      Owed builtins session text history [complaint (.pipeFailed reason)]
  | conducted {pipeline after : Pipeline} {running : List (Exchange Call Call.Answer)}
      {report : Report} {awaited : List Awaited}
      (planned : Plan.ofLine builtins session text = .launch pipeline)
      (ran : Run (Job.run session.searchPaths pipeline) running (after, .ok report))
      (conducted : Conducted session.searchPaths pipeline.stages running awaited report.failure)
      (within : running <:+: history) :
      Owed builtins session text history
        ((awaited.filterMap failedWait? ++ report.failure.toList).map complaint)

/-- The shell has ended in the line: with a report that was to be made next and was not taken, or
within a command that ends the shell by itself. -/
inductive CutShort (builtins : List Builtin) (session : Session) (text : String) :
    List (Exchange Call Call.Answer) → String → Prop where
  | reporting {history : List (Exchange Call Call.Answer)} {reports : List String} {report : String}
      {fault : IoFault} (owed : Owed builtins session text history reports)
      (due : told history ++ [report] <+: reports) :
      CutShort builtins session text (history ++ [⟨.printError report, .error fault⟩])
        ("failed printing to stderr: " ++ fault.message)
  | performing {name : String} {command : Command}
      {history running : List (Exchange Call Call.Answer)} {message : String}
      (planned : Plan.ofLine builtins session text = .perform name command)
      (died : Dies (command session) running message) (last : running <:+ history) :
      CutShort builtins session text history message

/-- The lines have been evaluated one after the other, each in the session that the line before it
has left, which had not ended yet. Of each was told what is owed of it. -/
inductive Reports (builtins : List Builtin) : Session → List (List UInt8) →
    List (Exchange Call Call.Answer) → Session → List (List String) → Prop where
  | none (session : Session) : Reports builtins session [] [] session []
  | line {session middle after : Session} {bytes : List UInt8} {others : List (List UInt8)}
      {first later : List (Exchange Call Call.Answer)} {reports : List (List String)}
      (going : session.exiting = false)
      (evaluated : Run (Evaluation.lineReported builtins session (Script.decodeLine bytes)) first
        (middle, .ok ()))
      (owed : Owed builtins session (textOf session bytes) first (told first))
      (further : Reports builtins middle others later after reports) :
      Reports builtins session (bytes :: others) (first ++ later) after (told first :: reports)

/-! ### Programs that tell nothing -/

section Silence

variable {β : Type} {program : Shell β} {value : β} {history : List (Exchange Call Call.Answer)}

theorem told_append (earlier later : List (Exchange Call Call.Answer)) :
    told (earlier ++ later) = told earlier ++ told later :=
  List.filterMap_append

theorem told_of_silent (silent : Only Silent program) (ran : Run program history value) :
    told history = [] := by
  refine silent.filterMap_eq_nil ran.course ?_
  rintro ⟨call, answer⟩ quiet
  cases call <;> first | rfl | cases quiet

theorem noteLine_silent (session : Session) (text : String) : Only Silent (noteLine session text) :=
  (noteLine_logs session text).mono fun call logs => by cases call <;> trivial

/-- No standard command writes to standard error or ends the shell. -/
theorem standard_silent (session : Session) (command : Standard) :
    Only Silent (command.run session) :=
  (SessionFrame.run_serves session command).mono fun call serves => by
    cases call <;> trivial

/-- Errors that are told one after the other. -/
theorem told_written (errors : List LineError) :
    told (errors.map fun e => written e.message) = errors.map complaint := by
  induction errors with
  | nil => rfl
  | cons e errors ih => exact congrArg (complaint e :: ·) ih

/-- What the caller tells of a line is its error. -/
theorem told_of_report {outcome : LineResult} (ran : Run (report outcome) history ()) :
    told history = (errorOf outcome).toList.map complaint := by
  cases outcome with
  | ok code =>
    obtain ⟨_, _, rfl, ended⟩ := run_request_iff.mp ran
    obtain ⟨rfl, -⟩ := run_done_iff.mp ended
    rfl
  | error e =>
    obtain rfl := run_complain_iff.mp ran
    rfl

end Silence

/-! ### Pipelines -/

section Pipelines

variable {searchPaths : List String} {stages : List Stage}
  {history longer : List (Exchange Call Call.Answer)}

theorem Halts.along {stage : Stage} {e : LineError} (halts : Halts searchPaths stage history e)
    (within : history <:+: longer) : Halts searchPaths stage longer e := by
  cases halts with
  | unprepared prepared inside => exact .unprepared prepared (inside.trans within)
  | unforked prepared inside => exact .unforked prepared (inside.trans within)

/-- Stages are started in their order, up to the first that is halted. -/
theorem start_conducts {pipes : List PipeEnds} {position : Nat} {started : Job.Started}
    (ran : Run (Job.start searchPaths pipes position stages) history started) :
    history.filterMap begun? = started.children ∧
      started.children.map ChildProcess.stage = List.range' position started.children.length ∧
      (started.failure = none → started.children.length = stages.length) ∧
      ∀ e, started.failure = some e → ∃ stage, stages[started.children.length]? = some stage ∧
        Halts searchPaths stage history e := by
  induction stages generalizing position history started with
  | nil =>
    obtain ⟨rfl, rfl⟩ := run_done_iff.mp ran
    exact ⟨rfl, rfl, fun _ => rfl, nofun⟩
  | cons stage rest ih =>
    obtain ⟨searching, found, outcome, later, rfl, prepared, step⟩ := start_step ran
    have unseen : searching.filterMap begun? = [] := by
      refine (prepare_quiet searchPaths stage).filterMap_eq_nil prepared.course ?_
      rintro ⟨call, answer⟩ quiet
      cases call <;> first | rfl | cases quiet
    rw [List.filterMap_append, unseen, List.nil_append]
    cases outcome with
    | error reason =>
      obtain ⟨⟨_, rfl⟩, rfl⟩ := step
      refine ⟨rfl, rfl, nofun, ?_⟩
      rintro e ⟨⟩
      exact ⟨stage, rfl, .unprepared prepared (List.infix_append' [] searching _)⟩
    | ok launch =>
      rcases step with ⟨reason, _, rfl, rfl⟩ | ⟨pid, _, remaining, others, rfl, starts, rfl⟩
      · refine ⟨rfl, rfl, nofun, ?_⟩
        rintro e ⟨⟩
        refine ⟨stage, rfl, @Halts.unforked _ _ _ _ _ ⟨launch, position, pipes⟩ _ prepared ?_⟩
        exact ⟨[], [⟨.log _ _, ()⟩], by rw [List.nil_append, List.append_assoc]; rfl⟩
      · obtain ⟨begun, positions, all, next⟩ := ih starts
        refine ⟨?begun, ?positions, ?all, ?next⟩
        case begun => exact congrArg (⟨pid, position⟩ :: ·) begun
        case positions => rw [List.map_cons, positions, List.length_cons, List.range'_succ]
        case all => exact fun whole => congrArg (· + 1) (all whole)
        case next =>
          intro e failed
          obtain ⟨halted, here, halts⟩ := next e failed
          refine ⟨halted, here, halts.along (List.IsSuffix.isInfix ?_)⟩
          exact (((List.suffix_cons _ _).trans (List.suffix_cons _ _)).trans
            (List.suffix_append _ _))

private theorem begun?_of_opens (exchange : Exchange Call Call.Answer) (opens : Opens exchange.1) :
    begun? exchange = none := by
  obtain ⟨call, answer⟩ := exchange
  cases call <;> first | rfl | cases opens

/-- A run of a pipeline whose pipes were made, and what its report has of it. -/
theorem run_conducts {pipeline after : Pipeline} {report : Report}
    (ran : Run (Job.run searchPaths pipeline) history (after, .ok report)) :
    ∃ awaited, Conducted searchPaths pipeline.stages history awaited report.failure ∧
      report.waitErrors = awaited.filterMap failedWait? := by
  rcases run_parts ran with ⟨reason, -, -, impossible⟩ |
    ⟨pipes, started, exits, opening, starting, closing, waiting, rfl, opens, starts, closes, reaps,
      rfl, same⟩
  · cases impossible
  cases same
  obtain ⟨begun, positions, all, next⟩ := start_conducts starts
  obtain ⟨awaited, children, rfl, waits⟩ := reaps_run reaps
  have count : started.children.length = awaited.length := by rw [← children, List.length_map]
  rw [count] at positions all next
  have starting_only : (opening ++ (starting ++ (closing ++ waiting))).filterMap begun? =
      starting.filterMap begun? := by
    have unseen : waiting.filterMap begun? = [] := by
      refine (Only.mapM reap_awaits started.children).filterMap_eq_nil reaps.course ?_
      rintro ⟨call, answer⟩ awaits
      cases call <;> first | rfl | cases awaits
    rw [seen_in_run opens closes begun?_of_opens, unseen, List.append_nil]
  refine ⟨awaited, ⟨?begun, ?positions, ?waits, all, ?next⟩, ?errors⟩
  case begun => rw [starting_only, begun, children]
  case positions => rw [List.range_eq_range', ← positions, ← children, List.map_map]; rfl
  case waits => rw [waits_in_run opens starts closes, waits]
  case next =>
    intro e failed
    obtain ⟨stage, here, halts⟩ := next e failed
    exact ⟨stage, here, halts.along ⟨opening, closing ++ waiting, by simp⟩⟩
  case errors =>
    rw [Report.waitErrors, List.filterMap_map]
    refine congrArg (List.filterMap · awaited) (funext fun w => ?_)
    obtain ⟨child, interruptions, answer, final⟩ := w
    cases answer <;> rfl

end Pipelines

/-! ### Lines -/

section Lines

variable {builtins : List Builtin} {session after : Session} {text : String}
  {history telling : List (Exchange Call Call.Answer)} {outcome : LineResult}

/-- A built-in command that fails is told of where it fails, and is no error of the line. -/
theorem runBuiltin_tells {name : String} {command : Command}
    (ran : Run (Evaluation.runBuiltin session name command) history (after, outcome)) :
    ∃ running result, running <:+: history ∧ Run (command session) running (after, result) ∧
      errorOf outcome = none ∧ told history = told running ++ match result with
        | .ok _ => []
        | .error reasons => [reportOf reasons.message] := by
  obtain ⟨_, _, rfl, running⟩ := run_request_iff.mp ran
  obtain ⟨inside, ⟨left, result⟩, late, rfl, performed, ended⟩ := run_bind_iff.mp running
  have tells (note : String) :
      told (⟨.log .debug note, ()⟩ :: (inside ++ late)) = told inside ++ told late :=
    told_append inside late
  have within (note : Exchange Call Call.Answer) : inside <:+: note :: (inside ++ late) :=
    ⟨[note], late, rfl⟩
  cases result with
  | ok code =>
    obtain ⟨rfl, same⟩ := run_done_iff.mp ended
    cases same
    exact ⟨inside, _, within _, performed, rfl, tells _⟩
  | error reasons =>
    obtain ⟨_, complains, same⟩ := run_bind_done_iff.mp ended
    cases same
    obtain rfl := run_complain_iff.mp complains
    exact ⟨inside, _, within _, performed, rfl, tells _⟩

/-- Failed waits are told of where the pipeline ends. What has kept stages from being started is the
error of the line, and is told of by the caller. -/
theorem runPipeline_tells {pipeline : Pipeline}
    (ran : Run (Evaluation.runPipeline session pipeline) history (after, outcome)) :
    (∃ opening reason, opening <:+: history ∧
      Run (Job.openPipes [] (pipeline.stages.length - 1)) opening (.error reason) ∧
      told history = [] ∧ errorOf outcome = some (.pipeFailed reason)) ∨
    ∃ running left report, running <:+: history ∧
      Run (Job.run session.searchPaths pipeline) running (left, .ok report) ∧
      told history = report.waitErrors.map complaint ∧ errorOf outcome = report.failure := by
  obtain ⟨running, ⟨left, result⟩, _, rfl, runs, further⟩ := run_bind_iff.mp ran
  have quiet : told running = [] := told_of_silent (run_silent _ _) runs
  have within (late : List (Exchange Call Call.Answer)) : running <:+: running ++ late :=
    (List.prefix_append running late).isInfix
  cases result with
  | error e =>
    obtain ⟨rfl, same⟩ := run_done_iff.mp further
    cases same
    rcases run_parts runs with ⟨reason, opens, rfl, same⟩ |
      ⟨_, _, _, _, _, _, _, _, _, _, _, _, _, same⟩
    · cases same
      exact .inl ⟨running, reason, within [], opens, by rw [told_append, quiet]; rfl, rfl⟩
    · cases same
  | ok report =>
    obtain ⟨complaining, _, _, rfl, complains, ended⟩ := run_bind_iff.mp further
    refine .inr ⟨running, left, report, within _, runs, ?_⟩
    rw [run_complaints_iff.mp complains, told_append, told_append, quiet, told_written]
    cases failed : report.failure with
    | none =>
      rw [failed] at ended
      obtain ⟨rfl, same⟩ := run_done_iff.mp ended
      cases same
      exact ⟨by simp [told], rfl⟩
    | some e =>
      rw [failed] at ended
      obtain ⟨rfl, same⟩ := run_done_iff.mp ended
      cases same
      exact ⟨by simp [told], rfl⟩

/-- What is owed of a line has nothing to do with what comes before and after it. -/
theorem Owed.along {longer : List (Exchange Call Call.Answer)} {reports : List String}
    (owed : Owed builtins session text history reports) (within : history <:+: longer) :
    Owed builtins session text longer reports := by
  cases owed with
  | nothing planned => exact .nothing planned
  | refused planned => exact .refused planned
  | performed planned ran inside => exact .performed planned ran (inside.trans within)
  | failed planned ran inside => exact .failed planned ran (inside.trans within)
  | unpiped planned unopened inside => exact .unpiped planned unopened (inside.trans within)
  | conducted planned ran conducts inside =>
    exact .conducted planned ran conducts (inside.trans within)

/-- What is told while a line is evaluated, and then its error, is what is owed of it. -/
theorem owed_of_line
    (evaluated : Run (Evaluation.line builtins session text) history (after, outcome)) :
    Owed builtins session text history
      (told history ++ (errorOf outcome).toList.map complaint) := by
  rw [line_eq_carryOut] at evaluated
  obtain ⟨noting, _, carrying, rfl, noted, carried⟩ := run_bind_iff.mp evaluated
  have within {inside : List (Exchange Call Call.Answer)} (inner : inside <:+: carrying) :
      inside <:+: noting ++ carrying :=
    inner.trans (List.suffix_append noting carrying).isInfix
  rw [told_append, told_of_silent (noteLine_silent session text) noted, List.nil_append]
  cases planned : Plan.ofLine builtins session text with
  | nothing =>
    rw [planned] at carried
    obtain ⟨rfl, same⟩ := run_done_iff.mp carried
    cases same
    exact .nothing planned
  | refuse e =>
    rw [planned] at carried
    obtain ⟨rfl, same⟩ := run_done_iff.mp carried
    cases same
    exact .refused planned
  | perform name command =>
    rw [planned] at carried
    obtain ⟨running, result, inner, ran, clean, tells⟩ := runBuiltin_tells carried
    rw [tells, clean, Option.toList_none, List.map_nil, List.append_nil]
    cases result with
    | ok code =>
      rw [List.append_nil]
      exact .performed planned ran (within inner)
    | error reasons => exact .failed planned ran (within inner)
  | launch pipeline =>
    rw [planned] at carried
    rcases runPipeline_tells carried with
      ⟨opening, reason, inner, unopened, tells, failed⟩ |
      ⟨running, left, report, inner, ran, tells, failed⟩
    · rw [tells, failed]
      exact .unpiped planned unopened (within inner)
    · obtain ⟨awaited, conducted, errors⟩ := run_conducts ran
      rw [tells, failed, errors, ← List.map_append]
      exact .conducted planned ran conducted (within inner)

/-- No line has an error that ends the shell, and what is told of it is what is owed of it. -/
theorem lineReported_tells {result : Except Failure Unit}
    (ran : Run (Evaluation.lineReported builtins session text) history (after, result)) :
    result = .ok () ∧
      Owed builtins session (cutLine text session.limits.maxLine) history (told history) := by
  rw [lineReported_eq] at ran
  obtain ⟨evaluating, ⟨left, outcome⟩, telling, rfl, evaluated, further⟩ := run_bind_iff.mp ran
  obtain ⟨_, reported, same⟩ := run_bind_done_iff.mp further
  cases same
  rw [told_append, told_of_report reported]
  exact ⟨rfl, (owed_of_line evaluated).along (List.prefix_append evaluating telling).isInfix⟩

end Lines

/-! ### Lines that are cut short -/

section Deaths

variable {builtins : List Builtin} {session : Session} {text message : String}
  {history : List (Exchange Call Call.Answer)}

/-- The shell ends in a pipeline where a failed wait cannot be told. -/
theorem runPipeline_dies {pipeline : Pipeline}
    (died : Dies (Evaluation.runPipeline session pipeline) history message) :
    ∃ running left report earlier e later fault,
      Run (Job.run session.searchPaths pipeline) running (left, .ok report) ∧
      report.waitErrors = earlier ++ e :: later ∧
      history = running ++ earlier.map (fun e => written e.message) ++
        [⟨.printError (complaint e), .error fault⟩] ∧
      message = lastWords fault := by
  have silent := (run_silent session.searchPaths pipeline).mono fun _ => Silent.spares
  rcases dies_bind_iff.mp died with inside | ⟨running, ⟨left, outcome⟩, late, rfl, ran, further⟩
  · exact absurd inside (not_dies_of_spares silent)
  cases outcome with
  | error e => exact absurd further not_dies_done
  | ok report =>
    rcases dies_bind_iff.mp further with complaining | ⟨_, _, _, -, -, past⟩
    · obtain ⟨earlier, e, later, fault, errors, rfl, rfl⟩ := dies_complaints_iff.mp complaining
      exact ⟨running, left, report, earlier, e, later, fault, ran, errors,
        (List.append_assoc _ _ _).symm, rfl⟩
    · cases failed : report.failure with
      | none => rw [failed] at past; exact absurd past not_dies_done
      | some e => rw [failed] at past; exact absurd past not_dies_done

/-- The shell ends in a built-in command, or where its failure cannot be told. -/
theorem runBuiltin_dies {name : String} {command : Command}
    (died : Dies (Evaluation.runBuiltin session name command) history message) :
    ∃ noting running, history = noting :: running ∧ told [noting] = [] ∧
      (Dies (command session) running message ∨
        ∃ performing after reasons fault,
          running = performing ++ [⟨.printError (reportOf reasons.message), .error fault⟩] ∧
          Run (command session) performing (after, .error reasons) ∧
          message = lastWords fault) := by
  have spares : Spares (.log .debug ("running builtin " ++ name)) := trivial
  obtain ⟨noted, running, rfl, further⟩ := (dies_request_iff spares).mp died
  refine ⟨_, running, rfl, rfl, ?_⟩
  rcases dies_bind_iff.mp further with inside |
    ⟨performing, ⟨after, result⟩, _, rfl, performed, past⟩
  · exact .inl inside
  cases result with
  | ok code => exact absurd past not_dies_done
  | error reasons =>
    obtain ⟨fault, rfl, rfl⟩ := dies_complain_iff.mp (dies_bind_done_iff.mp past)
    exact .inr ⟨performing, after, reasons, fault, rfl, performed, rfl⟩

/-- A line that ends the shell while it is evaluated is cut short. -/
theorem cutShort_of_line
    (died : Dies (Evaluation.line builtins session text) history message) :
    CutShort builtins session text history message := by
  have noted := (noteLine_silent session text).mono fun _ => Silent.spares
  rw [line_eq_carryOut] at died
  obtain ⟨noting, _, carrying, rfl, notes, carried⟩ :=
    (dies_bind_iff.mp died).resolve_left (not_dies_of_spares noted)
  have unseen : told noting = [] := told_of_silent (noteLine_silent session text) notes
  cases planned : Plan.ofLine builtins session text with
  | nothing | refuse e =>
    rw [planned] at carried
    exact absurd carried not_dies_done
  | perform name command =>
    rw [planned] at carried
    obtain ⟨first, running, rfl, quiet, inside | ⟨performing, after, reasons, fault, rfl, ran, rfl⟩⟩ :=
      runBuiltin_dies carried
    · refine .performing planned inside ?_
      exact (List.suffix_cons first running).trans (List.suffix_append noting _)
    · have tells : told (noting ++ first :: performing) = told performing := by
        rw [told_append, unseen, List.nil_append, ← List.singleton_append, told_append, quiet]
        rfl
      have within : performing <:+: noting ++ first :: performing :=
        ((List.suffix_cons first performing).trans (List.suffix_append noting _)).isInfix
      rw [← List.cons_append, ← List.append_assoc]
      exact .reporting (.failed planned ran within) ⟨[], by rw [tells, List.append_nil]⟩
  | launch pipeline =>
    rw [planned] at carried
    obtain ⟨running, left, report, earlier, e, later, fault, ran, errors, rfl, rfl⟩ :=
      runPipeline_dies carried
    obtain ⟨awaited, conducted, same⟩ := run_conducts ran
    have tells : told (noting ++ (running ++ earlier.map fun e => written e.message)) =
        earlier.map complaint := by
      rw [told_append, told_append, unseen, told_of_silent (run_silent _ _) ran, told_written]
      rfl
    have within : running <:+: noting ++ (running ++ earlier.map fun e => written e.message) :=
      ⟨noting, _, List.append_assoc _ _ _⟩
    rw [← List.append_assoc]
    refine .reporting (.conducted planned ran conducted within) ?_
    rw [tells, ← same, errors, List.append_assoc, List.map_append]
    exact (List.prefix_append_right_inj _).mpr (List.prefix_append [complaint e] _)

/-- So is one whose error cannot be told. -/
theorem cutShort_of_untold {after : Session} {e : LineError}
    (evaluated : Run (Evaluation.line builtins session text) history (after, .error e))
    (fault : IoFault) :
    CutShort builtins session text (history ++ [refused e.message fault]) (lastWords fault) :=
  .reporting (owed_of_line evaluated) List.prefix_rfl

/-- Whatever the shell does not outlive of a line is what is owed of it up to some report. -/
theorem lineReported_cutShort
    (died : Dies (Evaluation.lineReported builtins session text) history message) :
    CutShort builtins session (cutLine text session.limits.maxLine) history message := by
  rw [lineReported_eq] at died
  rcases dies_bind_iff.mp died with inside | ⟨evaluating, ⟨left, outcome⟩, _, rfl, evaluated, further⟩
  · exact cutShort_of_line inside
  obtain ⟨e, fault, rfl, rfl, rfl⟩ := dies_report_iff.mp (dies_bind_done_iff.mp further)
  exact cutShort_of_untold evaluated fault

end Deaths

/-! ### Scripts -/

section Scripts

variable {builtins : List Builtin} {session after : Session} {lines : List (List UInt8)}
  {history : List (Exchange Call Call.Answer)}

/-- Line after line, what is told is what is owed. -/
theorem reports_of_evaluates (evaluates : Evaluates builtins session lines history after) :
    ∃ reports, Reports builtins session lines history after reports ∧
      told history = reports.flatten := by
  induction evaluates with
  | none session => exact ⟨[], .none session, rfl⟩
  | @line session middle after bytes others evaluating telling later outcome going evaluated reported
      further ih =>
    obtain ⟨reports, each, whole⟩ := ih
    have line : Run (Evaluation.lineReported builtins session (Script.decodeLine bytes))
        (evaluating ++ telling) (middle, .ok ()) := by
      rw [lineReported_eq]
      exact evaluated.bind (run_bind_done_iff.mpr ⟨(), reported, rfl⟩)
    refine ⟨_, .line going line (lineReported_tells line).2 each, ?_⟩
    rw [told_append, whole, List.flatten_cons]

/-- The line that the shell does not outlive is cut short. -/
theorem cutShort_of_endsShell {bytes : List UInt8} {message : String}
    (ends : EndsShell builtins session bytes history message) :
    CutShort builtins session (textOf session bytes) history message := by
  cases ends with
  | evaluating died => exact cutShort_of_line died
  | telling evaluated => exact cutShort_of_untold evaluated _

end Scripts

/-- No built-in command writes to standard error or ends the shell by itself. -/
def Mute (builtins : List Builtin) : Prop :=
  ∀ name operands command, Builtin.find? builtins name operands = some command →
    ∀ session, Only Silent (command session)

theorem mute_standard : Mute Standard.builtins := by
  intro name operands command found session
  obtain ⟨standard, -, rfl⟩ := Standard.find?_eq_some_iff.mp found
  exact standard_silent session standard

/-- Every failure is told once and in order, as long as standard error takes what is told. Of a line
whose pipeline was conducted the shell tells the failed waits, in the order of the stages, and then
what has kept a stage from being started; of a line that is no pipeline, or that got no pipes, the
one error; of a built-in command that has failed, that; and of anything else nothing, whatever its
stages have ended with. A script tells of its lines one after the other: after each of them the next
line is evaluated, if there is one and the session has not ended. If a report is not taken, it is
the one that is due next, and the shell ends with it: what else is owed of the line is not told, and
no further line is evaluated. The commands that every session has write to standard error in no
other way, and do not end the shell. -/
theorem failures_told_once (builtins : List Builtin) :
    Mute Standard.builtins ∧
    (∀ session text history after outcome,
      Run (Evaluation.lineReported builtins session text) history (after, outcome) →
      outcome = .ok () ∧
        Owed builtins session (cutLine text session.limits.maxLine) history (told history)) ∧
    (∀ session text history message,
      Dies (Evaluation.lineReported builtins session text) history message →
      CutShort builtins session (cutLine text session.limits.maxLine) history message) ∧
    (∀ source session history after outcome,
      Run (Script.run builtins source session) history (after, outcome) →
      ∃ complete rest evaluated skipped reports, Lines source.chunks.flatten complete rest ∧
        linesOf source.fault complete rest = evaluated ++ skipped ∧
        Reports builtins session evaluated history after reports ∧ told history = reports.flatten ∧
        (skipped ≠ [] → after.exiting = true) ∧ outcome = ending source.fault after) ∧
    ∀ source session history message,
      Dies (Script.run builtins source session) history message →
      ∃ complete rest evaluated bytes skipped reports earlier middle last,
        Lines source.chunks.flatten complete rest ∧
        linesOf source.fault complete rest = evaluated ++ bytes :: skipped ∧
        history = earlier ++ last ∧ Reports builtins session evaluated earlier middle reports ∧
        told earlier = reports.flatten ∧ middle.exiting = false ∧
        CutShort builtins middle (textOf middle bytes) last message := by
  refine ⟨mute_standard, fun _ _ _ _ _ => lineReported_tells,
    fun _ _ _ _ => lineReported_cutShort, ?script, ?death⟩
  case script =>
    intro source session history after outcome ran
    obtain ⟨complete, rest, lines⟩ := exists_lines source.chunks.flatten
    obtain ⟨evaluated, skipped, cut, evaluates, stops, ended⟩ := (run_iff_evaluates lines).mp ran
    obtain ⟨reports, each, whole⟩ := reports_of_evaluates evaluates
    exact ⟨complete, rest, evaluated, skipped, reports, lines, cut, each, whole, stops, ended⟩
  case death =>
    intro source session history message died
    obtain ⟨complete, rest, lines⟩ := exists_lines source.chunks.flatten
    obtain ⟨evaluated, bytes, skipped, earlier, middle, last, cut, rfl, evaluates, going, ends⟩ :=
      (run_dies_iff lines).mp died
    obtain ⟨reports, each, whole⟩ := reports_of_evaluates evaluates
    exact ⟨complete, rest, evaluated, bytes, skipped, reports, earlier, middle, last, lines, cut, rfl,
      each, whole, going, cutShort_of_endsShell ends⟩

/-- A session with one directory to search for programs. -/
def searchingSession : Session :=
  { searchPaths := ["/bin"], directory := "/" }

/-- A pipeline whose second stage has no program, and a line that leaves the shell. -/
def haltedScript : Source :=
  ⟨[[115, 108, 101, 101, 112, 124, 102, 114, 111, 98, 10], [101, 120, 105, 116, 10]], none⟩

private theorem halted_lines : Lines haltedScript.chunks.flatten
    [[115, 108, 101, 101, 112, 124, 102, 114, 111, 98, 10], [101, 120, 105, 116, 10]] [] := by
  refine ⟨rfl, ?_, nofun⟩
  simp only [List.mem_cons, List.not_mem_nil, or_false, forall_eq_or_imp, forall_eq]
  exact ⟨⟨[115, 108, 101, 101, 112, 124, 102, 114, 111, 98], by decide, rfl⟩,
    ⟨[101, 120, 105, 116], by decide, rfl⟩⟩

private theorem halted_line : Evaluation.line Standard.builtins searchingSession "sleep|frob" =
    Evaluation.runPipeline searchingSession ⟨[{ argv := ["sleep"] }, { argv := ["frob"] }]⟩ := by
  have words : (Text.trim "sleep|frob").isEmpty = false := by decide
  have read : Pipeline.readWith (Expansion.word searchingSession) searchingSession.limits
      (Text.trim "sleep|frob") = .ok ⟨[{ argv := ["sleep"] }, { argv := ["frob"] }]⟩ := by rfl
  rw [LineErrors.line_of_words words, read]

/-- Two failures of one line: the wait for its first stage fails, and its second has no program. -/
private theorem halted_job : ∃ running left,
    Run (Job.run ["/bin"] ⟨[{ argv := ["sleep"] }, { argv := ["frob"] }]⟩) running
      (left, .ok ⟨[⟨⟨41, 0⟩, .error (.waitFailed ⟨10⟩)⟩], some (.commandNotFound "frob")⟩) := by
  have ran : Run (Job.run ["/bin"] ⟨[{ argv := ["sleep"] }, { argv := ["frob"] }]⟩)
      [⟨.openPipe, .ok ⟨3, 4⟩⟩, ⟨.closeOnExec 3, .ok ()⟩, ⟨.closeOnExec 4, .ok ()⟩,
        ⟨.isExecutable "/bin/sleep", true⟩, ⟨.log _ _, ()⟩, ⟨.fork _, .ok 41⟩, ⟨.log _ _, ()⟩,
        ⟨.isExecutable "/bin/frob", false⟩, ⟨.isExecutable "frob", false⟩, ⟨.log _ _, ()⟩,
        ⟨.close 3, ()⟩, ⟨.close 4, ()⟩, ⟨.setForeground 41, ()⟩, ⟨.wait 41, .error ⟨10⟩⟩,
        ⟨.log _ _, ()⟩, ⟨.setForeground 0, ()⟩]
      (_, .ok ⟨[⟨⟨41, 0⟩, .error (.waitFailed ⟨10⟩)⟩], some (.commandNotFound "frob")⟩) :=
    .ask _ <| .ask _ <| .ask _ <| .ask _ <| .ask _ <| .ask _ <| .ask _ <| .ask _ <| .ask _ <|
    .ask _ <| .ask _ <| .ask _ <| .ask _ <| .settled _ rfl <| .ask _ <| .ask _ <| .done _
  exact ⟨_, _, ran⟩

/-- The wait for the first stage fails, so the shell tells of the first line twice. Then it comes to
the second. -/
theorem failures_told_once_halted : ∃ history evaluated reports,
    Run (Script.run Standard.builtins haltedScript searchingSession) history
      ({ searchingSession with exiting := true }, .ok ()) ∧
    Reports Standard.builtins searchingSession evaluated history
      { searchingSession with exiting := true } reports ∧
    told history = reports.flatten ∧
    told history = ["pipesh: waitpid failed: ECHILD: No child processes\n",
      "pipesh: frob: command not found\n"] := by
  obtain ⟨running, _, ran⟩ := halted_job
  have silent : told running = [] := told_of_silent (run_silent _ _) ran
  have halted : Run (Evaluation.line Standard.builtins searchingSession "sleep|frob")
      (running ++ [written (LineError.waitFailed ⟨10⟩).message])
      (searchingSession, .error (.commandNotFound "frob")) := by
    rw [halted_line]
    refine ran.bind (run_bind_iff.mpr ⟨[_], (), [], rfl, ?_, .done _⟩)
    exact run_complaints_iff.mpr rfl
  have left : Run (Evaluation.line Standard.builtins searchingSession "exit")
      [⟨.log .debug "running builtin exit", ()⟩]
      ({ searchingSession with exiting := true }, .ok 0) :=
    .ask _ <| .done _
  have evaluates : Evaluates Standard.builtins searchingSession
      [[115, 108, 101, 101, 112, 124, 102, 114, 111, 98, 10], [101, 120, 105, 116, 10]] _
      { searchingSession with exiting := true } :=
    .line rfl halted (run_complain_iff.mpr rfl) <| .line rfl left (.ask () (.done ())) <| .none _
  have ran := (run_iff_evaluates halted_lines).mpr ⟨_, [], rfl, evaluates, nofun, rfl⟩
  obtain ⟨-, -, -, scripts, -⟩ := failures_told_once Standard.builtins
  obtain ⟨_, _, evaluated, _, reports, -, -, each, whole, -⟩ := scripts _ _ _ _ _ ran
  refine ⟨_, evaluated, reports, ran, each, whole, ?_⟩
  rw [told_append, told_append, told_append, silent]
  rfl

/-- The report of the failed wait is not taken. So the missing program is not told of, and the second
line is not evaluated. -/
theorem failures_left_untold : ∃ history,
    Dies (Script.run Standard.builtins haltedScript searchingSession)
      (history ++ [⟨.printError "pipesh: waitpid failed: ECHILD: No child processes\n",
        .error (.refused ⟨28⟩)⟩])
      "failed printing to stderr: No space left on device (os error 28)" ∧
    told history = [] ∧
    ∀ later after outcome, ¬Run (Script.run Standard.builtins haltedScript searchingSession)
      (history ++ [⟨.printError "pipesh: waitpid failed: ECHILD: No child processes\n",
        .error (.refused ⟨28⟩)⟩] ++ later) (after, outcome) := by
  obtain ⟨running, _, ran⟩ := halted_job
  have died : Dies (Evaluation.line Standard.builtins searchingSession "sleep|frob")
      (running ++ [refused (LineError.waitFailed ⟨10⟩).message (.refused ⟨28⟩)])
      (lastWords (.refused ⟨28⟩)) := by
    rw [halted_line]
    refine dies_bind_iff.mpr (.inr ⟨running, _, _, rfl, ran, dies_bind_iff.mpr (.inl ?_)⟩)
    exact dies_complaints_iff.mpr ⟨[], _, [], _, rfl, rfl, rfl⟩
  have dies := (run_dies_iff halted_lines).mpr
    ⟨[], _, _, [], searchingSession, _, rfl, rfl, .none _, rfl, .evaluating died⟩
  exact ⟨running, dies, told_of_silent (run_silent _ _) ran, fun later after outcome => dies.not_run⟩

end LineShell.FailureReports
