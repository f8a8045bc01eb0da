import LineShell.Builtin.Standard
import LineShell.Proofs.LineErrors
import LineShell.Proofs.PipelineCalls

/-! Lines that fail. An error is told before anything is done that lasts: the session stays as it
was, no built-in command has run, and errors found before a program could be started leave no
process behind. -/
namespace LineShell.FailedLines
open Dialogue PipelineDescriptors PipelineCalls LineErrors RefusedReports

/-- The calls that leave the directory of the shell, its files and its output as they are. Only a
child opens the target of a redirection. -/
def Traceless : Call → Prop
  | .changeDirectory _ | .print _ | .openLog .. => False
  | _ => True

/-- No process was started. -/
def Childless (history : List (Exchange Call Call.Answer)) : Prop :=
  ∀ task pid, ⟨.fork task, .ok pid⟩ ∉ history

section Children

variable {β : Type} {earlier later history : List (Exchange Call Call.Answer)}

theorem Childless.append (first : Childless earlier) (second : Childless later) :
    Childless (earlier ++ later) := by
  intro task pid member
  rcases List.mem_append.mp member with before | after
  · exact first task pid before
  · exact second task pid after

theorem childless_of_only {allowed : Call → Prop} {program : Shell β} {value : β}
    (only : Only allowed program) (never : ∀ task, ¬allowed (.fork task))
    (ran : Run program history value) : Childless history := by
  intro task pid member
  exact never task ((only.along ran.course).1 _ member)

theorem traceless_of_only {program : Shell β} {value : β} (only : Only Traceless program)
    (ran : Run program history value) : ∀ exchange ∈ history, Traceless exchange.1 :=
  (only.along ran.course).1

end Children

/-! ### Pipelines that fail -/

section Pipelines

variable {searchPaths : List String} {history : List (Exchange Call Call.Answer)} {e : LineError}

/-- If the only stage is not started there is no process. -/
private theorem start_childless {pipes : List PipeEnds} {position : Nat} {stages : List Stage}
    {started : Job.Started} (ran : Run (Job.start searchPaths pipes position stages) history started)
    (alone : stages.length ≤ 1) (failed : started.failure ≠ none) : Childless history := by
  cases stages with
  | nil =>
    obtain ⟨-, rfl⟩ := run_done_iff.mp ran
    exact absurd rfl failed
  | cons stage rest =>
    obtain rfl := List.eq_nil_of_length_eq_zero (Nat.le_zero.mp (Nat.le_of_succ_le_succ alone))
    obtain ⟨search, found, outcome, later, rfl, preparing, step⟩ := start_step ran
    have searched : Childless search := childless_of_only (prepare_quiet _ _) nofun preparing
    cases outcome with
    | error reason =>
      obtain ⟨⟨_, rfl⟩, -⟩ := step
      exact searched.append nofun
    | ok launch =>
      rcases step with ⟨reason, _, rfl, -⟩ | ⟨pid, _, remaining, others, -, starts, rfl⟩
      · exact searched.append nofun
      · obtain ⟨-, rfl⟩ := run_done_iff.mp starts
        exact absurd rfl failed

/-- A run that has not started its only stage has started no process. -/
private theorem run_childless {pipeline after : Pipeline} {outcome : Except LineError Report}
    (ran : Run (Job.run searchPaths pipeline) history (after, outcome))
    (failed : ∀ report, outcome = .ok report →
      pipeline.stages.length ≤ 1 ∧ report.failure ≠ none) : Childless history := by
  rcases run_parts ran with ⟨reason, opens, rfl, rfl⟩ |
    ⟨pipes, started, exits, opening, starting, closing, waiting, rfl, opens, starts, closes, reaps,
      rfl, rfl⟩
  · exact childless_of_only (openPipes_opens [] _) nofun opens
  · obtain ⟨alone, failed⟩ := failed _ rfl
    have opened := childless_of_only (openPipes_opens [] _) nofun opens
    have first := start_childless starts alone failed
    have closed := childless_of_only (closePipes_closes pipes).opens nofun closes
    have waited := childless_of_only (Only.mapM reap_awaits _) nofun reaps
    exact opened.append (first.append (closed.append waited))

theorem runPipeline_traceless (session : Session) (pipeline : Pipeline) :
    Only Traceless (Evaluation.runPipeline session pipeline) := by
  have run : Only Traceless (Job.run session.searchPaths pipeline) := by
    refine (run_calls session.searchPaths pipeline).mono fun call made => ?_
    rcases made with opens | starts | awaits
    all_goals cases call <;> first | exact trivial | assumption
  refine run.bind fun result => ?_
  obtain ⟨after, e | report⟩ := result
  · trivial
  refine ((complaints_report report.waitErrors _).mono fun call reports => ?_).bind fun _ => ?_
  · cases call <;> first | exact trivial | cases reports
  · split <;> trivial

/-- A pipeline that fails before any of its stages does leaves no process behind, and neither does
one with a single stage. -/
private theorem runPipeline_failed {session after : Session} {pipeline : Pipeline}
    (ran : Run (Evaluation.runPipeline session pipeline) history (after, .error e)) :
    after = session ∧ (Preliminary e ∨ pipeline.stages.length ≤ 1 → Childless history) := by
  obtain ⟨running, ⟨left, outcome⟩, _, rfl, runs, further⟩ := run_bind_iff.mp ran
  cases outcome with
  | error reason =>
    obtain ⟨rfl, same⟩ := run_done_iff.mp further
    cases same
    exact ⟨rfl, fun _ => (run_childless runs nofun).append nofun⟩
  | ok report =>
    obtain ⟨complaining, _, _, rfl, complains, ended⟩ := run_bind_iff.mp further
    have complained : Childless complaining :=
      childless_of_only (complaints_report _ _) nofun complains
    cases failed : report.failure with
    | none =>
      rw [failed] at ended
      cases (run_done_iff.mp ended).2
    | some reason =>
      rw [failed] at ended
      obtain ⟨rfl, same⟩ := run_done_iff.mp ended
      cases same
      have late : OfStage e :=
        ((run_ends session.searchPaths pipeline).of_run runs).2 report e rfl failed
      refine ⟨rfl, fun early => ?_⟩
      have alone := early.resolve_left late.not_preliminary
      have childless : Childless running := by
        refine run_childless runs fun told same => ?_
        cases same
        exact ⟨alone, by rw [failed]; nofun⟩
      exact childless.append (complained.append nofun)

end Pipelines

/-! ### Lines that fail -/

/-- The commands of `others` are found at most where those of `builtins` are. What they do does not
matter. -/
def AnswersAtMost (others builtins : List Builtin) : Prop :=
  ∀ name operands, Builtin.find? builtins name operands = none →
    Builtin.find? others name operands = none

section Lines

variable {builtins : List Builtin} {session after : Session}
  {history : List (Exchange Call Call.Answer)} {e : LineError}

private theorem substituteAlias_logs (session : Session) (argv : List String) :
    Only (fun call => ∃ level text, call = .log level text)
      (Evaluation.substituteAlias session argv) := by
  cases argv with
  | nil => trivial
  | cons name operands =>
    unfold Evaluation.substituteAlias
    dsimp only
    split
    · trivial
    · exact (Only.request ⟨_, _, rfl⟩).bind fun _ => trivial

/-- A built-in command that has run is not an error of the line, even if it has failed. -/
private theorem runBuiltin_done {name : String} {command : Command} :
    ¬Run (Evaluation.runBuiltin session name command) history (after, .error e) := by
  intro ran
  obtain ⟨_, _, rfl, running⟩ := run_request_iff.mp ran
  obtain ⟨_, ⟨left, outcome⟩, _, rfl, -, ended⟩ := run_bind_iff.mp running
  cases outcome with
  | ok code => cases (run_done_iff.mp ended).2
  | error reasons =>
    obtain ⟨_, _, _, rfl, -, past⟩ := run_bind_iff.mp ended
    cases (run_done_iff.mp past).2

/-- A single stage that fails has not been a built-in command, and has started no process. -/
private theorem runSingle_failed {stage : Stage}
    (ran : Run (Evaluation.runSingle builtins session stage) history (after, .error e)) :
    after = session ∧ Childless history ∧ (∀ exchange ∈ history, Traceless exchange.1) ∧
      ∀ others, AnswersAtMost others builtins →
        Run (Evaluation.runSingle others session stage) history (after, .error e) := by
  obtain ⟨aliasing, argv, running, rfl, aliased, dispatched⟩ := run_bind_iff.mp ran
  have quiet := substituteAlias_logs session stage.argv
  have traceless : ∀ exchange ∈ aliasing, Traceless exchange.1 := by
    refine traceless_of_only (quiet.mono ?_) aliased
    rintro _ ⟨level, text, rfl⟩
    trivial
  have childless : Childless aliasing := childless_of_only quiet nofun aliased
  cases found : Builtin.find? builtins (argv.headD "") argv.tail with
  | some command =>
    rw [found] at dispatched
    exact absurd dispatched runBuiltin_done
  | none =>
    rw [found] at dispatched
    have result : after = session ∧ Childless running ∧
        ∀ exchange ∈ running, Traceless exchange.1 := by
      have failing {only : Stage}
          (failed : Run (Evaluation.runPipeline session ⟨[only]⟩) running (after, .error e)) :
          after = session ∧ Childless running ∧ ∀ exchange ∈ running, Traceless exchange.1 := by
        obtain ⟨same, childless⟩ := runPipeline_failed failed
        exact ⟨same, childless (.inr (Nat.le_refl 1)), traceless_of_only (runPipeline_traceless _ _) failed⟩
      dsimp only at dispatched
      split at dispatched
      · obtain ⟨rfl, same⟩ := run_done_iff.mp dispatched
        cases same
        exact ⟨rfl, nofun, nofun⟩
      · exact failing dispatched
      · exact failing dispatched
    obtain ⟨same, alone, untouched⟩ := result
    refine ⟨same, childless.append alone, List.forall_mem_append.mpr ⟨traceless, untouched⟩, ?_⟩
    intro others fewer
    refine aliased.bind ?_
    rw [fewer _ _ found]
    exact dispatched

/-- A line that fails leaves no trace. The session is what it was, the directory of the shell too,
and no built-in command has run: with any other commands in the place of the built-in ones, the run
would be the same. No process was started either, if the error was found before the first stage was
looked at or if there is only one stage. In particular nothing was done to the target of a
redirection, which is for a child to open. -/
theorem failed_line_leaves_no_trace {text : String}
    (ran : Run (Evaluation.line builtins session text) history (after, .error e)) :
    after = session ∧
    (∀ others, AnswersAtMost others builtins →
      Run (Evaluation.line others session text) history (session, .error e)) ∧
    (∀ exchange ∈ history, Traceless exchange.1) ∧
    (Preliminary e ∨ (∃ stage, Pipeline.readWith (Expansion.word session) session.limits
      (Text.trim text) = .ok ⟨[stage]⟩) → Childless history) := by
  have words : (Text.trim text).isEmpty = false := by
    cases blank : (Text.trim text).isEmpty with
    | false => rfl
    | true =>
      rw [line_of_blank blank] at ran
      cases (run_done_iff.mp ran).2
  simp only [line_of_words words] at ran ⊢
  cases outcome : Pipeline.readWith (Expansion.word session) session.limits (Text.trim text) with
  | error reason =>
    rw [outcome] at ran
    obtain ⟨rfl, same⟩ := run_done_iff.mp ran
    cases same
    exact ⟨rfl, fun _ _ => .done _, nofun, fun _ => nofun⟩
  | ok pipeline =>
    rw [outcome] at ran
    obtain ⟨stages⟩ := pipeline
    rcases stages with _ | ⟨stage, _ | ⟨second, further⟩⟩
    case cons.nil =>
      obtain ⟨rfl, childless, traceless, again⟩ := runSingle_failed ran
      exact ⟨rfl, again, traceless, fun _ => childless⟩
    -- In any other pipeline no word is looked up as a built-in command.
    all_goals
      obtain ⟨rfl, childless⟩ := runPipeline_failed ran
      refine ⟨rfl, fun _ _ => ran, traceless_of_only (runPipeline_traceless _ _) ran, fun early => ?_⟩
      refine childless (early.imp_right ?_)
      rintro ⟨stage, same⟩
      cases same

end Lines

/-- A session in which one name stands for another. -/
def pagerSession : Session :=
  { searchPaths := ["/bin"], directory := "/home", aliases := ⟨[("view", "less")]⟩ }

/-- The command behind an alias is not found, so the file after the operator is left alone. -/
theorem failed_line_leaves_no_trace_redirected : ∃ history,
    Run (Evaluation.line Standard.builtins pagerSession "view > out") history
      (pagerSession, .error (.commandNotFound "less")) ∧ Childless history := by
  have words : (Text.trim "view > out").isEmpty = false := by decide
  have reads : Pipeline.readWith (Expansion.word pagerSession) pagerSession.limits
      (Text.trim "view > out") = .ok ⟨[{ argv := ["view", ">", "out"] }]⟩ := by rfl
  have single : Evaluation.line Standard.builtins pagerSession "view > out" =
      Evaluation.runSingle Standard.builtins pagerSession { argv := ["view", ">", "out"] } := by
    rw [line_of_words words, reads]
  have ran : Run (Evaluation.runSingle Standard.builtins pagerSession { argv := ["view", ">", "out"] })
      [⟨.log _ _, ()⟩, ⟨.isExecutable "/bin/less", false⟩, ⟨.isExecutable "less", false⟩,
        ⟨.log _ _, ()⟩] (pagerSession, .error (.commandNotFound "less")) :=
    .ask _ <| .ask _ <| .ask _ <| .ask _ <| .done _
  rw [← single] at ran
  obtain ⟨-, -, -, childless⟩ := failed_line_leaves_no_trace ran
  exact ⟨_, ran, childless (.inr ⟨_, reads⟩)⟩

end LineShell.FailedLines
