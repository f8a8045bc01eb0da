import LineShell.Evaluation
import LineShell.Proofs.DialogueRuns
import LineShell.Proofs.LineReading
import LineShell.Proofs.RedirectionForm

/-! The errors of a line. Some are found before the first stage of the line is looked at, others
keep a stage from being started. There are no more kinds, so no line ends the shell. -/
namespace LineShell.LineErrors
open Dialogue

/-- The errors that are found before the first stage of a line is looked at. -/
def Preliminary : LineError → Prop
  | .unclosedQuote | .emptyCommand | .tooManyStages _ | .tooManyWords _ | .invalidRedirection
  | .pipeFailed _ => True
  | _ => False

/-- The errors that keep a stage from being started. -/
def OfStage : LineError → Prop
  | .commandNotFound _ | .launchFailed _ | .forkFailed _ => True
  | _ => False

theorem OfStage.not_preliminary {e : LineError} (late : OfStage e) : ¬Preliminary e := by
  cases e <;> first | exact id | cases late

/-- Only the lack of memory ends the shell. -/
theorem not_fatal {e : LineError} (known : Preliminary e ∨ OfStage e) : e.isFatal = false := by
  cases e with
  | outOfMemory =>
    rcases known with early | late
    · cases early
    · cases late
  | _ => rfl

/-! ### Reading a line -/

section Reading

variable {e : LineError}

private theorem error_of_map {α β : Type} {f : α → β} {x : Except LineError α}
    (failed : f <$> x = .error e) : x = .error e := by
  cases x with
  | error reason => cases failed; rfl
  | ok value => cases failed

private theorem scan_error {room : Nat} {state : Word.Progress} {cs : List Char}
    (failed : Word.scan room state cs = .error e) : e = .unclosedQuote := by
  fun_induction Word.scan room state cs
  case case1 | case2 | case3 => cases failed
  case case4 => cases failed; rfl
  case case8 ih | case11 ih => exact ih (error_of_map failed)
  case case5 ih | case6 ih | case7 ih | case9 ih | case10 ih | case12 ih => exact ih failed

private theorem readStage_error {maxWords : Nat} {expand : Word → String} {segment : String}
    (failed : Pipeline.readStage maxWords expand segment = .error e) : Preliminary e := by
  unfold Pipeline.readStage at failed
  cases found : Word.split segment (Limits.oneBeyond maxWords) with
  | error reason =>
    rw [found] at failed
    cases failed
    cases scan_error found
    trivial
  | ok words =>
    rw [found] at failed
    simp only [Bind.bind, Except.bind] at failed
    split at failed
    · cases failed
      trivial
    · split at failed
      · cases failed
        trivial
      · cases failed

theorem readWith_error {expand : Word → String} {limits : Limits} {line : String}
    (failed : Pipeline.readWith expand limits line = .error e) : Preliminary e := by
  unfold Pipeline.readWith at failed
  simp only [Bind.bind, Except.bind] at failed
  split at failed
  · cases failed
    trivial
  · split at failed
    · rename_i reason stopped
      cases failed
      obtain ⟨_, segment, _, -, -, failed⟩ := LineReading.mapM_error_iff.mp stopped
      exact readStage_error failed
    · cases failed

private theorem redirection_error {tokens : List String}
    (failed : Redirection.find? tokens = .error e) : Preliminary e := by
  rw [(RedirectionForm.of_find?_eq_error failed).1]
  trivial

end Reading

/-! ### Running the stages -/

section Stages

variable (searchPaths : List String)

private theorem resolve_ends (name : String) :
    (Resolver.resolve searchPaths name).Ends fun resolved => ∀ e, resolved = .error e → OfStage e := by
  refine .after fun found => ?_
  cases found with
  | none =>
    refine .done fun e same => ?_
    cases same
    trivial
  | some found => exact .after fun _ => .done nofun

private theorem prepare_ends (stage : Stage) :
    (Job.prepare searchPaths stage).Ends fun prepared => ∀ e, prepared.2 = .error e → OfStage e := by
  refine (resolve_ends searchPaths stage.name).bind fun resolved known => ?_
  cases resolved with
  | error reason =>
    refine .done fun e same => ?_
    cases same
    exact known reason rfl
  | ok path =>
    dsimp only
    cases Job.textFault? stage path with
    | none => exact .done nofun
    | some fault =>
      refine .done fun e same => ?_
      cases same
      trivial

private theorem start_ends (pipes : List PipeEnds) (position : Nat) (stages : List Stage) :
    (Job.start searchPaths pipes position stages).Ends fun started =>
      ∀ e, started.failure = some e → OfStage e := by
  induction stages generalizing position with
  | nil => exact .done nofun
  | cons stage rest ih =>
    refine (prepare_ends searchPaths stage).bind fun prepared known => ?_
    obtain ⟨found, reason | launch⟩ := prepared
    · refine .after fun _ => .done fun e same => ?_
      cases same
      exact known reason rfl
    refine .after fun forked => ?_
    cases forked with
    | error reason =>
      refine .after fun _ => .done fun e same => ?_
      cases same
      trivial
    | ok pid => exact .after fun _ => (ih (position + 1)).bind fun later known => .done known

/-- Running a pipeline fails for the lack of a pipe, or tells what kept a stage from being
started. -/
theorem run_ends (pipeline : Pipeline) :
    (Job.run searchPaths pipeline).Ends fun (_, outcome) =>
      (∀ e, outcome = .error e → Preliminary e) ∧
        ∀ report e, outcome = .ok report → report.failure = some e → OfStage e := by
  refine .after fun opened => ?_
  cases opened with
  | error reason =>
    refine .done ⟨fun e same => ?_, nofun⟩
    cases same
    trivial
  | ok pipes =>
    refine (start_ends searchPaths pipes 0 pipeline.stages).bind fun started known => ?_
    refine .after fun _ => .after fun exits => .done ⟨nofun, fun report e same failed => ?_⟩
    cases same
    exact known e failed

end Stages

/-! ### Evaluating a line -/

/-- What a line may come to: only an error of these kinds. -/
private def Known (result : Session × LineResult) : Prop :=
  ∀ e, result.2 = .error e → Preliminary e ∨ OfStage e

private theorem runPipeline_ends (session : Session) (pipeline : Pipeline) :
    (Evaluation.runPipeline session pipeline).Ends Known := by
  refine (run_ends session.searchPaths pipeline).bind fun (after, outcome) ⟨early, late⟩ => ?_
  cases outcome with
  | error reason =>
    refine .done fun e same => ?_
    cases same
    exact .inl (early reason rfl)
  | ok report =>
    refine .after fun _ => ?_
    cases failed : report.failure with
    | none => exact .done nofun
    | some reason =>
      refine .done fun e same => ?_
      cases same
      exact .inr (late report reason rfl failed)

private theorem runBuiltin_ends (session : Session) (name : String) (command : Command) :
    (Evaluation.runBuiltin session name command).Ends Known := by
  refine .after fun _ => .after fun (after, outcome) => ?_
  cases outcome with
  | ok code => exact .done nofun
  | error reasons => exact .after fun _ => .done nofun

private theorem runSingle_ends (builtins : List Builtin) (session : Session) (stage : Stage) :
    (Evaluation.runSingle builtins session stage).Ends Known := by
  refine .after fun argv => ?_
  split
  · exact runBuiltin_ends session _ _
  · split
    · rename_i failed
      refine .done fun e same => ?_
      cases same
      exact .inl (redirection_error failed)
    · exact runPipeline_ends session _
    · exact runPipeline_ends session _

section Lines

variable {builtins : List Builtin} {session : Session}

theorem line_of_blank {text : String} (blank : (Text.trim text).isEmpty) :
    Evaluation.line builtins session text = .done (session, .ok 0) :=
  if_pos blank

theorem line_of_words {text : String} (words : (Text.trim text).isEmpty = false) :
    Evaluation.line builtins session text =
      match Pipeline.readWith (Expansion.word session) session.limits (Text.trim text) with
      | .error e => .done (session, .error e)
      | .ok ⟨[stage]⟩ => Evaluation.runSingle builtins session stage
      | .ok pipeline => Evaluation.runPipeline session pipeline :=
  if_neg (Bool.eq_false_iff.mp words)

/-- Whatever the system answers, the error of a line is of one of the two kinds. -/
theorem line_ends (builtins : List Builtin) (session : Session) (text : String) :
    (Evaluation.line builtins session text).Ends fun result =>
      ∀ e, result.2 = .error e → Preliminary e ∨ OfStage e := by
  cases words : (Text.trim text).isEmpty with
  | true =>
    rw [line_of_blank words]
    exact .done nofun
  | false =>
    rw [line_of_words words]
    split
    · rename_i failed
      refine .done fun e same => ?_
      cases same
      exact .inl (readWith_error failed)
    · exact runSingle_ends builtins session _
    · exact runPipeline_ends session _

end Lines

end LineShell.LineErrors
