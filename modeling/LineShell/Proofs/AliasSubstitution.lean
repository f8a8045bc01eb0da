import LineShell.Builtin.Standard
import LineShell.Proofs.LinePlans

/-! Aliases. What a name stands for is looked up once, for the first word of a line with a single
stage, after that word has been expanded, and is taken as it stands. In a longer pipeline no word is
looked up at all, neither among the aliases nor among the built-in commands. -/
namespace LineShell.AliasSubstitution
open ExpansionShape LinePlans

/-- Evaluates the words of a single stage with the lookup of aliases switched off: whether the first
is a built-in command, whether they end in a redirection, and what they run. -/
def evaluateWords (builtins : List Builtin) (session : Session) (argv : List String) :
    Shell (Session × LineResult) :=
  (Plan.ofWords builtins argv).carryOut session

/-- The sessions agree on all that a longer pipeline depends on. They may differ in their aliases,
their history and in whether they are to be left. -/
structure Agree (session other : Session) : Prop where
  searchPaths : session.searchPaths = other.searchPaths
  limits : session.limits = other.limits
  directory : session.directory = other.directory
  environment : session.environment = other.environment

section Stages

variable {builtins : List Builtin} {session other : Session} {text : String} {stage : Stage}

/-- A line with a single stage is evaluated as the words that its alias leaves, after the note of
the alias. -/
theorem line_of_single
    (read : Pipeline.readWith (Expansion.word session) session.limits (Text.trim text) =
      .ok ⟨[stage]⟩) :
    Evaluation.line builtins session text =
      (note session.aliases stage.argv >>= fun _ =>
        evaluateWords builtins session (substitute session.aliases stage.argv)) := by
  rw [line_eq_carryOut, Plan.ofLine_of_read read, noteLine, read]
  rfl

/-- Words whose first has no alias are left as they are, and nothing is noted. -/
theorem line_of_unaliased
    (read : Pipeline.readWith (Expansion.word session) session.limits (Text.trim text) =
      .ok ⟨[stage]⟩)
    (unknown : session.aliases.lookup stage.name = none) :
    Evaluation.line builtins session text = evaluateWords builtins session stage.argv := by
  rw [line_of_single read]
  obtain ⟨name, operands, typed⟩ := name_of_read read
  obtain ⟨argv, program, redirect⟩ := stage
  obtain _ | ⟨first, rest⟩ := argv
  · cases typed
  · have missing : session.aliases.lookup first = none := unknown
    dsimp only [substitute, note]
    rw [missing]
    rfl

/-- A line with a mark is refused or run as a pipeline, whatever the built-in commands are. -/
theorem line_of_mark (builtins : List Builtin) (session : Session) (mark : '|' ∈ text.toList) :
    (∃ e, Pipeline.readWith (Expansion.word session) session.limits (Text.trim text) = .error e ∧
      Evaluation.line builtins session text = return (session, .error e)) ∨
    ∃ pipeline,
      Pipeline.readWith (Expansion.word session) session.limits (Text.trim text) = .ok pipeline ∧
      2 ≤ pipeline.stages.length ∧
      Evaluation.line builtins session text = Evaluation.runPipeline session pipeline := by
  have inside : '|' ∈ (Text.trim text).toList := Text.mem_trim (by decide) mark
  cases outcome : Pipeline.readWith (Expansion.word session) session.limits (Text.trim text) with
  | error e =>
    have words : (Text.trim text).isEmpty = false := by
      cases blank : (Text.trim text).isEmpty with
      | false => rfl
      | true =>
        rw [String.isEmpty_iff.mp blank] at inside
        cases inside
    rw [LineErrors.line_of_words words, outcome]
    exact .inl ⟨e, rfl, rfl⟩
  | ok pipeline =>
    obtain ⟨found, splits, rfl⟩ := readWith_ok_iff_splits.mp outcome
    have several : 2 ≤ (pipelineOf (Expansion.word session) found).stages.length := by
      rw [length_pipelineOf]
      exact splits.several inside
    exact .inr ⟨_, rfl, several, line_of_several outcome several⟩

/-- Sessions that agree expand every word to the same argument. -/
theorem Agree.word (agree : Agree session other) :
    Expansion.word session = Expansion.word other := by
  have values : session.valueOf? = other.valueOf? := by
    funext name
    rw [Session.valueOf?, Session.valueOf?, agree.directory, agree.environment]
  funext word
  rw [Expansion.word, Expansion.word, values]

end Stages

/-- Aliases act once, on the first word of a single stage. A line with the words `name :: operands`
is evaluated, after the note of the alias, as the words with the command of the name in its place
and with the lookup switched off; and lookup is switched off for every line to whose name there is
no alias. So the command is not looked up in its turn, and neither it nor an operand is expanded or
split. A line with a mark is refused in all sessions that agree, for the same reason, or is the same
pipeline with the same result in all of them, whatever their aliases and their built-in commands. -/
theorem aliases_act_once (builtins : List Builtin) (session : Session) (text : String) :
    (∀ stage name operands,
      Pipeline.readWith (Expansion.word session) session.limits (Text.trim text) = .ok ⟨[stage]⟩ →
      stage.argv = name :: operands →
      Evaluation.line builtins session text =
        (note session.aliases (name :: operands) >>= fun _ =>
          evaluateWords builtins session
            ((session.aliases.lookup name).getD name :: operands)) ∧
      (session.aliases.lookup name = none →
        Evaluation.line builtins session text =
          evaluateWords builtins session (name :: operands))) ∧
    ∀ others other, Agree session other → '|' ∈ text.toList →
      (∃ e, Evaluation.line builtins session text = pure (session, .error e) ∧
        Evaluation.line others other text = pure (other, .error e)) ∨
      ∃ pipeline result, 2 ≤ pipeline.stages.length ∧
        Evaluation.line builtins session text = Evaluation.runPipeline session pipeline ∧
        Evaluation.line others other text = Evaluation.runPipeline other pipeline ∧
        Evaluation.runPipeline session pipeline = (session, ·) <$> result ∧
        Evaluation.runPipeline other pipeline = (other, ·) <$> result := by
  constructor
  · intro stage name operands read typed
    refine ⟨?_, fun unknown => ?_⟩
    · rw [line_of_single read, typed]
      rfl
    · rw [line_of_unaliased read, typed]
      rw [Stage.name, typed]
      exact unknown
  · intro others other agree mark
    have reads : Pipeline.readWith (Expansion.word other) other.limits (Text.trim text) =
        Pipeline.readWith (Expansion.word session) session.limits (Text.trim text) := by
      rw [agree.word, agree.limits]
    rcases line_of_mark builtins session mark with
      ⟨e, failed, refused⟩ | ⟨pipeline, read, several, launched⟩
    · rcases line_of_mark others other mark with ⟨reason, again, also⟩ | ⟨_, again, -⟩
      · cases failed.symm.trans (reads.symm.trans again)
        exact .inl ⟨e, refused, also⟩
      · cases failed.symm.trans (reads.symm.trans again)
    · rcases line_of_mark others other mark with ⟨_, again, -⟩ | ⟨same, again, -, also⟩
      · cases read.symm.trans (reads.symm.trans again)
      · cases read.symm.trans (reads.symm.trans again)
        refine .inr ⟨pipeline, resultOf session.searchPaths pipeline, several, launched, also,
          runPipeline_eq session pipeline, ?_⟩
        rw [runPipeline_eq, agree.searchPaths]

/-- A session in which two names stand for each other. -/
def circularSession : Session :=
  { directory := "/", aliases := ⟨[("ls", "dir"), ("dir", "ls")]⟩ }

/-- Of two names that stand for each other one replaces the other once. Neither is replaced in a
longer pipeline, which ends as it does without aliases and without built-in commands. -/
theorem aliases_act_once_circular :
    Evaluation.line Standard.builtins circularSession "ls 'dir'" =
      (Shell.log .debug "alias ls -> dir" >>= fun _ =>
        evaluateWords Standard.builtins circularSession ["dir", "dir"]) ∧
    ∃ result, Evaluation.line Standard.builtins circularSession "ls | cd" =
        (circularSession, ·) <$> result ∧
      Evaluation.line [] { directory := "/" } "ls | cd" = ({ directory := "/" }, ·) <$> result := by
  have read : Pipeline.readWith (Expansion.word circularSession) circularSession.limits
      (Text.trim "ls 'dir'") = .ok ⟨[{ argv := ["ls", "dir"] }]⟩ := by rfl
  have agree : Agree circularSession { directory := "/" } := ⟨rfl, rfl, rfl, rfl⟩
  obtain ⟨single, -⟩ := aliases_act_once Standard.builtins circularSession "ls 'dir'"
  obtain ⟨-, pipelines⟩ := aliases_act_once Standard.builtins circularSession "ls | cd"
  refine ⟨(single _ _ _ read rfl).1, ?_⟩
  obtain ⟨e, refused, also⟩ | ⟨pipeline, result, -, launched, also, own, others⟩ :=
    pipelines [] _ agree (by decide)
  · exact ⟨pure (.error e), refused, also⟩
  · exact ⟨result, launched.trans own, also.trans others⟩

end LineShell.AliasSubstitution
