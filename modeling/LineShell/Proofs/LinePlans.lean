import LineShell.Evaluation
import LineShell.Proofs.ExpansionShape
import LineShell.Proofs.LineErrors
import LineShell.Proofs.RedirectionForm

/-! What a line comes to. Before anything is done for a line it is decided what that will be, from
the text, the session and the built-in commands alone. So the evaluation of a line is the note of an
alias, if one is used, and then its plan carried out. -/
namespace LineShell.LinePlans
open Dialogue ExpansionShape RedirectionForm

/-- What is to be done for a line. -/
inductive Plan where
  | nothing
  | refuse (e : LineError)
  | perform (name : String) (command : Command)
  | launch (pipeline : Pipeline)

/-- The words of a stage with what the first of them stands for in its place. -/
def substitute (aliases : AliasTable) : List String → List String
  | [] => []
  | name :: operands => (aliases.lookup name).getD name :: operands

/-- The log has a line for an alias that is used. -/
def note (aliases : AliasTable) : List String → Shell Unit
  | [] => return ()
  | name :: _ =>
    match aliases.lookup name with
    | none => return ()
    | some command => Shell.log .debug ("alias " ++ name ++ " -> " ++ command)

namespace Plan

/-- The plan for the words of a single stage. No alias is looked up. -/
def ofWords (builtins : List Builtin) (argv : List String) : Plan :=
  match Builtin.find? builtins (argv.headD "") argv.tail with
  | some command => .perform (argv.headD "") command
  | none =>
    match Redirection.find? argv with
    | .error e => .refuse e
    | .ok none => .launch ⟨[{ argv := argv }]⟩
    | .ok (some r) => .launch ⟨[{ argv := r.argv, redirect := some r.target }]⟩

/-- The words of a built-in command are there for it to be performed. -/
theorem ofWords_of_found {builtins : List Builtin} {name : String} {operands : List String}
    {command : Command} (found : Builtin.find? builtins name operands = some command) :
    ofWords builtins (name :: operands) = .perform name command := by
  rw [ofWords]
  dsimp only [List.headD, List.tail]
  rw [found]

/-- The plan for the stages of a line. -/
def ofStages (builtins : List Builtin) (aliases : AliasTable) : List Stage → Plan
  | [stage] => ofWords builtins (substitute aliases stage.argv)
  | stages => .launch ⟨stages⟩

/-- The plan for a line. -/
def ofLine (builtins : List Builtin) (session : Session) (text : String) : Plan :=
  if (Text.trim text).isEmpty then .nothing
  else
    match Pipeline.readWith (Expansion.word session) session.limits (Text.trim text) with
    | .error e => .refuse e
    | .ok pipeline => ofStages builtins session.aliases pipeline.stages

/-- Does what was planned. -/
def carryOut (session : Session) : Plan → Shell (Session × LineResult)
  | nothing => return (session, .ok 0)
  | refuse e => return (session, .error e)
  | perform name command => Evaluation.runBuiltin session name command
  | launch pipeline => Evaluation.runPipeline session pipeline

end Plan

/-- The note for the alias of a line, which only a single stage can have. -/
def noteLine (session : Session) (text : String) : Shell Unit :=
  match Pipeline.readWith (Expansion.word session) session.limits (Text.trim text) with
  | .ok ⟨[stage]⟩ => note session.aliases stage.argv
  | _ => return ()

/-- The call hands a diagnostic to the log. -/
def Logs : Call → Prop
  | .log .. => True
  | _ => False

theorem noteLine_logs (session : Session) (text : String) : Only Logs (noteLine session text) := by
  unfold noteLine note
  split
  · split
    · trivial
    · split
      · trivial
      · exact Only.request trivial
  · trivial

/-! ### Evaluation is planning and carrying out -/

section Evaluations

variable {builtins : List Builtin} {session : Session} {text : String} {pipeline : Pipeline}

theorem length_substitute (aliases : AliasTable) (argv : List String) :
    (substitute aliases argv).length = argv.length := by
  cases argv <;> rfl

theorem substituteAlias_eq (session : Session) (argv : List String) :
    Evaluation.substituteAlias session argv =
      (note session.aliases argv >>= fun _ => return substitute session.aliases argv) := by
  cases argv with
  | nil => rfl
  | cons name operands =>
    unfold Evaluation.substituteAlias note substitute
    dsimp only
    cases session.aliases.lookup name with
    | none => rfl
    | some command => rfl

theorem runSingle_eq (builtins : List Builtin) (session : Session) (stage : Stage) :
    Evaluation.runSingle builtins session stage =
      (note session.aliases stage.argv >>= fun _ =>
        (Plan.ofWords builtins (substitute session.aliases stage.argv)).carryOut session) := by
  rw [Evaluation.runSingle, substituteAlias_eq, bind_assoc]
  refine congrArg _ (funext fun _ => ?_)
  rw [pure_bind]
  generalize substitute session.aliases stage.argv = argv
  unfold Plan.ofWords
  cases Builtin.find? builtins (argv.headD "") argv.tail with
  | some command => rfl
  | none =>
    dsimp only
    rcases Redirection.find? argv with e | (_ | r)
    · rfl
    · rfl
    · rfl

/-- A line that is read has words. -/
theorem words_of_read
    (read : Pipeline.readWith (Expansion.word session) session.limits (Text.trim text) =
      .ok pipeline) :
    (Text.trim text).isEmpty = false := by
  obtain ⟨words, splits, -⟩ := readWith_ok_iff_splits.mp read
  exact splits.not_empty

theorem Plan.ofLine_of_blank (blank : (Text.trim text).isEmpty) :
    Plan.ofLine builtins session text = .nothing :=
  if_pos blank

theorem Plan.ofLine_of_read
    (read : Pipeline.readWith (Expansion.word session) session.limits (Text.trim text) =
      .ok pipeline) :
    Plan.ofLine builtins session text = ofStages builtins session.aliases pipeline.stages := by
  rw [Plan.ofLine, words_of_read read, read]
  rfl

theorem noteLine_of_blank (blank : (Text.trim text).isEmpty) :
    noteLine session text = return () := by
  unfold noteLine
  split
  · rename_i read
    cases blank.symm.trans (words_of_read read)
  · rfl

/-- A line is evaluated by carrying out its plan, after the note of its alias. -/
theorem line_eq_carryOut (builtins : List Builtin) (session : Session) (text : String) :
    Evaluation.line builtins session text =
      (noteLine session text >>= fun _ =>
        (Plan.ofLine builtins session text).carryOut session) := by
  cases blank : (Text.trim text).isEmpty with
  | true =>
    rw [LineErrors.line_of_blank blank, noteLine_of_blank blank, Plan.ofLine_of_blank blank]
    rfl
  | false =>
    rw [LineErrors.line_of_words blank, Plan.ofLine, blank, noteLine]
    cases Pipeline.readWith (Expansion.word session) session.limits (Text.trim text) with
    | error e => rfl
    | ok pipeline =>
      obtain ⟨_ | ⟨stage, _ | ⟨second, further⟩⟩⟩ := pipeline
      · rfl
      · exact runSingle_eq builtins session stage
      · rfl

/-- A line with more than one stage is run as the pipeline it is. -/
theorem line_of_several
    (read : Pipeline.readWith (Expansion.word session) session.limits (Text.trim text) =
      .ok pipeline)
    (several : 2 ≤ pipeline.stages.length) :
    Evaluation.line builtins session text = Evaluation.runPipeline session pipeline := by
  rw [LineErrors.line_of_words (words_of_read read), read]
  obtain ⟨_ | ⟨stage, _ | ⟨second, further⟩⟩⟩ := pipeline
  · cases several
  · exact absurd several (Nat.not_succ_le_self 1)
  · rfl

end Evaluations

/-! ### Where plans come from -/

/-- A plan comes from a blank line, from the error of a line that is not read, or from the stages of
one that is. -/
theorem Plan.ofLine_cases (builtins : List Builtin) (session : Session) (text : String) :
    (Text.trim text).isEmpty ∧ ofLine builtins session text = .nothing ∨
    (∃ e, Pipeline.readWith (Expansion.word session) session.limits (Text.trim text) = .error e ∧
      ofLine builtins session text = .refuse e) ∨
    ∃ pipeline,
      Pipeline.readWith (Expansion.word session) session.limits (Text.trim text) = .ok pipeline ∧
      ofLine builtins session text = ofStages builtins session.aliases pipeline.stages := by
  cases blank : (Text.trim text).isEmpty with
  | true => exact .inl ⟨rfl, ofLine_of_blank blank⟩
  | false =>
    rw [ofLine, blank]
    cases Pipeline.readWith (Expansion.word session) session.limits (Text.trim text) with
    | error e => exact .inr (.inl ⟨e, rfl, rfl⟩)
    | ok pipeline => exact .inr (.inr ⟨pipeline, rfl, rfl⟩)

section Performances

variable {builtins : List Builtin} {session : Session} {text name : String} {command : Command}

/-- The words of a single stage, the first of them substituted, begin with a name. -/
theorem name_of_read {stage : Stage}
    (read : Pipeline.readWith (Expansion.word session) session.limits (Text.trim text) =
      .ok ⟨[stage]⟩) :
    ∃ name operands, substitute session.aliases stage.argv = name :: operands := by
  obtain ⟨words, splits, same⟩ := readWith_ok_iff_splits.mp read
  obtain ⟨found, rfl, rfl⟩ := List.map_eq_singleton_iff.mp (congrArg Pipeline.stages same).symm
  obtain ⟨segment, wordsOf⟩ := splits.wordsOf (List.mem_singleton_self found)
  apply List.exists_cons_of_ne_nil
  rw [← List.length_pos_iff, length_substitute, length_stageOf]
  exact List.length_pos_iff.mpr wordsOf.nonempty

/-- A built-in command is performed only for the words of a single stage, after their alias. -/
theorem Plan.ofLine_eq_perform (planned : ofLine builtins session text = .perform name command) :
    ∃ stage operands,
      Pipeline.readWith (Expansion.word session) session.limits (Text.trim text) =
        .ok ⟨[stage]⟩ ∧
      substitute session.aliases stage.argv = name :: operands ∧
      Builtin.find? builtins name operands = some command := by
  rcases ofLine_cases builtins session text with
    ⟨-, same⟩ | ⟨e, -, same⟩ | ⟨⟨stages⟩, read, same⟩
  · cases planned.symm.trans same
  · cases planned.symm.trans same
  · rw [same] at planned
    obtain _ | ⟨stage, _ | ⟨second, further⟩⟩ := stages
    · cases planned
    · obtain ⟨first, operands, typed⟩ := name_of_read read
      refine ⟨stage, operands, read, ?_⟩
      dsimp only [ofStages] at planned
      rw [typed] at planned ⊢
      unfold ofWords at planned
      split at planned
      · rename_i found
        cases planned
        exact ⟨rfl, found⟩
      · split at planned <;> cases planned
    · cases planned

end Performances

section Launches

variable {builtins : List Builtin} {session : Session} {text : String} {pipeline : Pipeline}

theorem Plan.ofStages_of_several {aliases : AliasTable} {stages : List Stage}
    (several : 2 ≤ stages.length) : ofStages builtins aliases stages = .launch ⟨stages⟩ := by
  obtain _ | ⟨stage, _ | ⟨second, further⟩⟩ := stages
  · cases several
  · exact absurd several (Nat.not_succ_le_self 1)
  · rfl

/-- A pipeline is launched only for a line that is read. -/
theorem Plan.ofLine_eq_launch (planned : ofLine builtins session text = .launch pipeline) :
    ∃ words, SplitsInto session.limits (Text.trim text) words ∧
      ofStages builtins session.aliases (words.map (stageOf (Expansion.word session))) =
        .launch pipeline := by
  rcases ofLine_cases builtins session text with ⟨-, same⟩ | ⟨e, -, same⟩ | ⟨whole, read, same⟩
  · cases planned.symm.trans same
  · cases planned.symm.trans same
  · obtain ⟨words, splits, rfl⟩ := readWith_ok_iff_splits.mp read
    exact ⟨words, splits, same.symm.trans planned⟩

/-- The words of a single stage are launched only if they are no built-in command, and as what is
left of them without a redirection. -/
theorem Plan.ofWords_eq_launch {argv : List String}
    (planned : ofWords builtins argv = .launch pipeline) :
    Builtin.find? builtins (argv.headD "") argv.tail = none ∧
      (redirectMark ∉ argv ∧ pipeline = ⟨[{ argv := argv }]⟩ ∨
        ∃ r : Redirection, argv = r.argv ++ [redirectMark, r.target] ∧ r.argv ≠ [] ∧
          redirectMark ∉ r.argv ∧
          pipeline = ⟨[{ argv := r.argv, redirect := some r.target }]⟩) := by
  unfold ofWords at planned
  cases found : Builtin.find? builtins (argv.headD "") argv.tail with
  | some command =>
    rw [found] at planned
    cases planned
  | none =>
    simp only [found] at planned
    refine ⟨rfl, ?_⟩
    rcases form : Redirection.find? argv with e | (_ | r)
    · rw [form] at planned
      cases planned
    · rw [form] at planned
      cases planned
      exact .inl ⟨find?_eq_none_iff.mp form, rfl⟩
    · rw [form] at planned
      cases planned
      obtain ⟨same, some, free⟩ := find?_eq_some_iff.mp form
      exact .inr ⟨r, same, some, free, rfl⟩

end Launches

/-! ### Pipelines and the session -/

/-- What the line of a pipeline comes to. Of the session, only the search directories matter. -/
def resultOf (searchPaths : List String) (pipeline : Pipeline) : Shell LineResult := do
  match (← Job.run searchPaths pipeline).2 with
  | .error e => return .error e
  | .ok report =>
    report.waitErrors.forM fun e => Shell.complain e.message
    match report.failure with
    | some e => return .error e
    | none => return .ok report.exitCode

/-- A pipeline leaves the session to the shell as it is. -/
theorem runPipeline_eq (session : Session) (pipeline : Pipeline) :
    Evaluation.runPipeline session pipeline =
      (session, ·) <$> resultOf session.searchPaths pipeline := by
  rw [Evaluation.runPipeline, resultOf, map_bind]
  refine congrArg _ (funext fun (after, outcome) => ?_)
  cases outcome with
  | error e => rfl
  | ok report =>
    dsimp only
    rw [map_bind]
    refine congrArg _ (funext fun _ => ?_)
    cases report.failure with
    | some e => rfl
    | none => rfl

end LineShell.LinePlans
