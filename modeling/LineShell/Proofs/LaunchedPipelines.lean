import LineShell.Builtin.Standard
import LineShell.Proofs.LinePlans

/-! Pipelines that are launched. Whatever the text of a line, its expansion and the aliases, a
pipeline that comes to be run has stages and arguments within the limits, no program yet, and a
redirection at most where there is one stage. -/
namespace LineShell.LaunchedPipelines
open ExpansionShape LinePlans

/-- Whether the built-in command answers depends on the name it is asked for, not on the operands. -/
def AnswersByName (builtin : Builtin) : Prop :=
  ∀ name operands others,
    builtin.create? name operands = none → builtin.create? name others = none

/-- The stage stands for these words: no built-in command has answered to them, and what was typed
is the arguments of the stage, with the operator and the target after them if there is one. -/
structure StandsFor (builtins : List Builtin) (typed : List String) (stage : Stage) : Prop where
  unmarked : redirectMark ∉ stage.argv
  redirect : ∀ target, stage.redirect = some target ↔
    typed = stage.argv ++ [redirectMark, target]
  plain : stage.redirect = none → typed = stage.argv
  unanswered : ∀ builtin ∈ builtins, builtin.create? stage.name typed.tail = none ∧
    (AnswersByName builtin → ∀ operands, builtin.create? stage.name operands = none)

/-- A pipeline fit to be run for a line that is made of these words. -/
structure WellFormed (builtins : List Builtin) (session : Session) (words : List (List Word))
    (pipeline : Pipeline) : Prop where
  someStage : 1 ≤ pipeline.stages.length
  fewStages : pipeline.stages.length ≤ session.limits.maxStages
  someWord : ∀ stage ∈ pipeline.stages, 1 ≤ stage.argv.length
  fewWords : ∀ stage ∈ pipeline.stages, stage.argv.length ≤ session.limits.maxWords
  unresolved : ∀ stage ∈ pipeline.stages, stage.program = none
  /-- In a longer pipeline every word is an argument, also the operator. -/
  several : 2 ≤ pipeline.stages.length →
    (∀ stage ∈ pipeline.stages, stage.redirect = none) ∧
    pipeline.stages.map Stage.argv = words.map fun found => found.map (Expansion.word session)
  single : ∀ stage, pipeline.stages = [stage] → ∃ found, words = [found] ∧
    StandsFor builtins (substitute session.aliases (found.map (Expansion.word session))) stage

section Launches

variable {builtins : List Builtin} {session : Session} {pipeline : Pipeline}

/-- The stages of a longer pipeline are its words expanded. -/
private theorem wellFormed_of_several {words : List (List Word)} {line : String}
    (splits : SplitsInto session.limits line words) (several : 2 ≤ words.length) :
    WellFormed builtins session words (pipelineOf (Expansion.word session) words) where
  someStage := by
    rw [length_pipelineOf]
    exact splits.someStage
  fewStages := by
    rw [length_pipelineOf]
    exact splits.fewStages
  someWord := by
    intro stage member
    obtain ⟨found, inside, rfl⟩ := List.mem_map.mp member
    obtain ⟨segment, wordsOf⟩ := splits.wordsOf inside
    rw [length_stageOf]
    exact List.length_pos_iff.mpr wordsOf.nonempty
  fewWords := by
    intro stage member
    obtain ⟨found, inside, rfl⟩ := List.mem_map.mp member
    obtain ⟨segment, wordsOf⟩ := splits.wordsOf inside
    rw [length_stageOf]
    exact wordsOf.few
  unresolved := by
    intro stage member
    obtain ⟨found, -, rfl⟩ := List.mem_map.mp member
    rfl
  several := by
    intro _
    refine ⟨fun stage member => ?_, ?_⟩
    · obtain ⟨found, -, rfl⟩ := List.mem_map.mp member
      rfl
    · rw [pipelineOf, List.map_map]
      rfl
  single := by
    intro stage only
    have one := congrArg List.length only
    rw [length_pipelineOf, List.length_singleton] at one
    omega

/-- No command is found among the built-in ones if none of them answers. -/
private theorem unanswered_of_find? {name : String} {operands : List String}
    (missing : Builtin.find? builtins name operands = none) :
    ∀ builtin ∈ builtins, builtin.create? name operands = none ∧
      (AnswersByName builtin → ∀ others, builtin.create? name others = none) := by
  intro builtin member
  have silent := List.findSome?_eq_none_iff.mp missing builtin member
  exact ⟨silent, fun byName others => byName name operands others silent⟩

/-- What is launched for the words of a single stage is one stage that stands for them. -/
private theorem standsFor_of_launch {typed : List String}
    (planned : Plan.ofWords builtins typed = .launch pipeline) (some : typed ≠ []) :
    ∃ stage, pipeline = ⟨[stage]⟩ ∧ stage.program = none ∧ 1 ≤ stage.argv.length ∧
      stage.argv.length ≤ typed.length ∧ StandsFor builtins typed stage := by
  obtain ⟨missing, ⟨free, rfl⟩ | ⟨r, same, command, free, rfl⟩⟩ := Plan.ofWords_eq_launch planned
  · refine ⟨_, rfl, rfl, List.length_pos_iff.mpr some, Nat.le_refl _, free, ?_, fun _ => rfl,
      unanswered_of_find? missing⟩
    intro target
    refine ⟨nofun, fun longer => ?_⟩
    have lengths := congrArg List.length longer
    rw [List.length_append] at lengths
    simp at lengths
  · obtain ⟨argv, target⟩ := r
    subst same
    -- The name that no built-in command answers to is the name of what is left.
    obtain ⟨name, operands, rfl⟩ := List.exists_cons_of_ne_nil command
    refine ⟨_, rfl, rfl, List.length_pos_iff.mpr command, ?_, free, ?_, nofun,
      unanswered_of_find? missing⟩
    · rw [List.length_append]
      exact Nat.le_add_right _ _
    · intro other
      simp

/-- The stage launched for a single segment keeps to its limits. -/
private theorem wellFormed_of_one {found : List Word} {line : String}
    (splits : SplitsInto session.limits line [found])
    (planned : Plan.ofStages builtins session.aliases
      ([found].map (stageOf (Expansion.word session))) = .launch pipeline) :
    WellFormed builtins session [found] pipeline := by
  obtain ⟨segment, wordsOf⟩ := splits.wordsOf (List.mem_singleton_self found)
  have length : (substitute session.aliases (found.map (Expansion.word session))).length =
      found.length := by
    rw [length_substitute, List.length_map]
  have some : substitute session.aliases (found.map (Expansion.word session)) ≠ [] := by
    rw [ne_eq, ← List.length_eq_zero_iff, length, List.length_eq_zero_iff]
    exact wordsOf.nonempty
  have launched : Plan.ofWords builtins
      (substitute session.aliases (found.map (Expansion.word session))) = .launch pipeline := planned
  obtain ⟨stage, rfl, unresolved, someWord, fewWords, standsFor⟩ :=
    standsFor_of_launch launched some
  rw [length] at fewWords
  exact {
    someStage := Nat.le_refl 1
    fewStages := splits.fewStages
    someWord := List.forall_mem_singleton.mpr someWord
    fewWords := List.forall_mem_singleton.mpr (fewWords.trans wordsOf.few)
    unresolved := List.forall_mem_singleton.mpr unresolved
    several := fun several => absurd several (Nat.not_succ_le_self 1)
    single := by
      intro only same
      cases same
      exact ⟨found, rfl, standsFor⟩ }

end Launches

/-- The standard commands are known by their names. -/
theorem standard_answers_by_name : ∀ builtin ∈ Standard.builtins, AnswersByName builtin := by
  intro builtin member name operands others missing
  obtain ⟨own, -, rfl⟩ := List.mem_map.mp member
  dsimp only at missing ⊢
  split_ifs at missing ⊢ with same
  · have unknown := Standard.ofWords?_eq_none_iff.mp (Option.map_eq_none_iff.mp missing)
    rw [Standard.ofWords?_eq_none_iff.mpr unknown]
    rfl
  · rfl

/-- Every line is evaluated by carrying out its plan, and a plan launches only well formed
pipelines. Their stages are those of the words of the line, expanded; where there is one stage, its
name is replaced by what it stands for, it is no built-in command, and it has a target exactly if the
line ends with the operator and this one word after the arguments. -/
theorem launched_pipelines_well_formed (builtins : List Builtin) (session : Session)
    (text : String) :
    Evaluation.line builtins session text =
      (noteLine session text >>= fun _ =>
        (Plan.ofLine builtins session text).carryOut session) ∧
    (∀ pipeline, Plan.ofLine builtins session text = .launch pipeline →
      ∃ words, SplitsInto session.limits (Text.trim text) words ∧
        WellFormed builtins session words pipeline) ∧
    ∀ builtin ∈ Standard.builtins, AnswersByName builtin := by
  refine ⟨line_eq_carryOut builtins session text, fun pipeline planned => ?_,
    standard_answers_by_name⟩
  obtain ⟨words, splits, planned⟩ := Plan.ofLine_eq_launch planned
  refine ⟨words, splits, ?_⟩
  rcases Nat.lt_or_ge words.length 2 with one | several
  · have only : words.length = 1 := Nat.le_antisymm (Nat.le_of_lt_succ one) splits.someStage
    obtain ⟨found, rfl⟩ := List.length_eq_one_iff.mp only
    exact wellFormed_of_one splits planned
  · have stages : 2 ≤ (words.map (stageOf (Expansion.word session))).length := by
      rw [List.length_map]
      exact several
    rw [Plan.ofStages_of_several stages] at planned
    cases planned
    exact wellFormed_of_several splits several

/-- A session in which one name stands for a program. -/
def listingSession : Session :=
  { directory := "/home", aliases := ⟨[("list", "ls")]⟩ }

/-- The file that takes the output of the aliased program has the operator as its name. -/
theorem launched_pipelines_well_formed_quoted_target :
    Plan.ofLine Standard.builtins listingSession "list -a > '>'" =
      .launch ⟨[{ argv := ["ls", "-a"], redirect := some ">" }]⟩ ∧
    ∃ words, SplitsInto listingSession.limits (Text.trim "list -a > '>'") words ∧
      WellFormed Standard.builtins listingSession words
        ⟨[{ argv := ["ls", "-a"], redirect := some ">" }]⟩ := by
  have planned : Plan.ofLine Standard.builtins listingSession "list -a > '>'" =
      .launch ⟨[{ argv := ["ls", "-a"], redirect := some ">" }]⟩ := by rfl
  exact ⟨planned,
    (launched_pipelines_well_formed Standard.builtins listingSession _).2.1 _ planned⟩

end LineShell.LaunchedPipelines
