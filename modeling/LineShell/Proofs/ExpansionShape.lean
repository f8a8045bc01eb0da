import LineShell.Expansion
import LineShell.Proofs.LineReading

/-! What expansion cannot do. A line is cut into segments and words, and held to its limits, before
any word is expanded. So what the variables hold decides what the arguments are, and never how many
there are, how they are spread over stages, or whether the line is refused. -/
namespace LineShell.ExpansionShape
open LineReading Limits WordGrammar

/-- The segment is made of these words, one at least and no more than allowed. -/
structure WordsOf (limit : Nat) (segment : String) (found : List Word) : Prop where
  split : Word.split segment (oneBeyond limit) = .ok found
  nonempty : found ≠ []
  few : found.length ≤ limit

/-- The words of a line as they are before expansion: those of each segment, of which there are no
more than allowed. -/
structure SplitsInto (limits : Limits) (line : String) (words : List (List Word)) : Prop where
  segments : List.Forall₂ (WordsOf limits.maxWords)
    (Pipeline.segments line (oneBeyond limits.maxStages)) words
  fewStages : words.length ≤ limits.maxStages

/-- The stage whose arguments are these words expanded. -/
def stageOf (expand : Word → String) (found : List Word) : Stage :=
  { argv := found.map expand }

/-- The pipeline whose arguments are these words expanded. -/
def pipelineOf (expand : Word → String) (words : List (List Word)) : Pipeline :=
  ⟨words.map (stageOf expand)⟩

@[simp] theorem length_stageOf (expand : Word → String) (found : List Word) :
    (stageOf expand found).argv.length = found.length :=
  List.length_map expand

@[simp] theorem length_pipelineOf (expand : Word → String) (words : List (List Word)) :
    (pipelineOf expand words).stages.length = words.length :=
  List.length_map (stageOf expand)

/-! ### One segment -/

section Segment

variable {limit : Nat} {f g expand : Word → String} {segment : String}

/-- Only a segment that is not refused has words expanded. -/
private theorem readStage_eq (limit : Nat) (expand : Word → String) (segment : String) :
    Pipeline.readStage limit expand segment =
      match Word.split segment (oneBeyond limit) with
      | .error e => .error e
      | .ok found =>
        if found = [] then .error .emptyCommand
        else if limit < found.length then .error (.tooManyWords limit)
        else .ok (stageOf expand found) := by
  unfold Pipeline.readStage
  cases Word.split segment (oneBeyond limit) with
  | error e => rfl
  | ok found =>
    by_cases none : found = []
    · simp [none, bind, Except.bind, throw, throwThe, MonadExceptOf.throw]
    · by_cases excess : limit < found.length <;>
        simp [none, excess, bind, Except.bind, pure, Except.pure, throw, throwThe,
          MonadExceptOf.throw, stageOf]

theorem readStage_ok_iff {stage : Stage} :
    Pipeline.readStage limit expand segment = .ok stage ↔
      ∃ found, WordsOf limit segment found ∧ stage = stageOf expand found := by
  rw [readStage_eq]
  constructor
  · intro read
    split at read
    · cases read
    · rename_i found split
      split_ifs at read with none excess
      cases read
      exact ⟨found, ⟨split, none, Nat.not_lt.mp excess⟩, rfl⟩
  · rintro ⟨found, ⟨split, some, few⟩, rfl⟩
    simp only [split, if_neg some, if_neg (Nat.not_lt.mpr few)]

/-- Every expansion has the same segments refused, for the same reason. -/
theorem readStage_error_congr {e : LineError}
    (failed : Pipeline.readStage limit f segment = .error e) :
    Pipeline.readStage limit g segment = .error e := by
  rw [readStage_eq] at failed ⊢
  cases split : Word.split segment (oneBeyond limit) with
  | error reason =>
    rw [split] at failed
    exact failed
  | ok found =>
    simp only [split] at failed ⊢
    split_ifs at failed ⊢
    · exact failed
    · exact failed

/-- A segment that holds no more words than allowed was not cut. -/
theorem WordsOf.uncapped {piece : List Char} {found : List Word}
    (words : WordsOf limit (String.ofList (Text.trimChars piece)) found)
    (short : piece.length < maxCount) : uncapped piece = .ok found := by
  obtain ⟨split, -, few⟩ := words
  obtain ⟨layout, separated, rfl⟩ := exists_layout piece
  have count := layout.length_words_le
  rw [split_trim, scan_layout separated, Layout.capped] at split
  rw [uncapped_of_layout ⟨separated, rfl⟩]
  split_ifs at split with full closed
  · cases split
    rw [List.length_take, oneBeyond] at few
    rw [oneBeyond] at full
    omega
  · rw [if_pos closed]
    exact split

end Segment

/-! ### The whole line -/

section Line

variable {limits : Limits} {line : String} {f g expand : Word → String}
  {words : List (List Word)}

namespace SplitsInto

theorem length_eq (splits : SplitsInto limits line words) :
    words.length = min (oneBeyond limits.maxStages) (line.toList.count '|' + 1) := by
  rw [← splits.segments.length_eq, Pipeline.segments, List.length_map, List.length_take,
    splitAt_eq_splitOn, length_splitOn]

theorem someStage (splits : SplitsInto limits line words) : 1 ≤ words.length := by
  rw [splits.length_eq, oneBeyond, maxCount, UInt64.size]
  omega

/-- The only segment of an empty line has no words. -/
theorem not_empty (splits : SplitsInto limits line words) : line.isEmpty = false := by
  cases empty : line.isEmpty with
  | false => rfl
  | true =>
    obtain rfl := String.isEmpty_iff.mp empty
    have only : Pipeline.segments "" (oneBeyond limits.maxStages) = [""] := by
      rw [oneBeyond, maxCount, UInt64.size, Nat.min_def]
      split <;> simp [Pipeline.segments, Pipeline.splitAt, Text.trimChars, Text.dropEndWhile]
    have first := splits.segments
    rw [only] at first
    cases first with
    | cons wordsOf _ =>
      have none := wordsOf.split.symm.trans (scan_between_nil _)
      cases none
      exact absurd rfl wordsOf.nonempty

/-- A line with a mark in it has two stages at least. -/
theorem several (splits : SplitsInto limits line words) (mark : '|' ∈ line.toList) :
    2 ≤ words.length := by
  have count := List.count_pos_iff.mpr mark
  have few := splits.fewStages
  rw [splits.length_eq, oneBeyond, maxCount, UInt64.size] at few ⊢
  omega

theorem wordsOf (splits : SplitsInto limits line words) {found : List Word}
    (member : found ∈ words) : ∃ segment, WordsOf limits.maxWords segment found := by
  obtain ⟨segment, -, wordsOf⟩ := forall₂_exists_left splits.segments member
  exact ⟨segment, wordsOf⟩

/-- With room for all of them, the segments and their words are the same. -/
theorem uncapped (splits : SplitsInto limits line words) (short : line.length < maxCount) :
    List.Forall₂ (fun piece found => LineReading.uncapped piece = .ok found)
      (line.toList.splitOn '|') words := by
  have whole : (line.toList.splitOn '|').take (oneBeyond limits.maxStages) =
      line.toList.splitOn '|' := by
    have marks := List.count_le_length (a := '|') (l := line.toList)
    have few := splits.fewStages
    rw [splits.length_eq, oneBeyond] at few
    rw [String.length_toList] at marks
    rw [List.take_of_length_le]
    rw [length_splitOn, oneBeyond]
    omega
  have each := splits.segments
  rw [Pipeline.segments, splitAt_eq_splitOn, whole, List.forall₂_map_left_iff] at each
  have inside : ∀ piece ∈ line.toList.splitOn '|', piece.length < maxCount := by
    intro piece member
    have shorter := (of_mem_splitOn member).1
    rw [String.length_toList] at shorter
    exact Nat.lt_of_le_of_lt shorter short
  refine ((List.forall₂_and_left _ _).mpr ⟨inside, each⟩).imp ?_
  rintro piece found ⟨short, wordsOf⟩
  exact wordsOf.uncapped short

end SplitsInto

/-- The segments that are asked for are read, unless there are too many of them. -/
private theorem readWith_segments :
    Pipeline.readWith expand limits line =
      if limits.maxStages < (Pipeline.segments line (oneBeyond limits.maxStages)).length then
        .error (.tooManyStages limits.maxStages)
      else Pipeline.mk <$> (Pipeline.segments line (oneBeyond limits.maxStages)).mapM
        (Pipeline.readStage limits.maxWords expand) := by
  unfold Pipeline.readWith
  by_cases excess : limits.maxStages < (Pipeline.segments line (oneBeyond limits.maxStages)).length
  · simp only [gt_iff_lt, excess, ↓reduceIte]
    rfl
  · simp only [gt_iff_lt, excess, ↓reduceIte]
    rfl

private theorem readStages_ok_iff {limit : Nat} {segments : List String} {stages : List Stage} :
    List.Forall₂ (fun segment stage => Pipeline.readStage limit expand segment = .ok stage)
        segments stages ↔
      ∃ words, List.Forall₂ (WordsOf limit) segments words ∧
        stages = words.map (stageOf expand) := by
  constructor
  · intro read
    induction read with
    | nil => exact ⟨[], .nil, rfl⟩
    | cons first _ ih =>
      obtain ⟨found, wordsOf, rfl⟩ := readStage_ok_iff.mp first
      obtain ⟨words, splits, rfl⟩ := ih
      exact ⟨found :: words, .cons wordsOf splits, rfl⟩
  · rintro ⟨words, splits, rfl⟩
    rw [List.forall₂_map_right_iff]
    exact splits.imp fun segment found wordsOf => readStage_ok_iff.mpr ⟨found, wordsOf, rfl⟩

/-- Reading succeeds exactly if the line splits into words within the limits, and then every
argument is a word expanded. -/
theorem readWith_ok_iff_splits {pipeline : Pipeline} :
    Pipeline.readWith expand limits line = .ok pipeline ↔
      ∃ words, SplitsInto limits line words ∧ pipeline = pipelineOf expand words := by
  obtain ⟨stages⟩ := pipeline
  rw [readWith_segments]
  constructor
  · intro read
    split_ifs at read with excess
    cases answer : (Pipeline.segments line (oneBeyond limits.maxStages)).mapM
        (Pipeline.readStage limits.maxWords expand) with
    | error e =>
      rw [answer] at read
      cases read
    | ok found =>
      rw [answer] at read
      cases read
      obtain ⟨words, splits, rfl⟩ := readStages_ok_iff.mp (mapM_ok_iff.mp answer)
      rw [splits.length_eq] at excess
      exact ⟨words, ⟨splits, Nat.not_lt.mp excess⟩, rfl⟩
  · rintro ⟨words, ⟨splits, few⟩, same⟩
    cases same
    have read : (Pipeline.segments line (oneBeyond limits.maxStages)).mapM
        (Pipeline.readStage limits.maxWords expand) = .ok (words.map (stageOf expand)) :=
      mapM_ok_iff.mpr (readStages_ok_iff.mpr ⟨words, splits, rfl⟩)
    rw [← splits.length_eq] at few
    rw [if_neg (Nat.not_lt.mpr few), read]
    rfl

/-- Every expansion has the same lines refused, for the same reason. -/
theorem readWith_error_congr {e : LineError}
    (failed : Pipeline.readWith f limits line = .error e) :
    Pipeline.readWith g limits line = .error e := by
  rw [readWith_segments] at failed ⊢
  split_ifs at failed ⊢
  · exact failed
  cases answer : (Pipeline.segments line (oneBeyond limits.maxStages)).mapM
      (Pipeline.readStage limits.maxWords f) with
  | ok stages =>
    rw [answer] at failed
    cases failed
  | error reason =>
    rw [answer] at failed
    cases failed
    -- The segments before the one that is refused are read with the other expansion too.
    obtain ⟨before, segment, after, same, fine, fault⟩ := mapM_error_iff.mp answer
    have again : (Pipeline.segments line (oneBeyond limits.maxStages)).mapM
        (Pipeline.readStage limits.maxWords g) = .error e := by
      refine mapM_error_iff.mpr ⟨before, segment, after, same, ?_, readStage_error_congr fault⟩
      intro earlier member
      obtain ⟨stage, read⟩ := fine earlier member
      obtain ⟨found, wordsOf, -⟩ := readStage_ok_iff.mp read
      exact ⟨_, readStage_ok_iff.mpr ⟨found, wordsOf, rfl⟩⟩
    rw [again]
    rfl

end Line

/-- Expansion never changes the shape of a line. With any two expansions, in particular those of any
two sessions, a line is either refused for the same reason or read as stages of the same words: as
many stages as the line has segments and as many arguments in each as the segment has words, every
argument being the one word in its place, expanded. The words are those of the segments with room
for all of them, and they are within the limits whatever they expand to. -/
theorem expansion_keeps_shape (limits : Limits) (line : String) (f g : Word → String) :
    (∃ e, Pipeline.readWith f limits line = .error e ∧
      Pipeline.readWith g limits line = .error e ∧ ∀ words, ¬SplitsInto limits line words) ∨
    ∃ words, SplitsInto limits line words ∧
      (line.length < maxCount → List.Forall₂ (fun piece found => uncapped piece = .ok found)
        (line.toList.splitOn '|') words) ∧
      Pipeline.readWith f limits line = .ok (pipelineOf f words) ∧
      Pipeline.readWith g limits line = .ok (pipelineOf g words) := by
  cases outcome : Pipeline.readWith f limits line with
  | error e =>
    refine .inl ⟨e, rfl, readWith_error_congr outcome, fun words splits => ?_⟩
    have read : Pipeline.readWith f limits line = .ok (pipelineOf f words) :=
      readWith_ok_iff_splits.mpr ⟨words, splits, rfl⟩
    cases outcome.symm.trans read
  | ok pipeline =>
    obtain ⟨words, splits, rfl⟩ := readWith_ok_iff_splits.mp outcome
    exact .inr ⟨words, splits, splits.uncapped, rfl,
      readWith_ok_iff_splits.mpr ⟨words, splits, rfl⟩⟩

/-- A value that holds blanks, a quote and a mark stays one argument. -/
example : Pipeline.readWith (fun word => if word.quoted then word.text else "a 'b | c") {}
    "echo '$A' $A|cat" =
      .ok ⟨[{ argv := ["a 'b | c", "$A", "a 'b | c"] }, { argv := ["a 'b | c"] }]⟩ := by rfl

end LineShell.ExpansionShape
