import LineShell.Expansion
import LineShell.Proofs.LineReading

/-! What a line can say. Writing every argument between quotes it does not contain gives a line
that reads back as the same arguments, with and without expansion. Conversely no line yields an
argument with a pipe character or with quotes of both kinds, so the two facts together name the
image of the reader exactly. -/
namespace LineShell.QuotedLines
open Word Text WordGrammar LineReading Limits

/-- A text that some quotation can hold inside a stage. -/
def Quotable (text : String) : Prop :=
  '|' ∉ text.toList ∧ ¬ ('\'' ∈ text.toList ∧ '"' ∈ text.toList)

/-- Arguments of stages that keep to the limits and can all be quoted. -/
structure Expressible (limits : Limits) (argvs : List (List String)) : Prop where
  someStage : argvs ≠ []
  fewStages : argvs.length ≤ limits.maxStages
  someWord : ∀ argv ∈ argvs, argv ≠ []
  fewWords : ∀ argv ∈ argvs, argv.length ≤ limits.maxWords
  quotable : ∀ argv ∈ argvs, ∀ text ∈ argv, Quotable text

/-- The text between the quotes. -/
def text (q : Quotation) : String :=
  String.ofList q.body

/-- The arguments that quotations stand for, stage by stage. -/
def texts (stages : List (List Quotation)) : List (List String) :=
  stages.map (·.map text)

/-- The quotations of one stage with a space between them. -/
def stageChars (stage : List Quotation) : List Char :=
  [' '].intercalate (stage.map Quotation.chars)

/-- The stages of a line with a pipe character between them. -/
def lineOf (stages : List (List Quotation)) : String :=
  String.ofList (['|'].intercalate (stages.map stageChars))

/-- A pipeline of which only the arguments are known. -/
def ofArgvs (argvs : List (List String)) : Pipeline :=
  ⟨argvs.map fun argv => { argv := argv }⟩

/-! ### From quotations to the line and back -/

/-- The layout of quotations, the first of them after this gap. -/
def stageLayout (gap : RunOf isBlank) : List Quotation → Layout
  | [] => .finish ⟨[], by simp⟩
  | q :: rest => .next gap (.quoted ⟨[], by simp⟩ q)
    (stageLayout ⟨[' '], List.forall_mem_singleton.mpr (by decide)⟩ rest)

theorem stageLayout_separated (gap : RunOf isBlank) (stage : List Quotation) :
    (stageLayout gap stage).Separated := by
  induction stage generalizing gap with
  | nil => trivial
  | cons q rest ih => exact ⟨trivial, ih _⟩

theorem stageLayout_closed (gap : RunOf isBlank) (stage : List Quotation) :
    (stageLayout gap stage).closed = true := by
  induction stage generalizing gap with
  | nil => rfl
  | cons q rest ih => exact ih _

theorem stageLayout_words (gap : RunOf isBlank) (stage : List Quotation) :
    (stageLayout gap stage).words = stage.map fun q => ⟨text q, true⟩ := by
  induction stage generalizing gap with
  | nil => rfl
  | cons q rest ih => simp [stageLayout, Layout.words, ih, Item.word, text]

theorem stageLayout_chars (gap : RunOf isBlank) {stage : List Quotation} (some : stage ≠ []) :
    (stageLayout gap stage).chars = gap.val ++ stageChars stage := by
  induction stage generalizing gap with
  | nil => contradiction
  | cons q rest ih =>
    cases rest with
    | nil => simp [stageLayout, Layout.chars, Item.chars, stageChars]
    | cons next rest =>
      rw [stageLayout, Layout.chars, ih _ (by simp)]
      simp [Item.chars, stageChars, List.intercalate_cons_cons]

/-- A stage of quotations is read as their texts by every expansion that leaves quoted words
alone. -/
theorem readPiece_stageChars {expand : Word → String} {limit : Nat} {stage : List Quotation}
    (literal : ∀ content, expand ⟨content, true⟩ = content) (holds : limit ≤ maxCount)
    (some : stage ≠ []) (few : stage.length ≤ limit) :
    readPiece limit expand (stageChars stage) = .ok { argv := stage.map text } := by
  have words := stageLayout_words ⟨[], by simp⟩ stage
  have spelled : (stageLayout ⟨[], by simp⟩ stage).Spells (stageChars stage) :=
    ⟨stageLayout_separated _ stage, stageLayout_chars _ some⟩
  rw [readPiece_ok holds spelled (stageLayout_closed _ stage) (by simp [words, some])
    (by simpa [words] using few), words, List.map_map]
  simp [Function.comp_def, literal]

private theorem quote_ne_pipe {quote : Char} (quotes : isQuote quote = true) : quote ≠ '|' := by
  rintro rfl
  contradiction

private theorem pipe_not_mem_stageChars {stage : List Quotation}
    (free : ∀ q ∈ stage, '|' ∉ q.body) : '|' ∉ stageChars stage := by
  induction stage with
  | nil => simp [stageChars]
  | cons q rest ih =>
    have here : '|' ∉ q.chars := by
      simp [Quotation.chars, Ne.symm (quote_ne_pipe q.isQuote), free q (by simp)]
    have there := ih fun other member => free other (by simp [member])
    cases rest with
    | nil => simpa [stageChars] using here
    | cons next rest =>
      simp only [stageChars, List.map_cons, List.intercalate_cons_cons] at there ⊢
      simp [here, there]

/-- The line of quotations reads back as their texts by every expansion that leaves quoted words
alone. -/
theorem readWith_lineOf {expand : Word → String} {limits : Limits} {stages : List (List Quotation)}
    (literal : ∀ content, expand ⟨content, true⟩ = content) (fits : limits.Fits)
    (expressible : Expressible limits (texts stages)) :
    Pipeline.readWith expand limits (lineOf stages) = .ok (ofArgvs (texts stages)) := by
  obtain ⟨someStage, fewStages, someWord, fewWords, quotable⟩ := expressible
  have pieces : (lineOf stages).toList.splitOn '|' = stages.map stageChars := by
    rw [lineOf, String.toList_ofList]
    apply List.splitOn_intercalate
    · intro piece member
      obtain ⟨stage, inside, rfl⟩ := List.mem_map.mp member
      apply pipe_not_mem_stageChars
      intro q quoted
      have free := (quotable _ (List.mem_map_of_mem inside) _ (List.mem_map_of_mem quoted)).1
      rwa [text, String.toList_ofList] at free
    · simpa [texts] using someStage
  have count : (stages.map stageChars).length ≤ limits.maxStages := by
    simpa [texts] using fewStages
  rw [readWith_ok_iff fits (by rw [pieces]; exact count.trans fits.stages), pieces]
  refine ⟨count, ?_⟩
  rw [ofArgvs, texts, List.map_map, List.forall₂_map_left_iff, List.forall₂_map_right_iff,
    List.forall₂_same]
  intro stage inside
  have some := someWord _ (List.mem_map_of_mem inside)
  have few := fewWords _ (List.mem_map_of_mem inside)
  exact readPiece_stageChars literal fits.words (by simpa using some) (by simpa using few)

theorem exists_map_eq {α β : Type} {f : α → β} {ys : List β}
    (each : ∀ y ∈ ys, ∃ x, f x = y) : ∃ xs : List α, xs.map f = ys := by
  induction ys with
  | nil => exact ⟨[], rfl⟩
  | cons y ys ih =>
    obtain ⟨x, rfl⟩ := each y (by simp)
    obtain ⟨xs, rfl⟩ := ih fun z member => each z (by simp [member])
    exact ⟨x :: xs, rfl⟩

/-- A text without pipe characters and without one kind of quote stands between quotes of that
kind. -/
theorem exists_quotation {content : String} (quotable : Quotable content) :
    ∃ q : Quotation, text q = content := by
  by_cases single : '\'' ∈ content.toList
  · have double : '"' ∉ content.toList := fun double => quotable.2 ⟨single, double⟩
    exact ⟨⟨'"', content.toList, rfl, double⟩, String.ofList_toList⟩
  · exact ⟨⟨'\'', content.toList, rfl, single⟩, String.ofList_toList⟩

/-! ### What a line cannot say -/

private theorem plain_ne_quote {c quote : Char} (plain : isPlain c = true)
    (quotes : isQuote quote = true) : c ≠ quote := by
  rintro rfl
  simp [isPlain, quotes] at plain

/-- The characters of a word stand in its item. -/
theorem mem_item_of_mem_word {item : Item} {c : Char} (inside : c ∈ item.word.text.toList) :
    c ∈ item.chars := by
  cases item with
  | bare run nonempty => simpa [Item.word, Item.chars] using inside
  | quoted lead quotation =>
    simp only [Item.word, String.toList_ofList, List.mem_append] at inside
    simp only [Item.chars, Quotation.chars, List.mem_append, List.mem_cons]
    rcases inside with before | within
    · exact .inl before
    · exact .inr (.inl (.inr within))

/-- One kind of quote is missing from every word: the kind that its own quotation stands in. -/
theorem word_misses_quote (item : Item) :
    ¬ ('\'' ∈ item.word.text.toList ∧ '"' ∈ item.word.text.toList) := by
  cases item with
  | bare run nonempty =>
    rintro ⟨single, -⟩
    simp only [Item.word, String.toList_ofList] at single
    exact plain_ne_quote (run.property _ single) rfl rfl
  | quoted lead quotation =>
    obtain ⟨quote, body, quotes, absent⟩ := quotation
    simp only [Item.word, String.toList_ofList, List.mem_append]
    rintro ⟨single, double⟩
    have inBody {c : Char} (kind : isQuote c = true) (inside : c ∈ lead.val ∨ c ∈ body) :
        c ∈ body :=
      inside.resolve_left fun before => plain_ne_quote (lead.property c before) kind rfl
    simp only [isQuote, Bool.or_eq_true, beq_iff_eq] at quotes
    rcases quotes with rfl | rfl
    · exact absent (inBody rfl double)
    · exact absent (inBody rfl single)

/-- All words of a segment without pipe characters can be quoted. -/
theorem words_quotable {layout : Layout} (free : '|' ∉ layout.chars) :
    ∀ word ∈ layout.words, Quotable word.text := by
  induction layout with
  | finish gap => simp [Layout.words]
  | unclosed gap lead quotation => simp [Layout.words]
  | next gap item rest ih =>
    simp only [Layout.chars, List.mem_append, not_or] at free
    intro word member
    rcases List.mem_cons.mp member with rfl | member
    · exact ⟨fun pipe => free.2.1 (mem_item_of_mem_word pipe), word_misses_quote item⟩
    · exact ih free.2.2 word member

/-- Whatever the limits, a line that is read says something expressible. -/
theorem expressible_of_read {limits : Limits} {line : String} {pipeline : Pipeline}
    (read : Pipeline.read limits line = .ok pipeline) :
    Expressible limits (pipeline.stages.map Stage.argv) := by
  rw [Pipeline.read, readWith_taken] at read
  have free {piece : List Char} (member : piece ∈ taken limits line) : '|' ∉ piece :=
    (of_mem_splitOn (List.mem_of_mem_take member)).2
  have some : taken limits line ≠ [] := by
    rw [taken, ne_eq, List.take_eq_nil_iff, oneBeyond, maxCount]
    simp
  split at read
  · contradiction
  · rename_i few
    cases answers : (taken limits line).mapM (readPiece limits.maxWords Word.text) with
    | error e =>
      rw [answers] at read
      contradiction
    | ok stages =>
      rw [answers] at read
      cases read
      rw [mapM_ok_iff] at answers
      have count := answers.length_eq
      have stageOf {argv : List String} (member : argv ∈ stages.map Stage.argv) :
          argv ≠ [] ∧ argv.length ≤ limits.maxWords ∧ ∀ text ∈ argv, Quotable text := by
        obtain ⟨stage, inside, rfl⟩ := List.mem_map.mp member
        obtain ⟨piece, here, answer⟩ := forall₂_exists_left answers inside
        obtain ⟨layout, words, spelled, among, someWord, fewWords, rfl⟩ := readPiece_ok_inv answer
        refine ⟨by simpa using someWord, by simpa using fewWords, ?_⟩
        intro text written
        obtain ⟨word, ofWords, rfl⟩ := List.mem_map.mp written
        exact words_quotable (spelled.2 ▸ free here) word (among word ofWords)
      refine ⟨?_, ?_, fun argv member => (stageOf member).1,
        fun argv member => (stageOf member).2.1, fun argv member => (stageOf member).2.2⟩
      · intro none
        have empty : stages = [] := List.map_eq_nil_iff.mp none
        rw [empty, List.length_nil] at count
        exact some (List.length_eq_zero_iff.mp count)
      · rw [List.length_map, ← count]
        exact Nat.not_lt.mp few

/-- Quoting is undone by reading. Arguments without pipe characters and without quotes of both
kinds can be written between quotes, and any line that does so reads back as these arguments, also
with the expansion of any session. A line that is read has only such arguments; so they are what
lines can say under these limits. -/
theorem quoting_inverts_reading (limits : Limits) (fits : limits.Fits) :
    (∀ argvs, Expressible limits argvs →
      (∃ stages, texts stages = argvs) ∧
      ∀ stages, texts stages = argvs →
        Pipeline.read limits (lineOf stages) = .ok (ofArgvs argvs) ∧
        ∀ session, Pipeline.readWith (Expansion.word session) limits (lineOf stages) =
          .ok (ofArgvs argvs)) ∧
    (∀ (any : Limits) (line : String) (pipeline : Pipeline),
      Pipeline.read any line = .ok pipeline → Expressible any (pipeline.stages.map Stage.argv)) ∧
    (∀ argvs, Expressible limits argvs ↔
      ∃ line, Pipeline.read limits line = .ok (ofArgvs argvs)) := by
  have writable (argvs : List (List String)) (expressible : Expressible limits argvs) :
      ∃ stages, texts stages = argvs :=
    exists_map_eq fun argv member => exists_map_eq fun content inside =>
      exists_quotation (expressible.quotable argv member content inside)
  refine ⟨fun argvs expressible => ⟨writable argvs expressible, ?_⟩,
    fun any line pipeline => expressible_of_read, fun argvs => ⟨?_, ?_⟩⟩
  · rintro stages rfl
    refine ⟨readWith_lineOf (fun _ => rfl) fits expressible, fun session => ?_⟩
    exact readWith_lineOf (fun _ => by simp [Expansion.word]) fits expressible
  · intro expressible
    obtain ⟨stages, rfl⟩ := writable argvs expressible
    exact ⟨lineOf stages, readWith_lineOf (fun _ => rfl) fits expressible⟩
  · rintro ⟨line, read⟩
    have expressible := expressible_of_read read
    rwa [ofArgvs, List.map_map, List.map_id''] at expressible
    exact fun argv => rfl

/-- Arguments with a line end, foreign quotes, expansion marks and nothing at all. -/
theorem quoting_inverts_reading_hostile :
    Limits.Fits {} ∧
    ∃ line, Pipeline.read {} line = .ok (ofArgvs [["echo", "it's\n", ""], ["~", "say \"$HOME\""]]) := by
  have fits : Limits.Fits {} := ⟨by decide, by decide, by decide⟩
  refine ⟨fits, ((quoting_inverts_reading {} fits).2.2 _).mp ⟨?_, ?_, ?_, ?_, ?_⟩⟩ <;>
    simp [Quotable]

end LineShell.QuotedLines
