import LineShell.Pipeline
import LineShell.Proofs.Trimming
import LineShell.Proofs.WordGrammar
import Mathlib.Data.List.Forall2

/-! Reading a line never shortens it. The reader asks for one stage and one word more than it
allows and compares afterwards; these lemmas show that it thereby agrees with the reading that has
no cap at all, at every limit the machine can hold, and which fault a refused line is told. -/
namespace LineShell.LineReading
open Word Text Trimming WordGrammar Limits

/-! ### Blank characters around a segment -/

/-- A blank character at the end of a segment changes none of its words. Inside quotes it belongs
to a quotation that has no end with or without it. -/
private theorem scan_append_blank {c : Char} (blank : isBlank c = true) (cs : List Char)
    {room : Nat} {state : Progress}
    (quotes : ∀ quote rev, state = .inside quote rev → isQuote quote = true) :
    scan room state (cs ++ [c]) = scan room state cs := by
  fun_induction scan room state cs with
  | case1 => simp [scan]
  | case2 room => simp [scan, blank]
  | case3 room rev => simp [scan, blank, scan_between_nil]
  | case4 room quote rev =>
    have other : (c == quote) = false := by
      rw [beq_eq_false_iff_ne]
      rintro rfl
      rw [quote_not_blank (quotes _ _ rfl)] at blank
      contradiction
    simp [scan, other]
  | case5 room d rest gap ih => simp [scan, gap, ih]
  | case6 room d rest gap opens ih =>
    have inside := ih fun quote rev same => by
      cases same
      exact opens
    simpa [scan, gap, opens] using inside
  | case7 room d rest gap opens ih => simp [scan, gap, opens, ih]
  | case8 room rev d rest gap ih => simp [scan, gap, ih]
  | case9 room rev d rest gap opens ih =>
    have inside := ih fun quote rev same => by
      cases same
      exact opens
    simpa [scan, gap, opens] using inside
  | case10 room rev d rest gap opens ih => simp [scan, gap, opens, ih]
  | case11 room quote rev d rest closes ih => simp [scan, closes, ih]
  | case12 room quote rev d rest stays ih =>
    have inside := ih fun other rev same => by
      cases same
      exact quotes _ _ rfl
    simpa [scan, stays] using inside

private theorem scan_append_blanks {blanks : List Char} (blank : ∀ c ∈ blanks, isBlank c = true)
    (cs : List Char) (room : Nat) : scan room .between (cs ++ blanks) = scan room .between cs := by
  induction blanks generalizing cs with
  | nil => rw [List.append_nil]
  | cons c blanks ih =>
    obtain ⟨first, others⟩ := List.forall_mem_cons.mp blank
    have opened : ∀ quote rev, Progress.between = .inside quote rev → isQuote quote = true := by
      intro quote rev same
      contradiction
    rw [List.append_cons, ih others, scan_append_blank first cs opened]

/-- Trimming a segment changes none of its words, whatever the cap. -/
theorem split_trim (cs : List Char) (room : Nat) :
    Word.split (String.ofList (trimChars cs)) room = scan room .between cs := by
  obtain ⟨after, leading, trailing, same⟩ := exists_trimChars cs
  calc Word.split (String.ofList (trimChars cs)) room
      = scan room .between (trimChars cs) := by rw [Word.split, String.toList_ofList]
    _ = scan room .between (cs.takeWhile isBlank ++ trimChars cs) :=
        (scan_gap ⟨_, leading⟩ room _).symm
    _ = scan room .between (cs.takeWhile isBlank ++ trimChars cs ++ after) :=
        (scan_append_blanks trailing _ room).symm
    _ = scan room .between cs := by rw [← same]

/-! ### Segments -/

theorem splitAt_eq_splitOn (mark : Char) (cs : List Char) :
    Pipeline.splitAt mark cs = cs.splitOn mark := by
  induction cs with
  | nil => rfl
  | cons c rest ih =>
    rw [Pipeline.splitAt, List.splitOn_cons_eq_if_modifyHead, ih]
    split
    · rfl
    · cases pieces : rest.splitOn mark with
      | nil => exact absurd pieces (List.splitOn_ne_nil mark rest)
      | cons piece pieces => rfl

/-- There is one segment more than there are marks. -/
theorem length_splitOn (mark : Char) (cs : List Char) :
    (cs.splitOn mark).length = cs.count mark + 1 := by
  induction cs with
  | nil => rfl
  | cons c rest ih =>
    rw [List.splitOn_cons_eq_if_modifyHead, List.count_cons]
    split
    · rw [List.length_cons, ih]
    · rw [List.length_modifyHead, ih]

/-- A segment is no longer than the whole, and no mark stands in it. -/
theorem of_mem_splitOn {mark : Char} {cs piece : List Char} (member : piece ∈ cs.splitOn mark) :
    piece.length ≤ cs.length ∧ mark ∉ piece := by
  induction cs generalizing piece with
  | nil => simp_all
  | cons c rest ih =>
    rw [List.splitOn_cons_eq_if_modifyHead] at member
    split at member
    · rcases List.mem_cons.mp member with rfl | member
      · simp
      · obtain ⟨shorter, free⟩ := ih member
        exact ⟨Nat.le_succ_of_le shorter, free⟩
    · rename_i other
      cases pieces : rest.splitOn mark with
      | nil => simp [pieces] at member
      | cons first others =>
        rw [pieces] at member ih
        rcases List.mem_cons.mp member with rfl | member
        · obtain ⟨shorter, free⟩ := @ih first (by simp)
          have visible : mark ≠ c := fun same => other (by simp [same])
          exact ⟨Nat.succ_le_succ shorter, by simp [visible, free]⟩
        · obtain ⟨shorter, free⟩ := ih (List.mem_cons_of_mem first member)
          exact ⟨Nat.le_succ_of_le shorter, free⟩

/-! ### Many steps of which one may fail -/

section Sequence

variable {α β ε : Type} {f : α → Except ε β} {xs : List α}

theorem mapM_ok_iff {ys : List β} :
    xs.mapM f = .ok ys ↔ List.Forall₂ (fun x y => f x = .ok y) xs ys := by
  induction xs generalizing ys with
  | nil => cases ys <;> simp [pure, Except.pure]
  | cons x xs ih =>
    rw [List.mapM_cons]
    cases first : f x with
    | error e => cases ys <;> simp [bind, Except.bind, first]
    | ok y =>
      cases rest : xs.mapM f with
      | error e => cases ys <;> simp [bind, Except.bind, first, ← ih, rest]
      | ok zs => cases ys <;> simp [bind, Except.bind, pure, Except.pure, first, ← ih, rest]

/-- The first element that fails decides. -/
theorem mapM_error_iff {e : ε} :
    xs.mapM f = .error e ↔ ∃ before x after, xs = before ++ x :: after ∧
      (∀ earlier ∈ before, ∃ y, f earlier = .ok y) ∧ f x = .error e := by
  constructor
  · intro failed
    induction xs with
    | nil => cases failed
    | cons x xs ih =>
      rw [List.mapM_cons] at failed
      cases first : f x with
      | error other =>
        rw [first] at failed
        cases failed
        exact ⟨[], x, xs, rfl, by simp, first⟩
      | ok y =>
        rw [first] at failed
        cases rest : xs.mapM f with
        | ok ys =>
          simp only [rest] at failed
          cases failed
        | error other =>
          simp only [rest] at failed
          cases failed
          obtain ⟨before, z, after, rfl, fine, fault⟩ := ih rest
          refine ⟨x :: before, z, after, rfl, ?_, fault⟩
          intro earlier member
          rcases List.mem_cons.mp member with rfl | member
          · exact ⟨y, first⟩
          · exact fine earlier member
  · rintro ⟨before, x, after, rfl, fine, fault⟩
    induction before with
    | nil => rw [List.nil_append, List.mapM_cons, fault]; rfl
    | cons earlier before ih =>
      obtain ⟨y, first⟩ := fine earlier (by simp)
      rw [List.cons_append, List.mapM_cons, first]
      have rest := ih fun z member => fine z (by simp [member])
      simp only [rest]
      rfl

/-- Relations that agree on the members of the first list relate the same lists. -/
theorem forall₂_congr_left {r s : α → β → Prop} {ys : List β}
    (agree : ∀ x ∈ xs, ∀ y, r x y ↔ s x y) : List.Forall₂ r xs ys ↔ List.Forall₂ s xs ys := by
  induction xs generalizing ys with
  | nil => simp
  | cons x xs ih =>
    cases ys with
    | nil => simp
    | cons y ys =>
      rw [List.forall₂_cons, List.forall₂_cons, agree x (by simp) y,
        ih fun z member => agree z (by simp [member])]

/-- Every member of the second list has its counterpart in the first. -/
theorem forall₂_exists_left {r : α → β → Prop} {ys : List β} (related : List.Forall₂ r xs ys)
    {y : β} (member : y ∈ ys) : ∃ x ∈ xs, r x y := by
  induction related with
  | nil => contradiction
  | cons head tail ih =>
    rcases List.mem_cons.mp member with rfl | member
    · exact ⟨_, List.mem_cons_self, head⟩
    · obtain ⟨x, inside, found⟩ := ih member
      exact ⟨x, List.mem_cons_of_mem _ inside, found⟩

end Sequence

/-! ### One stage -/

/-- The words of a segment with room for every one of them. -/
def uncapped (piece : List Char) : Except LineError (List Word) :=
  Word.split (String.ofList piece) (piece.length + 1)

theorem uncapped_of_layout {piece : List Char} {layout : Layout} (spelled : layout.Spells piece) :
    uncapped piece = if layout.closed then .ok layout.words else .error .unclosedQuote :=
  split_of_layout (by rwa [String.toList_ofList]) (by simp [← String.length_toList])

/-- What is wrong with a segment when at most `limit` words are allowed. An excess is told also
where a quotation without end comes after it. -/
inductive Fault (limit : Nat) (piece : List Char) : LineError → Prop where
  | tooManyWords {layout : Layout} (spelled : layout.Spells piece)
      (excess : limit < layout.words.length) : Fault limit piece (.tooManyWords limit)
  | unclosedQuote {layout : Layout} (spelled : layout.Spells piece)
      (few : layout.words.length ≤ limit) (opened : layout.closed = false) :
      Fault limit piece .unclosedQuote
  | emptyCommand {layout : Layout} (spelled : layout.Spells piece)
      (closed : layout.closed = true) (blank : layout.words = []) :
      Fault limit piece .emptyCommand

/-- Reading one segment as the reader of lines does, trimmed. -/
def readPiece (limit : Nat) (expand : Word → String) (piece : List Char) :
    Except LineError Stage :=
  Pipeline.readStage limit expand (String.ofList (trimChars piece))

section Stage

variable {limit : Nat} {expand : Word → String} {piece : List Char} {layout : Layout}

theorem readPiece_of_ok {words : List Word} (spelled : layout.Spells piece)
    (read : layout.capped (oneBeyond limit) = .ok words) :
    readPiece limit expand piece =
      if words = [] then .error .emptyCommand
      else if limit < words.length then .error (.tooManyWords limit)
      else .ok { argv := words.map expand } := by
  obtain ⟨separated, rfl⟩ := spelled
  rw [readPiece, Pipeline.readStage, split_trim, scan_layout separated, read]
  by_cases none : words = []
  · simp [none, bind, Except.bind, throw, throwThe, MonadExceptOf.throw]
  · by_cases excess : limit < words.length <;>
      simp [none, excess, bind, Except.bind, pure, Except.pure, throw, throwThe,
        MonadExceptOf.throw]

theorem readPiece_of_error {e : LineError} (spelled : layout.Spells piece)
    (read : layout.capped (oneBeyond limit) = .error e) :
    readPiece limit expand piece = .error e := by
  obtain ⟨separated, rfl⟩ := spelled
  rw [readPiece, Pipeline.readStage, split_trim, scan_layout separated, read]
  rfl

/-- A segment may be trimmed before it is read. -/
theorem readPiece_trimChars (limit : Nat) (expand : Word → String) (piece : List Char) :
    readPiece limit expand (trimChars piece) = readPiece limit expand piece := by
  have same : scan (oneBeyond limit) .between (trimChars piece) =
      scan (oneBeyond limit) .between piece := by
    rw [← split_trim piece, Word.split, String.toList_ofList]
  rw [readPiece, readPiece, Pipeline.readStage, Pipeline.readStage, split_trim, split_trim, same]

/-- Whatever the limit, a stage that is read has words of its segment only, at least one and no
more than allowed. -/
theorem readPiece_ok_inv {stage : Stage} (read : readPiece limit expand piece = .ok stage) :
    ∃ (layout : Layout) (words : List Word), layout.Spells piece ∧
      (∀ word ∈ words, word ∈ layout.words) ∧ words ≠ [] ∧ words.length ≤ limit ∧
      stage = { argv := words.map expand } := by
  obtain ⟨layout, spelled⟩ := exists_layout piece
  cases answer : layout.capped (oneBeyond limit) with
  | error e =>
    rw [readPiece_of_error spelled answer] at read
    contradiction
  | ok words =>
    rw [readPiece_of_ok spelled answer] at read
    split at read
    · contradiction
    · rename_i some
      split at read
      · contradiction
      · rename_i few
        refine ⟨layout, words, spelled, ?_, some, Nat.not_lt.mp few, (Except.ok.inj read).symm⟩
        rw [Layout.capped] at answer
        split at answer
        · cases answer
          exact fun word member => List.mem_of_mem_take member
        · split at answer
          · cases answer
            exact fun word member => member
          · contradiction

/-- A segment with enough words and not too many becomes a stage with all of them. -/
theorem readPiece_ok (holds : limit ≤ maxCount) (spelled : layout.Spells piece)
    (closed : layout.closed = true) (some : layout.words ≠ [])
    (few : layout.words.length ≤ limit) :
    readPiece limit expand piece = .ok { argv := layout.words.map expand } := by
  have whole : layout.capped (oneBeyond limit) = .ok layout.words := by
    by_cases full : oneBeyond limit ≤ layout.words.length
    · rw [Layout.capped, if_pos full, List.take_of_length_le]
      rw [oneBeyond]
      omega
    · rw [Layout.capped, if_neg full, if_pos closed]
  rw [readPiece_of_ok spelled whole, if_neg some, if_neg (Nat.not_lt.mpr few)]

/-- A fault of a segment is the answer to it. -/
theorem readPiece_error {e : LineError} (holds : limit ≤ maxCount) (short : piece.length < maxCount)
    (fault : Fault limit piece e) : readPiece limit expand piece = .error e := by
  cases fault with
  | @tooManyWords layout spelled excess =>
    have count := layout.length_words_le
    rw [spelled.2] at count
    have beyond : oneBeyond limit = limit + 1 := by
      rw [oneBeyond]
      omega
    have read : layout.capped (oneBeyond limit) = .ok (layout.words.take (limit + 1)) := by
      rw [Layout.capped, beyond, if_pos (Nat.succ_le_of_lt excess)]
    have taken : (layout.words.take (limit + 1)).length = limit + 1 := by
      rw [List.length_take]
      omega
    rw [readPiece_of_ok spelled read, if_neg (List.ne_nil_of_length_eq_add_one taken),
      if_pos (by omega)]
  | @unclosedQuote layout spelled few opened =>
    have count := layout.length_words_le
    rw [spelled.2] at count
    have room : ¬ oneBeyond limit ≤ layout.words.length := by
      rw [oneBeyond]
      omega
    apply readPiece_of_error spelled
    simp [Layout.capped, room, opened]
  | @emptyCommand layout spelled closed blank =>
    have room : ¬ oneBeyond limit ≤ layout.words.length := by
      rw [oneBeyond, maxCount, blank]
      simp
    have read : layout.capped (oneBeyond limit) = .ok layout.words := by
      rw [Layout.capped, if_neg room, if_pos closed]
    rw [readPiece_of_ok spelled read, if_pos blank]

/-- Every segment has enough words and not too many, or a fault. -/
theorem sound_or_fault (limit : Nat) (piece : List Char) :
    (∃ layout : Layout, layout.Spells piece ∧ layout.closed = true ∧ layout.words ≠ [] ∧
      layout.words.length ≤ limit) ∨ ∃ e, Fault limit piece e := by
  obtain ⟨layout, spelled⟩ := exists_layout piece
  by_cases excess : limit < layout.words.length
  · exact .inr ⟨_, .tooManyWords spelled excess⟩
  · cases closed : layout.closed with
    | false => exact .inr ⟨_, .unclosedQuote spelled (Nat.not_lt.mp excess) closed⟩
    | true =>
      by_cases blank : layout.words = []
      · exact .inr ⟨_, .emptyCommand spelled closed blank⟩
      · exact .inl ⟨layout, spelled, closed, blank, Nat.not_lt.mp excess⟩

theorem readPiece_ok_iff (holds : limit ≤ maxCount) (short : piece.length < maxCount)
    {stage : Stage} :
    readPiece limit expand piece = .ok stage ↔ ∃ words, uncapped piece = .ok words ∧
      1 ≤ words.length ∧ words.length ≤ limit ∧ stage = { argv := words.map expand } := by
  constructor
  · intro read
    rcases sound_or_fault limit piece with ⟨layout, spelled, closed, some, few⟩ | ⟨e, fault⟩
    · rw [readPiece_ok holds spelled closed some few] at read
      cases read
      refine ⟨layout.words, ?_, List.length_pos_iff.mpr some, few, rfl⟩
      rw [uncapped_of_layout spelled, if_pos closed]
    · rw [readPiece_error holds short fault] at read
      contradiction
  · rintro ⟨words, whole, some, few, rfl⟩
    obtain ⟨layout, spelled⟩ := exists_layout piece
    rw [uncapped_of_layout spelled] at whole
    split at whole
    · rename_i closed
      cases whole
      exact readPiece_ok holds spelled closed (List.length_pos_iff.mp some) few
    · contradiction

theorem readPiece_error_iff (holds : limit ≤ maxCount) (short : piece.length < maxCount)
    {e : LineError} : readPiece limit expand piece = .error e ↔ Fault limit piece e := by
  constructor
  · intro read
    rcases sound_or_fault limit piece with ⟨layout, spelled, closed, some, few⟩ | ⟨other, fault⟩
    · rw [readPiece_ok holds spelled closed some few] at read
      contradiction
    · rw [readPiece_error holds short fault] at read
      cases read
      exact fault
  · exact readPiece_error holds short

end Stage

/-! ### The whole line -/

section Line

variable {expand : Word → String} {limits : Limits} {line : String}

/-- The segments the reader asks for: one more than it allows. -/
def taken (limits : Limits) (line : String) : List (List Char) :=
  (line.toList.splitOn '|').take (oneBeyond limits.maxStages)

theorem readWith_taken :
    Pipeline.readWith expand limits line =
      if limits.maxStages < (taken limits line).length then
        .error (.tooManyStages limits.maxStages)
      else Pipeline.mk <$> (taken limits line).mapM (readPiece limits.maxWords expand) := by
  rw [Pipeline.readWith, Pipeline.segments, splitAt_eq_splitOn, ← taken]
  by_cases excess : limits.maxStages < (taken limits line).length
  · simp only [List.length_map, gt_iff_lt, excess, ↓reduceIte]
    rfl
  · simp only [List.length_map, gt_iff_lt, excess, ↓reduceIte, List.mapM_map]
    rfl

/-- A line is refused for its number of segments, or read segment by segment. -/
theorem readWith_eq (fits : limits.Fits)
    (countable : (line.toList.splitOn '|').length ≤ maxCount) :
    Pipeline.readWith expand limits line =
      if limits.maxStages < (line.toList.splitOn '|').length then
        .error (.tooManyStages limits.maxStages)
      else Pipeline.mk <$> (line.toList.splitOn '|').mapM (readPiece limits.maxWords expand) := by
  have holds := fits.stages
  rw [readWith_taken, taken]
  by_cases excess : limits.maxStages < (line.toList.splitOn '|').length
  · rw [if_pos excess, if_pos]
    rw [List.length_take, oneBeyond]
    omega
  · rw [List.take_of_length_le]
    rw [oneBeyond]
    omega

theorem readWith_ok_iff (fits : limits.Fits)
    (countable : (line.toList.splitOn '|').length ≤ maxCount) {pipeline : Pipeline} :
    Pipeline.readWith expand limits line = .ok pipeline ↔
      (line.toList.splitOn '|').length ≤ limits.maxStages ∧
      List.Forall₂ (fun piece stage => readPiece limits.maxWords expand piece = .ok stage)
        (line.toList.splitOn '|') pipeline.stages := by
  rw [readWith_eq fits countable, ← mapM_ok_iff]
  by_cases excess : limits.maxStages < (line.toList.splitOn '|').length
  · simp [excess, Nat.not_le.mpr excess]
  · rw [if_neg excess]
    obtain ⟨stages⟩ := pipeline
    cases (line.toList.splitOn '|').mapM (readPiece limits.maxWords expand) with
    | error e => simp
    | ok read => simp [Nat.not_lt.mp excess]

theorem readWith_error_iff (fits : limits.Fits)
    (countable : (line.toList.splitOn '|').length ≤ maxCount) {e : LineError} :
    Pipeline.readWith expand limits line = .error e ↔
      (limits.maxStages < (line.toList.splitOn '|').length ∧
        e = .tooManyStages limits.maxStages) ∨
      ((line.toList.splitOn '|').length ≤ limits.maxStages ∧
        (line.toList.splitOn '|').mapM (readPiece limits.maxWords expand) = .error e) := by
  rw [readWith_eq fits countable]
  by_cases excess : limits.maxStages < (line.toList.splitOn '|').length
  · simp [excess, Nat.not_le.mpr excess, eq_comm (a := e)]
  · rw [if_neg excess]
    cases (line.toList.splitOn '|').mapM (readPiece limits.maxWords expand) with
    | error other => simp [excess, Nat.not_lt.mp excess]
    | ok read => simp [excess]

end Line

/-- A line is read exactly if it keeps to both limits and every segment has a word and no
quotation without end; its stages then hold all words of their segments. Of a line with too many
segments nothing else is told, and otherwise the first segment with a fault decides. -/
theorem read_never_cuts (limits : Limits) (fits : limits.Fits) (line : String)
    (short : line.length < maxCount) :
    (∀ pipeline, Pipeline.read limits line = .ok pipeline ↔
      line.toList.count '|' + 1 ≤ limits.maxStages ∧
      List.Forall₂ (fun piece stage => ∃ words, uncapped piece = .ok words ∧
          1 ≤ words.length ∧ words.length ≤ limits.maxWords ∧
          stage = { argv := words.map Word.text })
        (line.toList.splitOn '|') pipeline.stages) ∧
    (∀ e, Pipeline.read limits line = .error e ↔
      (limits.maxStages < line.toList.count '|' + 1 ∧ e = .tooManyStages limits.maxStages) ∨
      (line.toList.count '|' + 1 ≤ limits.maxStages ∧
        ∃ before piece after, line.toList.splitOn '|' = before ++ piece :: after ∧
          (∀ earlier ∈ before, ∀ other, ¬ Fault limits.maxWords earlier other) ∧
          Fault limits.maxWords piece e)) := by
  rw [← length_splitOn]
  have countable : (line.toList.splitOn '|').length ≤ maxCount := by
    have marks := List.count_le_length (a := '|') (l := line.toList)
    rw [length_splitOn]
    rw [String.length_toList] at marks
    omega
  have shortPiece {piece : List Char} (member : piece ∈ line.toList.splitOn '|') :
      piece.length < maxCount := by
    have bound := (of_mem_splitOn member).1
    rw [String.length_toList] at bound
    omega
  constructor
  · intro pipeline
    rw [Pipeline.read, readWith_ok_iff fits countable]
    refine and_congr_right fun _ => forall₂_congr_left fun piece member stage => ?_
    exact readPiece_ok_iff fits.words (shortPiece member)
  · intro e
    rw [Pipeline.read, readWith_error_iff fits countable, mapM_error_iff]
    refine or_congr_right (and_congr_right fun _ => ?_)
    refine exists_congr fun before => exists_congr fun piece => exists_congr fun after =>
      and_congr_right fun cut => ?_
    have members : ∀ other ∈ before ++ piece :: after, other.length < maxCount :=
      fun other member => shortPiece (cut ▸ member)
    refine and_congr ?_ (readPiece_error_iff fits.words (members piece (by simp)))
    refine forall₂_congr fun earlier member => ?_
    have shortEarlier := members earlier (by simp [member])
    constructor
    · rintro ⟨stage, read⟩ other fault
      rw [readPiece_error fits.words shortEarlier fault] at read
      contradiction
    · intro sound
      rcases sound_or_fault limits.maxWords earlier with ⟨layout, spelled, closed, some, few⟩ | fault
      · exact ⟨_, readPiece_ok fits.words spelled closed some few⟩
      · obtain ⟨other, fault⟩ := fault
        exact absurd fault (sound other)

/-- A segment with two words too many and no end for its quotation comes before an empty one. -/
theorem read_never_cuts_competing :
    Limits.Fits { maxWords := 1 } ∧ "ls 'a' b 'c | |".length < maxCount ∧
    ∃ before piece after, "ls 'a' b 'c | |".toList.splitOn '|' = before ++ piece :: after ∧
      (∀ earlier ∈ before, ∀ other, ¬ Fault 1 earlier other) ∧
      Fault 1 piece (.tooManyWords 1) := by
  have fits : Limits.Fits { maxWords := 1 } := ⟨by decide, by decide, by decide⟩
  refine ⟨fits, by decide, ?_⟩
  have told := ((read_never_cuts { maxWords := 1 } fits "ls 'a' b 'c | |" (by decide)).2
    (.tooManyWords 1)).mp (by decide)
  rcases told with ⟨-, same⟩ | ⟨-, first⟩
  · contradiction
  · exact first

end LineShell.LineReading
