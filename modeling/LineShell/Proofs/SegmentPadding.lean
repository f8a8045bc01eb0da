import LineShell.Proofs.LineReading
import LineShell.Proofs.Trimming

/-! Blank characters around the stages of a line. The reader trims every segment, so blank characters
before and after a segment are lost, and a line that is put together again from its segments reads as
before, with whatever blank characters around them. -/
namespace LineShell.SegmentPadding
open Text WordGrammar LineReading Trimming

/-- A segment with blank characters before and after it, on either side none or any. -/
def Padded (segment padded : String) : Prop :=
  ∃ before after : RunOf isBlank, padded.toList = before.val ++ segment.toList ++ after.val

variable {line segment padded : String} {room : Nat}

theorem trim_padded (around : Padded segment padded) : trim padded = trim segment := by
  obtain ⟨before, after, same⟩ := around
  rw [trim, trim, same, trimChars_append_blank after.property, trimChars_blank_append before.property]

/-- Blank characters mark nothing. -/
theorem mark_not_mem_padded (absent : '|' ∉ segment.toList) (around : Padded segment padded) :
    '|' ∉ padded.toList := by
  obtain ⟨before, after, same⟩ := around
  have visible (gap : RunOf isBlank) : '|' ∉ gap.val := by
    intro member
    have blank := gap.property _ member
    contradiction
  rw [same, List.mem_append, List.mem_append]
  rintro ((inside | inside) | inside)
  · exact visible before inside
  · exact absent inside
  · exact visible after inside

/-! ### Segments of a line -/

/-- The segments of a line with room for every one of them. -/
def allSegments (line : String) : List String :=
  (line.toList.splitOn '|').map fun piece => String.ofList (trimChars piece)

/-- A cap on segments takes the first of them. -/
theorem segments_eq (line : String) (room : Nat) :
    Pipeline.segments line room = (allSegments line).take room := by
  rw [Pipeline.segments, splitAt_eq_splitOn, allSegments, List.map_take]

theorem length_allSegments (line : String) :
    (allSegments line).length = line.toList.count '|' + 1 := by
  rw [allSegments, List.length_map, length_splitOn]

theorem segments_of_enough (enough : line.toList.count '|' < room) :
    Pipeline.segments line room = allSegments line := by
  rw [segments_eq, List.take_of_length_le]
  rw [length_allSegments]
  exact enough

theorem trim_of_mem_allSegments (member : segment ∈ allSegments line) : trim segment = segment := by
  obtain ⟨piece, -, rfl⟩ := List.mem_map.mp member
  rw [trim, String.toList_ofList, trimChars_trimChars]

theorem mark_not_mem_of_mem_allSegments (member : segment ∈ allSegments line) :
    '|' ∉ segment.toList := by
  obtain ⟨piece, inside, rfl⟩ := List.mem_map.mp member
  rw [String.toList_ofList]
  intro marked
  exact (of_mem_splitOn inside).2 (mem_of_mem_trimChars marked)

/-- What has been joined comes apart again, trimmed. -/
theorem allSegments_intercalate {pieces : List String} (some : pieces ≠ [])
    (absent : ∀ piece ∈ pieces, '|' ∉ piece.toList) :
    allSegments ("|".intercalate pieces) = pieces.map trim := by
  have cut : ("|".intercalate pieces).toList.splitOn '|' = pieces.map String.toList := by
    rw [String.toList_intercalate]
    apply List.splitOn_intercalate
    · intro chars member
      obtain ⟨piece, inside, rfl⟩ := List.mem_map.mp member
      exact absent piece inside
    · rwa [ne_eq, List.map_eq_nil_iff]
  rw [allSegments, cut, List.map_map]
  rfl

/-- Trimming takes off what was put around trimmed segments. -/
theorem map_trim_padded {segments pieces : List String}
    (around : List.Forall₂ Padded segments pieces)
    (trimmed : ∀ segment ∈ segments, trim segment = segment) : pieces.map trim = segments := by
  induction around with
  | nil => rfl
  | cons padded others ih =>
    obtain ⟨first, later⟩ := List.forall_mem_cons.mp trimmed
    rw [List.map_cons, trim_padded padded, first, ih later]

/-- Segments that are padded and joined are the segments of the line again. -/
theorem allSegments_joined {pieces : List String}
    (around : List.Forall₂ Padded (allSegments line) pieces) :
    allSegments ("|".intercalate pieces) = allSegments line := by
  have some : pieces ≠ [] := by
    rintro rfl
    have counted := around.length_eq
    rw [length_allSegments] at counted
    contradiction
  have absent : ∀ piece ∈ pieces, '|' ∉ piece.toList := by
    intro piece member
    obtain ⟨segment, inside, padded⟩ := forall₂_exists_left around member
    exact mark_not_mem_padded (mark_not_mem_of_mem_allSegments inside) padded
  rw [allSegments_intercalate some absent]
  exact map_trim_padded around fun segment member => trim_of_mem_allSegments member

/-- Blank characters around a segment carry no meaning: its words or its fault are those of the
trimmed segment, whatever the cap. A cap on the segments of a line takes the first of them. A line
that is joined again from all segments of a line, each with any blank characters before and after it,
has the same segments at every cap, and is read as the same pipeline or refused with the same error,
with the words taken as they are and with every other expansion. -/
theorem padding_carries_no_meaning :
    (∀ segment room, Word.split (trim segment) room = Word.split segment room) ∧
    ∀ (line : String) (unlimited : Nat), line.toList.count '|' < unlimited →
      (∀ room, Pipeline.segments line room = (Pipeline.segments line unlimited).take room) ∧
      ∀ pieces : List String, List.Forall₂ Padded (Pipeline.segments line unlimited) pieces →
        (∀ room, Pipeline.segments ("|".intercalate pieces) room = Pipeline.segments line room) ∧
        (∀ limits, Pipeline.read limits ("|".intercalate pieces) = Pipeline.read limits line) ∧
        ∀ expand limits, Pipeline.readWith expand limits ("|".intercalate pieces) =
          Pipeline.readWith expand limits line := by
  refine ⟨fun segment room => split_trim segment.toList room, ?_⟩
  intro line unlimited enough
  rw [segments_of_enough enough]
  refine ⟨segments_eq line, fun pieces around => ?_⟩
  have same (room : Nat) :
      Pipeline.segments ("|".intercalate pieces) room = Pipeline.segments line room := by
    rw [segments_eq, segments_eq, allSegments_joined around]
  have reads (expand : Word → String) (limits : Limits) :
      Pipeline.readWith expand limits ("|".intercalate pieces) =
        Pipeline.readWith expand limits line := by
    rw [Pipeline.readWith, Pipeline.readWith, same]
  exact ⟨same, reads Word.text, reads⟩

/-- A quotation that has no end, with its trailing blank trimmed and others put in its place, and an
ideographic space before the other segment. -/
theorem padding_carries_no_meaning_opened :
    "ls ' |wc".toList.count '|' < 2 ∧
    List.Forall₂ Padded (Pipeline.segments "ls ' |wc" 2) ["ls '\t\t", "\u3000wc"] ∧
    Word.split (trim " ls ' ") 2 = Word.split " ls ' " 2 ∧
    Pipeline.segments ("|".intercalate ["ls '\t\t", "\u3000wc"]) 1 = ["ls '"] ∧
    Pipeline.read {} ("|".intercalate ["ls '\t\t", "\u3000wc"]) = .error .unclosedQuote := by
  have around : List.Forall₂ Padded (Pipeline.segments "ls ' |wc" 2) ["ls '\t\t", "\u3000wc"] := by
    have cut : Pipeline.segments "ls ' |wc" 2 = ["ls '", "wc"] := by decide
    rw [cut]
    have tabs : Padded "ls '" "ls '\t\t" :=
      ⟨⟨[], nofun⟩, ⟨['\t', '\t'], List.all_eq_true.mp rfl⟩, by decide⟩
    have space : Padded "wc" "\u3000wc" :=
      ⟨⟨['\u3000'], List.all_eq_true.mp rfl⟩, ⟨[], nofun⟩, by decide⟩
    exact .cons tabs (.cons space .nil)
  obtain ⟨trimmed, lines⟩ := padding_carries_no_meaning
  obtain ⟨-, joined⟩ := lines "ls ' |wc" 2 (by decide)
  obtain ⟨same, reads, -⟩ := joined _ around
  refine ⟨by decide, around, trimmed _ 2, ?_, ?_⟩
  · rw [same]
    decide
  · rw [reads]
    decide

end LineShell.SegmentPadding
