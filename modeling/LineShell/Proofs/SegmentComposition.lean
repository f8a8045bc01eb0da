import LineShell.Word
import Mathlib.Data.Nat.Init

/-! Splitting what is put together of two segments. A segment is read by a machine that has one
buffer and one flag for all of its words, and both are clear again as soon as a word is complete. So
where two segments meet between two words, each of them is split as if it stood alone. -/
namespace LineShell.SegmentComposition
open Word Text

/-- Where the machine is in a segment. -/
inductive Phase where
  | between
  | word
  | quotation (quote : Char)
  deriving DecidableEq

/-- A machine that reads a segment character by character. -/
structure Splitter where
  phase : Phase := .between
  /-- What has been read of the word under way. -/
  buffer : List Char := []
  /-- Whether a quotation was opened in it. -/
  quoted : Bool := false
  /-- The words that are complete. -/
  words : List Word := []
  deriving DecidableEq

namespace Splitter

/-- A character of the word under way. -/
def push (m : Splitter) (c : Char) : Splitter :=
  { m with buffer := m.buffer ++ [c] }

def openQuote (m : Splitter) (quote : Char) : Splitter :=
  { m with phase := .quotation quote, quoted := true }

/-- A complete word takes the buffer and the flag with it. -/
def complete (m : Splitter) : Splitter :=
  { m with
    phase := .between
    buffer := []
    quoted := false
    words := m.words ++ [⟨String.ofList m.buffer, m.quoted⟩] }

/-- What one character does. -/
def read (m : Splitter) (c : Char) : Splitter :=
  match m.phase with
  | .between =>
    if isBlank c then m else if isQuote c then m.openQuote c else { m.push c with phase := .word }
  | .word => if isBlank c then m.complete else if isQuote c then m.openQuote c else m.push c
  | .quotation quote => if c == quote then m.complete else m.push c

/-- The words of a segment that ends here. -/
def finish (m : Splitter) : Except LineError (List Word) :=
  match m.phase with
  | .between => .ok m.words
  | .word => .ok m.complete.words
  | .quotation _ => .error .unclosedQuote

/-- The machine after these characters. -/
def run (cs : List Char) : Splitter :=
  cs.foldl read {}

/-- The next character completes a word. -/
def Completes (m : Splitter) (c : Char) : Prop :=
  (m.read c).words ≠ m.words

/-- The same machine with words before its own. -/
def after (earlier : List Word) (m : Splitter) : Splitter :=
  { m with words := earlier ++ m.words }

section Words

variable {m : Splitter}

theorem after_nil (m : Splitter) : m.after [] = m :=
  rfl

theorem phase_after (earlier : List Word) (m : Splitter) : (m.after earlier).phase = m.phase :=
  rfl

theorem complete_after (earlier : List Word) (m : Splitter) :
    (m.after earlier).complete = m.complete.after earlier := by
  simp only [complete, after, List.append_assoc]

/-- What a machine does next does not depend on the words that are complete. -/
theorem read_after (earlier : List Word) (m : Splitter) (c : Char) :
    (m.after earlier).read c = (m.read c).after earlier := by
  simp only [read, phase_after]
  split
  · split
    · rfl
    · split <;> rfl
  · split
    · exact complete_after earlier m
    · split <;> rfl
  · split
    · exact complete_after earlier m
    · rfl

theorem foldl_read_after (earlier : List Word) (m : Splitter) (cs : List Char) :
    cs.foldl read (m.after earlier) = (cs.foldl read m).after earlier := by
  induction cs generalizing m with
  | nil => rfl
  | cons c cs ih => rw [List.foldl_cons, read_after, ih, List.foldl_cons]

/-- A segment is refused only for a quotation without end. -/
theorem of_finish_eq_error {e : LineError} (refused : m.finish = .error e) : e = .unclosedQuote := by
  unfold finish at refused
  split at refused
  · cases refused
  · cases refused
  · cases refused
    rfl

theorem finish_after (earlier : List Word) (m : Splitter) :
    (m.after earlier).finish = (earlier ++ ·) <$> m.finish := by
  simp only [finish, phase_after, complete_after]
  split <;> rfl

end Words

/-! ### The states of the machine -/

/-- The machine that the scanner is with its progress. There is no buffer between two words, and the
flag is up just inside quotes. -/
def ofProgress : Progress → Splitter
  | .between => {}
  | .bare rev => { phase := .word, buffer := rev.reverse }
  | .inside quote rev => { phase := .quotation quote, buffer := rev.reverse, quoted := true }

section States

variable {m : Splitter} {c : Char} {cs : List Char} {words : List Word}

theorem read_between (c : Char) :
    (ofProgress .between).read c =
      if isBlank c then ofProgress .between
      else if isQuote c then ofProgress (.inside c []) else ofProgress (.bare [c]) :=
  rfl

theorem read_bare (rev : List Char) (c : Char) :
    (ofProgress (.bare rev)).read c =
      if isBlank c then (ofProgress .between).after [ofReversed rev false]
      else if isQuote c then ofProgress (.inside c rev) else ofProgress (.bare (c :: rev)) := by
  simp only [ofProgress, List.reverse_cons]
  rfl

theorem read_inside (quote : Char) (rev : List Char) (c : Char) :
    (ofProgress (.inside quote rev)).read c =
      if c == quote then (ofProgress .between).after [ofReversed rev true]
      else ofProgress (.inside quote (c :: rev)) := by
  simp only [ofProgress, List.reverse_cons]
  rfl

/-- A character leads from a progress to a progress, with the words that it completes. -/
theorem exists_read (progress : Progress) (c : Char) :
    ∃ words next, (ofProgress progress).read c = (ofProgress next).after words := by
  cases progress with
  | between =>
    rw [read_between]
    split
    · exact ⟨[], _, (after_nil _).symm⟩
    · split <;> exact ⟨[], _, (after_nil _).symm⟩
  | bare rev =>
    rw [read_bare]
    split
    · exact ⟨_, _, rfl⟩
    · split <;> exact ⟨[], _, (after_nil _).symm⟩
  | inside quote rev =>
    rw [read_inside]
    split
    · exact ⟨_, _, rfl⟩
    · exact ⟨[], _, (after_nil _).symm⟩

/-- Every state of the machine is a progress with the words that are complete. -/
theorem exists_progress (cs : List Char) :
    ∃ words progress, run cs = (ofProgress progress).after words := by
  have whole (cs : List Char) (progress : Progress) :
      ∃ words next, cs.foldl read (ofProgress progress) = (ofProgress next).after words := by
    induction cs generalizing progress with
    | nil => exact ⟨[], progress, rfl⟩
    | cons c cs ih =>
      obtain ⟨earlier, middle, first⟩ := exists_read progress c
      obtain ⟨later, next, further⟩ := ih middle
      refine ⟨earlier ++ later, next, ?_⟩
      rw [List.foldl_cons, first, foldl_read_after, further]
      simp only [after, List.append_assoc]
  exact whole cs .between

/-- Between two words nothing is left in the buffer, and the flag is down. -/
theorem run_of_between (between : (run cs).phase = .between) :
    run cs = { words := (run cs).words } := by
  obtain ⟨words, progress, same⟩ := exists_progress cs
  rw [same] at between ⊢
  cases progress with
  | between => rfl
  | bare rev => cases between
  | inside quote rev => cases between

/-- A word is completed in one way, and then the machine is between two words. -/
theorem phase_of_completes (completes : m.Completes c) : (m.read c).phase = .between := by
  unfold Completes at completes
  unfold read at completes ⊢
  split at completes
  · split at completes
    · exact absurd rfl completes
    · split at completes <;> exact absurd rfl completes
  · split at completes
    · rename_i blank
      rw [if_pos blank]
      rfl
    · split at completes <;> exact absurd rfl completes
  · split at completes
    · rename_i closing
      rw [if_pos closing]
      rfl
    · exact absurd rfl completes

/-- Neither a blank character nor a quote leaves the machine in a word without quotes. -/
theorem phase_read_ne_word (apart : isBlank c = true ∨ isQuote c = true) :
    (m.read c).phase ≠ .word := by
  have quote (visible : isBlank c = false) : isQuote c = true := by
    simpa [visible] using apart
  unfold read
  split
  · split
    · rename_i between blank
      rw [between]
      nofun
    · rename_i visible
      rw [if_pos (quote (by simpa using visible))]
      nofun
  · split
    · nofun
    · rename_i visible
      rw [if_pos (quote (by simpa using visible))]
      nofun
  · rename_i inside
    split
    · nofun
    · rw [push, inside]
      nofun

/-- Where a segment can end and no word is under way, the machine is in its initial state. -/
theorem run_of_finish (finished : (run cs).finish = .ok words) (apart : (run cs).phase ≠ .word) :
    run cs = { words } := by
  obtain ⟨earlier, progress, same⟩ := exists_progress cs
  rw [same] at finished apart ⊢
  cases progress with
  | between =>
    cases finished
    rfl
  | bare rev => exact absurd rfl apart
  | inside quote rev => cases finished

/-- After a word nothing of it is left, and what follows is read as if it stood alone. -/
theorem run_append_of_run (complete : run cs = { words }) (later : List Char) :
    run (cs ++ later) = (run later).after words := by
  have initial : ({ words } : Splitter) = Splitter.after words {} := by
    rw [after, List.append_nil]
  rw [run, List.foldl_append, ← run, complete, initial, foldl_read_after]
  rfl

end States

end Splitter

open Splitter

/-! ### Splitting is running the machine -/

/-- The scanner goes on from its progress as the machine does, where no cap is felt. -/
theorem scan_eq_finish (progress : Progress) (cs : List Char) {room : Nat}
    (enough : cs.length < room) :
    scan room progress cs = (cs.foldl read (ofProgress progress)).finish := by
  induction cs generalizing progress room with
  | nil =>
    obtain ⟨room, rfl⟩ := Nat.exists_eq_succ_of_ne_zero (Nat.ne_of_gt enough)
    cases progress <;> rfl
  | cons c cs ih =>
    obtain ⟨room, rfl⟩ := Nat.exists_eq_succ_of_ne_zero (Nat.ne_of_gt (Nat.zero_lt_of_lt enough))
    have less : cs.length < room := Nat.lt_of_succ_lt_succ enough
    have still : cs.length < room + 1 := Nat.lt_succ_of_lt less
    -- A word that is completed stands before the words of the rest.
    have completed (word : Word) :
        (word :: ·) <$> scan room .between cs =
          (cs.foldl read ((ofProgress .between).after [word])).finish := by
      rw [foldl_read_after, finish_after, ih .between less]
      rfl
    rw [List.foldl_cons]
    cases progress with
    | between =>
      rw [scan, read_between]
      split
      · exact ih _ still
      · split <;> exact ih _ still
    | bare rev =>
      rw [scan, read_bare]
      split
      · exact completed _
      · split <;> exact ih _ still
    | inside quote rev =>
      rw [scan, read_inside]
      split
      · exact completed _
      · exact ih _ still

/-- Where no cap is felt, a segment is split by running the machine. -/
theorem split_eq_finish {segment : String} {room : Nat} (uncapped : segment.length < room) :
    Word.split segment room = (run segment.toList).finish :=
  scan_eq_finish .between segment.toList (String.length_toList ▸ uncapped)

/-! ### Segments that meet between two words -/

/-- Two segments of which the first can be split meet between two words of it. -/
inductive Parted : List Char → List Char → Prop where
  /-- A word under way is complete at a blank character. -/
  | blankAfter {first second : List Char} {c : Char} (blank : isBlank c = true) :
      Parted first (c :: second)
  | nothingBefore {second : List Char} : Parted [] second
  | blankBefore {first second : List Char} {c : Char} (blank : isBlank c = true) :
      Parted (first ++ [c]) second
  /-- The last quote of a segment that can be split is the one that closes its last word. -/
  | quoteBefore {first second : List Char} {c : Char} (quote : isQuote c = true) :
      Parted (first ++ [c]) second

section Meeting

variable {first second : List Char} {words : List Word}

theorem run_append_blank {c : Char} (blank : isBlank c = true)
    (finished : (run first).finish = .ok words) :
    run (first ++ c :: second) = (run (c :: second)).after words := by
  have skipped : ({} : Splitter).read c = {} := if_pos blank
  have alone : run (c :: second) = run second := by
    rw [run, List.foldl_cons, skipped, ← run]
  have ended : run (first ++ [c]) = { words } := by
    obtain ⟨earlier, progress, same⟩ := exists_progress first
    rw [same, finish_after] at finished
    rw [run, List.foldl_append, ← run, same, foldl_read_after]
    cases progress with
    | between =>
      cases finished
      rw [List.foldl_cons, read_between, if_pos blank]
      rfl
    | bare rev =>
      cases finished
      rw [List.foldl_cons, read_bare, if_pos blank]
      rfl
    | inside quote rev => cases finished
  rw [List.append_cons, run_append_of_run ended, alone]

theorem run_append_of_apart {c : Char} (apart : isBlank c = true ∨ isQuote c = true)
    (finished : (run (first ++ [c])).finish = .ok words) :
    run (first ++ [c] ++ second) = (run second).after words := by
  refine run_append_of_run (run_of_finish finished ?_) second
  rw [run, List.foldl_append]
  exact phase_read_ne_word apart

/-- Where two segments meet between two words, the second is read as if it stood alone. -/
theorem run_append (parted : Parted first second) (finished : (run first).finish = .ok words) :
    run (first ++ second) = (run second).after words := by
  cases parted with
  | blankAfter blank => exact run_append_blank blank finished
  | nothingBefore =>
    cases finished
    rfl
  | blankBefore blank => exact run_append_of_apart (.inl blank) finished
  | quoteBefore quote => exact run_append_of_apart (.inr quote) finished

end Meeting

/-- Splitting is compositional. If the first segment can be split and the second begins between two
words, the words of both together are those of the one and then those of the other, and the whole is
refused exactly if the second is. It is split by the machine, which has nothing in its buffer and the
flag down as soon as a word is complete, and then reads what follows as it would on its own. -/
theorem splitting_composes {first second : String} {room : Nat} {words : List Word}
    (uncapped : (first ++ second).length < room) (split : Word.split first room = .ok words)
    (parted : Parted first.toList second.toList) :
    Word.split (first ++ second) room = (match Word.split second room with
      | .ok others => .ok (words ++ others)
      | .error _ => .error .unclosedQuote) ∧
    Word.split (first ++ second) room = (run (first ++ second).toList).finish ∧
    ∀ earlier c later, (first ++ second).toList = earlier ++ c :: later →
      (run earlier).Completes c →
      run (earlier ++ [c]) = { words := (run (earlier ++ [c])).words } ∧
      run (earlier ++ c :: later) = (run later).after (run (earlier ++ [c])).words := by
  have machine := split_eq_finish uncapped
  rw [String.length_append] at uncapped
  have finished : (run first.toList).finish = .ok words := by
    rw [← split_eq_finish (Nat.lt_of_le_of_lt (Nat.le_add_right _ _) uncapped), split]
  have further := split_eq_finish (Nat.lt_of_le_of_lt (Nat.le_add_left _ _) uncapped)
  refine ⟨?composed, machine, ?reset⟩
  case composed =>
    rw [machine, String.toList_append, run_append parted finished, finish_after, ← further]
    cases found : Word.split second room with
    | ok others => rfl
    | error e =>
      cases of_finish_eq_error (further.symm.trans found)
      rfl
  case reset =>
    intro earlier c later _ completes
    have snoc : run (earlier ++ [c]) = (run earlier).read c := by
      rw [run, List.foldl_append]
      rfl
    have between : (run (earlier ++ [c])).phase = .between := by
      rw [snoc]
      exact phase_of_completes completes
    have initial := run_of_between between
    refine ⟨initial, ?_⟩
    rw [List.append_cons]
    exact run_append_of_run initial later

/-- A quotation, and what is glued to its end: one more quotation and a plain word, or one that has no
end. -/
theorem splitting_composes_glued :
    Word.split "cp \"a b\"'c'd" 64 =
      .ok [⟨"cp", false⟩, ⟨"a b", true⟩, ⟨"c", true⟩, ⟨"d", false⟩] ∧
    Word.split "cp \"a b\"'c" 64 = .error .unclosedQuote := by
  have split : Word.split "cp \"a b\"" 64 = .ok [⟨"cp", false⟩, ⟨"a b", true⟩] := by rfl
  have closed (second : String) : Parted "cp \"a b\"".toList second.toList :=
    @Parted.quoteBefore "cp \"a b".toList second.toList '"' (by decide)
  obtain ⟨accepted, -⟩ := splitting_composes (by decide) split (closed "'c'd")
  obtain ⟨refused, -⟩ := splitting_composes (by decide) split (closed "'c")
  exact ⟨accepted, refused⟩

end LineShell.SegmentComposition
