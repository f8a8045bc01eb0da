import LineShell.Proofs.WordGrammar

/-! Asking for fewer words. The scanner stops where it has as many words as were asked for, so what
comes after them is not looked at, not even a quotation without end. The answers to all caps are
therefore the beginnings of one list of words, followed by one fault where the segment has one. -/
namespace LineShell.WordCaps
open WordGrammar

/-- One layout answers for a segment, whatever the cap. -/
theorem exists_capped (segment : String) :
    ∃ layout : Layout, ∀ room, Word.split segment room = layout.capped room := by
  obtain ⟨layout, separated, same⟩ := exists_layout segment.toList
  refine ⟨layout, fun room => ?_⟩
  rw [Word.split, ← same, scan_layout separated]

section Capped

variable {layout : Layout} {room : Nat} {words : List Word}

theorem capped_of_full (full : room ≤ layout.words.length) :
    layout.capped room = .ok (layout.words.take room) :=
  if_pos full

/-- Words are returned where the last word asked for is complete, or the whole segment is. -/
theorem capped_eq_ok_iff : layout.capped room = .ok words ↔
    words = layout.words.take room ∧ (room ≤ layout.words.length ∨ layout.closed = true) := by
  by_cases full : room ≤ layout.words.length
  · rw [capped_of_full full, Except.ok.injEq]
    exact ⟨fun same => ⟨same.symm, .inl full⟩, fun known => known.1.symm⟩
  · have whole : layout.words.take room = layout.words :=
      List.take_of_length_le (Nat.le_of_not_le full)
    cases closed : layout.closed with
    | false => simp [Layout.capped, full, closed]
    | true =>
      simp only [Layout.capped, full, closed, whole, ↓reduceIte, Except.ok.injEq, or_true, and_true]
      exact eq_comm

/-- The only fault is that of the last quotation, when more is asked for than stands before it. -/
theorem capped_eq_error_iff {e : LineError} : layout.capped room = .error e ↔
    e = .unclosedQuote ∧ layout.words.length < room ∧ layout.closed = false := by
  by_cases full : room ≤ layout.words.length
  · simp [capped_of_full full, Nat.not_lt.mpr full]
  · cases closed : layout.closed with
    | true => simp [Layout.capped, full, closed]
    | false => simp [Layout.capped, full, closed, Nat.lt_of_not_le full, eq_comm]

end Capped

/-- What a cap leaves of the words is a beginning of what a larger cap leaves, and all of them where
it is not reached. A segment that is refused is refused for its quotation without end, and there is
a number of words that can be asked for up to which it answers with as many, and beyond which it is
refused. -/
theorem cap_takes_first_words (segment : String) (room : Nat) :
    (∀ words, Word.split segment room = .ok words →
      words.length ≤ room ∧
      (∀ fewer ≤ room, Word.split segment fewer = .ok (words.take fewer)) ∧
      (words.length < room → ∀ more ≥ room, Word.split segment more = .ok words)) ∧
    (∀ e, Word.split segment room = .error e →
      e = .unclosedQuote ∧ ∃ complete < room,
        (∀ fewer ≤ complete, ∃ words,
          Word.split segment fewer = .ok words ∧ words.length = fewer) ∧
        (∀ more > complete, Word.split segment more = .error .unclosedQuote)) := by
  obtain ⟨layout, answers⟩ := exists_capped segment
  simp only [answers]
  constructor
  · intro words read
    obtain ⟨rfl, known⟩ := capped_eq_ok_iff.mp read
    refine ⟨List.length_take_le room layout.words, ?_, ?_⟩
    · intro fewer less
      rw [List.take_take, Nat.min_eq_left less, capped_eq_ok_iff]
      exact ⟨rfl, known.imp_left (Nat.le_trans less)⟩
    · intro short more larger
      rw [List.length_take] at short
      have all : layout.words.length ≤ room := by omega
      have closed : layout.closed = true := known.resolve_left (by omega)
      rw [List.take_of_length_le all, capped_eq_ok_iff]
      exact ⟨(List.take_of_length_le (Nat.le_trans all larger)).symm, .inr closed⟩
  · intro e refused
    obtain ⟨rfl, complete, opened⟩ := capped_eq_error_iff.mp refused
    refine ⟨rfl, layout.words.length, complete, ?_, ?_⟩
    · intro fewer less
      exact ⟨_, capped_of_full less, List.length_take_of_le less⟩
    · intro more larger
      exact capped_eq_error_iff.mpr ⟨rfl, larger, opened⟩

/-- Two words before a quotation without end: a cap of two does not come to it, and a cap of three
does. -/
theorem cap_takes_first_words_unclosed :
    Word.split "a\"b\"c 'd" 2 = .ok [⟨"ab", true⟩, ⟨"c", false⟩] ∧
    Word.split "a\"b\"c 'd" 1 = .ok [⟨"ab", true⟩] ∧
    Word.split "a\"b\"c 'd" 3 = .error .unclosedQuote ∧
    ∃ complete < 3,
      (∀ fewer ≤ complete, ∃ words,
        Word.split "a\"b\"c 'd" fewer = .ok words ∧ words.length = fewer) ∧
      (∀ more > complete, Word.split "a\"b\"c 'd" more = .error .unclosedQuote) := by
  have read : Word.split "a\"b\"c 'd" 2 = .ok [⟨"ab", true⟩, ⟨"c", false⟩] := by decide
  have refused : Word.split "a\"b\"c 'd" 3 = .error .unclosedQuote := by decide
  obtain ⟨-, less, -⟩ := (cap_takes_first_words "a\"b\"c 'd" 2).1 _ read
  obtain ⟨-, found⟩ := (cap_takes_first_words "a\"b\"c 'd" 3).2 _ refused
  exact ⟨read, less 1 (by decide), refused, found⟩

end LineShell.WordCaps
