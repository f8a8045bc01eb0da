import LineShell.Text.Blank
import Mathlib.Data.List.TakeWhile

/-! Blank characters at the ends of a text. A text is its trimmed text between blank characters, and
trimming does not see blank characters that are put around a text. -/
namespace LineShell.Trimming
open Text

variable {cs blanks : List Char}

theorem trimChars_of_blank (blank : ∀ c ∈ cs, isBlank c) : trimChars cs = [] := by
  rw [trimChars, List.dropWhile_eq_nil_iff.mpr blank]
  rfl

theorem trimChars_blank_append (blank : ∀ c ∈ blanks, isBlank c) :
    trimChars (blanks ++ cs) = trimChars cs := by
  rw [trimChars, trimChars, List.dropWhile_append_of_pos blank]

theorem trimChars_append_blank (blank : ∀ c ∈ blanks, isBlank c) :
    trimChars (cs ++ blanks) = trimChars cs := by
  by_cases all : ∀ c ∈ cs, isBlank c
  · rw [trimChars_of_blank all, trimChars_blank_append all, trimChars_of_blank blank]
  · have visible : ¬(cs.dropWhile isBlank).isEmpty := by
      rw [List.isEmpty_iff, List.dropWhile_eq_nil_iff]
      exact all
    have reversed : ∀ c ∈ blanks.reverse, isBlank c := by
      intro c member
      exact blank c (List.mem_reverse.mp member)
    rw [trimChars, List.dropWhile_append, if_neg visible, dropEndWhile, List.reverse_append,
      List.dropWhile_append_of_pos reversed]
    rfl

theorem exists_dropEndWhile (drop : Char → Bool) (cs : List Char) :
    ∃ tail : List Char, (∀ c ∈ tail, drop c) ∧ cs = dropEndWhile drop cs ++ tail := by
  refine ⟨(cs.reverse.takeWhile drop).reverse, ?_, ?_⟩
  · intro c member
    exact List.mem_takeWhile_imp (List.mem_reverse.mp member)
  · rw [dropEndWhile, ← List.reverse_append, List.takeWhile_append_dropWhile, List.reverse_reverse]

/-- A text is its trimmed text between the blank characters that it begins with and others. -/
theorem exists_trimChars (cs : List Char) : ∃ after : List Char,
    (∀ c ∈ cs.takeWhile isBlank, isBlank c) ∧ (∀ c ∈ after, isBlank c) ∧
      cs = cs.takeWhile isBlank ++ trimChars cs ++ after := by
  obtain ⟨after, blank, same⟩ := exists_dropEndWhile isBlank (cs.dropWhile isBlank)
  refine ⟨after, fun c => List.mem_takeWhile_imp, blank, ?_⟩
  rw [trimChars, List.append_assoc, ← same, List.takeWhile_append_dropWhile]

theorem mem_of_mem_trimChars {c : Char} (inside : c ∈ trimChars cs) : c ∈ cs := by
  obtain ⟨after, -, -, same⟩ := exists_trimChars cs
  rw [same]
  exact List.mem_append_left after (List.mem_append_right _ inside)

theorem trimChars_trimChars (cs : List Char) : trimChars (trimChars cs) = trimChars cs := by
  obtain ⟨after, leading, trailing, same⟩ := exists_trimChars cs
  calc trimChars (trimChars cs)
      = trimChars (cs.takeWhile isBlank ++ trimChars cs) := (trimChars_blank_append leading).symm
    _ = trimChars (cs.takeWhile isBlank ++ trimChars cs ++ after) :=
        (trimChars_append_blank trailing).symm
    _ = trimChars cs := by rw [← same]

end LineShell.Trimming
