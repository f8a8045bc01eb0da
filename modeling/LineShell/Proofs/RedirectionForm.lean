import LineShell.Redirection
import Mathlib.Data.List.TakeDrop
import Mathlib.Data.List.TakeWhile

/-! The form of a redirection. Of the words of a command only the first operator counts: what stands
before it is the command, and one word has to stand after it. So a redirection is written in one
way, and what is read from that is the same command and the same target. -/
namespace LineShell.RedirectionForm

variable {tokens : List String}

/-- Words without the operator pass the test that the operator fails. -/
private theorem unmarked_of_free (free : redirectMark ∉ tokens) :
    ∀ token ∈ tokens, (token != redirectMark) = true := by
  intro token member
  exact bne_iff_ne.mpr fun same => free (same ▸ member)

theorem find?_of_free (free : redirectMark ∉ tokens) : Redirection.find? tokens = .ok none := by
  rw [Redirection.find?, List.span_eq_takeWhile_dropWhile,
    List.dropWhile_eq_nil_iff.mpr (unmarked_of_free free)]

/-- The first operator cuts the command from what follows. -/
theorem find?_of_mark (argv after : List String) : redirectMark ∉ argv →
    Redirection.find? (argv ++ redirectMark :: after) =
      match argv, after with
      | _ :: _, [target] => .ok (some ⟨argv, target⟩)
      | _, _ => .error .invalidRedirection := by
  intro free
  have unmarked := unmarked_of_free free
  rewrite [Redirection.find?, List.span_eq_takeWhile_dropWhile,
    List.takeWhile_append_of_pos unmarked, List.dropWhile_append_of_pos unmarked,
    List.takeWhile_cons_of_neg (by simp), List.dropWhile_cons_of_neg (by simp), List.append_nil]
  rfl

theorem find?_eq_none_iff : Redirection.find? tokens = .ok none ↔ redirectMark ∉ tokens := by
  refine ⟨fun found marked => ?_, find?_of_free⟩
  obtain ⟨argv, after, rfl, free⟩ := List.eq_append_cons_of_mem marked
  rw [find?_of_mark _ _ free] at found
  split at found <;> cases found

/-- A redirection is found in exactly one form: a command without the operator, the operator, and
any one word. -/
theorem find?_eq_some_iff {r : Redirection} : Redirection.find? tokens = .ok (some r) ↔
    tokens = r.argv ++ [redirectMark, r.target] ∧ r.argv ≠ [] ∧ redirectMark ∉ r.argv := by
  constructor
  · intro found
    by_cases marked : redirectMark ∈ tokens
    · obtain ⟨argv, after, rfl, free⟩ := List.eq_append_cons_of_mem marked
      rw [find?_of_mark _ _ free] at found
      split at found
      · cases found
        exact ⟨rfl, List.cons_ne_nil _ _, free⟩
      · cases found
    · rw [find?_of_free marked] at found
      cases found
  · rintro ⟨rfl, some, free⟩
    rw [find?_of_mark _ _ free]
    obtain ⟨_ | ⟨name, operands⟩, target⟩ := r
    · exact absurd rfl some
    · rfl

/-- Only words with the operator are refused, and always for the same reason. -/
theorem of_find?_eq_error {e : LineError} (refused : Redirection.find? tokens = .error e) :
    e = .invalidRedirection ∧ redirectMark ∈ tokens := by
  by_cases marked : redirectMark ∈ tokens
  · obtain ⟨argv, after, rfl, free⟩ := List.eq_append_cons_of_mem marked
    rw [find?_of_mark _ _ free] at refused
    split at refused
    · cases refused
    · cases refused
      exact ⟨rfl, marked⟩
  · rw [find?_of_free marked] at refused
    cases refused

/-- Words with the operator that do not have the form of a redirection are refused. -/
theorem find?_eq_error_iff {e : LineError} : Redirection.find? tokens = .error e ↔
    e = .invalidRedirection ∧ redirectMark ∈ tokens ∧ ∀ argv target,
      tokens = argv ++ [redirectMark, target] → argv = [] ∨ redirectMark ∈ argv := by
  constructor
  · intro refused
    obtain ⟨reason, marked⟩ := of_find?_eq_error refused
    refine ⟨reason, marked, fun argv target written => ?_⟩
    by_contra other
    obtain ⟨command, free⟩ := not_or.mp other
    have accepted : Redirection.find? tokens = .ok (some ⟨argv, target⟩) :=
      find?_eq_some_iff.mpr ⟨written, command, free⟩
    cases accepted.symm.trans refused
  · rintro ⟨rfl, marked, others⟩
    cases outcome : Redirection.find? tokens with
    | error reason => rw [(of_find?_eq_error outcome).1]
    | ok found =>
      cases found with
      | none => exact absurd marked (find?_eq_none_iff.mp outcome)
      | some r =>
        obtain ⟨written, command, free⟩ := find?_eq_some_iff.mp outcome
        rcases others r.argv r.target written with empty | early
        · exact absurd empty command
        · exact absurd early free

/-- Words are no redirection exactly if the operator is not among them. They are one exactly if they
are a command without the operator, the operator and any one word, which may be another operator or
empty; all others are refused. So a redirection that is written is read as what it was, and the
command that is left of one has no further redirection in it. -/
theorem redirection_has_one_form (tokens : List String) :
    (Redirection.find? tokens = .ok none ↔ ">" ∉ tokens) ∧
    (∀ argv target, Redirection.find? tokens = .ok (some ⟨argv, target⟩) ↔
      tokens = argv ++ [">", target] ∧ argv ≠ [] ∧ ">" ∉ argv) ∧
    (∀ e, Redirection.find? tokens = .error e ↔
      e = .invalidRedirection ∧ ">" ∈ tokens ∧ ∀ argv target,
        tokens = argv ++ [">", target] → argv = [] ∨ ">" ∈ argv) ∧
    ∀ target, tokens ≠ [] → ">" ∉ tokens →
      Redirection.find? (tokens ++ [">", target]) = .ok (some ⟨tokens, target⟩) ∧
      Redirection.find? tokens = .ok none := by
  refine ⟨find?_eq_none_iff, fun argv target => find?_eq_some_iff, fun e => find?_eq_error_iff, ?_⟩
  intro target command free
  exact ⟨find?_eq_some_iff.mpr ⟨rfl, command, free⟩, find?_of_free free⟩

/-- The target may look like the operator. -/
example : Redirection.find? ["sort", "-u", ">", ">"] = .ok (some ⟨["sort", "-u"], ">"⟩) := by rfl

end LineShell.RedirectionForm
