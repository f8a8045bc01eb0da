import LineShell.Proofs.AliasSubstitution
import LineShell.Proofs.ExpansionRules

/-! Which words redirect. The operator is looked for among the arguments of a command, after the
expansion of its words, when it is no longer known how they were typed. So a word between quotes and
the value of a variable redirect like an operator that was typed. -/
namespace LineShell.RedirectedWords
open Dialogue ExpansionShape ExpansionRules LinePlans RedirectionForm AliasSubstitution

/-- The word becomes the operator: typed as it is, typed between quotes, or as what a variable or
the home directory stands for. -/
inductive Marks (session : Session) : Word → Prop where
  | operator : Marks session ⟨redirectMark, false⟩
  | quotation : Marks session ⟨redirectMark, true⟩
  | value {text : String} (refers : text.toList.head? = some '~' ∨ '$' ∈ text.toList)
      (becomes : Expansion.full session.valueOf? text.toList = redirectMark.toList) :
      Marks session ⟨text, false⟩

/-- The line is a single command with these words, to whose name there is neither an alias nor a
built-in command. -/
structure Foreign (builtins : List Builtin) (session : Session) (text : String)
    (found : List Word) : Prop where
  splits : SplitsInto session.limits (Text.trim text) [found]
  unaliased : session.aliases.lookup (stageOf (Expansion.word session) found).name = none
  unknown : Builtin.find? builtins (stageOf (Expansion.word session) found).name
    (stageOf (Expansion.word session) found).argv.tail = none

/-- Runs a command by the words before and after its first operator. -/
def runSplit (session : Session) (before after : List Word) : Shell (Session × LineResult) :=
  match before, after with
  | _ :: _, [target] => Evaluation.runPipeline session
      ⟨[{ argv := before.map (Expansion.word session)
          redirect := some (Expansion.word session target) }]⟩
  | _, _ => return (session, .error .invalidRedirection)

/-! ### The words -/

section Words

variable {session : Session} {word : Word} {found : List Word}

/-- The words that mark a redirection are those that expand to the operator. -/
theorem marks_iff : Marks session word ↔ Expansion.word session word = redirectMark := by
  constructor
  · intro marks
    cases marks with
    | operator => exact word_of_plain (by decide)
    | quotation => exact word_of_quoted
    | value refers becomes =>
      rw [word_of_reference refers, becomes]
      exact String.ofList_toList
  · intro same
    obtain ⟨text, _ | _⟩ := word
    · by_cases refers : text.toList.head? = some '~' ∨ '$' ∈ text.toList
      · rw [word_of_reference refers] at same
        apply Marks.value refers
        rw [← same, String.toList_ofList]
      · rw [word_of_plain refers] at same
        subst same
        exact .operator
    · rw [word_of_quoted] at same
      subst same
      exact .quotation

theorem mark_mem_iff :
    redirectMark ∈ found.map (Expansion.word session) ↔ ∃ word ∈ found, Marks session word := by
  rw [List.mem_map]
  constructor
  · rintro ⟨word, member, same⟩
    exact ⟨word, member, marks_iff.mpr same⟩
  · rintro ⟨word, member, marks⟩
    exact ⟨word, member, marks_iff.mp marks⟩

end Words

/-! ### The line -/

/-- Running a pipeline finds no fault with a redirection. -/
private theorem runPipeline_ends (session : Session) (pipeline : Pipeline) :
    (Evaluation.runPipeline session pipeline).Ends fun result =>
      result.2 ≠ .error .invalidRedirection := by
  have unopened : (Job.run session.searchPaths pipeline).Ends fun result =>
      result.2 ≠ .error .invalidRedirection := by
    refine .after fun opened => ?_
    cases opened with
    | error reason => exact .done nofun
    | ok pipes => exact .after fun _ => .after fun _ => .after fun _ => .done nofun
  have ends := unopened.and (LineErrors.run_ends session.searchPaths pipeline)
  refine ends.bind ?_
  rintro ⟨after, outcome⟩ ⟨form, -, late⟩
  cases outcome with
  | error reason =>
    refine .done fun same => form ?_
    rw [Except.error.inj same]
  | ok report =>
    refine .after fun _ => ?_
    cases failed : report.failure with
    | none => exact .done nofun
    | some reason =>
      refine .done fun same => ?_
      cases same
      exact late report _ rfl failed

section Line

variable {builtins : List Builtin} {session : Session} {text : String} {found : List Word}

namespace Foreign

/-- Without a built-in command, the arguments alone decide what is launched. -/
theorem line_eq (foreign : Foreign builtins session text found) :
    Evaluation.line builtins session text =
      match Redirection.find? (found.map (Expansion.word session)) with
      | .error e => return (session, .error e)
      | .ok none => Evaluation.runPipeline session ⟨[stageOf (Expansion.word session) found]⟩
      | .ok (some r) =>
        Evaluation.runPipeline session ⟨[{ argv := r.argv, redirect := some r.target }]⟩ := by
  have read : Pipeline.readWith (Expansion.word session) session.limits (Text.trim text) =
      .ok ⟨[stageOf (Expansion.word session) found]⟩ :=
    readWith_ok_iff_splits.mpr ⟨[found], foreign.splits, rfl⟩
  have unknown : Builtin.find? builtins ((found.map (Expansion.word session)).headD "")
      (found.map (Expansion.word session)).tail = none := foreign.unknown
  rw [line_of_unaliased read foreign.unaliased, evaluateWords, stageOf, Plan.ofWords]
  dsimp only
  rw [unknown]
  rcases Redirection.find? (found.map (Expansion.word session)) with e | (_ | r)
  · rfl
  · rfl
  · rfl

theorem line_of_unmarked (foreign : Foreign builtins session text found)
    (unmarked : ∀ word ∈ found, ¬Marks session word) :
    Evaluation.line builtins session text =
      Evaluation.runPipeline session ⟨[stageOf (Expansion.word session) found]⟩ := by
  have free : redirectMark ∉ found.map (Expansion.word session) := by
    rw [mark_mem_iff]
    rintro ⟨word, member, marks⟩
    exact unmarked word member marks
  rw [foreign.line_eq, find?_of_free free]

theorem line_of_marked (foreign : Foreign builtins session text found) (before : List Word)
    (mark : Word) (after : List Word) (same : found = before ++ mark :: after)
    (first : ∀ word ∈ before, ¬Marks session word) (marks : Marks session mark) :
    Evaluation.line builtins session text = runSplit session before after := by
  have free : redirectMark ∉ before.map (Expansion.word session) := by
    rw [mark_mem_iff]
    rintro ⟨word, member, early⟩
    exact first word member early
  rw [foreign.line_eq, same, List.map_append, List.map_cons, marks_iff.mp marks,
    find?_of_mark _ _ free]
  obtain _ | ⟨name, operands⟩ := before
  · rfl
  · obtain _ | ⟨target, _ | ⟨second, further⟩⟩ := after
    · rfl
    · rfl
    · rfl

end Foreign

/-- A command that is neither an alias nor built in is redirected by its first word that becomes the
operator, however that word was typed. Without one the program gets every word as an argument and no
fault is found with a redirection. With one the words before it are launched with their output going
to the word after it, if there are words before it and exactly one after it, and nothing else of it
is an argument; otherwise the line is refused. -/
theorem expanded_words_redirect (foreign : Foreign builtins session text found) :
    ((∀ word ∈ found, ¬Marks session word) →
      Evaluation.line builtins session text =
        Evaluation.runPipeline session ⟨[stageOf (Expansion.word session) found]⟩ ∧
      (Evaluation.line builtins session text).Ends fun result =>
        result.2 ≠ .error .invalidRedirection) ∧
    ∀ before mark after, found = before ++ mark :: after →
      (∀ word ∈ before, ¬Marks session word) → Marks session mark →
      Evaluation.line builtins session text = runSplit session before after := by
  constructor
  · intro unmarked
    have launched := foreign.line_of_unmarked unmarked
    refine ⟨launched, ?_⟩
    rw [launched]
    exact runPipeline_ends session _
  · exact foreign.line_of_marked

end Line

/-- A session in which a variable holds the operator. -/
def markSession : Session :=
  { directory := "/", environment := .ofPairs [("X", ">")] }

private theorem unmarked_of_plain {session : Session} {text : String} (other : text ≠ redirectMark)
    (plain : ¬(text.toList.head? = some '~' ∨ '$' ∈ text.toList)) :
    ¬Marks session ⟨text, false⟩ := by
  rw [marks_iff, word_of_plain plain]
  exact other

/-- An operator that is glued to other text, and the name of a variable between quotes, are
arguments. -/
theorem expanded_words_redirect_unmarked :
    Foreign Standard.builtins markSession "echo a>b '$X'"
      [⟨"echo", false⟩, ⟨"a>b", false⟩, ⟨"$X", true⟩] ∧
    Evaluation.line Standard.builtins markSession "echo a>b '$X'" =
      Evaluation.runPipeline markSession ⟨[{ argv := ["echo", "a>b", "$X"] }]⟩ := by
  have foreign : Foreign Standard.builtins markSession "echo a>b '$X'"
      [⟨"echo", false⟩, ⟨"a>b", false⟩, ⟨"$X", true⟩] :=
    ⟨⟨.cons ⟨rfl, by decide, by decide⟩ .nil, by decide⟩, rfl, rfl⟩
  have quoted : ¬Marks markSession ⟨"$X", true⟩ := by
    rw [marks_iff, word_of_quoted]
    decide
  obtain ⟨unmarked, -⟩ := expanded_words_redirect foreign
  refine ⟨foreign, (unmarked ?_).1⟩
  intro word member
  simp only [List.mem_cons, List.not_mem_nil, or_false] at member
  rcases member with rfl | rfl | rfl
  · exact unmarked_of_plain (by decide) (by decide)
  · exact unmarked_of_plain (by decide) (by decide)
  · exact quoted

/-- Without an operator typed as such, an operator between quotes sends the output to a file, and
one that a variable holds has the line refused. -/
theorem redirected_without_operator :
    (∃ found, Foreign Standard.builtins markSession "echo a '>' out" found ∧
      ⟨redirectMark, false⟩ ∉ found ∧
      Plan.ofLine Standard.builtins markSession "echo a '>' out" =
        .launch ⟨[{ argv := ["echo", "a"], redirect := some "out" }]⟩) ∧
    ∃ found, Foreign Standard.builtins markSession "echo $X" found ∧
      ⟨redirectMark, false⟩ ∉ found ∧
      Evaluation.line Standard.builtins markSession "echo $X" =
        return (markSession, .error .invalidRedirection) := by
  have reference : Foreign Standard.builtins markSession "echo $X"
      [⟨"echo", false⟩, ⟨"$X", false⟩] :=
    ⟨⟨.cons ⟨rfl, by decide, by decide⟩ .nil, by decide⟩, rfl, rfl⟩
  have held : markSession.valueOf? "X" = some ">" := by rfl
  have marks : Marks markSession ⟨"$X", false⟩ := by
    apply Marks.value (.inr (by decide))
    simp [Expansion.full, Expansion.substitute, Expansion.plain, Text.isNameChar,
      Text.isAlphanumeric, held, redirectMark]
  refine ⟨⟨[⟨"echo", false⟩, ⟨"a", false⟩, ⟨">", true⟩, ⟨"out", false⟩], ?_, by decide, rfl⟩,
    _, reference, by decide, ?_⟩
  · exact ⟨⟨.cons ⟨rfl, by decide, by decide⟩ .nil, by decide⟩, rfl, rfl⟩
  · refine reference.line_of_marked [⟨"echo", false⟩] _ [] rfl ?_ marks
    intro word member
    rw [List.mem_singleton.mp member]
    exact unmarked_of_plain (by decide) (by decide)

end LineShell.RedirectedWords
