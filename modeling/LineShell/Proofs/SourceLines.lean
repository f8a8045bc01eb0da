import LineShell.Source
import Mathlib.Data.List.Basic

/-! The lines of a source. Bytes are complete lines and what follows the last line feed, in one way
only. A source gives its lines in their order, however its bytes are cut into chunks. -/
namespace LineShell.SourceLines
open Source

/-- The bytes are these lines, each with the line feed that ends it, and a rest without one. -/
structure Lines (bytes : List UInt8) (complete : List (List UInt8)) (rest : List UInt8) : Prop where
  whole : bytes = complete.flatten ++ rest
  ended : ∀ line ∈ complete, ∃ body, lineFeed ∉ body ∧ line = body ++ [lineFeed]
  unended : lineFeed ∉ rest

section Cutting

variable {bytes body line after rest : List UInt8} {complete : List (List UInt8)}

private theorem cutLine?_append (earlier later : List UInt8) :
    cutLine? (earlier ++ later) =
      match cutLine? earlier with
      | some (line, after) => some (line, after ++ later)
      | none => (cutLine? later).map fun (line, after) => (earlier ++ line, after) := by
  induction earlier with
  | nil => simp [cutLine?]
  | cons b earlier ih =>
    rw [List.cons_append, cutLine?, cutLine?, ih]
    split
    · rfl
    · cases cutLine? earlier with
      | some found => rfl
      | none => cases cutLine? later <;> rfl

private theorem cutLine?_none (absent : lineFeed ∉ bytes) : cutLine? bytes = none := by
  induction bytes with
  | nil => rfl
  | cons b bytes ih =>
    obtain ⟨first, later⟩ := not_or.mp (mt List.mem_cons.mpr absent)
    have other : (b == lineFeed) = false := beq_eq_false_iff_ne.mpr (Ne.symm first)
    rw [cutLine?, other, ih later]
    rfl

private theorem cutLine?_line (absent : lineFeed ∉ body) :
    cutLine? (body ++ lineFeed :: after) = some (body ++ [lineFeed], after) := by
  rw [cutLine?_append, cutLine?_none absent]
  rfl

/-- The first line is the one that is cut off. -/
theorem Lines.cut (lines : Lines bytes (line :: complete) rest) :
    cutLine? bytes = some (line, complete.flatten ++ rest) ∧
      Lines (complete.flatten ++ rest) complete rest ∧ line ≠ [] := by
  obtain ⟨first, later⟩ := List.forall_mem_cons.mp lines.ended
  obtain ⟨body, absent, rfl⟩ := first
  refine ⟨?_, ⟨rfl, later, lines.unended⟩, List.append_ne_nil_of_right_ne_nil _ (List.cons_ne_nil _ _)⟩
  rw [lines.whole, List.flatten_cons, List.append_assoc, List.append_assoc]
  exact cutLine?_line absent

private theorem Lines.uncut (lines : Lines bytes [] rest) : bytes = rest ∧ cutLine? bytes = none := by
  have same : bytes = rest := lines.whole
  exact ⟨same, cutLine?_none (same ▸ lines.unended)⟩

/-- All bytes can be taken as lines. -/
theorem exists_lines (bytes : List UInt8) : ∃ complete rest, Lines bytes complete rest := by
  induction bytes with
  | nil => exact ⟨[], [], rfl, nofun, nofun⟩
  | cons b bytes ih =>
    obtain ⟨complete, rest, whole, ended, absent⟩ := ih
    by_cases same : b = lineFeed
    · refine ⟨[b] :: complete, rest, congrArg (b :: ·) whole, ?_, absent⟩
      exact List.forall_mem_cons.mpr ⟨⟨[], nofun, congrArg ([·]) same⟩, ended⟩
    cases complete with
    | nil =>
      refine ⟨[], b :: rest, congrArg (b :: ·) whole, nofun, ?_⟩
      exact List.not_mem_cons_of_ne_of_not_mem (Ne.symm same) absent
    | cons line complete =>
      obtain ⟨⟨body, clean, rfl⟩, later⟩ := List.forall_mem_cons.mp ended
      refine ⟨(b :: (body ++ [lineFeed])) :: complete, rest, congrArg (b :: ·) whole, ?_, absent⟩
      refine List.forall_mem_cons.mpr ⟨⟨b :: body, ?_, rfl⟩, later⟩
      exact List.not_mem_cons_of_ne_of_not_mem (Ne.symm same) clean

/-- There is only one way to do so. -/
theorem Lines.unique {others : List (List UInt8)} {left : List UInt8}
    (lines : Lines bytes complete rest) (again : Lines bytes others left) :
    others = complete ∧ left = rest := by
  induction complete generalizing bytes others with
  | nil =>
    obtain ⟨same, uncut⟩ := lines.uncut
    cases others with
    | nil => exact ⟨rfl, again.uncut.1.symm.trans same⟩
    | cons line others => cases uncut.symm.trans again.cut.1
  | cons line complete ih =>
    obtain ⟨cut, further, -⟩ := lines.cut
    cases others with
    | nil => cases cut.symm.trans again.uncut.2
    | cons other others =>
      obtain ⟨cutAgain, furtherAgain, -⟩ := again.cut
      have same := cut.symm.trans cutAgain
      simp only [Option.some.injEq, Prod.mk.injEq] at same
      rw [← same.2] at furtherAgain
      obtain ⟨rfl, rfl⟩ := ih further furtherAgain
      exact ⟨congrArg (· :: others) same.1.symm, rfl⟩

/-- Lines that leave no rest can be put before others. -/
theorem Lines.append {later : List UInt8} {others : List (List UInt8)}
    (first : Lines bytes complete []) (second : Lines later others rest) :
    Lines (bytes ++ later) (complete ++ others) rest where
  whole := by
    rw [first.whole, second.whole, List.append_nil, List.flatten_append, List.append_assoc]
  ended := List.forall_mem_append.mpr ⟨first.ended, second.ended⟩
  unended := second.unended

/-- Bytes that are empty or end with a line feed leave no rest. -/
theorem Lines.closed (lines : Lines bytes complete rest)
    (closed : ∀ last ∈ bytes.getLast?, last = lineFeed) : rest = [] := by
  by_contra nonempty
  have last : bytes.getLast? = some (rest.getLast nonempty) := by
    rw [lines.whole, List.getLast?_append_of_ne_nil _ nonempty, List.getLast?_eq_getLast_of_ne_nil]
  have same := closed _ last
  exact lines.unended (same ▸ List.getLast_mem nonempty)

/-! ### Chunks -/

variable {fault : Option IoFault} {before : List UInt8} {chunks : List (List UInt8)}

/-- A line is completed from however many chunks it is spread over. -/
private theorem readLineFrom_line (cut : cutLine? chunks.flatten = some (line, after)) :
    ∃ left, readLineFrom fault before chunks = .ok (before ++ line, left) ∧
      left.flatten = after := by
  induction chunks generalizing before line with
  | nil => cases cut
  | cons chunk later ih =>
    rw [List.flatten_cons, cutLine?_append] at cut
    rw [readLineFrom]
    cases found : cutLine? chunk with
    | some pair =>
      simp only [found, Option.some.injEq, Prod.mk.injEq] at cut
      obtain ⟨rfl, rfl⟩ := cut
      exact ⟨_, rfl, rfl⟩
    | none =>
      simp only [found, Option.map_eq_some_iff, Prod.mk.injEq] at cut
      obtain ⟨⟨part, behind⟩, further, rfl, rfl⟩ := cut
      obtain ⟨left, read, same⟩ := ih further
      refine ⟨left, ?_, same⟩
      rw [← List.append_assoc]
      exact read

/-- Without a line feed everything is read. -/
private theorem readLineFrom_rest (uncut : cutLine? chunks.flatten = none) :
    readLineFrom fault before chunks =
      match fault with
      | none => .ok (before ++ chunks.flatten, [])
      | some e => .error e := by
  induction chunks generalizing before with
  | nil => cases fault <;> simp [readLineFrom]
  | cons chunk later ih =>
    rw [List.flatten_cons, cutLine?_append] at uncut
    rw [readLineFrom]
    cases found : cutLine? chunk with
    | some pair => simp only [found] at uncut; cases uncut
    | none =>
      simp only [found, Option.map_eq_none_iff] at uncut
      rw [ih uncut, List.append_assoc, List.flatten_cons]

variable {source : Source}

/-- A complete line is read, whatever the chunks, and leaves the lines after it. -/
theorem readLine_line (lines : Lines source.chunks.flatten (line :: complete) rest) :
    ∃ chunks, source.readLine = .ok (line, { source with chunks := chunks }) ∧
      Lines chunks.flatten complete rest := by
  obtain ⟨cut, further, -⟩ := lines.cut
  obtain ⟨left, read, same⟩ : ∃ left, readLineFrom source.fault [] source.chunks =
      .ok ([] ++ line, left) ∧ left.flatten = complete.flatten ++ rest := readLineFrom_line cut
  refine ⟨left, ?_, same ▸ further⟩
  rw [readLine, read]
  rfl

/-- Where no complete line is left, the rest is read at the end, and lost to a fault. -/
theorem readLine_rest (lines : Lines source.chunks.flatten [] rest) :
    source.readLine =
      match source.fault with
      | none => .ok (rest, { source with chunks := [] })
      | some e => .error e := by
  obtain ⟨same, uncut⟩ := lines.uncut
  rw [readLine, readLineFrom_rest uncut, same]
  cases source.fault <;> rfl

end Cutting

/-- The lines of a source: what follows the last line feed is a line too if it is not empty and the
source comes to its end. -/
def linesOf (fault : Option IoFault) (complete : List (List UInt8)) (rest : List UInt8) :
    List (List UInt8) :=
  match fault with
  | some _ => complete
  | none => if rest = [] then complete else complete ++ [rest]

theorem linesOf_append (fault : Option IoFault) (earlier later : List (List UInt8))
    (rest : List UInt8) : linesOf fault (earlier ++ later) rest = earlier ++ linesOf fault later rest := by
  unfold linesOf
  split
  · rfl
  · split
    · rfl
    · exact List.append_assoc earlier later [rest]

end LineShell.SourceLines
