import LineShell.Proofs.EncodedText
import LineShell.Proofs.SourceLines
import LineShell.Proofs.TextDivision

/-! Decoding a script line by line. A line feed is a whole character wherever it stands, so no fault
reaches over it: a division of the bytes before it and one of the bytes after it make a division of
them all. The texts of the lines are therefore the text of the script, cut after its line feeds. -/
namespace LineShell.LineDecoding
open Text Utf8 Source TextDivision SourceLines EncodedText
open String (utf8EncodeChar)

/-! ### A line feed ends every part -/

section Parts

variable {part after before later bytes : List UInt8} {parts others : List Part} {c : Char}

theorem utf8EncodeChar_newline : utf8EncodeChar '\n' = [lineFeed] :=
  rfl

/-- No character that has begun goes on with a line feed. -/
theorem not_begins_lineFeed (some : part ≠ []) : ¬ Begins (part ++ [lineFeed]) := by
  rintro ⟨c, rest, same⟩
  have newline : c = '\n' := eq_of_mem_utf8EncodeChar utf8EncodeChar_newline (by simp [← same])
  have length := congrArg List.length same
  have positive := List.length_pos_iff.mpr some
  rw [newline, utf8EncodeChar_newline] at length
  simp only [List.length_append, List.length_cons, List.length_nil] at length
  omega

/-- A fault is a fault also where a line feed follows later. -/
theorem fault_append_lineFeed (faulty : Fault part after) (later : List UInt8) :
    Fault part (after ++ lineFeed :: later) where
  nonempty := faulty.nonempty
  invalid := by
    rintro c ⟨rest, same⟩
    rw [← List.append_assoc] at same
    rcases List.append_eq_append_iff.mp same with ⟨extra, whole, -⟩ | ⟨extra, whole, left⟩
    · exact faulty.invalid c ⟨extra, whole.symm⟩
    · -- A character that was not there before would reach over the line feed.
      cases extra with
      | nil => exact faulty.invalid c ⟨[], by rw [whole, List.append_nil, List.append_nil]⟩
      | cons b extra =>
        obtain ⟨rfl, -⟩ := List.cons.inj left
        have some : part ++ after ≠ [] := List.append_ne_nil_of_left_ne_nil faulty.nonempty after
        refine not_begins_lineFeed some ⟨c, extra, ?_⟩
        rw [whole, List.append_assoc]
        rfl
  begins := faulty.begins
  longest := by
    cases after with
    | nil =>
      rintro b ⟨⟩
      exact not_begins_lineFeed faulty.nonempty
    | cons next after => exact faulty.longest

/-- A line feed divides a division. -/
theorem divided_append_lineFeed (first : Divided before parts) (second : Divided later others) :
    Divided (before ++ lineFeed :: later) (parts ++ .char '\n' :: others) := by
  induction first with
  | nil => exact .char '\n' second
  | char c _ ih =>
    rw [List.append_assoc]
    exact .char c ih
  | fault faulty _ ih =>
    rw [List.append_assoc]
    exact .fault (fault_append_lineFeed faulty later) ih

/-- Nothing before a line feed changes the text after it, and nothing after it the text before. -/
theorem decodeLossy_append_lineFeed (before later : List UInt8) :
    decodeLossy (before ++ lineFeed :: later) = decodeLossy before ++ "\n" ++ decodeLossy later := by
  obtain ⟨parts, first, read⟩ := exists_divided before
  obtain ⟨others, second, further⟩ := exists_divided later
  rw [decodeLossy_of_divided (divided_append_lineFeed first second), read, further]
  apply String.toList_injective
  simp [Part.text]

theorem decodeLossy_line (body : List UInt8) :
    decodeLossy (body ++ [lineFeed]) = decodeLossy body ++ "\n" := by
  rw [decodeLossy_append_lineFeed]
  exact String.append_empty

/-- A newline is read for line feeds only. -/
theorem newline_not_mem_decodeLossy (absent : lineFeed ∉ bytes) :
    '\n' ∉ (decodeLossy bytes).toList := by
  obtain ⟨parts, divided, read⟩ := exists_divided bytes
  rw [read, String.toList_ofList]
  intro member
  obtain ⟨part, inside, same⟩ := List.mem_map.mp member
  cases part with
  | char c =>
    obtain rfl : c = '\n' := same
    rw [← divided.flatMap_bytes] at absent
    exact absent (List.mem_flatMap.mpr ⟨_, inside, List.mem_singleton_self lineFeed⟩)
  | fault bytes => cases same

end Parts

/-! ### The lines of a script -/

/-- The pieces that a source yields when it is read line by line to its end. -/
inductive Yields : Source → List (List UInt8) → Prop where
  | finish {source left : Source} (read : source.readLine = .ok ([], left)) : Yields source []
  | line {source left : Source} {piece : List UInt8} {pieces : List (List UInt8)}
      (read : source.readLine = .ok (piece, left)) (nonempty : piece ≠ [])
      (further : Yields left pieces) : Yields source (piece :: pieces)

section Pieces

variable {source : Source} {bytes rest : List UInt8} {complete pieces others : List (List UInt8)}

theorem Yields.unique (yields : Yields source pieces) (again : Yields source others) :
    pieces = others := by
  induction yields generalizing others with
  | finish read =>
    cases again with
    | finish => rfl
    | line other nonempty =>
      cases read.symm.trans other
      contradiction
  | line read nonempty _ ih =>
    cases again with
    | finish other =>
      cases read.symm.trans other
      contradiction
    | line other _ further =>
      cases read.symm.trans other
      rw [ih further]

/-- A source without a fault yields its lines, whatever chunks they arrive in. -/
theorem yields_of_lines (sound : source.fault = none) (lines : Lines source.chunks.flatten complete rest) :
    Yields source (linesOf none complete rest) := by
  induction complete generalizing source with
  | nil =>
    have read := readLine_rest lines
    rw [sound] at read
    by_cases empty : rest = []
    · rw [linesOf, if_pos empty]
      exact .finish (empty ▸ read)
    · rw [linesOf, if_neg empty]
      exact .line read empty (.finish rfl)
  | cons line complete ih =>
    obtain ⟨chunks, read, further⟩ := readLine_line lines
    obtain ⟨body, -, ended⟩ := lines.ended line List.mem_cons_self
    have more : linesOf none (line :: complete) rest = line :: linesOf none complete rest :=
      linesOf_append none [line] complete rest
    rw [more]
    exact .line read (by simp [ended]) (ih sound further)

/-- The texts of the lines, and of the rest if there is any, are the text of them all. -/
theorem join_decodeLossy (lines : Lines bytes complete rest) :
    String.join ((linesOf none complete rest).map decodeLossy) = decodeLossy bytes := by
  induction complete generalizing bytes with
  | nil =>
    have only : bytes = rest := lines.whole
    by_cases empty : rest = []
    · rw [only, linesOf, if_pos empty, empty]
      rfl
    · rw [only, linesOf, if_neg empty]
      exact String.empty_append
  | cons line complete ih =>
    obtain ⟨⟨body, -, rfl⟩, later⟩ := List.forall_mem_cons.mp lines.ended
    have more : linesOf none ((body ++ [lineFeed]) :: complete) rest =
        (body ++ [lineFeed]) :: linesOf none complete rest :=
      linesOf_append none [body ++ [lineFeed]] complete rest
    have whole : bytes = body ++ lineFeed :: (complete.flatten ++ rest) := by
      rw [lines.whole, List.flatten_cons, List.append_assoc, List.append_assoc]
      rfl
    rw [more, List.map_cons, String.join_cons, ih ⟨rfl, later, lines.unended⟩, decodeLossy_line,
      whole, decodeLossy_append_lineFeed]

end Pieces

/-- Decoding a script line by line is decoding it as a whole. The decoder reads the characters of a
byte sequence and one replacement character for each longest invalid part between them, and what it
reads before and after a line feed does not depend on the other side. So the texts of the pieces that
a source yields when it is read line by line make up the text of all its bytes, every complete line has
one newline, at its end, and what comes after the last line feed has none. -/
theorem lines_decode_apart :
    (∀ bytes, ∃ parts, Divided bytes parts ∧
      (∀ others, Divided bytes others → others = parts) ∧
      decodeLossy bytes = String.ofList (parts.map Part.text)) ∧
    (∀ before later, decodeLossy (before ++ lineFeed :: later) =
      decodeLossy before ++ "\n" ++ decodeLossy later) ∧
    ∀ source : Source, source.fault = none →
      ∃ complete rest, Lines source.chunks.flatten complete rest ∧
        (∀ pieces, Yields source pieces ↔ pieces = linesOf none complete rest) ∧
        String.join ((linesOf none complete rest).map decodeLossy) =
          decodeLossy source.chunks.flatten ∧
        (∀ line ∈ complete, ∃ text, '\n' ∉ text.toList ∧ decodeLossy line = text ++ "\n") ∧
        '\n' ∉ (decodeLossy rest).toList := by
  refine ⟨?parts, decodeLossy_append_lineFeed, ?lines⟩
  case parts =>
    intro bytes
    obtain ⟨parts, divided, read⟩ := exists_divided bytes
    exact ⟨parts, divided, fun others again => again.unique divided, read⟩
  case lines =>
    intro source sound
    obtain ⟨complete, rest, lines⟩ := exists_lines source.chunks.flatten
    have yields := yields_of_lines sound lines
    refine ⟨complete, rest, lines, ?_, join_decodeLossy lines, ?_, ?_⟩
    · intro pieces
      constructor
      · intro other
        exact other.unique yields
      · rintro rfl
        exact yields
    · intro line member
      obtain ⟨body, absent, rfl⟩ := lines.ended line member
      exact ⟨decodeLossy body, newline_not_mem_decodeLossy absent, decodeLossy_line body⟩
    · exact newline_not_mem_decodeLossy lines.unended

/-- A character that breaks off before a line feed, and its last byte after it, in two chunks. -/
def brokenScript : Source :=
  ⟨[[0xE2, 0x82], [lineFeed, 0xAC, 0x41]], none⟩

/-- Two faults and the line feed between them are read, and not the character. -/
theorem lines_decode_apart_broken :
    brokenScript.fault = none ∧ Yields brokenScript [[0xE2, 0x82, lineFeed], [0xAC, 0x41]] ∧
    decodeLossy brokenScript.chunks.flatten = "\uFFFD\n\uFFFDA" ∧
    ∃ text, '\n' ∉ text.toList ∧ decodeLossy [0xE2, 0x82, lineFeed] = text ++ "\n" := by
  have known : Lines brokenScript.chunks.flatten [[0xE2, 0x82, lineFeed]] [0xAC, 0x41] := by
    refine ⟨rfl, fun line member => ?_, by decide⟩
    exact ⟨[0xE2, 0x82], by decide, List.mem_singleton.mp member⟩
  obtain ⟨complete, rest, lines, yields, joined, ended, -⟩ := lines_decode_apart.2.2 brokenScript rfl
  obtain ⟨rfl, rfl⟩ := known.unique lines
  refine ⟨rfl, (yields _).mpr rfl, ?_, ended _ (List.mem_singleton_self _)⟩
  rw [← joined]
  decide

end LineShell.LineDecoding
