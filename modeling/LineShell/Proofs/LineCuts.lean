import LineShell.Interactive
import LineShell.Proofs.LineBeginnings
import LineShell.Proofs.LineErrors
import LineShell.Proofs.Trimming
import LineShell.Script

/-! Where a line is cut. A script cuts a line to the length allowed as it was read, and the
interactive loop cuts it after the blank characters around it have been dropped. So the blank
characters before a command count in a script and not in the loop, and this is the only difference
between the texts that are read as pipelines. -/
namespace LineShell.LineCuts
open Text Trimming LineBeginnings
open String (utf8Len utf8Len_cons utf8ByteSize_ofList)

/-- The text that is read as a pipeline, unless the line is skipped as blank. -/
def handed? (text : String) : Option String :=
  if (trim text).isEmpty then none else some (trim text)

/-- What a script hands over of a line. -/
def scripted? (limit : Nat) (bytes : List UInt8) : Option String :=
  handed? (cutLine (Script.decodeLine bytes) limit)

/-- What the interactive loop hands over of a line. A blank line does not come to be cut. -/
def typed? (limit : Nat) (line : String) : Option String :=
  (handed? (Interactive.editLine line)).bind fun text => handed? (cutLine text limit)

/-- The blank characters before the text of a line. -/
def lead (text : String) : String :=
  String.ofList (text.toList.takeWhile isBlank)

/-- The line editor returns the line without its terminator, and otherwise as it is. -/
def Unedited (line : String) : Prop :=
  ∃ terminator ∈ ["", "\n", "\r\n"], line = Interactive.editLine line ++ terminator

/-! ### Blank characters at the ends -/

section Blanks

variable {room : Nat} {cs blanks : List Char}

/-- Of a text that has been cut, blank characters after it have nothing left. -/
theorem trim_cut_append_blank (blank : ∀ c ∈ blanks, isBlank c) :
    trimChars (takeBytes room (cs ++ blanks)) = trimChars (takeBytes room cs) := by
  by_cases fits : utf8Len cs ≤ room
  · have left : ∀ c ∈ takeBytes (room - utf8Len cs) blanks, isBlank c := by
      intro c member
      exact blank c (mem_of_mem_takeBytes member)
    rw [takeBytes_append fits, takeBytes_of_fits fits, trimChars_append_blank left]
  · rw [takeBytes_append_of_excess (Nat.lt_of_not_le fits)]

/-- Blank characters before a text take their bytes from it. -/
theorem trim_cut_blank_append (blank : ∀ c ∈ blanks, isBlank c) :
    trimChars (takeBytes room (blanks ++ cs)) =
      trimChars (takeBytes (room - utf8Len blanks) cs) := by
  by_cases fits : utf8Len blanks ≤ room
  · rw [takeBytes_append fits, trimChars_blank_append blank]
  · have excess : room < utf8Len blanks := Nat.lt_of_not_le fits
    have left : ∀ c ∈ takeBytes room blanks, isBlank c := by
      intro c member
      exact blank c (mem_of_mem_takeBytes member)
    have spent : room - utf8Len blanks = 0 := by omega
    rw [takeBytes_append_of_excess excess, trimChars_of_blank left, spent, takeBytes_zero]
    rfl

/-- Cutting a text is cutting its trimmed text, with the bytes of the blanks before it spent. -/
theorem trim_cut (room : Nat) (cs : List Char) :
    trimChars (takeBytes room cs) =
      trimChars (takeBytes (room - utf8Len (cs.takeWhile isBlank)) (trimChars cs)) := by
  obtain ⟨after, leading, trailing, same⟩ := exists_trimChars cs
  calc trimChars (takeBytes room cs)
      = trimChars (takeBytes room (cs.takeWhile isBlank ++ trimChars cs ++ after)) := by rw [← same]
    _ = trimChars (takeBytes room (cs.takeWhile isBlank ++ trimChars cs)) :=
        trim_cut_append_blank trailing
    _ = _ := trim_cut_blank_append leading

end Blanks

/-! ### The line editor -/

section Editor

variable {cs : List Char} {line : String}

private theorem flatten_clustersFrom (tail : ClusterTail) (rev cs : List Char) :
    (clustersFrom (some tail) rev cs).flatten = rev.reverse ++ cs := by
  induction cs generalizing tail rev with
  | nil => cases rev <;> simp [clustersFrom]
  | cons c rest ih =>
    rw [clustersFrom]
    split
    · rw [ih, List.reverse_cons, List.append_assoc]
      rfl
    · rw [List.flatten_cons, ih]
      rfl

/-- The clusters of a text are its characters in their order. -/
theorem flatten_clusters (cs : List Char) : (clusters cs).flatten = cs := by
  cases cs with
  | nil => rfl
  | cons c rest => exact flatten_clustersFrom _ [c] rest

/-- Without a backspace nothing is erased. -/
theorem eraseBackspaced_of_clean (clean : '\x08' ∉ cs) : eraseBackspaced cs = cs := by
  have kept (pieces standing : List (List Char)) (none : ['\x08'] ∉ pieces) :
      pieces.foldl (fun kept cluster => if cluster == ['\x08'] then kept.tail else cluster :: kept)
        standing = pieces.reverse ++ standing := by
    induction pieces generalizing standing with
    | nil => rfl
    | cons piece rest ih =>
      obtain ⟨first, later⟩ := not_or.mp (mt List.mem_cons.mpr none)
      have other : (piece == ['\x08']) = false := beq_eq_false_iff_ne.mpr (Ne.symm first)
      rw [List.foldl_cons, other, ih _ later, List.reverse_cons, List.append_assoc]
      rfl
  have absent : ['\x08'] ∉ clusters cs := by
    intro member
    apply clean
    rw [← flatten_clusters cs]
    exact List.mem_flatten.mpr ⟨_, member, List.mem_singleton_self _⟩
  rw [eraseBackspaced, kept _ _ absent, List.append_nil, List.reverse_reverse, flatten_clusters]

/-- The line editor changes nothing but the end of a line without backspaces. -/
theorem unedited_of_clean (clean : '\x08' ∉ line.toList) : Unedited line := by
  have joined (body : List Char) (terminator : String)
      (whole : line.toList = body ++ terminator.toList) :
      line = String.ofList (eraseBackspaced body) ++ terminator := by
    have erased : eraseBackspaced body = body := by
      apply eraseBackspaced_of_clean
      intro member
      exact clean (whole ▸ List.mem_append_left _ member)
    apply String.toList_injective
    rw [erased, whole, String.toList_append, String.toList_ofList]
  unfold Unedited Interactive.editLine
  dsimp only
  split
  · rename_i feed
    have last : line.toList.dropLast ++ ['\n'] = line.toList :=
      List.dropLast_append_getLast? _ (beq_iff_eq.mp feed)
    split
    · rename_i carriage
      have previous : line.toList.dropLast.dropLast ++ ['\r'] = line.toList.dropLast :=
        List.dropLast_append_getLast? _ (beq_iff_eq.mp carriage)
      refine ⟨"\r\n", by simp, joined _ _ ?_⟩
      rw [← last, ← previous]
      simp
    · refine ⟨"\n", by simp, joined _ _ ?_⟩
      exact last.symm
  · refine ⟨"", by simp, joined _ _ ?_⟩
    exact (List.append_nil _).symm

end Editor

/-! ### What is handed over -/

section Handed

variable {limit : Nat} {bytes : List UInt8} {line text other : String}

theorem handed?_congr (same : trimChars text.toList = trimChars other.toList) :
    handed? text = handed? other := by
  rw [handed?, handed?, trim, trim, same]

/-- What is handed over is evaluated, and nothing is done for a line that is skipped. -/
theorem line_eq (builtins : List Builtin) (session : Session) (text : String) :
    Evaluation.line builtins session text =
      match handed? text with
      | none => return (session, .ok 0)
      | some trimmed =>
        match Pipeline.readWith (Expansion.word session) session.limits trimmed with
        | .error e => return (session, .error e)
        | .ok ⟨[stage]⟩ => Evaluation.runSingle builtins session stage
        | .ok pipeline => Evaluation.runPipeline session pipeline := by
  rw [handed?]
  cases blank : (trim text).isEmpty with
  | true => exact LineErrors.line_of_blank blank
  | false => exact LineErrors.line_of_words blank

/-- Texts of which the same is left are evaluated alike. -/
theorem lineReported_congr {session : Session} (builtins : List Builtin)
    (same : handed? (cutLine text session.limits.maxLine) =
      handed? (cutLine other session.limits.maxLine)) :
    Evaluation.lineReported builtins session text =
      Evaluation.lineReported builtins session other := by
  rw [Evaluation.lineReported, Evaluation.lineReported, line_eq, line_eq, same]

/-- The text of a line is remembered and evaluated, unless there is none. -/
theorem enter_eq (builtins : List Builtin) (session : Session) (line : String) :
    Interactive.enter builtins session line =
      match handed? (Interactive.editLine line) with
      | none => return (session, .ok ())
      | some text =>
        Evaluation.lineReported builtins
          { session with history := session.history.push text } text := by
  rw [Interactive.enter, handed?]
  cases (trim (Interactive.editLine line)).isEmpty with
  | true => rfl
  | false => rfl

/-- What is handed over of a text that is cut after trimming. A blank text needs no case of its
own. -/
theorem typed?_eq (limit : Nat) (line : String) :
    typed? limit line = handed? (cutLine (trim (Interactive.editLine line)) limit) := by
  rw [typed?, handed?]
  cases blank : (trim (Interactive.editLine line)).isEmpty with
  | true =>
    have nothing : trimChars (takeBytes limit "".toList) = [] := by
      rw [String.toList_empty, takeBytes]
      rfl
    rw [String.isEmpty_iff.mp blank, handed?, cutLine, trim, String.toList_ofList, nothing]
    rfl
  | false => simp only [Bool.false_eq_true, ↓reduceIte, Option.bind_some]

/-- Bytes that are text are read as that text by a script too. -/
theorem decodeLossy_of_decode? (decoded : Utf8.decode? bytes = some line) :
    Utf8.decodeLossy bytes = line := by
  have faultless (scalars : List (Option Char)) (cs : List Char) (all : scalars.mapM id = some cs) :
      scalars.map (·.getD '\uFFFD') = cs := by
    induction scalars generalizing cs with
    | nil => cases all; rfl
    | cons scalar rest ih =>
      rw [List.mapM_cons] at all
      cases scalar with
      | none => cases all
      | some c =>
        cases found : rest.mapM id with
        | none =>
          rw [found] at all
          cases all
        | some later =>
          rw [found] at all
          cases all
          rw [List.map_cons, ih later found]
          rfl
  obtain ⟨cs, all, rfl⟩ := Option.map_eq_some_iff.mp decoded
  rw [Utf8.decodeLossy, faultless _ cs all]

/-- The line ends that a script strips are blank, and so is the terminator. -/
theorem scripted?_eq (decoded : Utf8.decode? bytes = some line) (unedited : Unedited line) :
    scripted? limit bytes = handed? (cutLine (Interactive.editLine line) limit) := by
  obtain ⟨terminator, known, same⟩ := unedited
  obtain ⟨tail, ends, stripped⟩ :=
    exists_dropEndWhile (fun c => c == '\n' || c == '\r') line.toList
  have blank : ∀ c ∈ tail, isBlank c := by
    intro c member
    have kind := ends c member
    simp only [Bool.or_eq_true, beq_iff_eq] at kind
    rcases kind with rfl | rfl
    · rfl
    · rfl
  have last : ∀ c ∈ terminator.toList, isBlank c := by
    apply List.all_eq_true.mp
    simp only [List.mem_cons, List.not_mem_nil, or_false] at known
    rcases known with rfl | rfl | rfl
    · decide
    · decide
    · decide
  have typed : line.toList = (Interactive.editLine line).toList ++ terminator.toList := by
    rw [← String.toList_append, ← same]
  rw [scripted?, Script.decodeLine, decodeLossy_of_decode? decoded]
  apply handed?_congr
  rw [cutLine, cutLine, stripLineEnd, String.toList_ofList, String.toList_ofList,
    String.toList_ofList]
  calc trimChars (takeBytes limit (dropEndWhile (fun c => c == '\n' || c == '\r') line.toList))
      = trimChars (takeBytes limit line.toList) := by
        rw [← trim_cut_append_blank blank, ← stripped]
    _ = trimChars (takeBytes limit (Interactive.editLine line).toList) := by
        rw [typed, trim_cut_append_blank last]

/-- A text that fits is handed over as it is. -/
theorem handed?_cut_of_fits (fits : text.utf8ByteSize ≤ limit) :
    handed? (cutLine text limit) = handed? text := by
  rw [← String.ofList_toList (s := text), utf8ByteSize_ofList] at fits
  rw [cutLine, takeBytes_of_fits fits, String.ofList_toList]

theorem handed?_trim (text : String) : handed? (trim text) = handed? text := by
  apply handed?_congr
  rw [trim, String.toList_ofList, trimChars_trimChars]

/-- The interactive loop does not cut a command that fits. -/
theorem typed?_of_fits (fits : (trim (Interactive.editLine line)).utf8ByteSize ≤ limit) :
    typed? limit line = handed? (Interactive.editLine line) := by
  rw [typed?_eq, handed?_cut_of_fits fits, handed?_trim]

/-- A script cuts a line as the interactive loop would with less room. -/
theorem scripted?_eq_typed? (decoded : Utf8.decode? bytes = some line) (unedited : Unedited line) :
    scripted? limit bytes =
      typed? (limit - (lead (Interactive.editLine line)).utf8ByteSize) line := by
  rw [scripted?_eq decoded unedited, typed?_eq]
  apply handed?_congr
  rw [cutLine, cutLine, trim, lead, String.toList_ofList, String.toList_ofList,
    String.toList_ofList, utf8ByteSize_ofList, trim_cut]

/-- Where both hand over the same, the interactive loop does what a script does, in the session that
remembers the command. -/
theorem enter_of_same {builtins : List Builtin} {session : Session}
    (same : scripted? limit bytes = typed? limit line) (bound : session.limits.maxLine = limit) :
    Interactive.enter builtins session line =
      match handed? (Interactive.editLine line) with
      | none => return (session, .ok ())
      | some trimmed =>
        Evaluation.lineReported builtins { session with history := session.history.push trimmed }
          (Script.decodeLine bytes) := by
  rw [enter_eq]
  cases given : handed? (Interactive.editLine line) with
  | none => rfl
  | some trimmed =>
    apply lineReported_congr
    have cut : handed? (cutLine trimmed limit) = typed? limit line := by
      rw [typed?, given, Option.bind_some]
    dsimp only
    rw [bound, cut, ← same, scripted?]

end Handed

/-- A script counts the blank characters before a command. It hands over what the interactive loop
would with a limit that is smaller by the bytes of these characters, so a text that fits is never
cut in the loop, and in a script it is not if these characters fit with it. Without such characters,
or where they fit with the text, the same text is handed over in both or the line is skipped in
both, and the loop does what a script does for the line in the session that remembers it. -/
theorem script_counts_leading_blanks (limit : Nat) {bytes : List UInt8} {line : String}
    (decoded : Utf8.decode? bytes = some line) (unedited : Unedited line) :
    let text := Interactive.editLine line
    scripted? limit bytes = typed? (limit - (lead text).utf8ByteSize) line ∧
    ((trim text).utf8ByteSize ≤ limit → typed? limit line = handed? text) ∧
    ((lead text).utf8ByteSize + (trim text).utf8ByteSize ≤ limit →
      scripted? limit bytes = handed? text) ∧
    (lead text = "" ∨ (lead text).utf8ByteSize + (trim text).utf8ByteSize ≤ limit →
      scripted? limit bytes = typed? limit line ∧
      ∀ builtins session, session.limits.maxLine = limit →
        Interactive.enter builtins session line =
          match handed? text with
          | none => return (session, .ok ())
          | some trimmed =>
            Evaluation.lineReported builtins
              { session with history := session.history.push trimmed }
              (Script.decodeLine bytes)) := by
  intro text
  have general : scripted? limit bytes = typed? (limit - (lead text).utf8ByteSize) line :=
    scripted?_eq_typed? decoded unedited
  refine ⟨general, typed?_of_fits, ?_, ?_⟩
  · intro fits
    rw [general]
    exact typed?_of_fits (Nat.le_sub_of_add_le' fits)
  · intro small
    have same : scripted? limit bytes = typed? limit line := by
      rw [general]
      rcases small with none | fits
      · rw [none]
        rfl
      · rw [typed?_of_fits (Nat.le_sub_of_add_le' fits),
          typed?_of_fits (Nat.le_trans (Nat.le_add_left _ _) fits)]
    refine ⟨same, fun builtins session bound => ?_⟩
    rw [enter_of_same same bound]

/-- A command of three bytes after three blanks, with its line end. -/
def indentedLine : List UInt8 :=
  [0x20, 0x20, 0x20, 0x70, 0x77, 0x64, 0x0D, 0x0A]

/-- With six bytes allowed the command is whole in both, and with five it loses a character in a
script. -/
theorem script_counts_leading_blanks_indented :
    Utf8.decode? indentedLine = some "   pwd\r\n" ∧ Unedited "   pwd\r\n" ∧
    scripted? 6 indentedLine = some "pwd" ∧ scripted? 5 indentedLine = some "pw" := by
  have decoded : Utf8.decode? indentedLine = some "   pwd\r\n" := by decide
  have unedited : Unedited "   pwd\r\n" := unedited_of_clean (by decide)
  obtain ⟨-, -, whole, -⟩ := script_counts_leading_blanks 6 decoded unedited
  obtain ⟨cut, -⟩ := script_counts_leading_blanks 5 decoded unedited
  refine ⟨decoded, unedited, ?_, ?_⟩
  · rw [whole (by decide)]
    decide
  · rw [cut]
    decide

/-- A command that fits is cut in a script, or skipped with its line, and is whole in the
interactive loop. -/
theorem script_cuts_indented_command :
    Utf8.decode? indentedLine = some "   pwd\r\n" ∧ Unedited "   pwd\r\n" ∧
    (trim "   pwd\r\n").utf8ByteSize = 3 ∧
    scripted? 4 indentedLine = some "p" ∧ typed? 4 "   pwd\r\n" = some "pwd" ∧
    scripted? 3 indentedLine = none ∧ typed? 3 "   pwd\r\n" = some "pwd" := by
  refine ⟨by decide, unedited_of_clean (by decide), by decide, ?_, ?_, ?_, ?_⟩
  · decide
  · decide
  · decide
  · decide

end LineShell.LineCuts
