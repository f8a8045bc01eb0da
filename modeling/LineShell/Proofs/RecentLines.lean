import LineShell.Proofs.LineCuts
import LineShell.Proofs.LineLoops
import LineShell.Proofs.ScriptLines
import LineShell.Proofs.SessionFrame

/-! The history as the latest lines. However many lines are remembered, the history has the last of
them in their order, as many as it has room for. The interactive loop remembers every line that it
reads and that is not blank, before it is known what the line comes to. -/
namespace LineShell.RecentLines
open Dialogue LinePlans LineCuts SourceLines LineLoops ScriptLines SessionFrame

/-- The entries are the last of these texts, and a hundred of them if there are as many. -/
structure LatestOf (texts entries : List String) : Prop where
  latest : entries <:+ texts
  count : entries.length = min 100 texts.length

section Entries

variable {texts entries others : List String} {history : History} {text : String}

theorem LatestOf.unique (first : LatestOf texts entries) (second : LatestOf texts others) :
    entries = others :=
  (List.suffix_of_suffix_length_le first.latest second.latest
    (by rw [first.count, second.count])).eq_of_length (by rw [first.count, second.count])

theorem LatestOf.length_le (latest : LatestOf texts entries) : entries.length ≤ 100 := by
  rw [latest.count]
  exact Nat.min_le_left _ _

theorem LatestOf.push (latest : LatestOf texts history.lines) (visible : text ≠ "") :
    LatestOf (texts ++ [text]) (history.push text).lines := by
  obtain ⟨⟨older, whole⟩, count⟩ := latest
  have length : texts.length = older.length + history.lines.length := by
    rw [← whole, List.length_append]
  have shown : text.isEmpty = false := by simpa using visible
  rw [History.push, if_neg (by simp [shown])]
  split
  · rename_i full
    have full : history.lines.length = 100 := by simpa [maxHistory] using full
    cases lines : history.lines with
    | nil => simp [lines] at full
    | cons oldest newer =>
      rw [lines] at whole full length
      refine ⟨⟨older ++ [oldest], ?_⟩, ?_⟩
      · simp [← whole]
      · simp only [List.length_cons] at full length
        simp only [List.drop_succ_cons, List.drop_zero, List.length_append, List.length_cons,
          List.length_nil]
        omega
  · rename_i room
    have room : history.lines.length ≠ 100 := by simpa [maxHistory] using room
    refine ⟨⟨older, ?_⟩, ?_⟩
    · rw [← whole, List.append_assoc]
    · simp only [List.length_append, List.length_cons, List.length_nil]
      omega

/-- An empty text leaves no trace, and every other text is the latest entry. -/
theorem LatestOf.foldl (latest : LatestOf entries history.lines) (texts : List String) :
    LatestOf (entries ++ texts.filter (· ≠ "")) (texts.foldl History.push history).lines := by
  induction texts generalizing entries history with
  | nil => simpa using latest
  | cons text texts ih =>
    rw [List.foldl_cons]
    by_cases empty : text = ""
    · have same : history.push text = history := if_pos (by simp [empty])
      rw [same, List.filter_cons_of_neg (by simp [empty])]
      exact ih latest
    · rw [List.filter_cons_of_pos (by simp [empty]), List.append_cons]
      exact ih (latest.push empty)

end Entries

/-! ### Lines that are read -/

/-- No built-in command changes the history. -/
def Forgetless (builtins : List Builtin) : Prop :=
  ∀ name operands command, Builtin.find? builtins name operands = some command →
    ∀ session, (command session).Ends fun r => r.1.history = session.history

/-- The text that a line is remembered as, unless it is blank. -/
def remembered? (bytes : List UInt8) : Option String :=
  (Text.Utf8.decode? bytes).bind fun line => handed? (Interactive.editLine line)

/-- The interactive loop has read these lines and evaluated them, one after the other, each in the
session that the line before it has left, which had not ended yet. -/
inductive Reads (builtins : List Builtin) :
    Session → List (List UInt8) → List (Exchange Call Call.Answer) → Session → Prop where
  | none (session : Session) : Reads builtins session [] [] session
  | line {session middle after : Session} {bytes : List UInt8} {line : String}
      {others : List (List UInt8)} {inviting entering later : List (Exchange Call Call.Answer)}
      (going : session.exiting = false) (decoded : Text.Utf8.decode? bytes = some line)
      (invited : Run (Interactive.invite session) inviting (.ok ()))
      (entered : Run (Interactive.enter builtins session line) entering (middle, .ok ()))
      (further : Reads builtins middle others later after) :
      Reads builtins session (bytes :: others) (inviting ++ entering ++ later) after

/-- The last that has happened is that a prompt was not written, and the loop has failed for that. -/
def Unprompted (history : List (Exchange Call Call.Answer)) (outcome : Except Failure Unit) : Prop :=
  ∃ fault, history.getLast? = some ⟨.print "pipesh> ", .error fault⟩ ∧
    outcome = .error ["cannot read input", fault.message, fault.message]

/-- Of these lines the loop has read the first ones, as long as the session had not ended, the next
line could be asked for, and it was a text; and then it has left the session like this. -/
structure ReadsUpTo (builtins : List Builtin) (session : Session) (lines : List (List UInt8))
    (history : List (Exchange Call Call.Answer)) (after : Session) (outcome : Except Failure Unit)
    (read : List (List UInt8)) : Prop where
  reads : ∃ early late, history = early ++ late ∧ Reads builtins session read early after
  inOrder : read <+: lines
  /-- A line that is left is left for a reason. -/
  stops : ∀ next ∈ lines[read.length]?,
    after.exiting = true ∨ Text.Utf8.decode? next = none ∨ Unprompted history outcome

section Evaluations

variable {builtins : List Builtin} {session after : Session} {source : Source}
  {history : List (Exchange Call Call.Answer)} {outcome : Except Failure Unit}

theorem forgetless_standard : Forgetless Standard.builtins := by
  intro name operands command found session
  obtain ⟨standard, known, rfl⟩ := Standard.find?_eq_some_iff.mp found
  exact (run_effect standard session).mono fun _ effect => (effect.touches known).keeps.history

/-- No line changes the history if no built-in command does. -/
theorem line_history (forgetless : Forgetless builtins) (session : Session) (text : String) :
    (Evaluation.line builtins session text).Ends fun r => r.1.history = session.history := by
  rw [line_eq_carryOut]
  refine .after fun _ => ?_
  cases planned : Plan.ofLine builtins session text with
  | nothing => exact .done rfl
  | refuse e => exact .done rfl
  | launch pipeline =>
    rw [Plan.carryOut, runPipeline_eq, map_eq_pure_bind]
    exact .after fun _ => .done rfl
  | perform name command =>
    obtain ⟨stage, operands, -, -, found⟩ := Plan.ofLine_eq_perform planned
    have ends := forgetless name operands command found session
    exact @runBuiltin_of_command session command (·.history = session.history) name ends

/-- A line is remembered unless it is blank, whatever it comes to, and it never ends the loop with
an error. -/
theorem enter_ends (forgetless : Forgetless builtins) (session : Session) (line : String) :
    (Interactive.enter builtins session line).Ends fun r => r.2 = .ok () ∧
      r.1.history = match handed? (Interactive.editLine line) with
        | none => session.history
        | some text => session.history.push text := by
  rw [enter_eq]
  cases handed? (Interactive.editLine line) with
  | none => exact .done ⟨rfl, rfl⟩
  | some text =>
    dsimp only
    rw [lineReported_eq]
    refine (line_history forgetless _ _).bind fun result kept => ?_
    exact .after fun _ => .done ⟨rfl, kept⟩

/-- The prompt is all that can be refused before a line is read. -/
private theorem run_invite {answer : Except IoFault Unit}
    (ran : Run (Interactive.invite session) history answer) :
    ∀ fault, answer = .error fault → history.getLast? = some ⟨.print "pipesh> ", .error fault⟩ := by
  rintro fault rfl
  unfold Interactive.invite at ran
  split at ran
  · obtain ⟨_, _, rfl, prompting⟩ := run_request_iff.mp ran
    obtain ⟨_, _, rfl, ended⟩ := run_ask_iff.mp prompting
    obtain ⟨rfl, rfl⟩ := run_done_iff.mp ended
    rfl
  · obtain ⟨_, _, rfl, ended⟩ := run_request_iff.mp ran
    cases (run_done_iff.mp ended).2

/-- A line is asked for, or the loop fails. -/
private theorem run_ask {next : Shell (Session × Except Failure Unit)}
    (ran : Run (Interactive.ask session next) history (after, outcome)) :
    (after = session ∧ Unprompted history outcome) ∨
      ∃ inviting later, history = inviting ++ later ∧
        Run (Interactive.invite session) inviting (.ok ()) ∧ Run next later (after, outcome) := by
  obtain ⟨inviting, answer, later, rfl, invited, further⟩ := run_bind_iff.mp ran
  cases answer with
  | error fault =>
    obtain ⟨rfl, same⟩ := run_done_iff.mp further
    cases same
    exact .inl ⟨rfl, fault, by rw [List.append_nil, run_invite invited fault rfl], rfl⟩
  | ok done => exact .inr ⟨inviting, later, rfl, invited, further⟩

/-- The line is read, or it is no text or could not be asked for. -/
private theorem run_take {bytes : List UInt8} (forgetless : Forgetless builtins)
    (ran : Run (Interactive.take builtins session bytes) history (after, outcome)) :
    (after = session ∧ (∃ reasons, outcome = .error reasons) ∧
      (Text.Utf8.decode? bytes = none ∨ Unprompted history outcome)) ∨
    ∃ line inviting entering, Text.Utf8.decode? bytes = some line ∧ history = inviting ++ entering ∧
      Run (Interactive.invite session) inviting (.ok ()) ∧
      Run (Interactive.enter builtins session line) entering (after, .ok ()) ∧ outcome = .ok () := by
  rcases run_ask ran with ⟨rfl, fault, last, rfl⟩ | ⟨inviting, later, rfl, invited, further⟩
  · exact .inl ⟨rfl, ⟨_, rfl⟩, .inr ⟨fault, last, rfl⟩⟩
  cases decoded : Text.Utf8.decode? bytes with
  | none =>
    rw [decoded] at further
    cases (run_done_iff.mp further).2
    exact .inl ⟨rfl, ⟨_, rfl⟩, .inl rfl⟩
  | some line =>
    rw [decoded] at further
    obtain ⟨rfl, -⟩ : outcome = .ok () ∧ _ := (enter_ends forgetless session line).of_run further
    exact .inr ⟨line, inviting, later, rfl, rfl, invited, further, rfl⟩

variable {lines : List (List UInt8)}

private theorem readsUpTo_none
    (why : ∀ next ∈ lines.head?,
      session.exiting = true ∨ Text.Utf8.decode? next = none ∨ Unprompted history outcome) :
    ReadsUpTo builtins session lines history session outcome [] where
  reads := ⟨[], history, rfl, .none session⟩
  inOrder := List.nil_prefix
  stops := by rwa [List.length_nil, ← List.head?_eq_getElem?]

/-- The loop reads the lines in their order, up to the first that ends the session, that cannot be
asked for or that is no text. -/
theorem readsUpTo_of_run (forgetless : Forgetless builtins)
    (ran : Run (visitAll (Interactive.loop builtins) lines session) history (after, outcome)) :
    ∃ read, ReadsUpTo builtins session lines history after outcome read := by
  induction lines generalizing session history with
  | nil =>
    cases (run_done_iff.mp ran).2
    exact ⟨[], readsUpTo_none nofun⟩
  | cons bytes lines ih =>
    cases ended : session.exiting with
    | true =>
      rw [visitAll_exiting ended] at ran
      cases (run_done_iff.mp ran).2
      exact ⟨[], readsUpTo_none fun _ _ => .inl ended⟩
    | false =>
      rw [visitAll_cons ended] at ran
      obtain ⟨first, ⟨middle, result⟩, later, rfl, taken, further⟩ := run_bind_iff.mp ran
      rcases run_take forgetless taken with ⟨rfl, ⟨reasons, rfl⟩, why⟩ |
        ⟨line, inviting, entering, decoded, rfl, invited, entered, rfl⟩
      · obtain ⟨rfl, same⟩ := run_done_iff.mp further
        cases same
        refine ⟨[], readsUpTo_none ?_⟩
        rintro next ⟨⟩
        rw [List.append_nil]
        exact .inr why
      · obtain ⟨others, ⟨early, late, rfl, reads⟩, inOrder, stops⟩ := ih further
        refine ⟨bytes :: others, ⟨_, late, ?_, .line ended decoded invited entered reads⟩,
          List.cons_prefix_cons.mpr ⟨rfl, inOrder⟩, fun next left => ?_⟩
        · simp only [List.append_assoc]
        · refine (stops next left).imp_right (Or.imp_right ?_)
          rintro ⟨fault, last, failed⟩
          exact ⟨fault, by rw [List.getLast?_append, last]; rfl, failed⟩

private theorem ne_empty_of_handed? {line text : String} (handed : handed? line = some text) :
    text ≠ "" := by
  rw [handed?] at handed
  split at handed
  · cases handed
  · rename_i shown
    obtain rfl := Option.some.inj handed
    exact fun empty => shown (by rw [empty]; rfl)

/-- Each line that is read is one entry more, or none if it is blank. -/
theorem Reads.latest {read : List (List UInt8)} {earlier : List String}
    (forgetless : Forgetless builtins) (reads : Reads builtins session read history after)
    (latest : LatestOf earlier session.history.lines) :
    LatestOf (earlier ++ read.filterMap remembered?) after.history.lines := by
  induction reads generalizing earlier with
  | none session => simpa using latest
  | @line session middle after bytes line others inviting entering later going decoded invited
      entered further ih =>
    have known : remembered? bytes = handed? (Interactive.editLine line) := by
      rw [remembered?, decoded, Option.bind_some]
    obtain ⟨-, remembered⟩ := (enter_ends forgetless session line).of_run entered
    cases handed : handed? (Interactive.editLine line) with
    | none =>
      rw [List.filterMap_cons_none (known.trans handed)]
      rw [handed] at remembered
      exact ih (remembered ▸ latest)
    | some text =>
      rw [List.filterMap_cons_some (known.trans handed), List.append_cons]
      rw [handed] at remembered
      exact ih (remembered ▸ latest.push (ne_empty_of_handed? handed))

private theorem ask_keeps {next : Shell (Session × Except Failure Unit)}
    (keeps : next.Ends fun r => r.1 = session) :
    (Interactive.ask session next).Ends fun r => r.1 = session := by
  refine .after fun answer => ?_
  cases answer with
  | error fault => exact .done rfl
  | ok done => exact keeps

private theorem proceed_keeps {program : Shell (Session × Except Failure Unit)}
    {next : Session → Shell (Session × Except Failure Unit)}
    (first : program.Ends fun r => r.1 = session)
    (second : ∀ session, (next session).Ends fun r => r.1 = session) :
    (program >>= LineLoop.proceed next).Ends fun r => r.1 = session := by
  refine first.bind ?_
  rintro ⟨_, reasons | ⟨⟩⟩ rfl
  · exact .done rfl
  · exact second _

private theorem close_keeps (session : Session) :
    (Interactive.close session).Ends fun r => r.1 = session := by
  refine proceed_keeps ?_ fun left => .after fun _ => .done rfl
  split
  · exact .done rfl
  · exact ask_keeps (.after fun _ => .after fun _ => .done rfl)

private theorem finish_keeps (fault : Option IoFault) (session : Session) :
    (finish (Interactive.loop builtins) fault session).Ends fun r => r.1 = session := by
  unfold finish
  split
  · exact .done rfl
  · split
    · exact .done rfl
    · exact ask_keeps (.done rfl)

/-- The loop over a source reads the lines of the source. -/
private theorem readsUpTo_of_source {complete : List (List UInt8)} {rest : List UInt8}
    (forgetless : Forgetless builtins) (lines : Lines source.chunks.flatten complete rest)
    (ran : Run (Interactive.run builtins source session) history (after, outcome)) :
    ∃ read, ReadsUpTo builtins session (linesOf source.fault complete rest) history after outcome
      read := by
  rw [Interactive.run, Interactive.lines, run_eq_visitAll lines, bind_assoc,
    funext proceed_proceed] at ran
  obtain ⟨early, ⟨middle, result⟩, late, rfl, visited, further⟩ := run_bind_iff.mp ran
  obtain ⟨read, ⟨first, second, rfl, reads⟩, inOrder, stops⟩ := readsUpTo_of_run forgetless visited
  rcases result with reasons | ⟨⟩
  · obtain ⟨rfl, same⟩ := run_done_iff.mp further
    cases same
    rw [List.append_nil]
    exact ⟨read, ⟨first, second, rfl, reads⟩, inOrder, stops⟩
  · -- What follows the last line leaves the session as it is.
    obtain rfl : after = middle :=
      (proceed_keeps (finish_keeps source.fault middle) close_keeps).of_run further
    refine ⟨read, ⟨first, second ++ late, List.append_assoc _ _ _, reads⟩, inOrder,
      fun next left => ?_⟩
    refine (stops next left).imp_right (Or.imp_right ?_)
    rintro ⟨fault, -, impossible⟩
    cases impossible

end Evaluations

/-- The history has the latest entries. Of any texts that a fresh history is given, it has the last
hundred that are not empty, or all of them if they are fewer. The interactive loop reads lines as
long as the session has not ended, its prompt can be written, and the input has lines that are texts. Its
history has the latest of what was there before and of the lines that it has read, without the blank
ones, whatever their evaluation has come to. -/
theorem history_has_latest :
    (∀ texts : List String, LatestOf (texts.filter (· ≠ "")) (texts.foldl History.push {}).lines ∧
      (texts.foldl History.push {}).lines.length ≤ 100 ∧
      "" ∉ (texts.foldl History.push {}).lines) ∧
    Forgetless Standard.builtins ∧
    ∀ builtins, Forgetless builtins → ∀ source session history after outcome,
      Run (Interactive.run builtins source session) history (after, outcome) →
      ∃ complete rest read, Lines source.chunks.flatten complete rest ∧
        ReadsUpTo builtins session (linesOf source.fault complete rest) history after outcome read ∧
        ∀ earlier, LatestOf earlier session.history.lines →
          LatestOf (earlier ++ read.filterMap remembered?) after.history.lines := by
  refine ⟨fun texts => ?entries, forgetless_standard, ?loop⟩
  case entries =>
    have none : LatestOf [] (History.lines {}) := ⟨List.suffix_rfl, rfl⟩
    have latest := none.foldl texts
    rw [List.nil_append] at latest
    refine ⟨latest, latest.length_le, fun empty => ?_⟩
    simpa using (List.mem_filter.mp (latest.latest.subset empty)).2
  case loop =>
    intro builtins forgetless source session history after outcome ran
    obtain ⟨complete, rest, lines⟩ := exists_lines source.chunks.flatten
    obtain ⟨read, readsUpTo⟩ := readsUpTo_of_source forgetless lines ran
    obtain ⟨_, _, _, reads⟩ := readsUpTo.reads
    exact ⟨complete, rest, read, lines, readsUpTo, fun _ => reads.latest forgetless⟩

/-- A line that is no pipeline, a blank one, one that leaves the shell, and one more. -/
def leavingInput : Source :=
  ⟨[[34, 97, 10, 32, 10], [101, 120, 105, 116, 10, 112, 119, 100]], none⟩

/-- What these lines leave of a fresh session. -/
def leftSession : Session :=
  { directory := "/", exiting := true, history := ⟨["\"a", "exit"]⟩ }

/-- The line that failed is in the history, and the line that was not read is not. -/
theorem history_has_latest_leaving :
    ∃ history, Run (Interactive.run Standard.builtins leavingInput { directory := "/" }) history
        (leftSession, .ok ()) ∧
      ∃ complete rest read, Lines leavingInput.chunks.flatten complete rest ∧
        ReadsUpTo Standard.builtins { directory := "/" } (linesOf none complete rest) history
          leftSession (.ok ()) read ∧
        LatestOf (read.filterMap remembered?) ["\"a", "exit"] := by
  have lines : Lines leavingInput.chunks.flatten
      [[34, 97, 10], [32, 10], [101, 120, 105, 116, 10]] [112, 119, 100] := by
    refine ⟨rfl, ?_, by decide⟩
    simp only [List.mem_cons, List.not_mem_nil, or_false, forall_eq_or_imp, forall_eq]
    exact ⟨⟨[34, 97], by decide, rfl⟩, ⟨[32], by decide, rfl⟩, ⟨[101, 120, 105, 116], by decide, rfl⟩⟩
  have refused : Run (Interactive.take Standard.builtins { directory := "/" } [34, 97, 10])
      [⟨.log .debug "stdin is not a tty", ()⟩,
        ⟨.printError (errorLine LineError.unclosedQuote.message), .ok ()⟩]
      ({ directory := "/", history := ⟨["\"a"]⟩ }, .ok ()) :=
    .ask _ <| .ask _ <| .done _
  have skipped : Run (Interactive.take Standard.builtins
      { directory := "/", history := ⟨["\"a"]⟩ } [32, 10])
      [⟨.log .debug "stdin is not a tty", ()⟩] ({ directory := "/", history := ⟨["\"a"]⟩ }, .ok ()) :=
    .ask _ <| .done _
  have left : Run (Interactive.take Standard.builtins
      { directory := "/", history := ⟨["\"a"]⟩ } [101, 120, 105, 116, 10])
      [⟨.log .debug "stdin is not a tty", ()⟩, ⟨.log .debug "running builtin exit", ()⟩,
        ⟨.log .debug "line finished with status 0", ()⟩] (leftSession, .ok ()) :=
    .ask _ <| .ask _ <| .ask _ <| .done _
  have visited : Run (visitAll (Interactive.loop Standard.builtins)
      [[34, 97, 10], [32, 10], [101, 120, 105, 116, 10], [112, 119, 100]] { directory := "/" })
      (_ ++ (_ ++ (_ ++ []))) (leftSession, .ok ()) :=
    refused.bind <| skipped.bind <| left.bind <| .done _
  obtain ⟨history, ran⟩ : ∃ history, Run (Interactive.run Standard.builtins leavingInput
      { directory := "/" }) history (leftSession, .ok ()) := by
    rw [Interactive.run, Interactive.lines, run_eq_visitAll lines, bind_assoc]
    exact ⟨_, visited.bind <| .ask () <| .done _⟩
  obtain ⟨-, forgetless, latest⟩ := history_has_latest
  obtain ⟨complete, rest, read, lines, readsUpTo, latest⟩ := latest _ forgetless _ _ _ _ _ ran
  exact ⟨_, ran, complete, rest, read, lines, readsUpTo, latest [] ⟨List.suffix_rfl, rfl⟩⟩

end LineShell.RecentLines
