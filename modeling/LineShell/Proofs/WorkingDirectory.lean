import LineShell.Proofs.FailedLines
import LineShell.Proofs.SessionFrame

/-! The directory the shell works in. The session has its path, and the system keeps its own account
of it, by which the files of a redirection and the programs of a relative name are found. A line
changes both or neither, so they agree after any lines, and whatever a line asks for in between is
asked while they agree. -/
namespace LineShell.WorkingDirectory
open Dialogue LinePlans SessionFrame

/-- The path does not depend on where it is used. -/
def Absolute (path : String) : Prop :=
  path.toList.head? = some '/'

instance (path : String) : Decidable (Absolute path) :=
  inferInstanceAs (Decidable (path.toList.head? = some '/'))

/-- How the system answers a shell that is in a directory, and where the shell is then. The system
may refuse to give the canonical form of a path or to change to a directory, whatever the path; a
canonical form that it gives is absolute. -/
def follows : Rule Call Call.Answer String
  | here, .changeDirectory path, .ok (), there => there = Standard.joinPath here path
  | here, .canonicalPath _, .ok path, there => Absolute path ∧ there = here
  | here, _, _, there => there = here

/-- The calls that leave the shell in its directory. -/
def Stays : Call → Prop
  | .changeDirectory _ => False
  | _ => True

/-- The line has a single stage with these words, once the alias of the first is in its place. -/
def Asks (session : Session) (text : String) (words : List String) : Prop :=
  ∃ stage,
    Pipeline.readWith (Expansion.word session) session.limits (Text.trim text) = .ok ⟨[stage]⟩ ∧
    substitute session.aliases stage.argv = words

/-- The directory was changed to the canonical form of the target. -/
def Entered (session : Session) (target : String) (history : List (Exchange Call Call.Answer))
    (after : Session) : Prop :=
  ∃ path, ⟨.canonicalPath (Standard.joinPath session.directory target), .ok path⟩ ∈ history ∧
    ⟨.changeDirectory path, .ok ()⟩ ∈ history ∧ after = { session with directory := path }

/-- The system gave no canonical form of the target, or did not change to it. -/
def Refused (session : Session) (target : String)
    (history : List (Exchange Call Call.Answer)) : Prop :=
  ∃ fault,
    ⟨.canonicalPath (Standard.joinPath session.directory target), .error fault⟩ ∈ history ∨
    ∃ path, ⟨.canonicalPath (Standard.joinPath session.directory target), .ok path⟩ ∈ history ∧
      ⟨.changeDirectory path, .error fault⟩ ∈ history

/-- What a line has made of the directory, where `here` is the one the shell is in at the end. -/
structure InStep (session : Session) (text : String) (history : List (Exchange Call Call.Answer))
    (after : Session) (outcome : LineResult) (here : String) : Prop where
  same : after.directory = here
  shown : after.valueOf? "PWD" = some here
  changed : ∀ target, Asks session text ["cd", target] →
    outcome = .ok 0 ∧ Entered session target history after ∨
    outcome = .ok 1 ∧ Refused session target history ∧ after = session
  printed : Asks session text ["pwd"] →
    ∃ answer, ⟨.print (session.directory ++ "\n"), answer⟩ ∈ history
  unchanged : (∀ target, ¬Asks session text ["cd", target]) → after.directory = session.directory

/-! ### Calls -/

section Calls

variable {here there : String} {call : Call} {answer : call.Answer} {path : String}

theorem joinPath_of_absolute (absolute : Absolute path) : Standard.joinPath here path = path := by
  rw [Standard.joinPath, absolute]
  rfl

theorem follows_stays (stays : Stays call) (answered : follows here call answer there) :
    there = here := by
  unfold follows at answered
  split at answered
  · cases stays
  · exact answered.2
  · exact answered

theorem stays_of_traceless (call : Call) (traceless : FailedLines.Traceless call) :
    Stays call := by
  cases call <;> trivial

/-- Calls that leave the shell in its directory are all made there. -/
theorem Stays.safe {β : Type} {program : Shell β} {start : String} (only : Only Stays program) :
    Safe follows (fun here _ => here = start) program (fun _ here => here = start) start :=
  only.safe (fun _ _ => rfl) fun _ _ _ _ stays answered => follows_stays stays answered

end Calls

/-! ### Commands -/

section Commands

variable {session after : Session} {history : List (Exchange Call Call.Answer)} {target : String}
  {outcome : Except Failure Int} {command : Standard}

/-- What a command leaves of the two directories: both as they were, or both the same. Only a command
that succeeds does the second. -/
def Settled (start : String) (session : Session) (result : Session × Except Failure Int)
    (here : String) : Prop :=
  here = start ∧ result.1.directory = session.directory ∨
    result.2 = .ok 0 ∧ result.1.directory = here

/-- One command alone makes the shell change its directory. -/
private theorem run_stays (session : Session)
    (other : ∀ target, command ≠ .changeDirectory target) : Only Stays (command.run session) := by
  refine (run_prints session other).mono fun call prints => ?_
  cases call <;> trivial

private theorem effect_directory : ∀ {command : Standard}, Effect command session after →
    (∀ target, command ≠ .changeDirectory target) → after.directory = session.directory
  | .changeDirectory target, _, other => absurd rfl (other target)
  | .alias _, effect, _ => by
    obtain ⟨table, rfl⟩ := effect
    rfl
  | .leave, effect, _ | .setSearchPaths _, effect, _ | .misuse _, effect, _
  | .printDirectory, effect, _ | .help, effect, _ | .listVariables, effect, _
  | .listHistory, effect, _ => by
    cases effect
    rfl

/-- The path is given to the system before it is given to the session, and only once the system has
changed to it. -/
private theorem enter_settles (session : Session) (target start : String) :
    Safe follows (fun here _ => here = start) (Standard.enter session target)
      (Settled start session) start := by
  refine .request rfl fun canonical here answered => ?_
  cases canonical with
  | error fault => exact .inl ⟨answered, rfl⟩
  | ok path =>
    obtain ⟨absolute, rfl⟩ := answered
    refine .request rfl fun changed here answered => ?_
    cases changed with
    | error fault => exact .inl ⟨answered, rfl⟩
    | ok _ =>
      have moved : here = path := answered.trans (joinPath_of_absolute absolute)
      exact .inr ⟨rfl, moved.symm⟩

/-- Wherever it is run, a command asks everything in the directory in which it began. -/
theorem run_settles (command : Standard) (session : Session) (start : String) :
    Safe follows (fun here _ => here = start) (command.run session)
      (Settled start session) start := by
  by_cases changes : ∃ target, command = .changeDirectory target
  · obtain ⟨target, rfl⟩ := changes
    exact enter_settles session target start
  · have other : ∀ target, command ≠ .changeDirectory target := not_exists.mp changes
    refine ((Stays.safe (run_stays session other)).and_ends (run_effect command session)).mono ?_
    rintro result here ⟨stayed, effect⟩
    exact .inl ⟨stayed, effect_directory effect other⟩

/-- What comes of changing to a directory. -/
theorem enter_cases (ran : Run (Standard.enter session target) history (after, outcome)) :
    outcome = .ok 0 ∧ Entered session target history after ∨
    ∃ reasons, outcome = .error reasons ∧ Refused session target history ∧ after = session := by
  obtain ⟨canonical, _, rfl, further⟩ := run_request_iff.mp ran
  cases canonical with
  | error fault =>
    obtain ⟨rfl, same⟩ := run_done_iff.mp further
    cases same
    exact .inr ⟨_, rfl, ⟨fault, .inl (List.mem_singleton_self _)⟩, rfl⟩
  | ok path =>
    obtain ⟨changed, _, rfl, ended⟩ := run_request_iff.mp further
    cases changed with
    | error fault =>
      obtain ⟨rfl, same⟩ := run_done_iff.mp ended
      cases same
      exact .inr ⟨_, rfl, ⟨fault, .inr ⟨path, by simp, by simp⟩⟩, rfl⟩
    | ok _ =>
      obtain ⟨rfl, same⟩ := run_done_iff.mp ended
      cases same
      exact .inl ⟨rfl, path, by simp, by simp, rfl⟩

end Commands

/-! ### Lines -/

section Lines

variable {session after : Session} {text name : String} {operands : List String}
  {history : List (Exchange Call Call.Answer)} {outcome : LineResult} {command : Standard}

private theorem noteLine_stays (session : Session) (text : String) :
    Only Stays (noteLine session text) := by
  refine (noteLine_logs session text).mono fun call logs => ?_
  cases call <;> trivial

/-- What is performed is asked for. -/
private theorem asks_of_perform {command : Command}
    (planned : Plan.ofLine Standard.builtins session text = .perform name command) :
    ∃ operands standard, Asks session text (name :: operands) ∧
      Standard.ofWords? name operands = some standard ∧ standard.run = command := by
  obtain ⟨stage, operands, read, typed, found⟩ := Plan.ofLine_eq_perform planned
  obtain ⟨standard, known, same⟩ := Standard.find?_eq_some_iff.mp found
  exact ⟨operands, standard, ⟨stage, read, typed⟩, known, same⟩

/-- The words of a command have it run, after the note of their alias. -/
theorem line_of_asks (asks : Asks session text (name :: operands))
    (known : Standard.ofWords? name operands = some command) :
    Evaluation.line Standard.builtins session text =
      (noteLine session text >>= fun _ =>
        Evaluation.runBuiltin session name (command.run)) := by
  obtain ⟨stage, read, typed⟩ := asks
  have found := Standard.find?_eq_some_iff.mpr ⟨command, known, rfl⟩
  rw [line_eq_carryOut, Plan.ofLine_of_read read, Plan.ofStages, typed, Plan.ofWords_of_found found]
  rfl

/-- The status of a line for which a command was run. -/
def status : Except Failure Int → Int
  | .ok code => code
  | .error _ => 1

/-- A line of a command ends as the command does. -/
theorem runBuiltin_run {command : Command}
    (ran : Run (Evaluation.runBuiltin session name command) history (after, outcome)) :
    ∃ inside result, Run (command session) inside (after, result) ∧ inside ⊆ history ∧
      outcome = .ok (status result) := by
  obtain ⟨_, running, rfl, runs⟩ := run_request_iff.mp ran
  obtain ⟨inside, ⟨left, result⟩, later, rfl, inner, ended⟩ := run_bind_iff.mp runs
  have within := List.subset_cons_of_subset
    (⟨.log .debug ("running builtin " ++ name), ()⟩ : Exchange Call Call.Answer)
    (List.subset_append_left inside later)
  cases result with
  | ok code =>
    obtain ⟨rfl, same⟩ := run_done_iff.mp ended
    cases same
    exact ⟨inside, _, inner, within, rfl⟩
  | error reasons =>
    obtain ⟨_, _, _, rfl, -, past⟩ := run_bind_iff.mp ended
    obtain ⟨rfl, same⟩ := run_done_iff.mp past
    cases same
    exact ⟨inside, _, inner, within, rfl⟩

/-- So does the line that asks for it. -/
theorem run_of_asks (asks : Asks session text (name :: operands))
    (known : Standard.ofWords? name operands = some command)
    (ran : Run (Evaluation.line Standard.builtins session text) history (after, outcome)) :
    ∃ inside result, Run (command.run session) inside (after, result) ∧ inside ⊆ history ∧
      outcome = .ok (status result) := by
  rw [line_of_asks asks known] at ran
  obtain ⟨noting, _, performing, rfl, -, performed⟩ := run_bind_iff.mp ran
  obtain ⟨inside, result, inner, within, same⟩ := runBuiltin_run performed
  exact ⟨inside, result, inner, List.subset_append_of_subset_right noting within, same⟩

/-- A line is carried out in one directory, and leaves the session with the one it leaves the shell
in. -/
theorem line_left {rest : Shell (Session × LineResult)} {here : String}
    (course : Course follows (Evaluation.line Standard.builtins session text) session.directory
      history rest here) :
    Safe follows (fun here _ => here = session.directory) rest
      (fun result here => result.1.directory = here) here := by
  refine Safe.along course ?_
  rw [line_eq_carryOut]
  refine ((Stays.safe (noteLine_stays session text)).mono ?_).bind
  rintro _ _ rfl
  cases planned : Plan.ofLine Standard.builtins session text with
  | nothing => rfl
  | refuse e => rfl
  | launch pipeline =>
    have only : Only Stays (Evaluation.runPipeline session pipeline) :=
      (FailedLines.runPipeline_traceless session pipeline).mono stays_of_traceless
    have kept : (Evaluation.runPipeline session pipeline).Ends fun result => result.1 = session := by
      rw [runPipeline_eq, map_eq_pure_bind]
      exact .after fun _ => .done rfl
    refine ((Stays.safe only).and_ends kept).mono ?_
    rintro ⟨after, outcome⟩ here ⟨rfl, rfl⟩
    rfl
  | perform name command =>
    obtain ⟨-, standard, -, -, rfl⟩ := asks_of_perform planned
    refine .request rfl fun _ here answered => ?_
    obtain rfl : here = session.directory := answered
    refine ((run_settles standard session session.directory).mono ?_).bind
    rintro ⟨after, result⟩ here settled
    cases result with
    | ok code =>
      obtain ⟨rfl, same⟩ | ⟨-, same⟩ := settled
      · exact same
      · exact same
    | error reasons =>
      obtain ⟨rfl, same⟩ := settled.resolve_right nofun
      have reported : Only Stays (Shell.complain reasons.message) :=
        (RefusedReports.complain_reports _).mono fun call reports => by
          cases call <;> first | exact trivial | cases reports
      refine ((Stays.safe reported).mono ?_).bind
      rintro _ _ rfl
      exact same

/-- A line that does not ask for another directory changes none. -/
theorem line_directory
    (other : ∀ target, ¬Asks session text ["cd", target])
    (ran : Run (Evaluation.line Standard.builtins session text) history (after, outcome)) :
    after.directory = session.directory := by
  rw [line_eq_carryOut] at ran
  obtain ⟨_, _, _, rfl, -, carried⟩ := run_bind_iff.mp ran
  cases planned : Plan.ofLine Standard.builtins session text with
  | nothing | refuse e =>
    rw [planned] at carried
    obtain ⟨-, same⟩ := run_done_iff.mp carried
    cases same
    rfl
  | launch pipeline =>
    rw [planned, Plan.carryOut, runPipeline_eq, map_eq_pure_bind] at carried
    obtain ⟨_, _, _, rfl, -, ended⟩ := run_bind_iff.mp carried
    obtain ⟨-, same⟩ := run_done_iff.mp ended
    cases same
    rfl
  | perform name command =>
    obtain ⟨operands, standard, asks, known, rfl⟩ := asks_of_perform planned
    rw [planned] at carried
    obtain ⟨inside, result, inner, -, -⟩ := runBuiltin_run carried
    refine effect_directory ((run_effect standard session).of_run inner) fun target same => ?_
    rw [same] at known
    obtain ⟨rfl, rfl⟩ := Standard.ofWords?_eq_changeDirectory known
    exact other target asks

/-- What a line makes of the directory, whatever the system answers. -/
theorem line_inStep {here : String}
    (course : Course follows (Evaluation.line Standard.builtins session text) session.directory
      history (.done (after, outcome)) here) :
    InStep session text history after outcome here := by
  have ran := course.run
  have same : after.directory = here := line_left course
  refine ⟨same, congrArg some same, ?changed, ?printed, fun other => line_directory other ran⟩
  case changed =>
    intro target asks
    obtain ⟨inside, result, inner, within, rfl⟩ := run_of_asks asks rfl ran
    rcases enter_cases inner with
      ⟨rfl, path, named, changed, rfl⟩ | ⟨reasons, rfl, ⟨fault, refused⟩, rfl⟩
    · exact .inl ⟨rfl, path, within named, within changed, rfl⟩
    · refine .inr ⟨rfl, ⟨fault, ?_⟩, rfl⟩
      rcases refused with unnamed | ⟨path, named, unchanged⟩
      · exact .inl (within unnamed)
      · exact .inr ⟨path, within named, within unchanged⟩
  case printed =>
    intro asks
    obtain ⟨inside, result, inner, within, -⟩ := run_of_asks asks rfl ran
    obtain ⟨printing, _, _, rfl, printed, -⟩ := run_bind_iff.mp inner
    obtain ⟨answer, _, rfl, -⟩ := run_request_iff.mp printed
    exact ⟨answer, within (by simp)⟩

/-- Lines one after another leave the session and the shell in one directory. -/
theorem evaluateAll_directory {texts : List String} {here : String}
    (course : Course follows (evaluateAll Standard.builtins session texts) session.directory history
      (.done after) here) : after.directory = here := by
  induction texts generalizing session history with
  | nil =>
    cases course
    rfl
  | cons text rest ih =>
    rcases course.of_bind with ⟨left, undone, ended, -⟩ | ⟨⟨middle, outcome⟩, there, _, _, rfl, first, later⟩
    · cases left with
      | done value => exact absurd rfl (undone value)
      | ask request next => cases ended
      | insist request settled next => cases ended
    · obtain rfl : middle.directory = there := line_left first
      exact ih later

end Lines

end LineShell.WorkingDirectory
