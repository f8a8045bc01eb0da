import LineShell.Call
import LineShell.Proofs.DialogueRuns

/-! What the shell cannot tell. Where it has to write something and the stream does not take it, the
shell ends at once. No run comes past such a place, so what a program does there is stated of the
course to its death, and put together of the parts of the program as runs are. -/
namespace LineShell.RefusedReports
open Dialogue

/-- The program comes through these exchanges to where it ends the shell with the message. -/
def Dies {α : Type} (program : Shell α) (history : List (Exchange Call Call.Answer))
    (message : String) : Prop :=
  ∃ rest, Course anyAnswer program () history rest () ∧ rest.pending? = some (.die message)

/-- The call does not end the shell. -/
def Spares : Call → Prop
  | .die _ => False
  | _ => True

/-- The call neither ends the shell nor writes to standard error. -/
def Silent : Call → Prop
  | .printError _ | .die _ => False
  | _ => True

theorem Silent.spares {call : Call} (silent : Silent call) : Spares call := by
  cases call <;> first | exact trivial | exact silent

/-- Whatever does not end the shell has an answer. -/
theorem answer_of_spares {call : Call} (spares : Spares call) : Nonempty call.Answer := by
  cases call with
  | die => cases spares
  | isExecutable => exact ⟨true⟩
  | canonicalPath | currentDirectory => exact ⟨.ok ""⟩
  | changeDirectory | print | printError | closeOnExec | openLog | openScript | installRelay =>
    exact ⟨.ok ()⟩
  | log | close | setForeground => exact ⟨()⟩
  | openPipe => exact ⟨.ok ⟨3, 4⟩⟩
  | fork => exact ⟨.ok 1⟩
  | wait pid => exact ⟨.ok (.exited pid 0)⟩
  | read => exact ⟨.ok []⟩

section Deaths

variable {α β : Type} {program : Shell α} {first : Shell β} {next : β → Shell α}
  {history later : List (Exchange Call Call.Answer)} {message : String} {value : α}

theorem not_dies_done : ¬ Dies (.done value) history message := by
  rintro ⟨rest, course, dying⟩
  cases course
  cases dying

/-- What ends the shell at once has come through nothing. -/
theorem dies_die_iff {last : String} :
    Dies (Shell.die last : Shell α) history message ↔ history = [] ∧ message = last := by
  constructor
  · rintro ⟨rest, course, dying⟩
    cases course with
    | start =>
      cases dying
      exact ⟨rfl, rfl⟩
    | @ask _ _ answer => exact answer.elim
  · rintro ⟨rfl, rfl⟩
    exact ⟨_, .start _ _, rfl⟩

/-- A program that begins with a request dies after the answer. -/
theorem dies_request_iff {request : Call} {next : request.Answer → Shell α}
    (spares : Spares request) :
    Dies (Dialogue.request request >>= next) history message ↔
      ∃ answer later, history = ⟨request, answer⟩ :: later ∧ Dies (next answer) later message := by
  constructor
  · rintro ⟨rest, course, dying⟩
    rcases course.of_request with ⟨-, rfl, -⟩ | ⟨answer, _, later, rfl, -, further⟩
    · cases dying
      cases spares
    · exact ⟨answer, later, rfl, rest, further, dying⟩
  · rintro ⟨answer, later, rfl, rest, further, dying⟩
    exact ⟨rest, .ask trivial further, dying⟩

/-- One program after another dies in the first, or in the second after a run of the first. -/
theorem dies_bind_iff :
    Dies (first >>= next) history message ↔ Dies first history message ∨
      ∃ before middle after, history = before ++ after ∧ Run first before middle ∧
        Dies (next middle) after message := by
  constructor
  · rintro ⟨rest, course, dying⟩
    rcases course.of_bind with ⟨left, undone, rfl, inside⟩ | ⟨middle, _, before, after, rfl, inside, past⟩
    · rw [pending?_bind undone] at dying
      exact .inl ⟨left, inside, dying⟩
    · exact .inr ⟨before, middle, after, rfl, inside.run, rest, past, dying⟩
  · rintro (⟨left, inside, dying⟩ | ⟨before, middle, after, rfl, ran, rest, past, dying⟩)
    · refine ⟨left >>= next, inside.within_bind, ?_⟩
      rw [pending?_bind (by rintro middle rfl; cases dying), dying]
    · exact ⟨rest, ran.course.bind past, dying⟩

/-- Nothing dies once all that follows is done. -/
theorem dies_bind_done_iff {f : β → α} :
    Dies (first >>= fun middle => .done (f middle)) history message ↔ Dies first history message := by
  refine dies_bind_iff.trans (or_iff_left ?_)
  rintro ⟨_, _, _, -, -, died⟩
  exact not_dies_done died

/-- A program that only makes calls that spare the shell does not die. -/
theorem not_dies_of_spares (only : Only Spares program) : ¬ Dies program history message := by
  rintro ⟨rest, course, dying⟩
  exact (only.along course).2.pending dying

/-- Whatever might follow, a program that has died does not come to its end. -/
theorem Dies.not_run (died : Dies program history message) : ¬ Run program (history ++ later) value := by
  intro ran
  obtain ⟨rest, course, dying⟩ := died
  cases ran.after_course course with
  | done => cases dying
  | ask answer =>
    cases dying
    exact answer.elim
  | again answer | settled answer =>
    cases dying
    exact answer.elim

end Deaths

/-! ### Reports -/

/-- The calls of a report. -/
def Reports : Call → Prop
  | .printError _ | .die _ => True
  | _ => False

/-- A report that was written. -/
def written (text : String) : Exchange Call Call.Answer :=
  ⟨.printError (errorLine text), .ok ()⟩

/-- A report that was not, or not wholly. -/
def refused (text : String) (fault : IoFault) : Exchange Call Call.Answer :=
  ⟨.printError (errorLine text), .error fault⟩

/-- What a shell ends with that could not write to standard error. -/
def lastWords (fault : IoFault) : String :=
  "failed printing to stderr: " ++ fault.message

section Reports

variable {history : List (Exchange Call Call.Answer)} {text message : String}

theorem complain_reports (text : String) : Only Reports (Shell.complain text) := by
  refine ⟨trivial, fun answer => ?_⟩
  cases answer with
  | ok done => trivial
  | error fault => exact ⟨trivial, nofun⟩

/-- A report that the shell outlives was written. -/
theorem run_complain_iff {value : Unit} :
    Run (Shell.complain text) history value ↔ history = [written text] := by
  refine run_request_iff.trans ?_
  constructor
  · rintro ⟨answer, _, rfl, further⟩
    cases answer with
    | ok done =>
      obtain ⟨rfl, -⟩ := run_done_iff.mp further
      rfl
    | error fault =>
      obtain ⟨impossible, -⟩ := run_ask_iff.mp further
      exact impossible.elim
  · rintro rfl
    exact ⟨.ok (), [], rfl, .done ()⟩

/-- A report that the shell does not outlive was refused. -/
theorem dies_complain_iff :
    Dies (Shell.complain text) history message ↔
      ∃ fault, history = [refused text fault] ∧ message = lastWords fault := by
  have spares : Spares (.printError (errorLine text)) := trivial
  refine (dies_request_iff spares).trans ?_
  constructor
  · rintro ⟨answer, _, rfl, further⟩
    cases answer with
    | ok done => exact absurd further not_dies_done
    | error fault =>
      obtain ⟨rfl, rfl⟩ := dies_die_iff.mp further
      exact ⟨fault, rfl, rfl⟩
  · rintro ⟨fault, rfl, rfl⟩
    exact ⟨.error fault, [], rfl, dies_die_iff.mpr ⟨rfl, rfl⟩⟩

variable {γ : Type} {items : List γ} {textOf : γ → String}

theorem complaints_report (items : List γ) (textOf : γ → String) :
    Only Reports (items.forM fun item => Shell.complain (textOf item)) := by
  induction items with
  | nil => trivial
  | cons item items ih => exact (complain_reports _).bind fun _ => ih

/-- Reports one after another are all written, each once. -/
theorem run_complaints_iff {value : Unit} :
    Run (items.forM fun item => Shell.complain (textOf item)) history value ↔
      history = items.map fun item => written (textOf item) := by
  induction items generalizing history with
  | nil => exact run_done_iff.trans (and_iff_left rfl)
  | cons item items ih =>
    refine run_bind_iff.trans ?_
    constructor
    · rintro ⟨_, _, later, rfl, first, others⟩
      rw [run_complain_iff.mp first, ih.mp others]
      rfl
    · rintro rfl
      exact ⟨[_], (), _, rfl, run_complain_iff.mpr rfl, ih.mpr rfl⟩

/-- Reports one after another end with the first that is refused. -/
theorem dies_complaints_iff :
    Dies (items.forM fun item => Shell.complain (textOf item)) history message ↔
      ∃ told next others fault, items = told ++ next :: others ∧
        history = told.map (fun item => written (textOf item)) ++ [refused (textOf next) fault] ∧
        message = lastWords fault := by
  induction items generalizing history with
  | nil =>
    constructor
    · intro died
      exact absurd died not_dies_done
    · rintro ⟨told, next, others, _, impossible, -⟩
      simp at impossible
  | cons item items ih =>
    refine dies_bind_iff.trans ?_
    constructor
    · rintro (died | ⟨_, _, later, rfl, first, died⟩)
      · obtain ⟨fault, rfl, rfl⟩ := dies_complain_iff.mp died
        exact ⟨[], item, items, fault, rfl, rfl, rfl⟩
      · obtain ⟨told, next, others, fault, rfl, rfl, rfl⟩ := ih.mp died
        rw [run_complain_iff.mp first]
        exact ⟨item :: told, next, others, fault, rfl, rfl, rfl⟩
    · rintro ⟨told, next, others, fault, same, rfl, rfl⟩
      cases told with
      | nil =>
        obtain ⟨rfl, rfl⟩ := List.cons.inj same
        exact .inl (dies_complain_iff.mpr ⟨fault, rfl, rfl⟩)
      | cons first told =>
        obtain ⟨rfl, rfl⟩ := List.cons.inj same
        refine .inr ⟨[_], (), _, rfl, run_complain_iff.mpr rfl, ih.mpr ?_⟩
        exact ⟨told, next, others, fault, rfl, rfl, rfl⟩

end Reports

end LineShell.RefusedReports
