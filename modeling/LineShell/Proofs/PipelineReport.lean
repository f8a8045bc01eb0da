import LineShell.Proofs.PipelineCalls
import Mathlib.Data.List.Basic

/-! What a run of a pipeline does stage by stage, and what it reports. Stages are tried in their
order until one cannot be started, for whatever reason; every stage that was started is waited
for, and the report tells of these stages and of the reason that the others were not. -/
namespace LineShell.PipelineReport
open Dialogue PipelineDescriptors PipelineCalls

/-- The exchanges of the shell with the system. -/
abbrev History : Type :=
  List (Exchange Call Call.Answer)

/-- The search for programs in an exchange. -/
def lookup? : Exchange Call Call.Answer → Option (String × Bool)
  | ⟨.isExecutable path, answer⟩ => some (path, answer)
  | _ => none

/-- The start of a process in an exchange: for which position, what it is to launch, and the
answer. -/
def fork? : Exchange Call Call.Answer → Option (Nat × Launch × Except Errno Nat)
  | ⟨.fork task, answer⟩ => some (task.position, task.launch, answer)
  | _ => none

/-- The position for which a process was started, where the request for one had this answer. -/
def startedOf : Nat × Launch × Except Errno Nat → Option Nat
  | (position, _, .ok _) => some position
  | _ => none

/-- The wait for a process in an exchange. -/
def wait? : Exchange Call Call.Answer → Option (Nat × Except Errno WaitStatus)
  | ⟨.wait pid, answer⟩ => some (pid, answer)
  | _ => none

private theorem wait?_wait (pid : Nat) (answer : Except Errno WaitStatus) :
    wait? ⟨.wait pid, answer⟩ = some (pid, answer) :=
  rfl

/-- One stage that the shell has tried to start. -/
structure Attempt where
  position : Nat
  stage : Stage
  /-- The search for its program, and what that came to. -/
  search : History
  resolved : Except LineError String
  /-- The answer to the fork, where it came to one. -/
  forked : Option (Except Errno Nat)

namespace Attempt

/-- What kept the stage from being started: it has no program, it cannot be handed to the system,
or there is no process for it. -/
def failure? (a : Attempt) : Option LineError :=
  match a.resolved with
  | .error reason => some reason
  | .ok path =>
    match Job.textFault? a.stage path, a.forked with
    | some reason, _ => some (.launchFailed reason)
    | none, some (.error reason) => some (.forkFailed reason)
    | none, _ => none

/-- The request for a process that launches the stage, with its answer. -/
def asked? (a : Attempt) : Option (Nat × Launch × Except Errno Nat) :=
  match a.resolved, a.forked with
  | .ok path, some answer => some (a.position, Job.launchOf a.stage path, answer)
  | _, _ => none

/-- The process that was started. -/
def child? (a : Attempt) : Option ChildProcess :=
  (a.forked.bind Except.toOption).map (⟨·, a.position⟩)

/-- The stage afterwards: it remembers its program as soon as that is found. -/
def after (a : Attempt) : Stage :=
  { a.stage with program := a.resolved.toOption }

/-- The search was one for the program of the stage, and a process was asked for exactly if the
stage could be handed to the system. -/
structure Genuine (searchPaths : List String) (a : Attempt) : Prop where
  searched : Run (Resolver.resolve searchPaths a.stage.name) a.search a.resolved
  forked : a.forked.isSome ↔ ∃ path, a.resolved = .ok path ∧ Job.textFault? a.stage path = none

/-- A stage that cannot be handed to the system fails for that reason. -/
theorem failure?_of_unfit {a : Attempt} {path reason : String} (found : a.resolved = .ok path)
    (fault : Job.textFault? a.stage path = some reason) :
    a.failure? = some (.launchFailed reason) := by
  simp only [failure?, found, fault]

/-- A stage that can be handed to the system fails only if there is no process for it. -/
theorem failure?_of_fit {a : Attempt} {path : String} {answer : Except Errno Nat}
    (found : a.resolved = .ok path) (fit : Job.textFault? a.stage path = none)
    (forked : a.forked = some answer) :
    a.failure? = match answer with
      | .error reason => some (.forkFailed reason)
      | .ok _ => none := by
  cases answer <;> simp only [failure?, found, fit, forked]

/-- Finding the program and no fault with it leads to a fork. -/
theorem Genuine.of_fit {searchPaths : List String} {a : Attempt} {path : String}
    {answer : Except Errno Nat} (searched : Run (Resolver.resolve searchPaths a.stage.name) a.search a.resolved)
    (found : a.resolved = .ok path) (fit : Job.textFault? a.stage path = none)
    (forked : a.forked = some answer) : a.Genuine searchPaths :=
  ⟨searched, fun _ => ⟨path, found, fit⟩, fun _ => by rw [forked]; rfl⟩

theorem Genuine.begun {searchPaths : List String} {a : Attempt} (genuine : a.Genuine searchPaths)
    (clean : a.failure? = none) : ∃ path pid, a.resolved = .ok path ∧ a.forked = some (.ok pid) := by
  cases found : a.resolved with
  | error reason => simp only [failure?, found] at clean; cases clean
  | ok path =>
    have fit : Job.textFault? a.stage path = none := by
      cases fault : Job.textFault? a.stage path with
      | none => rfl
      | some reason => cases (failure?_of_unfit found fault).symm.trans clean
    obtain ⟨answer, forked⟩ := Option.isSome_iff_exists.mp (genuine.forked.mpr ⟨path, found, fit⟩)
    cases answer with
    | error reason => cases (failure?_of_fit found fit forked).symm.trans clean
    | ok pid => exact ⟨path, pid, rfl, forked⟩

theorem Genuine.halted {searchPaths : List String} {a : Attempt} (genuine : a.Genuine searchPaths)
    (failed : a.failure? ≠ none) (pid : Nat) : a.forked ≠ some (.ok pid) := by
  intro forked
  obtain ⟨path, found, fit⟩ := genuine.forked.mp (by rw [forked]; rfl)
  exact failed (failure?_of_fit found fit forked)

/-- The position of a stage that was started. -/
def started? (a : Attempt) : Option Nat :=
  a.asked?.bind startedOf

theorem Genuine.started?_begun {searchPaths : List String} {a : Attempt}
    (genuine : a.Genuine searchPaths) (clean : a.failure? = none) :
    a.started? = some a.position := by
  obtain ⟨path, pid, found, forked⟩ := genuine.begun clean
  simp only [started?, asked?, found, forked]
  rfl

theorem Genuine.started?_halted {searchPaths : List String} {a : Attempt}
    (genuine : a.Genuine searchPaths) (failed : a.failure? ≠ none) : a.started? = none := by
  have childless := genuine.halted failed
  cases found : a.resolved with
  | error reason => simp only [started?, asked?, found]; rfl
  | ok path =>
    cases forked : a.forked with
    | none => simp only [started?, asked?, found, forked]; rfl
    | some answer =>
      cases answer with
      | error reason => simp only [started?, asked?, found, forked]; rfl
      | ok pid => exact absurd forked (childless pid)

end Attempt

/-- The wait for one process: it may be interrupted any number of times before the answer that
counts. -/
structure Awaited where
  child : ChildProcess
  interruptions : Nat
  answer : Except Errno WaitStatus
  final : answer ≠ .error .interrupted

namespace Awaited

/-- The waits for the process, with their answers. -/
def waits (w : Awaited) : List (Nat × Except Errno WaitStatus) :=
  List.replicate w.interruptions (w.child.pid, .error .interrupted) ++ [(w.child.pid, w.answer)]

/-- The exit code that the process gives the pipeline: its own status, 128 and the number of the
signal that ended it, or 127 if nothing is known of its end. -/
def code (w : Awaited) : Int :=
  match w.answer with
  | .ok (.exited _ status) => status
  | .ok (.signaled _ signal _) => 128 + signal.number
  | _ => 127

/-- What is reported of the process. -/
def exit (w : Awaited) : StageExit :=
  ⟨w.child, w.answer.mapError .waitFailed⟩

end Awaited

section Waits

variable {history : History}

theorem reap_run {child : ChildProcess} {exit : StageExit} (ran : Run (Job.reap child) history exit) :
    ∃ w : Awaited, w.child = child ∧ exit = w.exit ∧ history.filterMap wait? = w.waits := by
  obtain ⟨_, _, rfl, waiting⟩ := run_request_iff.mp ran
  obtain ⟨_, answer, _, rfl, waited, noting⟩ := run_bind_iff.mp waiting
  obtain ⟨_, _, rfl, leaving⟩ := run_request_iff.mp noting
  obtain ⟨_, _, rfl, ended⟩ := run_request_iff.mp leaving
  obtain ⟨rfl, rfl⟩ := run_done_iff.mp ended
  obtain ⟨final, earlier, unsettled, rfl⟩ := run_requestUntil_iff.mp waited
  have interrupted : ∀ one ∈ earlier, one = .error .interrupted := by
    intro one member
    have unsettled := unsettled one member
    cases one with
    | ok status => cases unsettled
    | error reason => simpa [Shell.isFinal] using unsettled
  have counts : answer ≠ .error .interrupted := by
    rintro rfl
    cases final
  obtain ⟨count, rfl⟩ : ∃ count, earlier = List.replicate count (.error .interrupted) :=
    ⟨_, List.eq_replicate_of_mem interrupted⟩
  refine ⟨⟨child, count, answer, counts⟩, rfl, rfl, ?_⟩
  rw [List.map_replicate, List.append_assoc, List.filterMap_cons_none rfl, List.filterMap_append,
    List.filterMap_replicate_of_some (wait?_wait _ _)]
  rfl

/-- Every process is waited for, in their order, whatever the waits before it came to. -/
theorem reaps_run {children : List ChildProcess} {exits : List StageExit}
    (ran : Run (children.mapM Job.reap) history exits) :
    ∃ awaited : List Awaited, awaited.map Awaited.child = children ∧
      exits = awaited.map Awaited.exit ∧ history.filterMap wait? = awaited.flatMap Awaited.waits := by
  induction children generalizing history exits with
  | nil =>
    obtain ⟨rfl, rfl⟩ := run_done_iff.mp ran
    exact ⟨[], rfl, rfl, rfl⟩
  | cons child children ih =>
    rw [List.mapM_cons] at ran
    obtain ⟨_, exit, _, rfl, first, later⟩ := run_bind_iff.mp ran
    obtain ⟨exits, others, rfl⟩ := run_bind_done_iff.mp later
    obtain ⟨w, rfl, rfl, waits⟩ := reap_run first
    obtain ⟨awaited, rfl, rfl, further⟩ := ih others
    refine ⟨w :: awaited, rfl, rfl, ?_⟩
    rw [List.filterMap_append, waits, further, List.flatMap_cons]

end Waits

/-! ### The search for a program -/

section Search

variable {history : History}

/-- A program that is found is one that the system has called executable. -/
theorem executable_of_resolve {directories : List String} {name path : String}
    (ran : Run (Resolver.resolve directories name) history (.ok path)) :
    (path, true) ∈ history.filterMap lookup? := by
  by_cases named : name = ""
  · subst named
    cases (run_done_iff.mp ran).2
  induction directories generalizing history with
  | nil =>
    rw [Resolver.resolve_nil named] at ran
    obtain ⟨found, _, rfl, further⟩ := run_request_iff.mp ran
    cases found with
    | true =>
      obtain ⟨_, _, rfl, ended⟩ := run_request_iff.mp further
      cases (run_done_iff.mp ended).2
      exact List.mem_cons_self
    | false => cases (run_done_iff.mp further).2
  | cons directory directories ih =>
    rw [Resolver.resolve_cons named] at ran
    obtain ⟨found, _, rfl, further⟩ := run_request_iff.mp ran
    cases found with
    | true =>
      obtain ⟨_, _, rfl, ended⟩ := run_request_iff.mp further
      cases (run_done_iff.mp ended).2
      exact List.mem_cons_self
    | false => exact List.mem_cons_of_mem _ (ih further)

end Search

/-! ### The stages that are tried -/

/-- Stages that are started in their order: some were started, one may not have been, and the
later ones were not even looked at. -/
structure Division where
  begun : List Attempt
  halted : Option Attempt
  left : List Stage

namespace Division

/-- The stages that the shell has tried to start. -/
def tried (d : Division) : List Attempt :=
  d.begun ++ d.halted.toList

/-- The division tells what became of the stages, from a position on: what the shell asked of the
system for them, what kept the later ones from being started, and what they are afterwards. -/
structure Tells (searchPaths : List String) (position : Nat) (stages after : List Stage)
    (failure : Option LineError) (history : History) (d : Division) : Prop where
  stages : stages = d.tried.map Attempt.stage ++ d.left
  positions : d.tried.map Attempt.position = List.range' position d.tried.length
  genuine : ∀ a ∈ d.tried, a.Genuine searchPaths
  begun : ∀ a ∈ d.begun, a.failure? = none
  halted : ∀ a ∈ d.halted, a.failure? ≠ none
  /-- Only a stage that is not started keeps others from being tried. -/
  complete : d.halted = none → d.left = []
  failure : failure = d.halted.bind Attempt.failure?
  lookups : history.filterMap lookup? = d.tried.flatMap fun a => a.search.filterMap lookup?
  forks : history.filterMap fork? = d.tried.filterMap Attempt.asked?
  after : after = d.tried.map Attempt.after ++ d.left

/-- What a division tells of a history is about its searches and forks only. -/
theorem Tells.along {searchPaths : List String} {position : Nat} {stages after : List Stage}
    {failure : Option LineError} {history longer : History} {d : Division}
    (tells : d.Tells searchPaths position stages after failure history)
    (lookups : longer.filterMap lookup? = history.filterMap lookup?)
    (forks : longer.filterMap fork? = history.filterMap fork?) :
    d.Tells searchPaths position stages after failure longer :=
  { tells with lookups := lookups.trans tells.lookups, forks := forks.trans tells.forks }

private theorem started?_eq (exchange : Exchange Call Call.Answer) :
    started? exchange = (fork? exchange).bind startedOf := by
  obtain ⟨call, answer⟩ := exchange
  cases call with
  | fork task => cases answer <;> rfl
  | _ => rfl

/-- The stages that are started are those before the first that is not. -/
theorem Tells.started {searchPaths : List String} {position : Nat} {stages after : List Stage}
    {failure : Option LineError} {history : History} {d : Division}
    (tells : d.Tells searchPaths position stages after failure history) :
    history.filterMap started? = List.range' position d.begun.length := by
  have begun (a : Attempt) (member : a ∈ d.begun) : a.started? = some a.position :=
    (tells.genuine a (List.mem_append_left _ member)).started?_begun (tells.begun a member)
  have halted (a : Attempt) (member : a ∈ d.halted.toList) : a.started? = none :=
    (tells.genuine a (List.mem_append_right _ member)).started?_halted
      (tells.halted a (Option.mem_toList.mp member))
  have positions : d.begun.map Attempt.position = List.range' position d.begun.length := by
    have whole := tells.positions
    rw [tried, List.map_append, List.length_append, ← List.range'_append_1] at whole
    exact List.append_inj_left whole (by simp)
  calc history.filterMap started?
      = (history.filterMap fork?).filterMap startedOf := by
        rw [List.filterMap_filterMap, funext started?_eq]
    _ = d.tried.filterMap Attempt.started? := by
        rw [tells.forks, List.filterMap_filterMap]
        rfl
    _ = d.begun.map Attempt.position := by
        rw [tried, List.filterMap_append, List.filterMap_eq_nil_iff.mpr halted, List.append_nil]
        exact List.filterMap_eq_map_iff_forall_eq_some.mpr begun
    _ = _ := positions

end Division

section Starts

variable {history : History} {searchPaths : List String} {pipes : List PipeEnds} {position : Nat}
  {stages : List Stage}

private theorem fork?_of_quiet (exchange : Exchange Call Call.Answer) (quiet : Quiet exchange.1) :
    fork? exchange = none := by
  obtain ⟨call, answer⟩ := exchange
  cases call <;> trivial

private theorem forks_of_search {name : String} {resolved : Except LineError String}
    (searching : Run (Resolver.resolve searchPaths name) history resolved) :
    history.filterMap fork? = [] :=
  (resolve_quiet searchPaths name).filterMap_eq_nil searching.course fork?_of_quiet

/-- The first stage is not started, so none is. -/
private theorem tells_halted {a : Attempt} {rest after : List Stage} {reason : LineError}
    {noted : History} (genuine : a.Genuine searchPaths) (failed : a.failure? = some reason)
    (changed : after = a.after :: rest) (lookups : noted.filterMap lookup? = [])
    (forks : noted.filterMap fork? = a.asked?.toList) :
    Division.Tells searchPaths a.position (a.stage :: rest) after (some reason) (a.search ++ noted)
      ⟨[], some a, rest⟩ where
  stages := rfl
  positions := rfl
  genuine one member := by cases List.mem_singleton.mp member; exact genuine
  begun := nofun
  halted one same := by cases same; rw [failed]; nofun
  complete := nofun
  failure := failed.symm
  lookups := by rw [List.filterMap_append, lookups]; simp [Division.tried]
  forks := by
    rw [List.filterMap_append, forks_of_search genuine.searched, forks]
    change a.asked?.toList = [a].filterMap Attempt.asked?
    cases asked : a.asked? <;> simp [asked]
  after := changed

/-- The first stage is started, and the others are divided after it. -/
private theorem tells_begun {a : Attempt} {rest after : List Stage} {failure : Option LineError}
    {task : ChildTask} {pid : Nat} {level : LogLevel} {text : String} {d : Division}
    (genuine : a.Genuine searchPaths) (clean : a.failure? = none)
    (asked : a.asked? = some (task.position, task.launch, .ok pid))
    (tells : d.Tells searchPaths (a.position + 1) rest after failure history) :
    Division.Tells searchPaths a.position (a.stage :: rest) (a.after :: after) failure
      (a.search ++ ⟨.fork task, .ok pid⟩ :: ⟨.log level text, ()⟩ :: history)
      ⟨a :: d.begun, d.halted, d.left⟩ where
  stages := by rw [tells.stages]; rfl
  positions := by
    change a.position :: d.tried.map Attempt.position = List.range' a.position (d.tried.length + 1)
    rw [tells.positions, List.range'_succ]
  genuine := List.forall_mem_cons.mpr ⟨genuine, tells.genuine⟩
  begun := List.forall_mem_cons.mpr ⟨clean, tells.begun⟩
  halted := tells.halted
  complete := tells.complete
  failure := tells.failure
  lookups := by
    change _ = a.search.filterMap lookup? ++ d.tried.flatMap _
    rw [← tells.lookups, List.filterMap_append]
    rfl
  forks := by
    change _ = (a :: d.tried).filterMap Attempt.asked?
    rw [List.filterMap_append, forks_of_search genuine.searched, List.filterMap_cons_some asked,
      ← tells.forks]
    rfl
  after := by rw [tells.after]; rfl

/-- Preparing a launch is the search for its program and nothing else. -/
private theorem prepare_run {stage found : Stage} {outcome : Except LineError Launch}
    (ran : Run (Job.prepare searchPaths stage) history (found, outcome)) :
    (∃ reason, Run (Resolver.resolve searchPaths stage.name) history (.error reason) ∧
      found = stage ∧ outcome = .error reason) ∨
    ∃ path, Run (Resolver.resolve searchPaths stage.name) history (.ok path) ∧
      (Job.holdsNul path = false → found = { stage with program := some path }) ∧
      ((∃ reason, Job.textFault? stage path = some reason ∧
          outcome = .error (.launchFailed reason)) ∨
        (Job.textFault? stage path = none ∧ outcome = .ok (Job.launchOf stage path))) := by
  rw [prepare_eq] at ran
  obtain ⟨_, resolved, _, rfl, searching, decided⟩ := run_bind_iff.mp ran
  obtain ⟨rfl, same⟩ := run_done_iff.mp decided
  rw [List.append_nil]
  cases resolved with
  | error reason =>
    cases same
    exact .inl ⟨reason, searching, rfl, rfl⟩
  | ok path =>
    obtain ⟨rfl, rfl⟩ := Prod.mk.inj same
    refine .inr ⟨path, searching, fun clean => if_neg (Bool.eq_false_iff.mp clean), ?_⟩
    cases fault : Job.textFault? stage path with
    | some reason => exact .inl ⟨reason, rfl, rfl⟩
    | none => exact .inr ⟨rfl, rfl⟩

/-- Stages are tried in their order up to the first that is not started. -/
theorem start_run {started : Job.Started}
    (ran : Run (Job.start searchPaths pipes position stages) history started)
    (fresh : ∀ stage ∈ stages, stage.program = none)
    (honest : ∀ path, (path, true) ∈ history.filterMap lookup? → Job.holdsNul path = false) :
    ∃ d : Division,
      d.Tells searchPaths position stages started.stages started.failure history ∧
      started.children.map some = d.begun.map Attempt.child? := by
  induction stages generalizing position history started with
  | nil =>
    obtain ⟨rfl, rfl⟩ := run_done_iff.mp ran
    exact ⟨⟨[], none, []⟩, ⟨rfl, rfl, nofun, nofun, nofun, fun _ => rfl, rfl, rfl, rfl, rfl⟩, rfl⟩
  | cons stage rest ih =>
    obtain ⟨unset, fresh⟩ := List.forall_mem_cons.mp fresh
    obtain ⟨search, found, outcome, later, rfl, preparing, step⟩ := start_step ran
    rcases prepare_run preparing with
      ⟨reason, searching, rfl, rfl⟩ | ⟨path, searching, remembers, prepared⟩
    · -- The program is not found.
      obtain ⟨⟨_, rfl⟩, rfl⟩ := step
      let a : Attempt := ⟨position, found, search, .error reason, none⟩
      have genuine : a.Genuine searchPaths := ⟨searching, nofun, nofun⟩
      have unchanged : found = a.after := by
        change found = { found with program := none }
        rw [← unset]
      exact ⟨⟨[], some a, rest⟩,
        tells_halted genuine rfl (congrArg (· :: rest) unchanged) rfl rfl, rfl⟩
    have clean : Job.holdsNul path = false := by
      refine honest path ?_
      rw [List.filterMap_append]
      exact List.mem_append_left _ (executable_of_resolve searching)
    cases remembers clean
    rcases prepared with ⟨reason, fault, rfl⟩ | ⟨fit, rfl⟩
    · -- The system does not take the stage.
      obtain ⟨⟨_, rfl⟩, rfl⟩ := step
      let a : Attempt := ⟨position, stage, search, .ok path, none⟩
      have genuine : a.Genuine searchPaths := by
        refine ⟨searching, nofun, ?_⟩
        rintro ⟨_, same, fit⟩
        cases same
        cases fault.symm.trans fit
      exact ⟨⟨[], some a, rest⟩,
        tells_halted genuine (Attempt.failure?_of_unfit rfl fault) rfl rfl rfl, rfl⟩
    rcases step with ⟨reason, _, rfl, rfl⟩ | ⟨pid, _, remaining, others, rfl, starts, rfl⟩
    · -- There is no process for the stage.
      let a : Attempt := ⟨position, stage, search, .ok path, some (.error reason)⟩
      have genuine : a.Genuine searchPaths := .of_fit searching rfl fit rfl
      exact ⟨⟨[], some a, rest⟩,
        tells_halted genuine (Attempt.failure?_of_fit (a := a) rfl fit rfl) rfl rfl rfl, rfl⟩
    · let a : Attempt := ⟨position, stage, search, .ok path, some (.ok pid)⟩
      have genuine : a.Genuine searchPaths := .of_fit searching rfl fit rfl
      obtain ⟨d, tells, children⟩ := ih starts fresh fun path found => honest path <| by
        rw [List.filterMap_append]
        exact List.mem_append_right _ found
      have told : a.failure? = none := Attempt.failure?_of_fit (a := a) rfl fit rfl
      refine ⟨_, tells_begun genuine told rfl tells, ?_⟩
      exact congrArg (some ⟨pid, position⟩ :: ·) children

end Starts

/-! ### The report -/

/-- The report of a run accounts for every stage of its pipeline. -/
structure Accounts (searchPaths : List String) (pipeline after : Pipeline) (report : Report)
    (history : History) (d : Division) (awaited : List Awaited) : Prop where
  /-- The stages were tried in order, and what halted them is the failure reported. -/
  divided : d.Tells searchPaths 0 pipeline.stages after.stages report.failure history
  started : history.filterMap started? = List.range d.begun.length
  /-- The processes waited for are those that were started. -/
  children : awaited.map (some ·.child) = d.begun.map Attempt.child?
  stages : report.stages = awaited.map Awaited.exit
  waits : history.filterMap wait? = awaited.flatMap Awaited.waits
  programs : after.stages.map Stage.program =
    d.tried.map (·.resolved.toOption) ++ d.left.map fun _ => none
  exitCode : report.exitCode = (awaited.getLast?.map Awaited.code).getD 127

private theorem exit_code (w : Awaited) : w.exit.code?.getD notStartedCode = w.code := by
  obtain ⟨child, interruptions, answer, final⟩ := w
  cases answer with
  | error reason => rfl
  | ok status => cases status <;> rfl

private theorem report_exitCode {report : Report} {awaited : List Awaited}
    (stages : report.stages = awaited.map Awaited.exit) :
    report.exitCode = (awaited.getLast?.map Awaited.code).getD 127 := by
  rw [Report.exitCode, stages, List.getLast?_map]
  cases awaited.getLast? with
  | none => rfl
  | some w => exact exit_code w

private theorem unseen_of_opens (exchange : Exchange Call Call.Answer) (opens : Opens exchange.1) :
    lookup? exchange = none ∧ fork? exchange = none ∧ wait? exchange = none := by
  obtain ⟨call, answer⟩ := exchange
  cases call <;> first | exact ⟨rfl, rfl, rfl⟩ | cases opens

private theorem unseen_of_starts (exchange : Exchange Call Call.Answer)
    (starts : Starts exchange.1) : wait? exchange = none := by
  obtain ⟨call, answer⟩ := exchange
  cases call <;> first | rfl | cases starts

private theorem unseen_of_awaits (exchange : Exchange Call Call.Answer)
    (awaits : Awaits exchange.1) : lookup? exchange = none ∧ fork? exchange = none := by
  obtain ⟨call, answer⟩ := exchange
  cases call <;> first | exact ⟨rfl, rfl⟩ | cases awaits

/-- What is not seen when pipes are opened and closed is seen when stages are started or waited
for. -/
theorem seen_in_run {γ : Type} {seen? : Exchange Call Call.Answer → Option γ}
    {opening starting closing waiting : History} {opened : List PipeEnds} {count : Nat}
    {pipes : List PipeEnds} {outcome : Except Errno (List PipeEnds)}
    (opens : Run (Job.openPipes opened count) opening outcome)
    (closes : Run (Job.closePipes pipes) closing ())
    (unseen : ∀ exchange, Opens exchange.1 → seen? exchange = none) :
    (opening ++ (starting ++ (closing ++ waiting))).filterMap seen? =
      starting.filterMap seen? ++ waiting.filterMap seen? := by
  have before := (openPipes_opens opened count).filterMap_eq_nil opens.course unseen
  have between := (closePipes_closes pipes).opens.filterMap_eq_nil closes.course unseen
  rw [List.filterMap_append, List.filterMap_append, List.filterMap_append, before, between]
  rfl

/-- All waits of a run come after the stages have been started. -/
theorem waits_in_run {opening starting closing waiting : History} {opened : List PipeEnds}
    {count position : Nat} {pipes : List PipeEnds} {outcome : Except Errno (List PipeEnds)}
    {searchPaths : List String} {stages : List Stage} {started : Job.Started}
    (opens : Run (Job.openPipes opened count) opening outcome)
    (starts : Run (Job.start searchPaths pipes position stages) starting started)
    (closes : Run (Job.closePipes pipes) closing ()) :
    (opening ++ (starting ++ (closing ++ waiting))).filterMap wait? = waiting.filterMap wait? := by
  rw [seen_in_run opens closes fun one opens => (unseen_of_opens one opens).2.2,
    (start_starts searchPaths pipes position stages).filterMap_eq_nil starts.course unseen_of_starts,
    List.nil_append]

/-- What the programs of the stages are known to be in the end: each stage that was tried has the
one that was found for it, and no other stage has one. -/
private theorem programs_of_tells {searchPaths : List String} {position : Nat}
    {stages after : List Stage} {failure : Option LineError} {history : History} {d : Division}
    (tells : d.Tells searchPaths position stages after failure history)
    (fresh : ∀ stage ∈ stages, stage.program = none) :
    after.map Stage.program = d.tried.map (·.resolved.toOption) ++ d.left.map fun _ => none := by
  have untouched : d.left.map Stage.program = d.left.map fun _ => none := by
    refine List.map_congr_left fun stage member => fresh stage ?_
    rw [tells.stages]
    exact List.mem_append_right _ member
  rw [tells.after, List.map_append, List.map_map, untouched]
  rfl

/-- Running a pipeline tries its stages in order up to the first, if there is one, whose program
is not found, that cannot be handed to the system or that gets no process. It waits for every
process that was started, in the same order and each until its first answer that is not an
interruption, and reports these and the failure. The stages remember the programs that were found.
A path that holds a NUL can never be the path of an executable for the system. -/
theorem run_accounts_for_stages {searchPaths : List String} {pipeline : Pipeline}
    (fresh : ∀ stage ∈ pipeline.stages, stage.program = none) :
    (∀ history rest, Course anyAnswer (Job.run searchPaths pipeline) () history rest () →
      ∃ later value, Run rest later value) ∧
    ∀ history after outcome, Run (Job.run searchPaths pipeline) history (after, outcome) →
      (∀ exchange ∈ history, ∀ reason, ¬Refuses reason exchange) →
      (∀ path, (path, true) ∈ history.filterMap lookup? → Job.holdsNul path = false) →
      ∃ report d awaited, outcome = .ok report ∧
        Accounts searchPaths pipeline after report history d awaited := by
  constructor
  · intro history rest course
    exact ((run_silent searchPaths pipeline).along course).2.exists_run fun _ silent =>
      RefusedReports.answer_of_spares silent.spares
  intro history after outcome ran created honest
  rcases run_parts ran with ⟨reason, opens, rfl, rfl⟩ |
    ⟨pipes, started, exits, opening, starting, closing, waiting, rfl, opens, starts, closes, reaps,
      rfl, rfl⟩
  · obtain ⟨pipes, refused⟩ := openPipes_ok opens created
    cases refused
  have lookups : (opening ++ (starting ++ (closing ++ waiting))).filterMap lookup? =
      starting.filterMap lookup? := by
    rw [seen_in_run opens closes fun one opens => (unseen_of_opens one opens).1,
      (Only.mapM reap_awaits _).filterMap_eq_nil reaps.course fun one awaits =>
        (unseen_of_awaits one awaits).1, List.append_nil]
  have forks : (opening ++ (starting ++ (closing ++ waiting))).filterMap fork? =
      starting.filterMap fork? := by
    rw [seen_in_run opens closes fun one opens => (unseen_of_opens one opens).2.1,
      (Only.mapM reap_awaits _).filterMap_eq_nil reaps.course fun one awaits =>
        (unseen_of_awaits one awaits).2, List.append_nil]
  have waited : (opening ++ (starting ++ (closing ++ waiting))).filterMap wait? =
      waiting.filterMap wait? := waits_in_run opens starts closes
  rw [lookups] at honest
  obtain ⟨d, tells, children⟩ := start_run starts fresh honest
  obtain ⟨awaited, same, rfl, waits⟩ := reaps_run reaps
  have divided := tells.along lookups forks
  refine ⟨_, d, awaited, rfl, ?_⟩
  exact {
    divided
    started := divided.started.trans List.range_eq_range'.symm
    children := by rw [← children, ← same, List.map_map]; rfl
    stages := rfl
    waits := waited.trans waits
    programs := programs_of_tells tells fresh
    exitCode := report_exitCode rfl }

/-- A pipeline of three stages. -/
def timedCounting : Pipeline :=
  ⟨[{ argv := ["sleep", "9"] }, { argv := ["count"] }, { argv := ["cat"] }]⟩

/-- There is no program for the second stage, so only the first is started. The wait for it is
interrupted once, and then it is terminated. -/
theorem run_accounts_for_stages_terminated : ∃ history after report d awaited,
    Run (Job.run ["/bin"] timedCounting) history (after, .ok report) ∧
      Accounts ["/bin"] timedCounting after report history d awaited ∧
      report.failure = some (.commandNotFound "count") ∧ report.exitCode = 143 := by
  have ran : Run (Job.run ["/bin"] timedCounting)
      ([⟨.openPipe, .ok ⟨3, 4⟩⟩, ⟨.closeOnExec 3, .ok ()⟩, ⟨.closeOnExec 4, .ok ()⟩,
        ⟨.openPipe, .ok ⟨5, 6⟩⟩, ⟨.closeOnExec 5, .ok ()⟩, ⟨.closeOnExec 6, .ok ()⟩] ++
        ⟨.isExecutable "/bin/sleep", true⟩ :: ⟨.log _ _, ()⟩ ::
        ⟨.fork _, .ok 41⟩ :: ⟨.log _ _, ()⟩ ::
        ⟨.isExecutable "/bin/count", false⟩ :: ⟨.isExecutable "count", false⟩ :: ⟨.log _ _, ()⟩ ::
        [⟨.close 3, ()⟩, ⟨.close 4, ()⟩, ⟨.close 5, ()⟩, ⟨.close 6, ()⟩, ⟨.setForeground 41, ()⟩,
          ⟨.wait 41, .error .interrupted⟩, ⟨.wait 41, .ok (.signaled 41 .terminate false)⟩,
          ⟨.log _ _, ()⟩, ⟨.setForeground 0, ()⟩]) (_, .ok _) :=
    .ask _ <| .ask _ <| .ask _ <| .ask _ <| .ask _ <| .ask _ <| .ask _ <| .ask _ <| .ask _ <|
    .ask _ <| .ask _ <| .ask _ <| .ask _ <| .ask _ <| .ask _ <| .ask _ <| .ask _ <|
    .ask _ <| .again _ rfl <| .settled _ rfl <| .ask _ <| .ask _ <| .done _
  have fresh : ∀ stage ∈ timedCounting.stages, stage.program = none := by decide
  have accounted := (run_accounts_for_stages fresh).2 _ _ _ ran
  obtain ⟨report, d, awaited, same, accounts⟩ := by
    refine accounted ?created ?honest
    case created => simp [Refuses]
    case honest =>
      intro path member
      have found : "/bin/sleep" = path := by simpa [lookup?] using member
      rw [← found]
      decide
  cases same
  exact ⟨_, _, _, d, awaited, ran, accounts, rfl, rfl⟩

end LineShell.PipelineReport
