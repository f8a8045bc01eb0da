import LineShell.Proofs.PipelineCalls
import LineShell.Proofs.StageWiring
import Mathlib.Logic.Relation

/-! Who holds the ends of the pipes. The shell and the children it has started go on side by side,
each with descriptors of its own, and any of them may be refused a call at any point. Once the
shell waits, an end is open at most in the process of the stage that it belongs to, so a stage
that reads meets the end of its input as soon as the one before it has ended. -/
namespace LineShell.PipeEnds
open Dialogue PipelineDescriptors PipelineCalls
open StageWiring (childAnswers Executes giveUp_safe rewire_safe)

variable {α : Type}

/-! ### The ends that a child keeps -/

/-- What a stage may hold of the pipes: the end it writes to, and the end it reads from. -/
def Own (position : Nat) : Endpoint α → Prop
  | .writeEnd pipe => pipe = position
  | .readEnd pipe => pipe + 1 = position
  | _ => True

/-- The process holds no ends but its own. -/
def OwnEnds (position : Nat) (table : DescriptorTable (Endpoint α)) : Prop :=
  ∀ (number : Nat) (entry : Descriptor (Endpoint α)), table.get? number = some entry →
    Own position entry.file

theorem OwnEnds.afterExec {position : Nat} {table : DescriptorTable (Endpoint α)}
    (own : OwnEnds position table) : OwnEnds position table.afterExec := by
  intro number entry found
  rw [DescriptorTable.get?_afterExec] at found
  exact own number entry (Option.filter_eq_some_iff.mp found).1

theorem own_of_heldAt {before : DescriptorTable α} {number position : Nat}
    {entry : Descriptor (Endpoint α)} (found : heldAt before number = some entry) :
    Own position entry.file := by
  obtain ⟨held, -, rfl⟩ := Option.map_eq_some_iff.mp found
  trivial

/-- A child comes to execute its program with no ends but its own. -/
def admitsOwn (position : Nat) : DescriptorTable (Endpoint α) → ChildCall → Prop
  | table, .execute .. => OwnEnds position table
  | _, _ => True

/-- What a number refers to is what the child was started with, or an end of its own. -/
def Inherits (position : Nat) (start table : DescriptorTable (Endpoint α)) : Prop :=
  ∀ (number : Nat) (entry : Descriptor (Endpoint α)), table.get? number = some entry →
    start.get? number = some entry ∨ Own position entry.file

section Child

variable {before : DescriptorTable α} {stages : List Stage} {task : ChildTask} {position : Nat}
  {start table after : DescriptorTable (Endpoint α)}

private theorem Inherits.duplicate {source target : Nat} (inherits : Inherits position start table)
    (own : ∀ entry, table.get? source = some entry → Own position entry.file)
    (copied : table.duplicate? source target = some after) : Inherits position start after := by
  by_cases same : source = target
  · obtain ⟨_, _, rfl⟩ := Option.map_eq_some_iff.mp copied
    simpa [same] using inherits
  · obtain ⟨copy, found, lookup⟩ := DescriptorTable.get?_duplicate? copied same
    intro number entry present
    rw [lookup] at present
    split at present
    · cases present
      exact .inr (own copy found)
    · exact inherits number entry present

private theorem Inherits.close (inherits : Inherits position start table) (number : Nat) :
    Inherits position start (table.close number) := by
  intro other entry present
  rw [DescriptorTable.get?_close] at present
  split at present
  · cases present
  · exact inherits other entry present

private theorem Inherits.openOutput {path : String} {number : Nat}
    (inherits : Inherits position start table)
    (opened : table.add { file := .output path } = (number, after)) :
    Inherits position start after := by
  obtain ⟨rfl, rfl⟩ := Prod.mk.inj opened
  intro other entry present
  rw [DescriptorTable.get?_set] at present
  split at present
  · cases present
    exact .inr trivial
  · exact inherits other entry present

/-- Of what a child inherits, closing the pipes leaves no end but its own. -/
private theorem Inherits.closeAll (inherits : Inherits task.position start table)
    (holds : Holds before task.pipes start) :
    OwnEnds task.position (closeAll task.pipes table) := by
  intro number entry present
  rw [get?_closeAll] at present
  split at present
  · cases present
  · rename_i other
    rcases inherits number entry present with kept | own
    · rw [holds.others number other] at kept
      exact own_of_heldAt kept
    · exact own

private theorem plumbing_admittedOwn (table : DescriptorTable (Endpoint α)) (call : ChildCall)
    (plumbing : StageWiring.Plumbing call) : admitsOwn position table call := by
  cases call <;> trivial

private theorem become_own (holds : Holds before task.pipes start)
    (inherits : Inherits task.position start table) :
    Safe childAnswers (admitsOwn task.position) task.become (fun _ _ => True) table := by
  refine ((StageWiring.closePipes_safe plumbing_admittedOwn task.pipes table).mono ?_).bind
  rintro ⟨⟩ _ rfl
  have own : OwnEnds task.position (closeAll task.pipes table) := inherits.closeAll holds
  exact Safe.request own fun _ after _ => giveUp_safe plumbing_admittedOwn _ _ after

/-- An end of the pipes beside its stage is a child's own wherever it finds it. -/
private theorem Inherits.own (inherits : Inherits position start table) {number : Nat}
    {given : Descriptor (Endpoint α)} (found : start.get? number = some given)
    (own : Own position given.file) (entry : Descriptor (Endpoint α))
    (present : table.get? number = some entry) : Own position entry.file := by
  rcases inherits number entry present with kept | own'
  · rw [found] at kept
    cases kept
    exact own
  · exact own'

private theorem connectOutput_own (holds : Holds before task.pipes start)
    (inherits : Inherits task.position start table) :
    Safe childAnswers (admitsOwn task.position) task.connectOutput (fun _ _ => True) table := by
  unfold ChildTask.connectOutput
  split
  · rename_i ends found
    have own := inherits.own (holds.writes _ ends found) rfl
    exact rewire_safe plumbing_admittedOwn fun after copied =>
      become_own holds (inherits.duplicate own copied)
  split
  · exact become_own holds inherits
  · refine Safe.request trivial ?_
    rintro (reason | number) opened answered
    · exact giveUp_safe plumbing_admittedOwn _ _ opened
    have inherits := inherits.openOutput answered
    dsimp only
    split
    · exact become_own holds inherits
    · refine rewire_safe plumbing_admittedOwn fun after copied => ?_
      refine Safe.request trivial ?_
      rintro ⟨⟩ _ rfl
      refine become_own holds ((inherits.duplicate ?_ copied).close number)
      intro entry present
      obtain ⟨rfl, rfl⟩ := Prod.mk.inj answered
      rw [DescriptorTable.get?_set, if_pos rfl] at present
      cases present
      trivial

theorem run_own (holds : Holds before task.pipes start) :
    Safe childAnswers (admitsOwn task.position) task.run (fun _ _ => True) start := by
  have inherits : Inherits task.position start start := fun _ _ present => .inl present
  unfold ChildTask.run
  split
  · exact connectOutput_own holds inherits
  · rename_i prior here
    split
    · rename_i ends found
      have own := inherits.own (holds.reads prior ends found) here.symm
      exact rewire_safe plumbing_admittedOwn fun after copied =>
        connectOutput_own holds (inherits.duplicate own copied)
    · exact connectOutput_own holds inherits

private theorem eq_execute {exchange : Exchange ChildCall ChildCall.Answer}
    (executes : Executes exchange) :
    ∃ path argv reason, exchange = ⟨.execute path argv, reason⟩ := by
  obtain ⟨call, answer⟩ := exchange
  cases call with
  | execute path argv => exact ⟨path, argv, answer, rfl⟩
  | _ => cases executes

/-- A child that has tried to execute its program holds no ends but its own from then on, also
where it was refused. -/
theorem ownEnds_of_executes (holds : Holds before task.pipes start)
    {trace : List (Exchange ChildCall ChildCall.Answer)} {rest : Child Nat}
    (course : Course childAnswers task.run start trace rest table)
    (tried : ∃ exchange ∈ trace, Executes exchange) : OwnEnds task.position table := by
  obtain ⟨exchange, member, executes⟩ := tried
  obtain ⟨early, late, rfl⟩ := List.append_of_mem member
  rw [List.append_cons] at course
  obtain ⟨left, after, until_, further⟩ := course.split
  have own : OwnEnds task.position after := by
    obtain ⟨_, before, _, guarded, answered, last⟩ := (run_own holds).guard_of_exchange until_
    obtain ⟨path, argv, reason, rfl⟩ := eq_execute executes
    cases last
    cases answered
    exact guarded
  -- What is left after the refusal only says why.
  have gives := (StageWiring.failurePolicy_of_course (StageWiring.run_disciplined task) until_).launch
    ⟨exchange, by simp, executes⟩
  rcases gives with rfl | rfl
  · rcases further.of_request with ⟨-, -, rfl⟩ | ⟨_, _, _, -, rfl, ended⟩
    · exact own
    · cases ended
      exact own
  · cases further
    exact own

end Child

/-! ### The shell among its children -/

/-- A process that the shell has started for a stage. -/
inductive Process (α : Type) where
  /-- Still the code of the shell: what it has done so far, and what is left. -/
  | child (task : ChildTask) (trace : List (Exchange ChildCall ChildCall.Answer))
      (rest : Child Nat) (table : DescriptorTable (Endpoint α))
  /-- The program that a child has become. -/
  | program (task : ChildTask) (table : DescriptorTable (Endpoint α))
  | ended (task : ChildTask)

namespace Process

/-- What the process was started with. -/
def task : Process α → ChildTask
  | child task .. | program task _ | ended task => task

/-- The descriptors of the process. One that has ended has none. -/
def table : Process α → DescriptorTable (Endpoint α)
  | child _ _ _ table | program _ table => table
  | ended _ => {}

/-- The process has called for its program to be executed, or has ended. -/
def Settled : Process α → Prop
  | child _ trace _ _ => ∃ exchange ∈ trace, Executes exchange
  | program .. | ended _ => True

/-- What a process does next: it makes calls, becomes its program, or ends, be it by a signal. -/
inductive Step : Process α → Process α → Prop where
  | calls {task : ChildTask} {trace more : List (Exchange ChildCall ChildCall.Answer)}
      {rest left : Child Nat} {table after : DescriptorTable (Endpoint α)}
      (course : Course childAnswers rest table more left after) :
      Step (child task trace rest table) (child task (trace ++ more) left after)
  | becomes {task : ChildTask} {trace : List (Exchange ChildCall ChildCall.Answer)}
      {path : String} {argv : List String} {next : Errno → Child Nat}
      {table : DescriptorTable (Endpoint α)} :
      Step (child task trace (.ask (.execute path argv) next) table)
        (program task table.afterExec)
  | ends (process : Process α) : Step process (ended process.task)

/-- How the process has come to what it is. -/
def Sound (before : DescriptorTable α) : Process α → Prop
  | child task trace rest table => ∃ start, Holds before task.pipes start ∧
    Course childAnswers task.run start trace rest table
  | program task table => OwnEnds task.position table
  | ended _ => True

variable {before : DescriptorTable α} {process next : Process α}

theorem Step.task_eq (step : Step process next) : next.task = process.task := by
  cases step <;> rfl

theorem Sound.step (sound : process.Sound before) (step : Step process next) :
    next.Sound before := by
  cases step with
  | calls course =>
    obtain ⟨start, holds, earlier⟩ := sound
    exact ⟨start, holds, earlier.append course⟩
  | becomes =>
    obtain ⟨start, holds, earlier⟩ := sound
    have own := (run_own holds).guard_of_course earlier
    exact own.afterExec
  | ends => trivial

theorem Sound.ownEnds (sound : process.Sound before) (settled : process.Settled) :
    OwnEnds process.task.position process.table := by
  cases process with
  | child task trace rest table =>
    obtain ⟨start, holds, course⟩ := sound
    exact ownEnds_of_executes holds course settled
  | program task table => exact sound
  | ended task => exact nofun

end Process

/-- The shell in the middle of a run, and the processes that it has started. -/
structure System (α : Type) where
  history : List (Exchange Call Call.Answer)
  rest : Shell (Pipeline × Except LineError Report)
  world : World α
  processes : List (Process α)

namespace System

/-- The shell before it runs a pipeline. -/
def start (before : DescriptorTable α) (searchPaths : List String) (pipeline : Pipeline) :
    System α :=
  { history := [], rest := Job.run searchPaths pipeline, world := World.start before,
    processes := [] }

/-- Either the shell goes on or one of the processes does. A process that is forked begins with
the descriptors that the shell has at that moment. -/
inductive Step : System α → System α → Prop where
  | calls {sys : System α} {more : List (Exchange Call Call.Answer)}
      {left : Shell (Pipeline × Except LineError Report)} {w : World α}
      (course : Course answers sys.rest sys.world more left w)
      (childless : more.filterMap started? = []) :
      Step sys { sys with history := sys.history ++ more, rest := left, world := w }
  | forks {sys : System α} {task : ChildTask} {pid : Nat} {w : World α}
      {next : Except Errno Nat → Shell (Pipeline × Except LineError Report)}
      (asks : sys.rest = .ask (.fork task) next)
      (answered : answers sys.world (.fork task) (.ok pid) w) :
      Step sys
        { history := sys.history ++ [⟨.fork task, .ok pid⟩], rest := next (.ok pid), world := w,
          processes := sys.processes ++ [.child task [] task.run sys.world.table] }
  | process {sys : System α} {earlier later : List (Process α)} {one other : Process α}
      (among : sys.processes = earlier ++ one :: later) (step : Process.Step one other) :
      Step sys { sys with processes := earlier ++ other :: later }

/-- What every step keeps: the shell is on a course of its run, and its processes are those of
the stages that it has started. -/
structure Sound (before : DescriptorTable α) (searchPaths : List String) (pipeline : Pipeline)
    (sys : System α) : Prop where
  course : Course answers (Job.run searchPaths pipeline) (World.start before) sys.history sys.rest
    sys.world
  positions : sys.processes.map (·.task.position) = sys.history.filterMap started?
  processes : ∀ process ∈ sys.processes, process.Sound before

variable {before : DescriptorTable α} {searchPaths : List String} {pipeline : Pipeline}
  {sys next : System α}

theorem Sound.step (sound : Sound before searchPaths pipeline sys) (step : Step sys next) :
    Sound before searchPaths pipeline next := by
  cases step with
  | calls course childless =>
    refine ⟨sound.course.append course, ?_, sound.processes⟩
    rw [List.filterMap_append, childless, List.append_nil]
    exact sound.positions
  | @forks task pid w next asks answered =>
    have here := sound.course
    rw [asks] at here
    refine ⟨here.append (.ask answered (.start _ w)), ?_, ?_⟩
    · rw [List.map_append, List.filterMap_append, sound.positions]
      rfl
    · refine List.forall_mem_append.mpr ⟨sound.processes, ?_⟩
      have ready : Ready before pipeline.stages task sys.world.table :=
        (run_safe before searchPaths pipeline).guard_of_course here
      intro process member
      cases List.mem_singleton.mp member
      exact ⟨sys.world.table, ready.holds, .start _ _⟩
  | @process earlier later one other among step =>
    have sounds := sound.processes
    have positions := sound.positions
    rw [among] at sounds positions
    refine ⟨sound.course, ?_, ?_⟩
    · rw [← positions, List.map_append, List.map_append, List.map_cons, List.map_cons, step.task_eq]
    · intro process member
      rcases List.mem_append.mp member with before | rest
      · exact sounds process (List.mem_append_left _ before)
      · rcases List.mem_cons.mp rest with rfl | after
        · exact (sounds one (by simp)).step step
        · exact sounds process (by simp [after])

theorem sound_of_reachable
    (reached : Relation.ReflTransGen Step (start before searchPaths pipeline) sys) :
    Sound before searchPaths pipeline sys := by
  induction reached with
  | refl => exact ⟨.start _ _, rfl, nofun⟩
  | tail _ step ih => exact ih.step step

end System

/-- A run of a pipeline leaves the shell with the descriptors it had, whatever it was refused.
A pipe that cannot be made ready is the error of the run, and then nothing has been started. From
its first wait on the shell holds no end of a pipe, and a process that has come to execute its
program holds none but those beside its stage, of which it is the only process. -/
theorem pipe_ends_never_leak (before : DescriptorTable α) (searchPaths : List String)
    (pipeline : Pipeline) {sys : System α}
    (reached : Relation.ReflTransGen System.Step (.start before searchPaths pipeline) sys) :
    (∀ outcome, sys.rest = .done outcome → Restored before sys.world.table) ∧
    (∀ exchange ∈ sys.history, ∀ reason, Refuses reason exchange →
      sys.processes = [] ∧ (∀ task answer, ⟨.fork task, answer⟩ ∉ sys.history) ∧
      ClosesThenEnds (pipeline, .error (.pipeFailed reason)) sys.rest) ∧
    (ReachedWait sys.history sys.rest → Restored before sys.world.table) ∧
    (∀ process ∈ sys.processes, process.Settled →
      OwnEnds process.task.position process.table) ∧
    sys.processes.map (·.task.position) = List.range sys.processes.length := by
  have sound := System.sound_of_reachable reached
  have course := sound.course
  refine ⟨?_, ?_, restored_of_reachedWait before course, ?_, ?_⟩
  · intro outcome ended
    rw [ended] at course
    exact (run_safe before searchPaths pipeline).along course
  · intro exchange member reason refused
    obtain ⟨childless, closes⟩ := run_refused course member refused
    refine ⟨List.eq_nil_iff_forall_not_mem.mpr fun process present => ?_, childless, closes⟩
    have position : process.task.position ∈ sys.history.filterMap started? := by
      rw [← sound.positions]
      exact List.mem_map_of_mem present
    obtain ⟨⟨call, answer⟩, forked, started⟩ := List.mem_filterMap.mp position
    cases call with
    | fork task => exact childless task answer forked
    | _ => cases started
  · intro process member settled
    exact (sound.processes process member).ownEnds settled
  · obtain ⟨count, positions⟩ := run_positions course
    rw [← sound.positions] at positions
    have length : sys.processes.length = count := by
      simpa using congrArg List.length positions
    rw [positions, length]

/-- A pipeline of two stages. -/
def countedListing : Pipeline :=
  ⟨[{ argv := ["ls"] }, { argv := ["count"] }]⟩

/-- The second stage has no program, so the shell waits for the first one alone, and nothing is
left that reads from the pipe. -/
theorem pipe_ends_never_leak_unread : ∃ sys : System String,
    Relation.ReflTransGen System.Step (.start StageWiring.terminal [] countedListing) sys ∧
    ReachedWait sys.history sys.rest ∧ Restored StageWiring.terminal sys.world.table ∧
    ∃ table, sys.processes = [.program ⟨Job.launchOf { argv := ["ls"] } "ls", 0, [⟨4, 5⟩]⟩ table] ∧
      table.file? 1 = some (.writeEnd 0) ∧ OwnEnds 0 table := by
  have opened : Relation.ReflTransGen System.Step (.start StageWiring.terminal [] countedListing)
      ⟨_ ++ [⟨.openPipe, .ok ⟨4, 5⟩⟩, ⟨.closeOnExec 4, .ok ()⟩, ⟨.closeOnExec 5, .ok ()⟩,
        ⟨.isExecutable _, true⟩, ⟨.log _ _, ()⟩], .ask (.fork _) _, _, []⟩ :=
    .single (.calls (.ask rfl <| .ask ⟨_, rfl, rfl⟩ <| .ask ⟨_, rfl, rfl⟩ <| .ask rfl <|
      .ask rfl <| .start _ _) rfl)
  have forked : Relation.ReflTransGen System.Step _
      ⟨_ ++ [⟨.fork _, .ok 7⟩], _, _, [.child _ [] _ _]⟩ := opened.tail (.forks rfl rfl)
  have waiting : Relation.ReflTransGen System.Step _
      ⟨_ ++ [⟨.log _ _, ()⟩, ⟨.isExecutable _, false⟩, ⟨.log _ _, ()⟩, ⟨.close 4, ()⟩,
        ⟨.close 5, ()⟩, ⟨.setForeground 7, ()⟩], .insist (.wait 7) _ _, _, [.child _ [] _ _]⟩ :=
    forked.tail (.calls (.ask rfl <| .ask rfl <| .ask rfl <| .ask rfl <| .ask rfl <| .ask rfl <|
      .start _ _) rfl)
  have connected : Relation.ReflTransGen System.Step _
      ⟨_, _, _, [] ++ .child _ (_ ++ [⟨.duplicate 5 1, .ok ()⟩, ⟨.close 4, ()⟩, ⟨.close 5, ()⟩])
        (.ask (.execute "ls" _) _) _ :: []⟩ :=
    waiting.tail (.process rfl (.calls (.ask rfl <| .ask rfl <| .ask rfl <| .start _ _)))
  have reached : Relation.ReflTransGen System.Step _ ⟨_, _, _, [] ++ .program _ _ :: []⟩ :=
    connected.tail (.process rfl .becomes)
  obtain ⟨-, -, restored, own, -⟩ := pipe_ends_never_leak _ _ _ reached
  exact ⟨_, reached, ⟨7, .inl rfl⟩, restored ⟨7, .inl rfl⟩, _, rfl, rfl,
    own _ List.mem_cons_self trivial⟩

end LineShell.PipeEnds
