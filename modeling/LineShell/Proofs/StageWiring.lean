import LineShell.Proofs.PipelineDescriptors

/-! What the program of a stage finds on its descriptors. A child starts with the shell's
descriptors and may be refused any of its calls; a program that it comes to execute is connected
to the pipes beside its stage, or to the redirection after the last one, and keeps nothing else
that the shell opened for the pipeline. -/
namespace LineShell.StageWiring
open Dialogue PipelineDescriptors

variable {α : Type}

/-- How the system answers a child. A call that is refused changes nothing. -/
def childAnswers : Rule ChildCall ChildCall.Answer (DescriptorTable (Endpoint α))
  | table, .duplicate source target, .ok (), after => table.duplicate? source target = some after
  | table, .openOutput path, .ok number, after =>
    table.add { file := .output path } = (number, after)
  | table, .close number, (), after => after = table.close number
  | table, _, _, after => after = table

/-- The standard input of the program of a stage. -/
def stdinOf (before : DescriptorTable α) (position : Nat) : Option (Descriptor (Endpoint α)) :=
  if 0 < position then some { file := .readEnd (position - 1) } else heldAt before.afterExec 0

/-- The standard output of the program of a stage: the pipe that follows, or the file of a
redirection after the last stage. -/
def stdoutOf (before : DescriptorTable α) (stages position : Nat) (redirect : Option String) :
    Option (Descriptor (Endpoint α)) :=
  if position + 1 < stages then some { file := .writeEnd position }
  else match redirect with
    | some path => some { file := .output path }
    | none => heldAt before.afterExec 1

theorem stdoutOf_inner {before : DescriptorTable α} {stages position : Nat}
    {redirect : Option String} (inner : position + 1 < stages) :
    stdoutOf before stages position redirect = some { file := .writeEnd position } :=
  if_pos inner

theorem stdoutOf_last {before : DescriptorTable α} {stages position : Nat}
    {redirect : Option String} (last : position + 1 = stages) :
    stdoutOf before stages position redirect = match redirect with
      | some path => some { file := .output path }
      | none => heldAt before.afterExec 1 :=
  if_neg (by omega)

/-- What a number refers to in the program of a stage. Past the standard input and output it is
what the shell lets every program keep. -/
def wired (before : DescriptorTable α) (stages position : Nat) (redirect : Option String) :
    Nat → Option (Descriptor (Endpoint α))
  | 0 => stdinOf before position
  | 1 => stdoutOf before stages position redirect
  | number => heldAt before.afterExec number

/-- A child executes the program of its stage with the descriptors of that stage, and opens no
file but the target of the last one. -/
def admits (before : DescriptorTable α) (stages : List Stage) (position : Nat) (stage : Stage) :
    DescriptorTable (Endpoint α) → ChildCall → Prop
  | table, .execute _ argv => argv = stage.argv ∧
    ∀ number, table.afterExec.get? number =
      wired before stages.length position stage.redirect number
  | _, .openOutput path => position + 1 = stages.length ∧ stage.redirect = some path
  | _, _ => True

/-- Programs started from the table have these standard descriptors, and every other number is as
it was at the start. -/
structure Connected (start : DescriptorTable (Endpoint α))
    (input output : Option (Descriptor (Endpoint α))) (table : DescriptorTable (Endpoint α)) :
    Prop where
  taken : ∀ number ≤ 1, (table.get? number).isSome
  input : table.afterExec.get? 0 = input
  output : table.afterExec.get? 1 = output
  others : ∀ number, 1 < number → table.get? number = start.get? number

/-- A child at its start: it has the descriptors of the shell, the standard ones among them, and
the launch of one stage. -/
structure Assigned (before : DescriptorTable α) (stages : List Stage) (task : ChildTask)
    (stage : Stage) (start : DescriptorTable (Endpoint α)) : Prop where
  standard : ∀ number < 3, (before.get? number).isSome
  holds : Holds before task.pipes start
  count : task.pipes.length = stages.length - 1
  present : stages[task.position]? = some stage
  argv : task.launch.argv = stage.argv
  redirect : task.launch.redirect = stage.redirect

variable {before : DescriptorTable α} {stages : List Stage} {stage : Stage} {task : ChildTask}
  {start table : DescriptorTable (Endpoint α)} {input output : Option (Descriptor (Endpoint α))}

/-- The standard descriptors are none of the ends of the pipes. -/
private theorem Assigned.one_lt_of_isEnd (child : Assigned before stages task stage start)
    {number : Nat} (isEnd : IsEnd task.pipes number) : 1 < number := by
  refine Nat.lt_of_not_le fun small => ?_
  have opened := child.standard number (by omega)
  rw [child.holds.fresh number isEnd] at opened
  cases opened

private theorem Assigned.position_lt (child : Assigned before stages task stage start) :
    task.position < stages.length :=
  (List.getElem?_eq_some_iff.mp child.present).1

/-- At the start the standard descriptors are the shell's own. -/
private theorem Assigned.connected (child : Assigned before stages task stage start) :
    Connected start (heldAt before.afterExec 0) (heldAt before.afterExec 1) start := by
  have standing {number : Nat} (small : number ≤ 1) :
      start.get? number = heldAt before number := by
    refine child.holds.others number fun isEnd => ?_
    exact absurd (child.one_lt_of_isEnd isEnd) (by omega)
  constructor
  case taken =>
    intro number small
    rw [standing small, heldAt, Option.isSome_map]
    exact child.standard number (by omega)
  case input => rw [DescriptorTable.get?_afterExec, standing (by omega), heldAt_afterExec]
  case output => rw [DescriptorTable.get?_afterExec, standing (by omega), heldAt_afterExec]
  case others => exact fun _ _ => rfl

section Copies

variable {after : DescriptorTable (Endpoint α)} {file : Endpoint α} {target : Nat}

private theorem isSome_of_copied (taken : ∀ number ≤ 1, (table.get? number).isSome)
    (copied : ∀ number, after.get? number =
      if number = target then some { file } else table.get? number) :
    ∀ number ≤ 1, (after.get? number).isSome := by
  intro number small
  rw [copied]
  split
  · rfl
  · exact taken number small

/-- A copy is what programs find there, and nowhere else do they find anything new. -/
private theorem afterExec_of_copied (copied : ∀ number, after.get? number =
      if number = target then some { file } else table.get? number) (number : Nat) :
    after.afterExec.get? number =
      if number = target then some { file } else table.afterExec.get? number := by
  rw [DescriptorTable.get?_afterExec, DescriptorTable.get?_afterExec, copied]
  split
  · rfl
  · rfl

private theorem Connected.copyInput (connected : Connected start input output table)
    (copied : ∀ number, after.get? number =
      if number = 0 then some { file } else table.get? number) :
    Connected start (some { file }) output after where
  taken := isSome_of_copied connected.taken copied
  input := by rw [afterExec_of_copied copied, if_pos rfl]
  output := by rw [afterExec_of_copied copied, if_neg (by omega), connected.output]
  others number past := by rw [copied, if_neg (by omega), connected.others number past]

private theorem Connected.copyOutput (connected : Connected start input output table)
    (copied : ∀ number, after.get? number =
      if number = 1 then some { file } else table.get? number) :
    Connected start input (some { file }) after where
  taken := isSome_of_copied connected.taken copied
  input := by rw [afterExec_of_copied copied, if_neg (by omega), connected.input]
  output := by rw [afterExec_of_copied copied, if_pos rfl]
  others number past := by rw [copied, if_neg (by omega), connected.others number past]

end Copies

/-- A file that is opened takes a number past the standard ones. -/
private theorem Connected.opened (connected : Connected start input output table)
    {after : DescriptorTable (Endpoint α)} {file : Endpoint α} {number : Nat}
    (answered : table.add { file } = (number, after)) :
    1 < number ∧ table.get? number = none ∧ ∀ other,
      after.get? other = if other = number then some { file } else table.get? other := by
  obtain ⟨rfl, rfl⟩ := Prod.mk.inj answered.symm
  have free := table.get?_lowestFree
  refine ⟨Nat.lt_of_not_le fun small => ?_, free, fun other => by simp⟩
  have taken := connected.taken _ small
  rw [free] at taken
  cases taken

section Plumbing

variable {guard : DescriptorTable (Endpoint α) → ChildCall → Prop}

/-- The calls that no condition on the program of a stage is about. -/
def Plumbing : ChildCall → Prop
  | .duplicate .. | .close _ | .printError _ => True
  | _ => False

theorem closePipes_safe (admitted : ∀ table call, Plumbing call → guard table call)
    (pipes : List PipeEnds) (table : DescriptorTable (Endpoint α)) :
    Safe childAnswers guard (ChildTask.closePipes pipes)
      (fun _ after => after = closeAll pipes table) table := by
  induction pipes generalizing table with
  | nil => rfl
  | cons ends rest ih =>
    refine Safe.request (admitted _ _ trivial) ?_
    rintro ⟨⟩ _ rfl
    refine Safe.request (admitted _ _ trivial) ?_
    rintro ⟨⟩ _ rfl
    exact ih ((table.close ends.read).close ends.write)

theorem giveUp_safe (admitted : ∀ table call, Plumbing call → guard table call)
    (message : String) (status : Nat) (table : DescriptorTable (Endpoint α)) :
    Safe childAnswers guard (ChildTask.giveUp message status) (fun _ _ => True) table :=
  Safe.request (admitted _ _ trivial) fun _ _ _ => trivial

/-- A child that cannot connect a descriptor gives up; otherwise it goes on with the copy. -/
theorem rewire_safe (admitted : ∀ table call, Plumbing call → guard table call)
    {source target : Nat} {next : Child Nat}
    (further : ∀ after, table.duplicate? source target = some after →
      Safe childAnswers guard next (fun _ _ => True) after) :
    Safe childAnswers guard (task.rewire source target next) (fun _ _ => True) table := by
  refine Safe.request (admitted _ _ trivial) ?_
  rintro (reason | ⟨⟨⟩⟩) after answered
  · exact giveUp_safe admitted _ _ after
  · exact further after answered

end Plumbing

private theorem plumbing_admitted {position : Nat} (table : DescriptorTable (Endpoint α))
    (call : ChildCall) (plumbing : Plumbing call) : admits before stages position stage table call := by
  cases call <;> trivial

/-- Once the pipes are closed, a connected child has the descriptors of its stage. -/
private theorem Assigned.wired (child : Assigned before stages task stage start)
    (connected : Connected start (stdinOf before task.position)
      (stdoutOf before stages.length task.position stage.redirect) table) (number : Nat) :
    (closeAll task.pipes table).afterExec.get? number =
      wired before stages.length task.position stage.redirect number := by
  have standing (small : number ≤ 1) : ¬IsEnd task.pipes number := fun isEnd =>
    absurd (child.one_lt_of_isEnd isEnd) (by omega)
  rw [DescriptorTable.get?_afterExec, get?_closeAll]
  match number with
  | 0 =>
    rw [if_neg (standing (by omega)), ← DescriptorTable.get?_afterExec, connected.input]
    rfl
  | 1 =>
    rw [if_neg (standing (by omega)), ← DescriptorTable.get?_afterExec, connected.output]
    rfl
  | number + 2 =>
    change _ = heldAt before.afterExec (number + 2)
    rw [heldAt_afterExec]
    split
    · rename_i isEnd
      rw [heldAt, child.holds.fresh _ isEnd, Option.map_none]
    · rename_i other
      rw [connected.others _ (by omega), child.holds.others _ other]

private theorem become_safe (child : Assigned before stages task stage start)
    (connected : Connected start (stdinOf before task.position)
      (stdoutOf before stages.length task.position stage.redirect) table) :
    Safe childAnswers (admits before stages task.position stage) task.become (fun _ _ => True)
      table := by
  refine ((closePipes_safe plumbing_admitted task.pipes table).mono ?_).bind
  rintro ⟨⟩ _ rfl
  exact Safe.request ⟨child.argv, child.wired connected⟩ fun _ after _ =>
    giveUp_safe plumbing_admitted _ _ after

/-- A child that goes on has a copy without a mark, and nothing else has changed. -/
private theorem copy_safe {position source target : Nat} {entry : Descriptor (Endpoint α)}
    {next : Child Nat} (found : table.get? source = some entry) (different : source ≠ target)
    (further : ∀ after : DescriptorTable (Endpoint α), (∀ number, after.get? number =
        if number = target then some { entry with closeOnExec := false }
        else table.get? number) →
      Safe childAnswers (admits before stages position stage) next (fun _ _ => True) after) :
    Safe childAnswers (admits before stages position stage) (task.rewire source target next)
      (fun _ _ => True) table := by
  refine rewire_safe plumbing_admitted fun after answered => ?_
  obtain ⟨copied, foundCopied, lookup⟩ := DescriptorTable.get?_duplicate? answered different
  obtain rfl : entry = copied := Option.some.inj (found.symm.trans foundCopied)
  exact further after lookup

private theorem connectOutput_safe (child : Assigned before stages task stage start)
    (connected : Connected start (stdinOf before task.position) (heldAt before.afterExec 1) table) :
    Safe childAnswers (admits before stages task.position stage) task.connectOutput
      (fun _ _ => True) table := by
  have inside := child.position_lt
  have count := child.count
  unfold ChildTask.connectOutput
  split
  · rename_i ends found
    have room := (List.getElem?_eq_some_iff.mp found).1
    have above := child.one_lt_of_isEnd ⟨ends, List.mem_of_getElem? found, .inr rfl⟩
    have atWrite := (connected.others _ above).trans (child.holds.writes _ ends found)
    refine copy_safe atWrite (by omega) fun after lookup => become_safe child ?_
    rw [stdoutOf_inner (by omega)]
    exact connected.copyOutput lookup
  · rename_i past
    have last : task.position + 1 = stages.length := by
      have := List.getElem?_eq_none_iff.mp past
      omega
    rw [child.redirect]
    split
    · rename_i absent
      refine become_safe child ?_
      rw [stdoutOf_last last, absent]
      exact connected
    · rename_i path target
      refine Safe.request ⟨last, target⟩ ?_
      rintro (reason | number) opened answered
      · exact giveUp_safe plumbing_admitted _ _ opened
      obtain ⟨above, free, lookup⟩ := connected.opened answered
      dsimp only
      rw [if_neg (by simpa using Nat.ne_of_gt above)]
      refine copy_safe (by rw [lookup, if_pos rfl]) (by omega) fun after copied => ?_
      refine Safe.request trivial ?_
      rintro ⟨⟩ _ rfl
      refine become_safe child ?_
      rw [stdoutOf_last last, target]
      refine connected.copyOutput fun other => ?_
      rw [DescriptorTable.get?_close, copied, lookup]
      by_cases same : other = number
      · rw [if_pos same, if_neg (by omega), same, free]
      · rw [if_neg same, if_neg same]

theorem run_safe (child : Assigned before stages task stage start) :
    Safe childAnswers (admits before stages task.position stage) task.run (fun _ _ => True)
      start := by
  have inside := child.position_lt
  have count := child.count
  unfold ChildTask.run
  split
  · rename_i first
    refine connectOutput_safe child ?_
    rw [stdinOf, if_neg (by omega)]
    exact child.connected
  · rename_i prior here
    have room : prior < task.pipes.length := by omega
    rw [List.getElem?_eq_getElem room]
    have found := List.getElem?_eq_getElem room
    have above := child.one_lt_of_isEnd ⟨_, List.getElem_mem room, .inl rfl⟩
    refine copy_safe (child.holds.reads _ _ found) (by omega) fun after lookup => ?_
    refine connectOutput_safe child ?_
    rw [stdinOf, if_pos (by omega), here, Nat.succ_sub_one]
    exact child.connected.copyInput lookup

/-! ### Calls that are refused -/

/-- The child was refused a descriptor. -/
def SetupFails : Exchange ChildCall ChildCall.Answer → Prop
  | ⟨.duplicate .., .error _⟩ => True
  | ⟨.openOutput _, .error _⟩ => True
  | _ => False

/-- The child has tried to execute its program. An answer to that is a failure. -/
def Executes : Exchange ChildCall ChildCall.Answer → Prop
  | ⟨.execute .., _⟩ => True
  | _ => False

/-- All that is left is to say why, and to end with a status. -/
def GivesUp (message : String) (status : Nat) (rest : Child Nat) : Prop :=
  rest = .ask (.printError message) (fun _ => .done status) ∨ rest = .done status

/-- What a child that is refused a call does from there on: it ends with status 1 without its
descriptors, and with status 126 without its program. It does not end in any other way. -/
structure FailurePolicy (task : ChildTask) (trace : List (Exchange ChildCall ChildCall.Answer))
    (rest : Child Nat) : Prop where
  setup : (∃ exchange ∈ trace, SetupFails exchange) → (∀ exchange ∈ trace, ¬Executes exchange) ∧
    GivesUp task.launch.setupFailure 1 rest
  launch : (∃ exchange ∈ trace, Executes exchange) →
    GivesUp task.launch.launchFailure 126 rest
  ends : ∀ status, rest = .done status →
    ∃ exchange ∈ trace, SetupFails exchange ∨ Executes exchange

/-- A program that gives up as soon as it is refused a call, and otherwise goes on to execute. -/
def Disciplined (task : ChildTask) : Child Nat → Prop
  | .ask (.duplicate ..) next =>
    (∀ reason, next (.error reason) = ChildTask.giveUp task.launch.setupFailure
      setupFailureStatus) ∧ Disciplined task (next (.ok ()))
  | .ask (.openOutput _) next =>
    (∀ reason, next (.error reason) = ChildTask.giveUp task.launch.setupFailure
      setupFailureStatus) ∧ ∀ descriptor, Disciplined task (next (.ok descriptor))
  | .ask (.close _) next => Disciplined task (next ())
  | .ask (.execute ..) next =>
    ∀ reason, next reason = ChildTask.giveUp task.launch.launchFailure launchFailureStatus
  | _ => False

private theorem closePipes_disciplined (pipes : List PipeEnds) {next : Unit → Child Nat}
    (further : Disciplined task (next ())) :
    Disciplined task (ChildTask.closePipes pipes >>= next) := by
  induction pipes with
  | nil => exact further
  | cons ends rest ih => exact ih

private theorem become_disciplined (task : ChildTask) : Disciplined task task.become :=
  closePipes_disciplined task.pipes fun _ => rfl

private theorem rewire_disciplined {source target : Nat} {next : Child Nat}
    (further : Disciplined task next) : Disciplined task (task.rewire source target next) :=
  ⟨fun _ => rfl, further⟩

private theorem connectOutput_disciplined (task : ChildTask) :
    Disciplined task task.connectOutput := by
  have become := become_disciplined task
  unfold ChildTask.connectOutput
  split
  · exact rewire_disciplined become
  split
  · exact become
  · refine ⟨fun _ => rfl, fun descriptor => ?_⟩
    change Disciplined task (if descriptor == 1 then _ else _)
    split
    · exact become
    · exact rewire_disciplined become

theorem run_disciplined (task : ChildTask) : Disciplined task task.run := by
  have connect := connectOutput_disciplined task
  unfold ChildTask.run
  split
  · exact connect
  split
  · exact rewire_disciplined connect
  · exact connect

section Courses

variable {σ : Type} {rule : Rule ChildCall ChildCall.Answer σ} {s t : σ}
  {trace : List (Exchange ChildCall ChildCall.Answer)} {rest program : Child Nat}

/-- A child that gives up makes no call but the one that says why. -/
private theorem course_of_giveUp {message : String} {status : Nat}
    (course : Course rule (ChildTask.giveUp message status) s trace rest t) :
    (∀ exchange ∈ trace, ¬SetupFails exchange ∧ ¬Executes exchange) ∧
      GivesUp message status rest := by
  change Course rule (.ask (.printError message) fun _ => .done status) s trace rest t at course
  cases course with
  | start => exact ⟨nofun, .inl rfl⟩
  | ask answered further =>
    cases further
    refine ⟨fun exchange member => ?_, .inr rfl⟩
    cases List.mem_singleton.mp member
    exact ⟨nofun, nofun⟩

private theorem FailurePolicy.cons {exchange : Exchange ChildCall ChildCall.Answer}
    (policy : FailurePolicy task trace rest) (clean : ¬SetupFails exchange)
    (still : ¬Executes exchange) : FailurePolicy task (exchange :: trace) rest where
  setup failed := by
    have refused : ∃ other ∈ trace, SetupFails other := by simpa [clean] using failed
    obtain ⟨never, gives⟩ := policy.setup refused
    exact ⟨List.forall_mem_cons.mpr ⟨still, never⟩, gives⟩
  launch tried := by
    have later : ∃ other ∈ trace, Executes other := by simpa [still] using tried
    exact policy.launch later
  ends status ended := by
    obtain ⟨other, member, either⟩ := policy.ends status ended
    exact ⟨other, List.mem_cons_of_mem exchange member, either⟩

private theorem FailurePolicy.of_setup {exchange : Exchange ChildCall ChildCall.Answer}
    (fails : SetupFails exchange) (still : ¬Executes exchange)
    (course : Course rule (ChildTask.giveUp task.launch.setupFailure setupFailureStatus) s trace
      rest t) : FailurePolicy task (exchange :: trace) rest := by
  obtain ⟨quiet, gives⟩ := course_of_giveUp course
  have never : ∀ other ∈ exchange :: trace, ¬Executes other :=
    List.forall_mem_cons.mpr ⟨still, fun other member => (quiet other member).2⟩
  exact ⟨fun _ => ⟨never, gives⟩, fun ⟨other, member, tried⟩ => absurd tried (never other member),
    fun _ _ => ⟨exchange, List.mem_cons_self, .inl fails⟩⟩

private theorem FailurePolicy.of_execute {exchange : Exchange ChildCall ChildCall.Answer}
    (tried : Executes exchange) (clean : ¬SetupFails exchange)
    (course : Course rule (ChildTask.giveUp task.launch.launchFailure launchFailureStatus) s trace
      rest t) : FailurePolicy task (exchange :: trace) rest := by
  obtain ⟨quiet, gives⟩ := course_of_giveUp course
  have unfailed : ∀ other ∈ exchange :: trace, ¬SetupFails other :=
    List.forall_mem_cons.mpr ⟨clean, fun other member => (quiet other member).1⟩
  exact ⟨fun ⟨other, member, fails⟩ => absurd fails (unfailed other member), fun _ => gives,
    fun _ _ => ⟨exchange, List.mem_cons_self, .inr tried⟩⟩

theorem failurePolicy_of_course (disciplined : Disciplined task program)
    (course : Course rule program s trace rest t) : FailurePolicy task trace rest := by
  induction course with
  | start program s =>
    refine ⟨nofun, nofun, ?_⟩
    rintro status rfl
    cases disciplined
  | @ask request next answer _ _ _ _ _ answered further ih =>
    cases request with
    | duplicate source target =>
      rcases answer with reason | ⟨⟨⟩⟩
      · rw [disciplined.1 reason] at further
        exact .of_setup trivial nofun further
      · exact (ih disciplined.2).cons nofun nofun
    | openOutput path =>
      rcases answer with reason | descriptor
      · rw [disciplined.1 reason] at further
        exact .of_setup trivial nofun further
      · exact (ih (disciplined.2 descriptor)).cons nofun nofun
    | close descriptor => exact (ih disciplined).cons nofun nofun
    | execute path argv =>
      rw [disciplined answer] at further
      exact .of_execute trivial nofun further
    | printError text => cases disciplined
  | again answered unsettled further ih => cases disciplined
  | settled answered final further ih => cases disciplined

end Courses

/-- Every child that a run of a pipeline starts is that of one stage. Where it comes to execute a
program, standard input and output are the pipes beside the stage, the redirection of the last
stage takes the place of the shell's standard output, and every other descriptor is one of the
shell's own. The target of a redirection is opened for no other stage. A child that is refused a
descriptor executes nothing. -/
theorem stage_wiring (before : DescriptorTable α)
    (standard : ∀ number < 3, (before.get? number).isSome) (searchPaths : List String)
    (pipeline : Pipeline) {history : List (Exchange Call Call.Answer)} {task : ChildTask}
    {next : Except Errno Nat → Shell (Pipeline × Except LineError Report)} {w : World α}
    (forks : Course answers (Job.run searchPaths pipeline) (World.start before) history
      (.ask (.fork task) next) w) :
    ∃ stage, pipeline.stages[task.position]? = some stage ∧
      (∀ trace path argv rest table,
        Course childAnswers task.run w.table trace (.ask (.execute path argv) rest) table →
        argv = stage.argv ∧ ∀ number, table.afterExec.get? number =
          wired before pipeline.stages.length task.position stage.redirect number) ∧
      (∀ trace path rest table,
        Course childAnswers task.run w.table trace (.ask (.openOutput path) rest) table →
        task.position + 1 = pipeline.stages.length ∧ stage.redirect = some path) ∧
      ∀ trace rest table, Course childAnswers task.run w.table trace rest table →
        FailurePolicy task trace rest := by
  have ready : Ready before pipeline.stages task w.table :=
    (PipelineDescriptors.run_safe before searchPaths pipeline).guard_of_course forks
  obtain ⟨stage, path, present, own⟩ := ready.launch
  have child : Assigned before pipeline.stages task stage w.table :=
    ⟨standard, ready.holds, ready.count, present, by rw [own]; rfl, by rw [own]; rfl⟩
  refine ⟨stage, present, ?_, ?_, ?_⟩
  · intro trace path argv rest table course
    exact (run_safe child).guard_of_course course
  · intro trace path rest table course
    exact (run_safe child).guard_of_course course
  · intro trace rest table course
    exact failurePolicy_of_course (run_disciplined task) course

/-- A shell on a terminal, with a log that its programs do not keep. -/
def terminal : DescriptorTable String :=
  ⟨[some { file := "keyboard" }, some { file := "screen" }, some { file := "screen" },
    some { file := "log", closeOnExec := true }]⟩

/-- A pipeline whose last stage writes to a file. -/
def sortedListing : Pipeline :=
  ⟨[{ argv := ["ls"] }, { argv := ["sort"], redirect := some "listing" }]⟩

theorem stage_wiring_sorted_listing :
    (∀ number < 3, (terminal.get? number).isSome) ∧
    ∃ history task next w, Course answers (Job.run [] sortedListing) (World.start terminal) history
        (.ask (.fork task) next) w ∧ task.position = 1 ∧
      (∃ trace path argv rest table,
        Course childAnswers task.run w.table trace (.ask (.execute path argv) rest) table ∧
        argv = ["sort"] ∧ ∀ number, table.afterExec.get? number =
          wired terminal 2 1 (some "listing") number) ∧
      (∃ trace table, Course childAnswers task.run w.table trace (.done 1) table ∧
        ⟨.duplicate 4 0, .error .badDescriptor⟩ ∈ trace ∧ ∀ exchange ∈ trace, ¬Executes exchange) ∧
      (∃ trace table, Course childAnswers task.run w.table trace (.done 1) table ∧
        ⟨.openOutput "listing", .error .isDirectory⟩ ∈ trace ∧
        ∀ exchange ∈ trace, ¬Executes exchange) ∧
      ∃ trace table, Course childAnswers task.run w.table trace (.done 126) table ∧
        ∃ exchange ∈ trace, Executes exchange := by
  have standard : ∀ number < 3, (terminal.get? number).isSome := by decide
  refine ⟨standard, ?_⟩
  have forks := (.ask rfl <| .ask ⟨_, rfl, rfl⟩ <| .ask ⟨_, rfl, rfl⟩ <| .ask rfl <| .ask rfl <|
      .ask rfl <| .ask rfl <| .ask rfl <| .ask rfl <| .start _ _ :
    Course answers (Job.run [] sortedListing) (World.start terminal)
      [⟨.openPipe, .ok ⟨4, 5⟩⟩, ⟨.closeOnExec 4, .ok ()⟩, ⟨.closeOnExec 5, .ok ()⟩,
        ⟨.isExecutable _, true⟩, ⟨.log _ _, ()⟩, ⟨.fork _, .ok 7⟩, ⟨.log _ _, ()⟩,
        ⟨.isExecutable _, true⟩, ⟨.log _ _, ()⟩] (.ask (.fork _) _) _)
  obtain ⟨stage, present, executes, -, policy⟩ :=
    stage_wiring terminal standard [] sortedListing forks
  obtain rfl := Option.some.inj present
  have runs {trace path argv rest table}
      (steps : Course childAnswers _ _ trace (.ask (.execute path argv) rest) table) :=
    And.intro steps (executes trace path argv rest table steps)
  have gives {trace rest table exchange} (steps : Course childAnswers _ _ trace rest table)
      (member : exchange ∈ trace) (fails : SetupFails exchange) :=
    And.intro steps (And.intro member ((policy _ _ _ steps).setup ⟨exchange, member, fails⟩).1)
  refine ⟨_, _, _, _, forks, rfl, ?_, ?_, ?_, ?_⟩
  · exact ⟨[⟨.duplicate 4 0, .ok ()⟩, ⟨.openOutput _, .ok 6⟩, ⟨.duplicate 6 1, .ok ()⟩,
      ⟨.close 6, ()⟩, ⟨.close 4, ()⟩, ⟨.close 5, ()⟩], _, _, _, _,
      runs (.ask rfl <| .ask rfl <| .ask rfl <| .ask rfl <| .ask rfl <| .ask rfl <| .start _ _)⟩
  · exact ⟨[⟨.duplicate 4 0, .error .badDescriptor⟩, ⟨.printError _, ()⟩], _,
      gives (.ask rfl <| .ask rfl <| .start _ _) List.mem_cons_self trivial⟩
  · exact ⟨[⟨.duplicate 4 0, .ok ()⟩, ⟨.openOutput _, .error .isDirectory⟩, ⟨.printError _, ()⟩], _,
      gives (.ask rfl <| .ask rfl <| .ask rfl <| .start _ _) (.tail _ <| .head _) trivial⟩
  · exact ⟨[⟨.duplicate 4 0, .ok ()⟩, ⟨.openOutput _, .ok 6⟩, ⟨.duplicate 6 1, .ok ()⟩,
      ⟨.close 6, ()⟩, ⟨.close 4, ()⟩, ⟨.close 5, ()⟩, ⟨.execute _ _, .noSuchFile⟩,
      ⟨.printError _, ()⟩], _,
      .ask rfl <| .ask rfl <| .ask rfl <| .ask rfl <| .ask rfl <| .ask rfl <| .ask rfl <|
        .ask rfl <| .start _ _, ⟨.execute _ _, _⟩,
      .tail _ <| .tail _ <| .tail _ <| .tail _ <| .tail _ <| .tail _ <| .head _, trivial⟩

end LineShell.StageWiring
