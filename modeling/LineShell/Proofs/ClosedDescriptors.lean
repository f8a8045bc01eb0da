import LineShell.Proofs.PipelineCalls
import LineShell.Proofs.StageWiring

/-! What becomes of a pipeline that a shell without standard input or output runs. The first pipe
then takes the numbers that are free. A child closes all ends of pipes after it has connected its
descriptors, and with them the numbers it has connected, so its program has there what the shell
had: nothing. -/
namespace LineShell.ClosedDescriptors
open Dialogue PipelineCalls PipelineDescriptors StageWiring

variable {α : Type}

/-- The numbers that pipes have taken: the read end below the write end, and with the first pipe
those of standard input and output that were free. -/
structure Placed (before : DescriptorTable α) (pipes : List PipeEnds) : Prop where
  ordered : ∀ ends ∈ pipes, ends.read < ends.write
  standard : pipes ≠ [] → ∀ number ≤ 1, before.get? number = none → IsEnd pipes number

/-! ### The numbers of the pipes -/

section Pipes

variable {before : DescriptorTable α} {w t : World α} {ends : PipeEnds} {pipes : List PipeEnds}
  {history : List (Exchange Call Call.Answer)}

/-- A new pipe takes the lowest numbers. -/
theorem openPipe_lowest (opened : w.openPipe = (ends, t)) :
    ends.read < ends.write ∧
      ∀ number < ends.write, number ≠ ends.read → (w.table.get? number).isSome := by
  obtain ⟨-, -, writeFree, different, -⟩ := get?_openPipe opened
  obtain ⟨same, -⟩ := Prod.mk.inj opened.symm
  have lowest : ends.read = w.table.lowestFree := by rw [same]
  have next : ends.write =
      (w.table.set ends.read (some { file := .readEnd w.pipes })).lowestFree := by rw [same]
  constructor
  · apply Nat.lt_of_le_of_ne _ different
    apply Nat.le_of_not_lt
    intro below
    rw [lowest] at below
    have taken := DescriptorTable.isSome_of_lt_lowestFree below
    rw [writeFree] at taken
    cases taken
  · intro number below other
    rw [next] at below
    have taken := DescriptorTable.isSome_of_lt_lowestFree below
    rwa [DescriptorTable.get?_set, if_neg other] at taken

private theorem Placed.first (opened : w.openPipe = (ends, t))
    (fresh : ∀ number, w.table.get? number = heldAt before number) : Placed before [ends] := by
  obtain ⟨ordered, below⟩ := openPipe_lowest opened
  constructor
  · intro one member
    rw [List.mem_singleton.mp member]
    exact ordered
  · intro _ number small free
    refine ⟨ends, List.mem_singleton_self _, ?_⟩
    by_cases read : number = ends.read
    · exact .inl read
    · right
      have closed : w.table.get? number = none := by rw [fresh, heldAt, free, Option.map_none]
      have above : ¬number < ends.write := by
        intro less
        have taken := below number less read
        rw [closed] at taken
        cases taken
      omega

private theorem Placed.snoc (placed : Placed before pipes) (some : pipes ≠ [])
    (opened : w.openPipe = (ends, t)) : Placed before (pipes ++ [ends]) := by
  constructor
  · intro one member
    rcases List.mem_append.mp member with earlier | new
    · exact placed.ordered one earlier
    · rw [List.mem_singleton.mp new]
      exact (openPipe_lowest opened).1
  · intro _ number small free
    obtain ⟨one, member, which⟩ := placed.standard some number small free
    exact ⟨one, List.mem_append_left _ member, which⟩

/-- Where all pipes are opened, one is opened first and then the others. -/
private theorem openPipes_next {count : Nat} {made : List PipeEnds}
    (course : Course answers (Job.openPipes pipes (count + 1)) w history (.done (.ok made)) t) :
    ∃ ends u v later, w.openPipe = (ends, u) ∧
      Course answers (Job.openPipes (pipes ++ [ends]) count) v later (.done (.ok made)) t := by
  have granted (exchange : Exchange Call Call.Answer) (member : exchange ∈ history)
      (reason : Errno) : ¬Refuses reason exchange := by
    intro refused
    cases openPipes_refused course member refused
  rcases course.of_request with ⟨-, done, -⟩ | ⟨answer, u, later, rfl, answered, marking⟩
  · cases done
  cases answer with
  | error reason => exact absurd rfl (granted _ List.mem_cons_self reason)
  | ok ends =>
    rcases marking.of_request with ⟨-, done, -⟩ | ⟨answer, v, _, rfl, -, further⟩
    · cases done
    cases answer with
    | error reason =>
      exact absurd rfl (granted ⟨.closeOnExec ends.read, .error reason⟩ (by simp) reason)
    | ok marked =>
      rcases further.of_request with ⟨-, done, -⟩ | ⟨answer, x, _, rfl, -, others⟩
      · cases done
      cases answer with
      | error reason =>
        exact absurd rfl (granted ⟨.closeOnExec ends.write, .error reason⟩ (by simp) reason)
      | ok marked => exact ⟨ends, u, x, _, answered, others⟩

/-- Pipes that are all opened take the lowest numbers, from the shell's own on. -/
theorem openPipes_placed {count : Nat} (placed : Placed before pipes)
    (fresh : pipes = [] → ∀ number, w.table.get? number = heldAt before number)
    {made : List PipeEnds}
    (course : Course answers (Job.openPipes pipes count) w history (.done (.ok made)) t) :
    Placed before made := by
  induction count generalizing pipes w history with
  | zero =>
    cases course
    exact placed
  | succ count ih =>
    obtain ⟨ends, u, v, later, opened, others⟩ := openPipes_next course
    refine ih ?_ ?_ others
    · by_cases none : pipes = []
      · subst none
        exact .first opened (fresh rfl)
      · exact placed.snoc none opened
    · intro empty
      exact absurd empty (List.append_ne_nil_of_right_ne_nil _ (List.cons_ne_nil _ _))

/-- A child gets the pipes that the start was given. -/
private theorem start_pipes (searchPaths : List String) (pipes : List PipeEnds) (position : Nat)
    (stages : List Stage) :
    Only (fun call => ∀ task, call = .fork task → task.pipes = pipes)
      (Job.start searchPaths pipes position stages) := by
  have note {level : LogLevel} {text : String} :
      ∀ task, Call.log level text = .fork task → task.pipes = pipes := nofun
  induction stages generalizing position with
  | nil => trivial
  | cons stage rest ih =>
    have quiet (call : Call) (searches : Quiet call) (task : ChildTask)
        (forks : call = .fork task) : task.pipes = pipes := by
      subst forks
      cases searches
    refine ((prepare_quiet searchPaths stage).mono quiet).bind fun prepared => ?_
    obtain ⟨found, fault | launch⟩ := prepared
    · exact (Only.request note).bind fun _ => trivial
    have own : ∀ task, Call.fork ⟨launch, position, pipes⟩ = .fork task → task.pipes = pipes := by
      rintro task ⟨⟩
      rfl
    refine (Only.request own).bind fun forked => ?_
    cases forked with
    | error reason => exact (Only.request note).bind fun _ => trivial
    | ok pid => exact (Only.request note).bind fun _ => (ih (position + 1)).bind fun _ => trivial

/-- At every fork the pipes are in place. -/
theorem run_placed {searchPaths : List String} {pipeline : Pipeline} {task : ChildTask}
    {next : Except Errno Nat → Shell (Pipeline × Except LineError Report)}
    (forks : Course answers (Job.run searchPaths pipeline) (World.start before) history
      (.ask (.fork task) next) w) : Placed before task.pipes := by
  have opens := openPipes_opens [] (pipeline.stages.length - 1)
  rcases forks.of_bind with ⟨left, undone, here, opening⟩ | ⟨outcome, u, _, _, -, opening, past⟩
  · have pending : left.pending? = some (.fork task) := by
      rw [← pending?_bind undone, ← here]
      rfl
    cases (Only.along opening opens).2.pending pending
  cases outcome with
  | error reason => cases past
  | ok pipes =>
    have none : Placed before [] := ⟨nofun, fun some => absurd rfl some⟩
    have placed : Placed before pipes :=
      openPipes_placed none (fun _ => World.get?_start before) opening
    have given : Only (fun call => ∀ task, call = .fork task → task.pipes = pipes) (do
        let started ← Job.start searchPaths pipes 0 pipeline.stages
        Job.closePipes pipes
        let exits ← started.children.mapM Job.reap
        return (⟨started.stages⟩, .ok ⟨exits, started.failure⟩) :
          Shell (Pipeline × Except LineError Report)) := by
      refine (start_pipes searchPaths pipes 0 pipeline.stages).bind fun started => ?_
      refine ((closePipes_closes pipes).only.mono ?_).bind fun _ => ?_
      · rintro _ ⟨number, rfl⟩ task ⟨⟩
      refine ((Only.mapM reap_awaits started.children).mono ?_).bind fun exits => trivial
      rintro call awaits task rfl
      cases awaits
    rw [(Only.along past given).2.pending rfl task rfl]
    exact placed

end Pipes

/-! ### The descriptors of a program -/

/-- What a number refers to in the program of a stage: nothing where it was an end of a pipe, and
otherwise what it should. -/
def wiredBetween (before : DescriptorTable α) (stages : List Stage) (stage : Stage)
    (task : ChildTask) (number : Nat) : Option (Descriptor (Endpoint α)) :=
  if IsEnd task.pipes number then none
  else wired before stages.length task.position stage.redirect number

/-- A child that executes its program is to have these descriptors in it. -/
def executes (before : DescriptorTable α) (stages : List Stage) (stage : Stage)
    (task : ChildTask) : DescriptorTable (Endpoint α) → ChildCall → Prop
  | table, .execute .. => ∀ number,
    table.afterExec.get? number = wiredBetween before stages stage task number
  | _, _ => True

/-- A child at its start, with the descriptors of a shell that may lack the standard ones. -/
structure Begun (before : DescriptorTable α) (stages : List Stage) (stage : Stage)
    (task : ChildTask) (start : DescriptorTable (Endpoint α)) : Prop where
  holds : Holds before task.pipes start
  count : task.pipes.length = stages.length - 1
  inside : task.position < stages.length
  redirect : task.launch.redirect = stage.redirect
  ordered : ∀ ends ∈ task.pipes, ends.read < ends.write

/-- The child has connected its standard input, if that is no end of a pipe, and nothing else. -/
structure HasInput (before : DescriptorTable α) (task : ChildTask)
    (start table : DescriptorTable (Endpoint α)) : Prop where
  input : ¬IsEnd task.pipes 0 → table.afterExec.get? 0 = stdinOf before task.position
  others : ∀ number, 0 < number → table.get? number = start.get? number

/-- The child has connected its standard input and output, where these are no ends of pipes. -/
structure HasBoth (before : DescriptorTable α) (stages : List Stage) (stage : Stage)
    (task : ChildTask) (start table : DescriptorTable (Endpoint α)) : Prop where
  input : ¬IsEnd task.pipes 0 → table.afterExec.get? 0 = stdinOf before task.position
  output : ¬IsEnd task.pipes 1 → table.afterExec.get? 1 =
    stdoutOf before stages.length task.position stage.redirect
  others : ∀ number, 1 < number → table.get? number = start.get? number

section Children

variable {before : DescriptorTable α} {stages : List Stage} {stage : Stage} {task : ChildTask}
  {start table after : DescriptorTable (Endpoint α)}

private theorem plumbing_executes (table : DescriptorTable (Endpoint α)) (call : ChildCall)
    (plumbing : Plumbing call) : executes before stages stage task table call := by
  cases call <;> trivial

/-- Once the pipes are closed, nothing is left of the numbers that were ends of them. -/
private theorem HasBoth.wired (both : HasBoth before stages stage task start table)
    (holds : Holds before task.pipes start) (number : Nat) :
    (closeAll task.pipes table).afterExec.get? number =
      wiredBetween before stages stage task number := by
  rw [DescriptorTable.get?_afterExec, get?_closeAll, wiredBetween]
  by_cases isEnd : IsEnd task.pipes number
  · rw [if_pos isEnd, if_pos isEnd]
    rfl
  · rw [if_neg isEnd, if_neg isEnd, ← DescriptorTable.get?_afterExec]
    match number with
    | 0 => exact both.input isEnd
    | 1 => exact both.output isEnd
    | number + 2 =>
      change _ = heldAt before.afterExec (number + 2)
      rw [heldAt_afterExec, DescriptorTable.get?_afterExec, both.others _ (by omega),
        holds.others _ isEnd]

private theorem become_executes (both : HasBoth before stages stage task start table)
    (holds : Holds before task.pipes start) :
    Safe childAnswers (executes before stages stage task) task.become (fun _ _ => True) table := by
  refine ((closePipes_safe plumbing_executes task.pipes table).mono ?_).bind
  rintro ⟨⟩ _ rfl
  exact Safe.request (both.wired holds) fun _ after _ =>
    giveUp_safe plumbing_executes _ _ after

/-- A file at the number of standard output completes the child. -/
private theorem HasInput.withOutput {file : Endpoint α}
    (has : HasInput before task start table)
    (output : stdoutOf before stages.length task.position stage.redirect = some { file })
    (copied : ∀ number, after.get? number =
      if number = 1 then some { file } else table.get? number) :
    HasBoth before stages stage task start after where
  input other := by
    rw [DescriptorTable.get?_afterExec, copied, if_neg (by omega), ← DescriptorTable.get?_afterExec]
    exact has.input other
  output _ := by
    rw [DescriptorTable.get?_afterExec, copied, if_pos rfl, output]
    rfl
  others number past := by rw [copied, if_neg (by omega), has.others number (by omega)]

/-- Where standard output is an end of a pipe, nothing is asked of it. -/
private theorem HasInput.withEnd (has : HasInput before task start table)
    (isEnd : IsEnd task.pipes 1) : HasBoth before stages stage task start table where
  input := has.input
  output other := absurd isEnd other
  others number past := has.others number (by omega)

/-- The write end of the pipe that follows is connected, unless it is standard output already. -/
private theorem connectPipe_executes {ends : PipeEnds}
    (begun : Begun before stages stage task start) (has : HasInput before task start table)
    (found : task.pipes[task.position]? = some ends) :
    Safe childAnswers (executes before stages stage task) (task.rewire ends.write 1 task.become)
      (fun _ _ => True) table := by
  have member := List.mem_of_getElem? found
  have room := (List.getElem?_eq_some_iff.mp found).1
  have count := begun.count
  have ordered := begun.ordered ends member
  have atWrite : table.get? ends.write =
      some { file := .writeEnd task.position, closeOnExec := true } := by
    rw [has.others ends.write (by omega)]
    exact begun.holds.writes _ ends found
  refine rewire_safe plumbing_executes fun after answered => become_executes ?_ begun.holds
  by_cases same : ends.write = 1
  · rw [same] at answered
    rw [DescriptorTable.eq_of_duplicate?_self answered]
    exact has.withEnd ⟨ends, member, .inr same.symm⟩
  · obtain ⟨entry, foundEntry, lookup⟩ := DescriptorTable.get?_duplicate? answered same
    obtain rfl := Option.some.inj (atWrite.symm.trans foundEntry)
    exact has.withOutput (stdoutOf_inner (by omega)) lookup

/-- The target of a redirection takes the number of standard output if that is the lowest free one,
and is copied there from any other. -/
private theorem connectFile_executes {path : String}
    (begun : Begun before stages stage task start) (has : HasInput before task start table)
    (last : task.position + 1 = stages.length) (target : stage.redirect = some path) :
    Safe childAnswers (executes before stages stage task) (do
      match ← Child.openOutput path with
      | .error _ => ChildTask.giveUp task.launch.setupFailure setupFailureStatus
      | .ok descriptor =>
        if descriptor == 1 then task.become
        else task.rewire descriptor 1 do
          Child.close descriptor
          task.become) (fun _ _ => True) table := by
  have output : stdoutOf before stages.length task.position stage.redirect =
      some { file := .output path } := by
    rw [stdoutOf_last last, target]
  refine Safe.request trivial ?_
  rintro (reason | number) opened answered
  · exact giveUp_safe plumbing_executes _ _ opened
  obtain ⟨lowest, rfl⟩ := Prod.mk.inj answered.symm
  have free : table.get? number = none := by
    rw [lowest]
    exact table.get?_lowestFree
  dsimp only
  by_cases same : number = 1
  · rw [if_pos (beq_iff_eq.mpr same)]
    refine become_executes (has.withOutput output fun other => ?_) begun.holds
    rw [DescriptorTable.get?_set, ← lowest, same]
  · rw [if_neg (by simpa using same)]
    refine rewire_safe plumbing_executes fun after copied => ?_
    obtain ⟨entry, foundEntry, lookup⟩ := DescriptorTable.get?_duplicate? copied same
    rw [DescriptorTable.get?_set, if_pos lowest] at foundEntry
    obtain rfl := Option.some.inj foundEntry
    refine Safe.request trivial ?_
    rintro ⟨⟩ _ rfl
    refine become_executes (has.withOutput output fun other => ?_) begun.holds
    rw [DescriptorTable.get?_close, lookup, DescriptorTable.get?_set, ← lowest]
    by_cases here : other = number
    · rw [if_pos here, if_neg (by omega), here, free]
    · rw [if_neg here, if_neg here]

private theorem connectOutput_executes (begun : Begun before stages stage task start)
    (has : HasInput before task start table) :
    Safe childAnswers (executes before stages stage task) task.connectOutput (fun _ _ => True)
      table := by
  have count := begun.count
  have inside := begun.inside
  unfold ChildTask.connectOutput
  split
  · rename_i ends found
    exact connectPipe_executes begun has found
  · rename_i past
    have last : task.position + 1 = stages.length := by
      have := List.getElem?_eq_none_iff.mp past
      omega
    rw [begun.redirect]
    split
    · rename_i absent
      refine become_executes ⟨has.input, fun other => ?_, fun number past => ?_⟩ begun.holds
      · rw [stdoutOf_last last, absent, DescriptorTable.get?_afterExec, has.others 1 (by omega),
          begun.holds.others 1 other, heldAt_afterExec]
      · exact has.others number (by omega)
    · rename_i path target
      exact connectFile_executes begun has last target

/-- A child that begins with the pipes in place has the descriptors of its stage in its program, but
for those that were ends of pipes. -/
theorem run_executes (begun : Begun before stages stage task start) :
    Safe childAnswers (executes before stages stage task) task.run (fun _ _ => True) start := by
  have count := begun.count
  have inside := begun.inside
  unfold ChildTask.run
  split
  · rename_i first
    refine connectOutput_executes begun ⟨fun other => ?_, fun _ _ => rfl⟩
    rw [stdinOf, if_neg (by omega), DescriptorTable.get?_afterExec, begun.holds.others 0 other,
      heldAt_afterExec]
  · rename_i prior here
    have room : prior < task.pipes.length := by omega
    have found := List.getElem?_eq_getElem room
    have member := List.getElem_mem room
    rw [found]
    refine rewire_safe plumbing_executes fun after answered => ?_
    refine connectOutput_executes begun ?_
    by_cases same : task.pipes[prior].read = 0
    · rw [same] at answered
      rw [DescriptorTable.eq_of_duplicate?_self answered]
      exact ⟨fun other => absurd ⟨_, member, .inl same.symm⟩ other, fun _ _ => rfl⟩
    · obtain ⟨entry, foundEntry, lookup⟩ := DescriptorTable.get?_duplicate? answered same
      obtain rfl := Option.some.inj ((begun.holds.reads _ _ found).symm.trans foundEntry)
      constructor
      · intro _
        rw [DescriptorTable.get?_afterExec, lookup, if_pos rfl, stdinOf, if_pos (by omega), here,
          Nat.succ_sub_one]
        rfl
      · intro number above
        rw [lookup, if_neg (by omega)]

/-- Of standard input and output, those that are ends of pipes are those that the shell lacks, if
there are pipes. -/
private theorem wiredBetween_eq {table : DescriptorTable (Endpoint α)}
    (holds : Holds before task.pipes table) (placed : Placed before task.pipes)
    (count : task.pipes.length = stages.length - 1) (number : Nat) :
    wiredBetween before stages stage task number =
      if number ≤ 1 ∧ before.get? number = none ∧ 1 < stages.length then none
      else wired before stages.length task.position stage.redirect number := by
  rw [wiredBetween]
  by_cases isEnd : IsEnd task.pipes number
  · have free : before.get? number = none := holds.fresh number isEnd
    have several : 1 < stages.length := by
      obtain ⟨ends, member, -⟩ := isEnd
      have some := List.length_pos_of_mem member
      omega
    rw [if_pos isEnd]
    by_cases small : number ≤ 1
    · rw [if_pos ⟨small, free, several⟩]
    · obtain ⟨above, rfl⟩ : ∃ above, number = above + 2 := ⟨number - 2, by omega⟩
      rw [if_neg fun lacks => small lacks.1]
      change none = heldAt before.afterExec (above + 2)
      rw [heldAt_afterExec, heldAt, free]
      rfl
  · rw [if_neg isEnd, if_neg]
    rintro ⟨small, free, several⟩
    have some : task.pipes ≠ [] := by
      intro none
      rw [none, List.length_nil] at count
      omega
    exact isEnd (placed.standard some number small free)

end Children

/-- For any descriptors of the shell, the program of a stage finds what the stage should have, with
one exception: in a pipeline of several stages a standard input or output that the shell lacks is
lacking in every program, also in those that a pipe or a file was connected for. In a pipeline of
one stage nothing is lost. -/
theorem closed_descriptors_stay_closed (before : DescriptorTable α) (searchPaths : List String)
    (pipeline : Pipeline) {history : List (Exchange Call Call.Answer)} {task : ChildTask}
    {next : Except Errno Nat → Shell (Pipeline × Except LineError Report)} {w : World α}
    (forks : Course answers (Job.run searchPaths pipeline) (World.start before) history
      (.ask (.fork task) next) w) :
    ∃ stage, pipeline.stages[task.position]? = some stage ∧
      ∀ trace path argv rest table,
        Course childAnswers task.run w.table trace (.ask (.execute path argv) rest) table →
        ∀ number, table.afterExec.get? number =
          if number ≤ 1 ∧ before.get? number = none ∧ 1 < pipeline.stages.length then none
          else wired before pipeline.stages.length task.position stage.redirect number := by
  have ready : Ready before pipeline.stages task w.table :=
    (PipelineDescriptors.run_safe before searchPaths pipeline).guard_of_course forks
  have placed := run_placed forks
  obtain ⟨stage, path, present, own⟩ := ready.launch
  have begun : Begun before pipeline.stages stage task w.table :=
    ⟨ready.holds, ready.count, (List.getElem?_eq_some_iff.mp present).1, by rw [own]; rfl,
      placed.ordered⟩
  refine ⟨stage, present, ?_⟩
  intro trace path argv rest table course number
  have given : table.afterExec.get? number =
      wiredBetween before pipeline.stages stage task number :=
    (run_executes begun).guard_of_course course number
  rw [given, wiredBetween_eq ready.holds placed ready.count]

/-- A shell without standard output. -/
def outputless : DescriptorTable String :=
  ⟨[some { file := "keyboard" }, none, some { file := "screen" }]⟩

/-- `ls > listing` -/
def keptListing : Pipeline :=
  ⟨[{ argv := ["ls"], redirect := some "listing" }]⟩

/-- The target of a redirection is opened as standard output and stays open. -/
theorem closed_descriptors_stay_closed_redirected :
    ∃ history task next w,
      Course answers (Job.run [] keptListing)
        (World.start outputless) history (.ask (.fork task) next) w ∧
      ∃ trace path argv rest table,
        Course childAnswers task.run w.table trace (.ask (.execute path argv) rest) table ∧
        table.afterExec.get? 1 = some { file := .output "listing" } := by
  have forks := (.ask rfl <| .ask rfl <| .start _ _ :
    Course answers (Job.run [] keptListing)
      (World.start outputless) [⟨.isExecutable _, true⟩, ⟨.log _ _, ()⟩] (.ask (.fork _) _) _)
  obtain ⟨stage, present, executes⟩ := closed_descriptors_stay_closed outputless [] keptListing forks
  obtain rfl := Option.some.inj present
  have runs {trace path argv rest table}
      (steps : Course childAnswers _ _ trace (.ask (.execute path argv) rest) table) :=
    And.intro steps (executes trace path argv rest table steps 1)
  exact ⟨_, _, _, _, forks, [⟨.openOutput _, .ok 1⟩], _, _, _, _,
    runs (.ask rfl <| .start _ _)⟩

/-- `ls | sort` -/
def sorting : Pipeline :=
  ⟨[{ argv := ["ls"] }, { argv := ["sort"] }]⟩

/-- In a pipeline the first program has no standard output, though the child had connected it to the
pipe. -/
theorem connected_output_closed :
    ∃ history task next w,
      Course answers (Job.run [] sorting)
        (World.start outputless) history (.ask (.fork task) next) w ∧ task.position = 0 ∧
      ∃ trace path argv rest table,
        Course childAnswers task.run w.table trace (.ask (.execute path argv) rest) table ∧
        ⟨.duplicate 3 1, .ok ()⟩ ∈ trace ∧ w.table.file? 3 = some (.writeEnd 0) ∧
        table.afterExec.get? 1 = none := by
  have forks := (.ask rfl <| .ask ⟨_, rfl, rfl⟩ <| .ask ⟨_, rfl, rfl⟩ <| .ask rfl <| .ask rfl <|
      .start _ _ :
    Course answers (Job.run [] sorting)
      (World.start outputless)
      [⟨.openPipe, .ok ⟨1, 3⟩⟩, ⟨.closeOnExec 1, .ok ()⟩, ⟨.closeOnExec 3, .ok ()⟩,
        ⟨.isExecutable _, true⟩, ⟨.log _ _, ()⟩] (.ask (.fork _) _) _)
  exact ⟨_, _, _, _, forks, rfl,
    [⟨.duplicate 3 1, .ok ()⟩, ⟨.close 1, ()⟩, ⟨.close 3, ()⟩], _, _, _, _,
    .ask rfl <| .ask rfl <| .ask rfl <| .start _ _, List.mem_cons_self, rfl, rfl⟩

end LineShell.ClosedDescriptors
