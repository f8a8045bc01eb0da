import LineShell.DescriptorTable
import LineShell.Job
import LineShell.Proofs.DialogueCourses

/-! The descriptors of the shell while it runs a pipeline. The system gives out the lowest free
numbers and may refuse any call; what else is open, and which numbers that leaves for the pipes,
is arbitrary. What the shell holds at a fork is what the child starts with. -/
namespace LineShell.PipelineDescriptors
open Dialogue

variable {α : Type}

/-- What a descriptor refers to. Pipes are told apart by the order in which they are made. -/
inductive Endpoint (α : Type) where
  /-- A file that was open before the pipeline. -/
  | held (file : α)
  | readEnd (pipe : Nat)
  | writeEnd (pipe : Nat)
  /-- A file opened for writing, created or emptied. -/
  | output (path : String)
  deriving DecidableEq, Repr

/-- The shell's descriptors and the number of pipes made so far. -/
structure World (α : Type) where
  table : DescriptorTable (Endpoint α)
  pipes : Nat
  deriving DecidableEq, Repr

/-- A descriptor from before the pipeline. -/
def hold (entry : Descriptor α) : Descriptor (Endpoint α) :=
  { file := .held entry.file, closeOnExec := entry.closeOnExec }

/-- What a number referred to before the pipeline. -/
def heldAt (before : DescriptorTable α) (number : Nat) : Option (Descriptor (Endpoint α)) :=
  (before.get? number).map hold

/-- What a program keeps of the shell's own descriptors. -/
theorem heldAt_afterExec (before : DescriptorTable α) (number : Nat) :
    heldAt before.afterExec number =
      (heldAt before number).filter fun entry => !entry.closeOnExec := by
  rw [heldAt, heldAt, DescriptorTable.get?_afterExec]
  cases before.get? number with
  | none => rfl
  | some entry => cases marked : entry.closeOnExec <;> simp [hold, Option.filter, marked]

namespace World

/-- The shell before it makes a pipe. -/
def start (before : DescriptorTable α) : World α :=
  { table := ⟨before.slots.map (Option.map hold)⟩, pipes := 0 }

theorem get?_start (before : DescriptorTable α) (number : Nat) :
    (start before).table.get? number = heldAt before number := by
  rw [start, heldAt, DescriptorTable.get?, DescriptorTable.get?, List.getElem?_map]
  cases before.slots[number]? with
  | none => rfl
  | some slot => rfl

/-- One more pipe: the read end takes a number first. -/
def openPipe (w : World α) : PipeEnds × World α :=
  let (read, table) := w.table.add { file := .readEnd w.pipes }
  let (write, table) := table.add { file := .writeEnd w.pipes }
  (⟨read, write⟩, { table, pipes := w.pipes + 1 })

/-- One more file of the shell's own, which no child keeps in its program. -/
def openFile (w : World α) (file : α) : World α :=
  { w with table := (w.table.add { file := .held file, closeOnExec := true }).2 }

end World

/-- How the system answers the shell. A call that is refused changes nothing, and no answer but
those about descriptors says anything about them. -/
def answers : Rule Call Call.Answer (World α)
  | w, .openPipe, .ok ends, t => w.openPipe = (ends, t)
  | w, .closeOnExec number, .ok (), t =>
    ∃ table, w.table.markCloseOnExec? number = some table ∧ t = { w with table }
  | w, .close number, (), t => t = { w with table := w.table.close number }
  | w, .openLog _ (some _), .ok (), t => ∃ file, t = w.openFile file
  | w, .openScript _, .ok (), t => ∃ file, t = w.openFile file
  | w, _, _, t => t = w

/-- The number is an end of one of the pipes. -/
def IsEnd (pipes : List PipeEnds) (number : Nat) : Prop :=
  ∃ ends ∈ pipes, number = ends.read ∨ number = ends.write

instance (pipes : List PipeEnds) (number : Nat) : Decidable (IsEnd pipes number) :=
  inferInstanceAs (Decidable (∃ ends ∈ pipes, _))

private theorem isEnd_cons {ends : PipeEnds} {rest : List PipeEnds} {number : Nat} :
    IsEnd (ends :: rest) number ↔
      number = ends.read ∨ number = ends.write ∨ IsEnd rest number := by
  simp [IsEnd, or_assoc]

private theorem isEnd_snoc {pipes : List PipeEnds} {ends : PipeEnds} {number : Nat} :
    IsEnd (pipes ++ [ends]) number ↔
      IsEnd pipes number ∨ number = ends.read ∨ number = ends.write := by
  simp [IsEnd, or_and_right, exists_or]

/-- The shell holds the pipes and otherwise what it held before. The ends are marked, so that a
child keeps them in its program only where it copies them. -/
structure Holds (before : DescriptorTable α) (pipes : List PipeEnds)
    (table : DescriptorTable (Endpoint α)) : Prop where
  reads : ∀ (k : Nat) (ends : PipeEnds), pipes[k]? = some ends →
    table.get? ends.read = some { file := .readEnd k, closeOnExec := true }
  writes : ∀ (k : Nat) (ends : PipeEnds), pipes[k]? = some ends →
    table.get? ends.write = some { file := .writeEnd k, closeOnExec := true }
  others : ∀ number, ¬IsEnd pipes number → table.get? number = heldAt before number
  fresh : ∀ number, IsEnd pipes number → before.get? number = none

/-- The shell holds what it held before and nothing else. -/
def Restored (before : DescriptorTable α) (table : DescriptorTable (Endpoint α)) : Prop :=
  ∀ number, table.get? number = heldAt before number

/-- The table after both ends of every pipe have been closed. -/
def closeAll : List PipeEnds → DescriptorTable (Endpoint α) → DescriptorTable (Endpoint α)
  | [], table => table
  | ends :: rest, table => closeAll rest ((table.close ends.read).close ends.write)

theorem get?_closeAll (pipes : List PipeEnds) (table : DescriptorTable (Endpoint α))
    (number : Nat) :
    (closeAll pipes table).get? number =
      if IsEnd pipes number then none else table.get? number := by
  induction pipes generalizing table with
  | nil => simp [closeAll, IsEnd]
  | cons ends rest ih =>
    simp only [closeAll, ih, DescriptorTable.get?_close, isEnd_cons]
    by_cases later : IsEnd rest number
    · simp [later]
    · by_cases read : number = ends.read <;> simp [later, read]

variable {before : DescriptorTable α} {pipes : List PipeEnds}
  {table after : DescriptorTable (Endpoint α)}

/-- What is held is a matter of what each number refers to. -/
private theorem Holds.congr (holds : Holds before pipes table)
    (same : ∀ number, after.get? number = table.get? number) : Holds before pipes after where
  reads k ends found := (same _).trans (holds.reads k ends found)
  writes k ends found := (same _).trans (holds.writes k ends found)
  others number other := (same _).trans (holds.others number other)
  fresh := holds.fresh

/-- Before the first pipe is made the shell holds none. -/
theorem Holds.start (before : DescriptorTable α) : Holds before [] (World.start before).table :=
  ⟨nofun, nofun, fun number _ => World.get?_start before number, nofun⟩

theorem Holds.restored (holds : Holds before pipes table) :
    Restored before (closeAll pipes table) := by
  intro number
  rw [get?_closeAll]
  split
  · rename_i isEnd
    rw [heldAt, holds.fresh number isEnd, Option.map_none]
  · rename_i other
    exact holds.others number other

/-- What a new pipe does to the numbers: both ends were free, and they are different. -/
theorem get?_openPipe {w t : World α} {ends : PipeEnds} (opened : w.openPipe = (ends, t)) :
    t.pipes = w.pipes + 1 ∧ w.table.get? ends.read = none ∧ w.table.get? ends.write = none ∧
    ends.read ≠ ends.write ∧ ∀ number, t.table.get? number =
      if number = ends.write then some { file := .writeEnd w.pipes }
      else if number = ends.read then some { file := .readEnd w.pipes }
      else w.table.get? number := by
  obtain ⟨rfl, rfl⟩ := Prod.mk.inj opened.symm
  have free := w.table.get?_lowestFree
  have next := (w.table.set w.table.lowestFree (some { file := .readEnd w.pipes })).get?_lowestFree
  have different : (w.table.set w.table.lowestFree
      (some { file := .readEnd w.pipes })).lowestFree ≠ w.table.lowestFree := by
    intro same
    simp [same] at next
  refine ⟨rfl, free, ?_, different.symm, fun number => ?_⟩
  · rwa [DescriptorTable.get?_set, if_neg different] at next
  · simp

private theorem get?_ready {w t : World α} {ends : PipeEnds}
    {read write : DescriptorTable (Endpoint α)} (opened : w.openPipe = (ends, t))
    (readMarked : t.table.markCloseOnExec? ends.read = some read)
    (writeMarked : read.markCloseOnExec? ends.write = some write) (number : Nat) :
    write.get? number =
      if number = ends.write then some { file := .writeEnd w.pipes, closeOnExec := true }
      else if number = ends.read then some { file := .readEnd w.pipes, closeOnExec := true }
      else w.table.get? number := by
  obtain ⟨-, -, -, different, lookup⟩ := get?_openPipe opened
  obtain ⟨readEntry, readFound, atRead⟩ := DescriptorTable.get?_markCloseOnExec? readMarked
  obtain ⟨writeEntry, writeFound, atWrite⟩ := DescriptorTable.get?_markCloseOnExec? writeMarked
  obtain rfl : { file := .readEnd w.pipes } = readEntry := by
    simpa [lookup, different] using readFound
  obtain rfl : { file := .writeEnd w.pipes } = writeEntry := by
    simpa [atRead, lookup, different.symm] using writeFound
  rw [atWrite, atRead, lookup]
  by_cases isWrite : number = ends.write
  · simp [isWrite]
  · by_cases isRead : number = ends.read <;> simp [isWrite, isRead]

/-- A pipe whose ends are marked joins those held so far. -/
private theorem Holds.snoc {w : World α} {ends : PipeEnds} (holds : Holds before pipes w.table)
    (made : w.pipes = pipes.length) (readFree : w.table.get? ends.read = none)
    (writeFree : w.table.get? ends.write = none) (different : ends.read ≠ ends.write)
    (ready : ∀ number, after.get? number =
      if number = ends.write then some { file := .writeEnd w.pipes, closeOnExec := true }
      else if number = ends.read then some { file := .readEnd w.pipes, closeOnExec := true }
      else w.table.get? number) : Holds before (pipes ++ [ends]) after := by
  -- The numbers of the pipes held so far are taken, so the new ones are none of them.
  have kept {number : Nat} {entry : Descriptor (Endpoint α)}
      (taken : w.table.get? number = some entry) : after.get? number = some entry := by
    rw [ready, if_neg, if_neg, taken]
    · rintro rfl; simp [readFree] at taken
    · rintro rfl; simp [writeFree] at taken
  have which {k : Nat} {one : PipeEnds} (found : (pipes ++ [ends])[k]? = some one) :
      pipes[k]? = some one ∨ k = w.pipes ∧ one = ends := by
    rw [List.getElem?_append] at found
    split at found
    · exact .inl found
    · rename_i past
      rw [List.getElem?_singleton] at found
      split at found
      · exact .inr ⟨by omega, (Option.some.inj found).symm⟩
      · cases found
  have unheld {number : Nat} (free : w.table.get? number = none)
      (new : ¬IsEnd pipes number) : before.get? number = none := by
    rw [holds.others number new] at free
    exact Option.map_eq_none_iff.mp free
  constructor
  case reads =>
    intro k one found
    rcases which found with earlier | ⟨rfl, rfl⟩
    · exact kept (holds.reads k one earlier)
    · simp [ready, different]
  case writes =>
    intro k one found
    rcases which found with earlier | ⟨rfl, rfl⟩
    · exact kept (holds.writes k one earlier)
    · simp [ready]
  case others =>
    intro number other
    rw [isEnd_snoc, not_or, not_or] at other
    rw [ready, if_neg other.2.2, if_neg other.2.1]
    exact holds.others number other.1
  case fresh =>
    intro number isEnd
    by_cases old : IsEnd pipes number
    · exact holds.fresh number old
    · rcases (isEnd_snoc.mp isEnd).resolve_left old with rfl | rfl
      · exact unheld readFree old
      · exact unheld writeFree old

/-- What a child is started with: the pipes between all stages, and the launch of its own. -/
structure Ready (before : DescriptorTable α) (stages : List Stage) (task : ChildTask)
    (table : DescriptorTable (Endpoint α)) : Prop where
  holds : Holds before task.pipes table
  count : task.pipes.length = stages.length - 1
  launch : ∃ stage path, stages[task.position]? = some stage ∧
    task.launch = Job.launchOf stage path

/-- Every child is started with the pipes of all stages, and none is waited for while the shell
holds one of them. -/
def admits (before : DescriptorTable α) (stages : List Stage) : World α → Call → Prop
  | w, .fork task => Ready before stages task w.table
  | w, .wait _ => Restored before w.table
  | _, _ => True

/-- The outcome of opening a number of pipes: all of them, or none of them any more. -/
def Opening (before : DescriptorTable α) (count : Nat) :
    Except Errno (List PipeEnds) → World α → Prop
  | .ok pipes, t => Holds before pipes t.table ∧ pipes.length = count
  | .error _, t => Restored before t.table

variable {stages : List Stage}

theorem closePipes_safe (pipes : List PipeEnds) (w : World α) :
    Safe answers (admits before stages) (Job.closePipes pipes)
      (fun _ t => t = { w with table := closeAll pipes w.table }) w := by
  induction pipes generalizing w with
  | nil => rfl
  | cons ends rest ih =>
    refine Safe.request trivial ?_
    rintro ⟨⟩ _ rfl
    refine Safe.request trivial ?_
    rintro ⟨⟩ _ rfl
    exact ih { w with table := (w.table.close ends.read).close ends.write }

/-- The pipe at hand is closed with those opened before it. -/
private theorem abandon_safe {w t : World α} {ends : PipeEnds} (count : Nat) (reason : Errno)
    (holds : Holds before pipes w.table) (readFree : w.table.get? ends.read = none)
    (writeFree : w.table.get? ends.write = none)
    (same : ∀ number, number ≠ ends.write → number ≠ ends.read →
      t.table.get? number = w.table.get? number) :
    Safe answers (admits before stages) (Job.abandon pipes ends reason) (Opening before count)
      t := by
  refine Safe.request trivial ?_
  rintro ⟨⟩ _ rfl
  refine Safe.request trivial ?_
  rintro ⟨⟩ _ rfl
  refine ((closePipes_safe pipes _).mono ?_).bind
  rintro ⟨⟩ _ rfl
  refine (holds.congr fun number => ?_).restored
  rw [DescriptorTable.get?_close, DescriptorTable.get?_close]
  split
  · rename_i read; rw [read, readFree]
  · split
    · rename_i write; rw [write, writeFree]
    · rename_i read write
      exact same number write read

theorem openPipes_safe (opened : List PipeEnds) (count : Nat) (w : World α)
    (holds : Holds before opened w.table) (made : w.pipes = opened.length) :
    Safe answers (admits before stages) (Job.openPipes opened count)
      (Opening before (opened.length + count)) w := by
  induction count generalizing opened w with
  | zero => exact ⟨holds, rfl⟩
  | succ count ih =>
    refine Safe.request trivial ?_
    rintro (reason | ends) t answered
    · cases answered
      refine ((closePipes_safe opened w).mono ?_).bind
      rintro ⟨⟩ _ rfl
      exact holds.restored
    obtain ⟨counted, readFree, writeFree, different, lookup⟩ := get?_openPipe answered
    refine Safe.request trivial ?_
    rintro (reason | ⟨⟨⟩⟩) r readMarked
    · cases readMarked
      refine abandon_safe _ reason holds readFree writeFree fun number write read => ?_
      rw [lookup, if_neg write, if_neg read]
    obtain ⟨readTable, readMarked, rfl⟩ := readMarked
    refine Safe.request trivial ?_
    rintro (reason | ⟨⟨⟩⟩) x writeMarked
    · cases writeMarked
      obtain ⟨_, _, atRead⟩ := DescriptorTable.get?_markCloseOnExec? readMarked
      refine abandon_safe _ reason holds readFree writeFree fun number write read => ?_
      rw [atRead, if_neg read, lookup, if_neg write, if_neg read]
    obtain ⟨writeTable, writeMarked, rfl⟩ := writeMarked
    have more := ih (opened ++ [ends]) { t with table := writeTable }
      (holds.snoc made readFree writeFree different (get?_ready answered readMarked writeMarked))
      (by simp [counted, made])
    rwa [List.length_append, List.length_singleton, Nat.add_assoc, Nat.add_comm 1] at more

/-- Requests of the search for a program, which have nothing to do with descriptors. -/
def Quiet : Call → Prop
  | .isExecutable _ | .log .. => True
  | _ => False

private theorem quiet_admitted (w : World α) (call : Call) (quiet : Quiet call) :
    admits before stages w call := by
  cases call <;> trivial

private theorem quiet_still (w : World α) (call : Call) (answer : call.Answer) (t : World α)
    (quiet : Quiet call) (answered : answers w call answer t) : t = w := by
  cases call <;> first | exact answered | cases quiet

/-- A program of such requests leaves the shell's descriptors as they are. -/
private theorem quiet_safe {β : Type} {program : Shell β} (only : Only Quiet program) (w : World α) :
    Safe answers (admits before stages) program (fun _ t => t = w) w :=
  only.safe (quiet_admitted w) quiet_still

theorem resolve_quiet (directories : List String) (name : String) :
    Only Quiet (Resolver.resolve directories name) := by
  by_cases named : name = ""
  · subst named
    trivial
  induction directories with
  | nil =>
    rw [Resolver.resolve_nil named]
    refine (Only.request trivial).bind fun found => ?_
    cases found with
    | true => exact (Only.request trivial).bind fun _ => trivial
    | false => trivial
  | cons directory directories ih =>
    rw [Resolver.resolve_cons named]
    refine (Only.request trivial).bind fun found => ?_
    cases found with
    | true => exact (Only.request trivial).bind fun _ => trivial
    | false => exact ih

/-- What is made of a stage once the search for its program has come to a result. -/
def preparedFrom (stage : Stage) : Except LineError String → Stage × Except LineError Launch
  | .error e => (stage, .error e)
  | .ok path =>
    (if Job.holdsNul path then stage else { stage with program := some path },
      match Job.textFault? stage path with
      | some reason => .error (.launchFailed reason)
      | none => .ok (Job.launchOf stage path))

/-- Preparing a launch asks for its program and for nothing else. -/
theorem prepare_eq (searchPaths : List String) (stage : Stage) :
    Job.prepare searchPaths stage = (do
      let resolved ← Resolver.resolve searchPaths stage.name
      return preparedFrom stage resolved) := by
  refine congrArg (Dialogue.bind _) (funext fun resolved => ?_)
  cases resolved with
  | error e => rfl
  | ok path =>
    dsimp only [preparedFrom]
    cases Job.textFault? stage path <;> rfl

/-- A stage is ready when its program is found and there is no fault with its texts. -/
theorem preparedFrom_eq_ok {stage : Stage} {resolved : Except LineError String} {launch : Launch}
    (ready : (preparedFrom stage resolved).2 = .ok launch) :
    ∃ path, resolved = .ok path ∧ Job.textFault? stage path = none ∧
      launch = Job.launchOf stage path := by
  cases resolved with
  | error e => cases ready
  | ok path =>
    dsimp only [preparedFrom] at ready
    cases fault : Job.textFault? stage path with
    | some reason =>
      rw [fault] at ready
      cases ready
    | none =>
      rw [fault] at ready
      cases ready
      exact ⟨path, rfl, fault, rfl⟩

/-- Preparing a launch is the search for its program, and the launch is that of the stage. -/
theorem prepare_safe (searchPaths : List String) (stage : Stage) (w : World α) :
    Safe answers (admits before stages) (Job.prepare searchPaths stage) (fun prepared t => t = w ∧
      ∀ launch, prepared.2 = .ok launch → ∃ path, launch = Job.launchOf stage path) w := by
  rw [prepare_eq]
  refine ((quiet_safe (resolve_quiet searchPaths stage.name) w).mono ?_).bind
  rintro resolved _ rfl
  refine ⟨rfl, fun launch ready => ?_⟩
  obtain ⟨path, -, -, same⟩ := preparedFrom_eq_ok ready
  exact ⟨path, same⟩

theorem start_safe (searchPaths : List String) {pipes : List PipeEnds} (w : World α)
    (holds : Holds before pipes w.table) (count : pipes.length = stages.length - 1)
    (position : Nat) (left : List Stage) (here : left = stages.drop position) :
    Safe answers (admits before stages) (Job.start searchPaths pipes position left)
      (fun _ t => t = w) w := by
  induction left generalizing position with
  | nil => rfl
  | cons stage rest ih =>
    refine ((prepare_safe searchPaths stage w).mono ?_).bind
    rintro ⟨found, prepared⟩ _ ⟨rfl, launched⟩
    cases prepared with
    | error fault => exact Safe.request trivial fun ⟨⟩ t answered => answered
    | ok launch =>
      have present : stages[position]? = some stage := by
        rw [← List.head?_drop, ← here, List.head?_cons]
      obtain ⟨path, own⟩ := launched launch rfl
      refine Safe.request ⟨holds, count, stage, path, present, own⟩ fun pid t answered => ?_
      obtain rfl : t = _ := answered
      cases pid with
      | error reason => exact Safe.request trivial fun ⟨⟩ t answered => answered
      | ok pid =>
        refine Safe.request trivial fun ⟨⟩ t answered => ?_
        obtain rfl : t = _ := answered
        refine ((ih (position + 1) ?_).mono fun later t still => still).bind
        rw [← List.tail_drop, ← here, List.tail_cons]

/-- A child is waited for with nothing held, however often the wait is interrupted. -/
theorem reap_safe (child : ChildProcess) (w : World α) (restored : Restored before w.table) :
    Safe answers (admits before stages) (Job.reap child) (fun _ t => Restored before t.table)
      w := by
  refine Safe.request trivial fun ⟨⟩ t answered => ?_
  obtain rfl : t = w := answered
  refine Safe.requestUntil (fun t => Restored before t.table) restored (fun _ restored => restored)
    ?_ ?_
  · rintro s answer t restored answered -
    obtain rfl : t = s := answered
    exact restored
  · rintro s answer t restored answered -
    obtain rfl : t = s := answered
    refine Safe.request trivial fun ⟨⟩ u answered => ?_
    obtain rfl : u = t := answered
    refine Safe.request trivial fun ⟨⟩ v answered => ?_
    obtain rfl : v = u := answered
    exact restored

/-- A run of a pipeline starts every child with the pipes of all stages, waits with none of them,
and leaves the shell with the descriptors it had. -/
theorem run_safe (before : DescriptorTable α) (searchPaths : List String) (pipeline : Pipeline) :
    Safe answers (admits before pipeline.stages) (Job.run searchPaths pipeline)
      (fun _ t => Restored before t.table) (World.start before) := by
  refine ((openPipes_safe [] (pipeline.stages.length - 1) _ (Holds.start before) rfl).mono ?_).bind
  rintro (reason | pipes) w outcome
  · exact outcome
  · obtain ⟨holds, count⟩ := outcome
    rw [List.length_nil, Nat.zero_add] at count
    refine ((start_safe searchPaths w holds count 0 pipeline.stages rfl).mono ?_).bind
    rintro started t rfl
    refine ((closePipes_safe pipes t).mono ?_).bind
    rintro ⟨⟩ _ rfl
    refine ((Safe.mapM reap_safe started.children _ holds.restored).mono ?_).bind
    exact fun exits t restored => restored

end LineShell.PipelineDescriptors
