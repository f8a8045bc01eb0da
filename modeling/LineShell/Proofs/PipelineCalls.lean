import LineShell.Proofs.DialogueRuns
import LineShell.Proofs.PipelineDescriptors
import LineShell.Proofs.RefusedReports

/-! The calls that the shell makes for a pipeline, whatever the system answers. It opens pipes,
starts stages, closes the pipes and waits, in this order. A pipe that is refused ends the run at
once; a stage that is not started only keeps the later ones from being started. -/
namespace LineShell.PipelineCalls
open Dialogue PipelineDescriptors

variable {α β : Type}

/-! ### Pipes that are refused -/

/-- The system refuses the shell a pipe, or the mark on one of its ends. -/
def Refuses (reason : Errno) : Exchange Call Call.Answer → Prop
  | ⟨.openPipe, .error given⟩ => given = reason
  | ⟨.closeOnExec _, .error given⟩ => given = reason
  | _ => False

/-- All that is left is to close descriptors, and to end with a value. -/
inductive ClosesThenEnds (value : β) : Shell β → Prop where
  | ends : ClosesThenEnds value (.done value)
  | closes {number : Nat} {next : Call.Answer (.close number) → Shell β}
      (further : ClosesThenEnds value (next ())) : ClosesThenEnds value (.ask (.close number) next)

section Refusals

variable {σ : Type} {rule : Rule Call Call.Answer σ} {s t : σ} {program rest : Shell β}
  {history : List (Exchange Call Call.Answer)} {value : β}

theorem ClosesThenEnds.bind {γ : Type} {first : Shell γ} {next : γ → Shell β} {middle : γ}
    (closes : ClosesThenEnds middle first) (further : ClosesThenEnds value (next middle)) :
    ClosesThenEnds value (first >>= next) := by
  induction closes with
  | ends => exact further
  | closes _ ih => exact .closes ih

/-- A shell that only closes goes on that way, and is refused nothing. -/
theorem ClosesThenEnds.along (closes : ClosesThenEnds value program)
    (course : Course rule program s history rest t) :
    ClosesThenEnds value rest ∧ ∀ exchange ∈ history, ∀ reason, ¬Refuses reason exchange := by
  induction course with
  | start => exact ⟨closes, nofun⟩
  | ask answered further ih =>
    cases closes with
    | closes closing =>
      obtain ⟨left, clean⟩ := ih closing
      exact ⟨left, List.forall_mem_cons.mpr ⟨fun reason refused => refused, clean⟩⟩
  | again => cases closes
  | settled => cases closes

theorem ClosesThenEnds.only (closes : ClosesThenEnds value program) :
    Only (fun call => ∃ number, call = .close number) program := by
  induction closes with
  | ends => trivial
  | @closes number next further ih => exact ⟨⟨number, rfl⟩, fun _ => ih⟩

theorem closePipes_closes (pipes : List PipeEnds) :
    ClosesThenEnds () (Job.closePipes pipes) := by
  induction pipes with
  | nil => exact .ends
  | cons ends rest ih => exact .closes (.closes ih)

private theorem giveUp_closes (opened : List PipeEnds) (reason : Errno) :
    ClosesThenEnds (.error reason : Except Errno (List PipeEnds)) (do
      Job.closePipes opened
      return .error reason) :=
  (closePipes_closes opened).bind .ends

private theorem abandon_closes (opened : List PipeEnds) (pipe : PipeEnds) (reason : Errno) :
    ClosesThenEnds (.error reason) (Job.abandon opened pipe reason) :=
  .closes (.closes (giveUp_closes opened reason))

/-- What follows a refusal only closes, so no later exchange is another one. -/
private theorem closes_of_refused {program rest : Shell (Except Errno (List PipeEnds))}
    {given reason : Errno} {first exchange : Exchange Call Call.Answer}
    (member : exchange ∈ first :: history) (refused : Refuses reason exchange)
    (closing : ClosesThenEnds (.error given) program) (course : Course rule program s history rest t)
    (told : Refuses reason first → given = reason) : ClosesThenEnds (.error reason) rest := by
  obtain ⟨left, clean⟩ := closing.along course
  rcases List.mem_cons.mp member with rfl | later
  · rwa [told refused] at left
  · exact absurd refused (clean exchange later reason)

/-- After a refusal the shell closes what it has opened, and ends with the reason. -/
theorem openPipes_refused {opened : List PipeEnds} {count : Nat} {reason : Errno}
    {exchange : Exchange Call Call.Answer} {rest : Shell (Except Errno (List PipeEnds))}
    (course : Course rule (Job.openPipes opened count) s history rest t)
    (member : exchange ∈ history) (refused : Refuses reason exchange) :
    ClosesThenEnds (.error reason) rest := by
  induction count generalizing opened s history with
  | zero => cases course; cases member
  | succ count ih =>
    rcases course.of_request with ⟨rfl, -⟩ | ⟨answer, u, later, rfl, -, further⟩
    · cases member
    cases answer with
    | error given =>
      exact closes_of_refused member refused (giveUp_closes opened given) further id
    | ok pipe =>
      have member := (List.mem_cons.mp member).resolve_left fun same => by
        cases same; exact refused
      rcases further.of_request with ⟨rfl, -⟩ | ⟨answer, v, later, rfl, -, further⟩
      · cases member
      cases answer with
      | error given =>
        exact closes_of_refused member refused (abandon_closes opened pipe given) further id
      | ok marked =>
        have member := (List.mem_cons.mp member).resolve_left fun same => by
          cases same; exact refused
        rcases further.of_request with ⟨rfl, -⟩ | ⟨answer, w, later, rfl, -, further⟩
        · cases member
        cases answer with
        | error given =>
          exact closes_of_refused member refused (abandon_closes opened pipe given) further id
        | ok marked =>
          have member := (List.mem_cons.mp member).resolve_left fun same => by
            cases same; exact refused
          exact ih further member

end Refusals

/-! ### The calls of a run -/

/-- The calls of opening pipes. -/
def Opens : Call → Prop
  | .openPipe | .closeOnExec _ | .close _ => True
  | _ => False

/-- The calls of starting stages. -/
def Starts : Call → Prop
  | .fork _ => True
  | call => Quiet call

/-- The calls of waiting for children. -/
def Awaits : Call → Prop
  | .wait _ | .setForeground _ | .log .. => True
  | _ => False

theorem ClosesThenEnds.opens {value : β} {program : Shell β}
    (closes : ClosesThenEnds value program) : Only Opens program :=
  closes.only.mono fun _ ⟨_, same⟩ => same ▸ trivial

theorem openPipes_opens (opened : List PipeEnds) (count : Nat) :
    Only Opens (Job.openPipes opened count) := by
  induction count generalizing opened with
  | zero => trivial
  | succ count ih =>
    refine (Only.request trivial).bind fun made => ?_
    rcases made with reason | pipe
    · exact (giveUp_closes opened reason).opens
    refine (Only.request trivial).bind fun marked => ?_
    rcases marked with reason | ⟨⟨⟩⟩
    · exact (abandon_closes opened pipe reason).opens
    refine (Only.request trivial).bind fun marked => ?_
    rcases marked with reason | ⟨⟨⟩⟩
    · exact (abandon_closes opened pipe reason).opens
    · exact ih (opened ++ [pipe])

private theorem starts_of_quiet (call : Call) (quiet : Quiet call) : Starts call := by
  cases call <;> first | exact quiet | trivial

/-- Preparing a launch only looks for the program. -/
theorem prepare_quiet (searchPaths : List String) (stage : Stage) :
    Only Quiet (Job.prepare searchPaths stage) := by
  rw [prepare_eq]
  exact (resolve_quiet searchPaths stage.name).bind fun _ => trivial

theorem start_starts (searchPaths : List String) (pipes : List PipeEnds) (position : Nat)
    (stages : List Stage) : Only Starts (Job.start searchPaths pipes position stages) := by
  induction stages generalizing position with
  | nil => trivial
  | cons stage rest ih =>
    refine ((prepare_quiet searchPaths stage).mono starts_of_quiet).bind fun prepared => ?_
    obtain ⟨found, fault | launch⟩ := prepared
    · exact (Only.request trivial).bind fun _ => trivial
    refine (Only.request trivial).bind fun forked => ?_
    cases forked with
    | error reason => exact (Only.request trivial).bind fun _ => trivial
    | ok pid => exact (Only.request trivial).bind fun _ => (ih (position + 1)).bind fun _ => trivial

theorem reap_awaits (child : ChildProcess) : Only Awaits (Job.reap child) :=
  (Only.request trivial).bind fun _ =>
    (Only.requestUntil trivial ⟨.ok (.exited child.pid 0), rfl⟩).bind fun _ =>
    (Only.request trivial).bind fun _ => (Only.request trivial).bind fun _ => trivial

/-- Once the pipes are there, no pipe is made or marked any more. -/
private def Launches : Call → Prop
  | .openPipe | .closeOnExec _ => False
  | call => Opens call ∨ Starts call ∨ Awaits call

private theorem further_launches (searchPaths : List String) (pipeline : Pipeline)
    (pipes : List PipeEnds) :
    Only Launches (do
      let started ← Job.start searchPaths pipes 0 pipeline.stages
      Job.closePipes pipes
      let exits ← started.children.mapM Job.reap
      return (⟨started.stages⟩, .ok ⟨exits, started.failure⟩) :
        Shell (Pipeline × Except LineError Report)) := by
  refine ((start_starts searchPaths pipes 0 pipeline.stages).mono ?_).bind fun started => ?_
  · intro call starts
    cases call <;> first | exact .inr (.inl starts) | cases starts
  refine ((closePipes_closes pipes).only.mono ?_).bind fun _ => ?_
  · rintro _ ⟨number, rfl⟩
    exact .inl trivial
  refine ((Only.mapM reap_awaits started.children).mono ?_).bind fun exits => trivial
  intro call awaits
  cases call <;> first | exact .inr (.inr awaits) | cases awaits

/-- The calls of a run are those of opening pipes, of starting stages and of waiting. -/
theorem run_calls (searchPaths : List String) (pipeline : Pipeline) :
    Only (fun call => Opens call ∨ Starts call ∨ Awaits call) (Job.run searchPaths pipeline) := by
  refine ((openPipes_opens [] _).mono fun _ => .inl).bind fun outcome => ?_
  cases outcome with
  | error reason => trivial
  | ok pipes =>
    refine (further_launches searchPaths pipeline pipes).mono fun call launches => ?_
    cases call <;> first | exact launches | cases launches

/-- Nothing is reported while a pipeline is run. -/
theorem run_silent (searchPaths : List String) (pipeline : Pipeline) :
    Only RefusedReports.Silent (Job.run searchPaths pipeline) := by
  refine (run_calls searchPaths pipeline).mono fun call made => ?_
  rcases made with opens | starts | awaits
  all_goals cases call <;> first | exact trivial | assumption

/-- Opening pipes fails only when the system refuses something. -/
theorem openPipes_ok {opened : List PipeEnds} {count : Nat}
    {history : List (Exchange Call Call.Answer)} {outcome : Except Errno (List PipeEnds)}
    (ran : Run (Job.openPipes opened count) history outcome)
    (created : ∀ exchange ∈ history, ∀ reason, ¬Refuses reason exchange) :
    ∃ pipes, outcome = .ok pipes := by
  induction count generalizing opened history with
  | zero =>
    obtain ⟨rfl, rfl⟩ := run_done_iff.mp ran
    exact ⟨opened, rfl⟩
  | succ count ih =>
    obtain ⟨answer, _, rfl, marking⟩ := run_request_iff.mp ran
    obtain ⟨made, first⟩ := List.forall_mem_cons.mp created
    cases answer with
    | error reason => exact absurd rfl (made reason)
    | ok pipe =>
      obtain ⟨answer, _, rfl, further⟩ := run_request_iff.mp marking
      obtain ⟨readMarked, second⟩ := List.forall_mem_cons.mp first
      cases answer with
      | error reason => exact absurd rfl (readMarked reason)
      | ok done =>
        obtain ⟨answer, _, rfl, others⟩ := run_request_iff.mp further
        obtain ⟨writeMarked, later⟩ := List.forall_mem_cons.mp second
        cases answer with
        | error reason => exact absurd rfl (writeMarked reason)
        | ok done => exact ih others later

/-- If a pipe cannot be made ready nothing is started: the shell closes what it has opened, and
ends with the reason. -/
theorem run_refused {σ : Type} {rule : Rule Call Call.Answer σ} {s t : σ}
    {searchPaths : List String} {pipeline : Pipeline} {history : List (Exchange Call Call.Answer)}
    {rest : Shell (Pipeline × Except LineError Report)} {exchange : Exchange Call Call.Answer}
    {reason : Errno} (course : Course rule (Job.run searchPaths pipeline) s history rest t)
    (member : exchange ∈ history) (refused : Refuses reason exchange) :
    (∀ task answer, ⟨.fork task, answer⟩ ∉ history) ∧
      ClosesThenEnds (pipeline, .error (.pipeFailed reason)) rest := by
  have childless {early : List (Exchange Call Call.Answer)} {left u}
      (opening : Course rule (Job.openPipes [] (pipeline.stages.length - 1)) s early left u)
      (task : ChildTask) (answer : Except Errno Nat) : ⟨.fork task, answer⟩ ∉ early :=
    fun forked => (Only.along opening (openPipes_opens [] _)).1 _ forked
  rcases course.of_bind with
    ⟨left, -, rfl, opening⟩ | ⟨outcome, u, early, later, rfl, opening, further⟩
  · exact ⟨childless opening, (openPipes_refused opening member refused).bind .ends⟩
  cases outcome with
  | error given =>
    cases further
    rw [List.append_nil] at member ⊢
    cases openPipes_refused opening member refused
    exact ⟨childless opening, .ends⟩
  | ok pipes =>
    rcases List.mem_append.mp member with before | after
    · cases openPipes_refused opening before refused
    · have launches := (Only.along further (further_launches searchPaths pipeline pipes)).1 _ after
      obtain ⟨call, answer⟩ := exchange
      cases call <;> first | cases refused | cases launches

/-! ### Finished runs -/

section Finished

variable {searchPaths : List String} {history : List (Exchange Call Call.Answer)}

/-- What a run of a pipeline can be: a pipe that cannot be made ready ends it, or the stages are
started, the pipes closed and the children waited for. -/
theorem run_parts {pipeline after : Pipeline} {outcome : Except LineError Report}
    (ran : Run (Job.run searchPaths pipeline) history (after, outcome)) :
    (∃ reason, Run (Job.openPipes [] (pipeline.stages.length - 1)) history (.error reason) ∧
      after = pipeline ∧ outcome = .error (.pipeFailed reason)) ∨
    ∃ pipes started exits opening starting closing waiting,
      history = opening ++ (starting ++ (closing ++ waiting)) ∧
      Run (Job.openPipes [] (pipeline.stages.length - 1)) opening (.ok pipes) ∧
      Run (Job.start searchPaths pipes 0 pipeline.stages) starting started ∧
      Run (Job.closePipes pipes) closing () ∧
      Run (started.children.mapM Job.reap) waiting exits ∧
      after = ⟨started.stages⟩ ∧ outcome = .ok ⟨exits, started.failure⟩ := by
  obtain ⟨opening, opened, _, rfl, opens, further⟩ := run_bind_iff.mp ran
  cases opened with
  | error reason =>
    obtain ⟨rfl, same⟩ := run_done_iff.mp further
    cases same
    rw [List.append_nil]
    exact .inl ⟨reason, opens, rfl, rfl⟩
  | ok pipes =>
    obtain ⟨starting, started, _, rfl, starts, past⟩ := run_bind_iff.mp further
    obtain ⟨closing, _, _, rfl, closes, left⟩ := run_bind_iff.mp past
    obtain ⟨exits, reaps, same⟩ := run_bind_done_iff.mp left
    cases same
    exact .inr ⟨pipes, started, exits, opening, starting, closing, _, rfl, opens, starts,
      closes, reaps, rfl, rfl⟩

/-- What becomes of the first stage: it cannot be prepared, there is no process for it, or it is
started and the others are tried after it. -/
theorem start_step {pipes : List PipeEnds} {position : Nat} {stage : Stage} {rest : List Stage}
    {started : Job.Started}
    (ran : Run (Job.start searchPaths pipes position (stage :: rest)) history started) :
    ∃ search found outcome later, history = search ++ later ∧
      Run (Job.prepare searchPaths stage) search (found, outcome) ∧
      match outcome with
      | .error reason => (∃ text, later = [⟨.log .info text, ()⟩]) ∧
        started = ⟨found :: rest, [], some reason⟩
      | .ok launch =>
        (∃ reason text, later =
            [⟨.fork ⟨launch, position, pipes⟩, .error reason⟩, ⟨.log .info text, ()⟩] ∧
          started = ⟨found :: rest, [], some (.forkFailed reason)⟩) ∨
        ∃ pid text remaining others, later =
            ⟨.fork ⟨launch, position, pipes⟩, .ok pid⟩ :: ⟨.log .debug text, ()⟩ :: remaining ∧
          Run (Job.start searchPaths pipes (position + 1) rest) remaining others ∧
          started = ⟨found :: others.stages, ⟨pid, position⟩ :: others.children, others.failure⟩ := by
  obtain ⟨search, ⟨found, outcome⟩, _, rfl, preparing, further⟩ := run_bind_iff.mp ran
  cases outcome with
  | error reason =>
    obtain ⟨_, _, rfl, ended⟩ := run_request_iff.mp further
    obtain ⟨rfl, rfl⟩ := run_done_iff.mp ended
    exact ⟨search, found, _, _, rfl, preparing, ⟨_, rfl⟩, rfl⟩
  | ok launch =>
    obtain ⟨answer, _, rfl, forked⟩ := run_request_iff.mp further
    cases answer with
    | error reason =>
      obtain ⟨_, _, rfl, ended⟩ := run_request_iff.mp forked
      obtain ⟨rfl, rfl⟩ := run_done_iff.mp ended
      exact ⟨search, found, _, _, rfl, preparing, .inl ⟨reason, _, rfl, rfl⟩⟩
    | ok pid =>
      obtain ⟨_, _, rfl, starting⟩ := run_request_iff.mp forked
      obtain ⟨others, starts, rfl⟩ := run_bind_done_iff.mp starting
      exact ⟨search, found, _, _, rfl, preparing, .inr ⟨pid, _, _, others, rfl, starts, rfl⟩⟩

end Finished

/-! ### The first wait -/

/-- No child has been waited for so far. -/
private def Waitless (history : List (Exchange Call Call.Answer)) : Prop :=
  ∀ exchange ∈ history, ∀ pid, exchange.1 ≠ .wait pid

/-- The shell has come to its first wait. -/
def ReachedWait (history : List (Exchange Call Call.Answer)) (rest : Shell β) : Prop :=
  ∃ pid, rest.pending? = some (.wait pid) ∨ ∃ answer, ⟨.wait pid, answer⟩ ∈ history

section Waits

variable {γ σ : Type} {rule : Rule Call Call.Answer σ} {s t : σ} {program left : Shell γ}
  {next : γ → Shell β} {early trace : List (Exchange Call Call.Answer)} {allowed : Call → Prop}

private theorem waitless_of_only (only : Only allowed program)
    (never : ∀ pid, ¬allowed (.wait pid)) (course : Course rule program s trace left t) :
    Waitless trace := by
  rintro ⟨call, answer⟩ member pid rfl
  exact never pid ((only.along course).1 _ member)

private theorem Waitless.append (first : Waitless early) (second : Waitless trace) :
    Waitless (early ++ trace) :=
  List.forall_mem_append.mpr ⟨first, second⟩

/-- The first wait is not reached in a part of the program that has no such call. -/
private theorem not_reachedWait (only : Only allowed program)
    (never : ∀ pid, ¬allowed (.wait pid)) (course : Course rule program s trace left t)
    (undone : ∀ value, left ≠ .done value) (before : Waitless early) :
    ¬ReachedWait (early ++ trace) (left >>= next) := by
  rintro ⟨pid, now | ⟨answer, earlier⟩⟩
  · rw [pending?_bind undone] at now
    exact never pid ((only.along course).2.pending now)
  · exact before.append (waitless_of_only only never course) _ earlier pid rfl

end Waits

private theorem starts_still (w : World α) (call : Call) (answer : call.Answer) (t : World α)
    (starts : Starts call) (answered : answers w call answer t) : t = w := by
  cases call <;> first | exact answered | cases starts

private theorem awaits_still (w : World α) (call : Call) (answer : call.Answer) (t : World α)
    (awaits : Awaits call) (answered : answers w call answer t) : t = w := by
  cases call <;> first | exact answered | cases awaits

/-- From its first wait on, the shell has the descriptors that it had before the pipeline. -/
theorem restored_of_reachedWait (before : DescriptorTable α) {searchPaths : List String}
    {pipeline : Pipeline} {history : List (Exchange Call Call.Answer)}
    {rest : Shell (Pipeline × Except LineError Report)} {w : World α}
    (course : Course answers (Job.run searchPaths pipeline) (World.start before) history rest w)
    (reached : ReachedWait history rest) : Restored before w.table := by
  have opens := openPipes_opens [] (pipeline.stages.length - 1)
  rcases course.of_bind with ⟨left, undone, rfl, opening⟩ | ⟨outcome, u, _, _, rfl, opening, past⟩
  · have before : Waitless [] := nofun
    exact absurd reached (not_reachedWait opens nofun opening undone before)
  have safe : Safe answers (admits before pipeline.stages) _ (Opening before _) _ :=
    openPipes_safe [] (pipeline.stages.length - 1) (World.start before) (Holds.start before) rfl
  have opened := safe.along opening
  have waitless := waitless_of_only opens nofun opening
  cases outcome with
  | error reason =>
    cases past
    exact opened
  | ok pipes =>
    obtain ⟨holds, -⟩ := opened
    have starts := start_starts searchPaths pipes 0 pipeline.stages
    rcases past.of_bind with ⟨left, undone, rfl, starting⟩ | ⟨started, v, _, _, rfl, starting, past⟩
    · exact absurd reached (not_reachedWait starts nofun starting undone waitless)
    have waitless := waitless.append (waitless_of_only starts nofun starting)
    cases starts.still starts_still starting
    have closes := (closePipes_closes pipes).opens
    rcases past.of_bind with ⟨left, undone, rfl, closing⟩ | ⟨_, x, _, _, rfl, closing, past⟩
    · rw [← List.append_assoc] at reached
      exact absurd reached (not_reachedWait closes nofun closing undone waitless)
    have shut : Safe answers (admits before pipeline.stages) _ _ _ := closePipes_safe pipes u
    cases shut.along closing
    have awaits : Only Awaits (started.children.mapM Job.reap >>= fun exits =>
        (return (⟨started.stages⟩, .ok ⟨exits, started.failure⟩) :
          Shell (Pipeline × Except LineError Report))) :=
      (Only.mapM reap_awaits started.children).bind fun _ => trivial
    cases awaits.still awaits_still past
    exact holds.restored

/-! ### The stages that are started -/

/-- The position of the stage that an exchange has started, if it has started one. -/
def started? : Exchange Call Call.Answer → Option Nat
  | ⟨.fork task, .ok _⟩ => some task.position
  | _ => none

section Positions

variable {σ : Type} {rule : Rule Call Call.Answer σ} {s t : σ}
  {history : List (Exchange Call Call.Answer)}

private theorem started?_of_only {allowed : Call → Prop} {program rest : Shell β}
    (only : Only allowed program) (never : ∀ task, ¬allowed (.fork task))
    (course : Course rule program s history rest t) : history.filterMap started? = [] := by
  refine only.filterMap_eq_nil course ?_
  rintro ⟨call, answer⟩ made
  cases call with
  | fork task => exact absurd made (never task)
  | _ => rfl

/-- Stages are started one after the other from the position on, without leaving one out. -/
theorem start_positions {searchPaths : List String} {pipes : List PipeEnds} {position : Nat}
    {stages : List Stage} {rest : Shell Job.Started}
    (course : Course rule (Job.start searchPaths pipes position stages) s history rest t) :
    ∃ count, history.filterMap started? = List.range' position count := by
  induction stages generalizing position s history rest with
  | nil => cases course; exact ⟨0, rfl⟩
  | cons stage later ih =>
    have quiet := prepare_quiet searchPaths stage
    have note {level : LogLevel} {text : String} {value : Job.Started} :
        Only Quiet (Shell.log level text >>= fun _ => .done value) :=
      (Only.request trivial).bind fun _ => trivial
    rcases course.of_bind with ⟨_, -, -, preparing⟩ | ⟨prepared, u, _, _, rfl, preparing, past⟩
    · exact ⟨0, started?_of_only quiet nofun preparing⟩
    rw [List.filterMap_append, started?_of_only quiet nofun preparing, List.nil_append]
    obtain ⟨found, fault | launch⟩ := prepared
    · exact ⟨0, started?_of_only note nofun past⟩
    rcases past.of_request with ⟨rfl, -⟩ | ⟨reason | pid, v, _, rfl, -, past⟩
    · exact ⟨0, rfl⟩
    · rw [List.filterMap_cons_none rfl]
      exact ⟨0, started?_of_only note nofun past⟩
    rcases past.of_request with ⟨rfl, -⟩ | ⟨_, w, others, rfl, -, past⟩
    · exact ⟨1, rfl⟩
    have further : ∃ count, others.filterMap started? = List.range' (position + 1) count := by
      rcases past.of_bind with ⟨_, -, -, starting⟩ | ⟨_, x, _, _, rfl, starting, ended⟩
      · exact ih starting
      · cases ended
        rw [List.append_nil]
        exact ih starting
    obtain ⟨count, same⟩ := further
    refine ⟨count + 1, ?_⟩
    rw [List.range'_succ, ← same]
    rfl

/-- The stages that a run of a pipeline has started are the first ones, in their order. -/
theorem run_positions {searchPaths : List String} {pipeline : Pipeline}
    {rest : Shell (Pipeline × Except LineError Report)}
    (course : Course rule (Job.run searchPaths pipeline) s history rest t) :
    ∃ count, history.filterMap started? = List.range count := by
  have opens := openPipes_opens [] (pipeline.stages.length - 1)
  simp only [List.range_eq_range']
  rcases course.of_bind with ⟨_, -, -, opening⟩ | ⟨outcome, u, _, _, rfl, opening, past⟩
  · exact ⟨0, started?_of_only opens nofun opening⟩
  rw [List.filterMap_append, started?_of_only opens nofun opening, List.nil_append]
  cases outcome with
  | error reason => cases past; exact ⟨0, rfl⟩
  | ok pipes =>
    rcases past.of_bind with ⟨_, -, -, starting⟩ | ⟨started, v, _, _, rfl, starting, past⟩
    · exact start_positions starting
    have further : Only (fun call => Opens call ∨ Awaits call) (do
        Job.closePipes pipes
        let exits ← started.children.mapM Job.reap
        return (⟨started.stages⟩, .ok ⟨exits, started.failure⟩) :
          Shell (Pipeline × Except LineError Report)) :=
      ((closePipes_closes pipes).opens.mono fun _ => .inl).bind fun _ =>
        ((Only.mapM reap_awaits started.children).mono fun _ => .inr).bind fun _ => trivial
    rw [List.filterMap_append, started?_of_only further (fun _ => nofun) past, List.append_nil]
    exact start_positions starting

end Positions

end LineShell.PipelineCalls
