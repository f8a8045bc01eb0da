import LineShell.Foreground
import LineShell.Proofs.PipelineCalls
import Mathlib.Logic.Relation

/-! The relay of signals while a pipeline is run. A signal can arrive between any two calls of the
shell and goes to the process that is in the slot at that moment. A child is put into the slot before
the shell waits for it and is taken out some time after the wait has told how it ended, so it is in
the slot for two calls too long. -/
namespace LineShell.SignalRelay
open Dialogue PipelineCalls PipelineDescriptors

/-- What has been asked of the system and answered. -/
abbrev History := List (Exchange Call Call.Answer)

/-- The slot after a call. -/
def slotAfter : Rule Call Call.Answer Foreground
  | _, .setForeground pid, _, after => after = ⟨pid⟩
  | slot, _, _, after => after = slot

/-- The child that an exchange has started. -/
def forked? : Exchange Call Call.Answer → Option Nat
  | ⟨.fork _, .ok pid⟩ => some pid
  | _ => none

/-- The child that an exchange has ended the wait for. -/
def reaped? : Exchange Call Call.Answer → Option Nat
  | ⟨.wait pid, answer⟩ => if Shell.isFinal answer then some pid else none
  | _ => none

/-- A child with this number has been started for which no wait has ended. -/
def Unreaped (pid : Nat) (history : History) : Prop :=
  (history.filterMap reaped?).count pid < (history.filterMap forked?).count pid

instance (pid : Nat) (history : History) : Decidable (Unreaped pid history) :=
  inferInstanceAs (Decidable (_ < _))

/-- A kill of the relay, with the signal that was delivered to the shell, the calls answered before
it and the call that the shell makes next. -/
structure Kill where
  target : Int
  signal : Signal
  delivered : Signal
  history : History
  next : Option Call

/-- A shell that runs a pipeline, the slot, and the kills so far. -/
structure Relaying where
  history : History
  rest : Shell (Pipeline × Except LineError Report)
  slot : Foreground
  kills : List Kill

namespace Relaying

/-- The shell before it runs a pipeline. -/
def start (searchPaths : List String) (pipeline : Pipeline) : Relaying :=
  { history := [], rest := Job.run searchPaths pipeline, slot := {}, kills := [] }

/-- The kill that the relay issues for a signal. -/
def kill? (now : Relaying) (delivered : Signal) : Option Kill :=
  (now.slot.forward? delivered).map fun (target, signal) =>
    { target, signal, delivered, history := now.history, next := now.rest.pending? }

/-- Either a call is answered or a signal arrives. -/
inductive Step : Relaying → Relaying → Prop where
  | answered {now : Relaying} {exchange : Exchange Call Call.Answer}
      {rest : Shell (Pipeline × Except LineError Report)} {slot : Foreground}
      (course : Course slotAfter now.rest now.slot [exchange] rest slot) :
      Step now { now with history := now.history ++ [exchange], rest, slot }
  | delivered {now : Relaying} {signal : Signal} (relayed : signal ∈ Signal.relayed) :
      Step now { now with kills := now.kills ++ (now.kill? signal).toList }

end Relaying

/-- Where a kill for a child can fall: the shell waits for the child, or the wait has just ended, or
that has just been noted. Up to the end of the wait the history is one that `before` admits. -/
inductive Held (pid : Nat) (before : History → Prop) : History → Option Call → Prop where
  | waiting {history : History} (sofar : before history) :
      Held pid before history (some (.wait pid))
  | ended {history : History} {answer : Except Errno WaitStatus} {text : String}
      (sofar : before history) (final : Shell.isFinal answer = true) :
      Held pid before (history ++ [⟨.wait pid, answer⟩]) (some (.log .debug text))
  | noted {history : History} {answer : Except Errno WaitStatus} {text : String}
      (sofar : before history) (final : Shell.isFinal answer = true) :
      Held pid before (history ++ [⟨.wait pid, answer⟩, ⟨.log .debug text, ()⟩])
        (some (.setForeground 0))

/-! ### The slot along a run -/

section Slot

variable {α : Type} {child : ChildProcess} {children : List ChildProcess} {trace : History}
  {slot : Foreground} {next : Option Call}

/-- More before it changes nothing. -/
theorem Held.prepend {pid : Nat} {before after : History → Prop} (earlier : History)
    (held : Held pid before trace next)
    (implies : ∀ history, before history → after (earlier ++ history)) :
    Held pid after (earlier ++ trace) next := by
  cases held with
  | waiting sofar => exact .waiting (implies _ sofar)
  | ended sofar final =>
    rw [← List.append_assoc]
    exact .ended (implies _ sofar) final
  | noted sofar final =>
    rw [← List.append_assoc]
    exact .noted (implies _ sofar) final

theorem Held.pending {pid : Nat} {before : History → Prop} {rest : Shell α}
    (held : Held pid before trace rest.pending?) : ∀ value, rest ≠ .done value := by
  rintro value rfl
  cases held

/-- A kill that falls while the shell waits falls before the end of the wait. -/
theorem Held.waits {pid number : Nat} {before : History → Prop}
    (held : Held pid before trace (some (.wait number))) : pid = number ∧ before trace := by
  generalize asked : some (Call.wait number) = next at held
  cases held with
  | waiting sofar =>
    cases asked
    exact ⟨rfl, sofar⟩
  | ended => cases asked
  | noted => cases asked

private theorem reaped?_unsettled {pid : Nat} {earlier : List (Except Errno WaitStatus)}
    (unsettled : ∀ one ∈ earlier, Shell.isFinal one = false) :
    (earlier.map (⟨Call.wait pid, ·⟩) : History).filterMap reaped? = [] := by
  rw [List.filterMap_map, List.filterMap_eq_nil_iff]
  intro one member
  simp [reaped?, unsettled one member]

/-- A child is in the slot from before the first wait for it until after the end of the wait has been
noted. -/
theorem reap_course {left : Shell StageExit}
    (course : Course slotAfter (Job.reap child) {} trace left slot) :
    slot = {} ∧ (∀ exit, left = .done exit → trace.filterMap reaped? = [child.pid]) ∨
    slot = ⟨child.pid⟩ ∧ Held child.pid (fun history => history.filterMap reaped? = []) trace
      left.pending? := by
  rcases course.of_request with ⟨rfl, rfl, rfl⟩ | ⟨_, slot₁, later, rfl, rfl, waits⟩
  · exact .inl ⟨rfl, nofun⟩
  obtain ⟨earlier, unsettled, past⟩ := waits.of_requestUntil fun _ _ _ still => still
  have unreaped : ((⟨.setForeground child.pid, ()⟩ :: earlier.map (⟨.wait child.pid, ·⟩) :
      History).filterMap reaped?) = [] := by
    rw [List.filterMap_cons_none rfl]
    exact reaped?_unsettled unsettled
  rcases past with ⟨rfl, rfl, rfl⟩ | ⟨answer, later, final, rfl, logs⟩
  · exact .inr ⟨rfl, .waiting unreaped⟩
  rcases logs.of_request with ⟨rfl, rfl, rfl⟩ | ⟨_, slot₂, later, rfl, rfl, clears⟩
  · rw [← List.cons_append]
    exact .inr ⟨rfl, .ended unreaped final⟩
  rcases clears.of_request with ⟨rfl, rfl, rfl⟩ | ⟨_, slot₃, later, rfl, rfl, ends⟩
  · rw [← List.cons_append]
    exact .inr ⟨rfl, .noted unreaped final⟩
  cases ends
  refine .inl ⟨rfl, fun _ _ => ?_⟩
  have told : reaped? ⟨.wait child.pid, answer⟩ = some child.pid := if_pos final
  rw [← List.cons_append, List.filterMap_append, unreaped, List.filterMap_cons_some told]
  rfl

/-- The children are in the slot one after the other, and between them the slot is empty. -/
theorem reaps_course {left : Shell (List StageExit)}
    (course : Course slotAfter (children.mapM Job.reap) {} trace left slot) :
    slot = {} ∨ ∃ earlier child later before during, children = earlier ++ child :: later ∧
      trace = before ++ during ∧ before.filterMap reaped? = earlier.map ChildProcess.pid ∧
      slot = ⟨child.pid⟩ ∧ Held child.pid (fun history => history.filterMap reaped? = []) during
        left.pending? := by
  induction children generalizing trace left with
  | nil =>
    rw [List.mapM_nil] at course
    cases course
    exact .inl rfl
  | cons child children ih =>
    rw [List.mapM_cons] at course
    rcases course.of_bind with ⟨inside, -, rfl, reaping⟩ | ⟨exit, s, first, _, rfl, reaping, further⟩
    · rcases reap_course reaping with ⟨idle, -⟩ | ⟨same, held⟩
      · exact .inl idle
      · refine .inr ⟨[], child, children, [], trace, rfl, rfl, rfl, same, ?_⟩
        rw [pending?_bind held.pending]
        exact held
    obtain ⟨rfl, reaped⟩ : s = {} ∧ ∀ exit', Dialogue.done exit = .done exit' →
        first.filterMap reaped? = [child.pid] := by
      rcases reap_course reaping with idle | ⟨-, held⟩
      · exact idle
      · exact absurd rfl (held.pending exit)
    rcases further.of_bind with ⟨inside, -, rfl, reaps⟩ | ⟨exits, s, _, _, rfl, reaps, ended⟩
    · rcases ih reaps with idle | ⟨earlier, one, later, before, during, rfl, rfl, told, same, held⟩
      · exact .inl idle
      · refine .inr ⟨child :: earlier, one, later, first ++ before, during, rfl, ?_, ?_, same, ?_⟩
        · rw [List.append_assoc]
        · rw [List.filterMap_append, reaped exit rfl, told]
          rfl
        · rw [pending?_bind held.pending]
          exact held
    · cases ended
      rcases ih reaps with idle | ⟨_, _, _, _, _, -, -, -, -, held⟩
      · exact .inl idle
      · exact absurd rfl (held.pending exits)

/-- Calls of opening pipes and of starting stages leave the slot as it is, and end no wait. -/
private theorem early_course {allowed : Call → Prop} {program left : Shell α} {before : Foreground}
    (only : Only allowed program)
    (early : ∀ call, allowed call → Opens call ∨ Starts call)
    (course : Course slotAfter program before trace left slot) :
    slot = before ∧ trace.filterMap reaped? = [] := by
  constructor
  · refine only.still ?_ course
    intro slot call answer after made answered
    cases call with
    | setForeground pid =>
      rcases early _ made with opens | starts
      · cases opens
      · cases starts
    | _ => exact answered
  · refine only.filterMap_eq_nil course ?_
    rintro ⟨call, answer⟩ made
    cases call with
    | wait pid =>
      rcases early _ made with opens | starts
      · cases opens
      · cases starts
    | _ => rfl

private theorem unforked {allowed : Call → Prop} {program left : Shell α} {σ : Type}
    {rule : Rule Call Call.Answer σ} {s t : σ} (only : Only allowed program)
    (never : ∀ task, ¬allowed (.fork task)) (course : Course rule program s trace left t) :
    trace.filterMap forked? = [] := by
  refine only.filterMap_eq_nil course ?_
  rintro ⟨call, answer⟩ made
  cases call with
  | fork task => exact absurd made (never task)
  | _ => rfl

/-- The children are those that the forks have started. -/
theorem start_forked {searchPaths : List String} {pipes : List PipeEnds} {position : Nat}
    {stages : List Stage} {started : Job.Started}
    (ran : Run (Job.start searchPaths pipes position stages) trace started) :
    trace.filterMap forked? = started.children.map ChildProcess.pid := by
  induction stages generalizing position trace started with
  | nil =>
    obtain ⟨rfl, rfl⟩ := run_done_iff.mp ran
    rfl
  | cons stage rest ih =>
    obtain ⟨search, found, outcome, later, rfl, searching, became⟩ := start_step ran
    have none : search.filterMap forked? = [] :=
      unforked (prepare_quiet searchPaths stage) nofun searching.course
    rw [List.filterMap_append, none, List.nil_append]
    cases outcome with
    | error reason =>
      obtain ⟨⟨text, rfl⟩, rfl⟩ := became
      rfl
    | ok launch =>
      rcases became with ⟨reason, text, rfl, rfl⟩ | ⟨pid, text, remaining, others, rfl, starts, rfl⟩
      · rfl
      · exact congrArg (pid :: ·) ((List.filterMap_cons_none rfl).trans (ih starts))

/-- Wherever the slot is not empty along a run, it holds a child of the run, from when the shell
turns to the child until the end of the wait for it has been noted. -/
theorem run_course {searchPaths : List String} {pipeline : Pipeline} {history : History}
    {rest : Shell (Pipeline × Except LineError Report)}
    (course : Course slotAfter (Job.run searchPaths pipeline) {} history rest slot) :
    slot = {} ∨ ∃ pid : Nat, slot = ⟨pid⟩ ∧ pid ∈ history.filterMap forked? ∧
      Held pid (Unreaped pid) history rest.pending? := by
  have opens := openPipes_opens [] (pipeline.stages.length - 1)
  rcases course.of_bind with ⟨left, -, rfl, opening⟩ | ⟨outcome, s, first, _, rfl, opening, past⟩
  · exact .inl (early_course opens (fun _ => .inl) opening).1
  obtain ⟨rfl, unreaped₁⟩ := early_course opens (fun _ => .inl) opening
  cases outcome with
  | error reason =>
    cases past
    exact .inl rfl
  | ok pipes =>
    have starts := start_starts searchPaths pipes 0 pipeline.stages
    rcases past.of_bind with ⟨left, -, rfl, starting⟩ | ⟨started, s, second, _, rfl, starting, past⟩
    · exact .inl (early_course starts (fun _ => .inr) starting).1
    obtain ⟨rfl, unreaped₂⟩ := early_course starts (fun _ => .inr) starting
    have closes := (closePipes_closes pipes).opens
    rcases past.of_bind with ⟨left, -, rfl, closing⟩ | ⟨_, s, third, _, rfl, closing, past⟩
    · exact .inl (early_course closes (fun _ => .inl) closing).1
    obtain ⟨rfl, unreaped₃⟩ := early_course closes (fun _ => .inl) closing
    rcases past.of_bind with ⟨left, -, rfl, reaping⟩ | ⟨exits, s, fourth, _, rfl, reaping, ended⟩
    · have forked := start_forked starting.run
      rcases reaps_course reaping with
        idle | ⟨earlier, child, later, before, during, children, rfl, told, same, held⟩
      · exact .inl idle
      rw [children, List.map_append, List.map_cons] at forked
      -- The child is among those that were started, and only the ones before it have been reaped.
      have unreaped (more : History) (none : more.filterMap reaped? = []) :
          Unreaped child.pid (first ++ (second ++ (third ++ before)) ++ more) := by
        unfold Unreaped
        simp only [List.filterMap_append, unreaped₁, unreaped₂, unreaped₃, told, none, forked,
          List.nil_append, List.append_nil, List.count_append, List.count_cons_self]
        omega
      refine .inr ⟨child.pid, same, ?_, ?_⟩
      · simp [forked]
      · rw [pending?_bind held.pending]
        have placed := held.prepend (first ++ (second ++ (third ++ before))) unreaped
        simpa only [List.append_assoc] using placed
    · cases ended
      rcases reaps_course reaping with idle | ⟨_, _, _, _, _, -, -, -, -, held⟩
      · exact .inl idle
      · exact absurd rfl (held.pending exits)

end Slot

namespace Relaying

variable {searchPaths : List String} {pipeline : Pipeline} {now next : Relaying}

/-- The kill goes to a child of the run, and is not out of place. -/
structure Aimed (kill : Kill) : Prop where
  passedOn : kill.signal = kill.delivered
  relayed : kill.delivered ∈ Signal.relayed
  held : ∃ pid : Nat, kill.target = pid ∧ pid ∈ kill.history.filterMap forked? ∧
    Held pid (Unreaped pid) kill.history kill.next

/-- What every step keeps: the calls are on a course of the run, and the kills have been aimed. -/
structure Sound (searchPaths : List String) (pipeline : Pipeline) (now : Relaying) : Prop where
  course : Course slotAfter (Job.run searchPaths pipeline) {} now.history now.rest now.slot
  aimed : ∀ kill ∈ now.kills, Aimed kill ∧ kill.history <+: now.history

theorem kill?_aimed {signal : Signal} {kill : Kill}
    (course : Course slotAfter (Job.run searchPaths pipeline) {} now.history now.rest now.slot)
    (relayed : signal ∈ Signal.relayed) (issued : now.kill? signal = some kill) : Aimed kill := by
  obtain ⟨⟨target, sent⟩, forwarded, rfl⟩ := Option.map_eq_some_iff.mp issued
  obtain ⟨job, here, same⟩ := Option.map_eq_some_iff.mp forwarded
  cases same
  rcases run_course course with idle | ⟨pid, same, forked, held⟩
  · rw [idle] at here
    cases here
  · rw [same] at here
    unfold Foreground.job? at here
    split at here
    · cases here
      exact ⟨rfl, relayed, pid, rfl, forked, held⟩
    · cases here

theorem Sound.step (sound : Sound searchPaths pipeline now) (step : Step now next) :
    Sound searchPaths pipeline next := by
  cases step with
  | @answered exchange rest slot course =>
    refine ⟨sound.course.append course, ?_⟩
    intro kill member
    obtain ⟨aimed, earlier⟩ := sound.aimed kill member
    exact ⟨aimed, earlier.trans (List.prefix_append _ _)⟩
  | @delivered signal relayed =>
    refine ⟨sound.course, ?_⟩
    intro kill member
    rcases List.mem_append.mp member with before | here
    · exact sound.aimed kill before
    · have issued := Option.mem_toList.mp here
      refine ⟨kill?_aimed sound.course relayed issued, ?_⟩
      obtain ⟨_, _, rfl⟩ := Option.map_eq_some_iff.mp issued
      exact List.prefix_rfl

theorem sound_of_reachable
    (reached : Relation.ReflTransGen Step (start searchPaths pipeline) now) :
    Sound searchPaths pipeline now := by
  induction reached with
  | refl => exact ⟨.start _ _, nofun⟩
  | tail _ step ih => exact ih.step step

/-- Calls that are answered one after the other are steps without a signal. -/
theorem reached_along {program rest : Shell (Pipeline × Except LineError Report)}
    {before after : Foreground} {trace : History}
    (course : Course slotAfter program before trace rest after) (history : History)
    (kills : List Kill) :
    Relation.ReflTransGen Step ⟨history, program, before, kills⟩
      ⟨history ++ trace, rest, after, kills⟩ := by
  induction course generalizing history with
  | start program slot =>
    rw [List.append_nil]
  | @ask request _ answer _ _ _ _ _ answered further ih =>
    have later := ih (history ++ [⟨request, answer⟩])
    rw [List.append_assoc] at later
    exact .head (.answered (.ask answered (.start _ _))) later
  | @again request _ _ answer _ _ _ _ _ answered unsettled further ih =>
    have later := ih (history ++ [⟨request, answer⟩])
    rw [List.append_assoc] at later
    exact .head (.answered (.again answered unsettled (.start _ _))) later
  | @settled request _ _ answer _ _ _ _ _ answered final further ih =>
    have later := ih (history ++ [⟨request, answer⟩])
    rw [List.append_assoc] at later
    exact .head (.answered (.settled answered final (.start _ _))) later

end Relaying

/-- However signals fall between the calls of a run, the relay passes each on as it is, and only to a
child of the run, while the shell waits for the child and has not been told its end, or, where the
wait has ended, until the end has been noted and the slot is cleared. At every other moment, before
the first child is waited for, from one child to the next and after the run, the slot is empty. -/
theorem relay_follows_waits (searchPaths : List String) (pipeline : Pipeline) {now : Relaying}
    (reached : Relation.ReflTransGen Relaying.Step (.start searchPaths pipeline) now) :
    (now.slot = {} ∨ ∃ pid : Nat, now.slot = ⟨pid⟩ ∧ pid ∈ now.history.filterMap forked? ∧
      Held pid (Unreaped pid) now.history now.rest.pending?) ∧
    ∀ kill ∈ now.kills, kill.signal = kill.delivered ∧ kill.delivered ∈ Signal.relayed ∧
      kill.history <+: now.history ∧
      ∃ pid : Nat, kill.target = pid ∧ pid ∈ kill.history.filterMap forked? ∧
        Held pid (Unreaped pid) kill.history kill.next := by
  have sound := Relaying.sound_of_reachable reached
  refine ⟨run_course sound.course, ?_⟩
  intro kill member
  obtain ⟨aimed, earlier⟩ := sound.aimed kill member
  exact ⟨aimed.passedOn, aimed.relayed, earlier, aimed.held⟩

/-- A pipeline of one stage. -/
def loneSleeper : Pipeline :=
  ⟨[{ argv := ["sleep", "9"] }]⟩

/-- The calls of its run up to the wait for its child, which has the number 7. -/
def sleeperHistory : History :=
  [⟨.isExecutable "sleep", true⟩, ⟨.log .debug "resolved sleep as a direct path", ()⟩,
    ⟨.fork ⟨Job.launchOf { argv := ["sleep", "9"] } "sleep", 0, []⟩, .ok 7⟩,
    ⟨.log .debug "stage 0 (sleep) started as pid 7", ()⟩, ⟨.setForeground 7, ()⟩]

/-- A child that is waited for is suspended in the place of the shell. -/
theorem relay_follows_waits_suspended : ∃ now : Relaying,
    Relation.ReflTransGen Relaying.Step (.start [] loneSleeper) now ∧
    now.kills = [⟨7, .suspend, .suspend, sleeperHistory, some (.wait 7)⟩] ∧
    Unreaped 7 sleeperHistory := by
  have calls : Course slotAfter (Job.run [] loneSleeper) {} sleeperHistory
      (.insist (.wait 7) _ _) ⟨7⟩ :=
    .ask rfl <| .ask rfl <| .ask rfl <| .ask rfl <| .ask rfl <| .start _ _
  have reached := (Relaying.reached_along calls [] []).tail
    (.delivered (by decide : Signal.suspend ∈ Signal.relayed))
  obtain ⟨-, kills⟩ := relay_follows_waits _ _ reached
  obtain ⟨-, -, -, pid, -, -, held⟩ := kills _ List.mem_cons_self
  obtain ⟨rfl, unreaped⟩ := held.waits
  exact ⟨_, reached, rfl, unreaped⟩

/-- A signal that arrives after the wait for a child has ended goes to the number that the child
had. -/
theorem relay_outlasts_wait : ∃ (now : Relaying) (next : Option Call),
    Relation.ReflTransGen Relaying.Step (.start [] loneSleeper) now ∧
    now.kills = [⟨7, .interrupt, .interrupt,
      sleeperHistory ++ [⟨.wait 7, .ok (.exited 7 0)⟩], next⟩] ∧
    ¬Unreaped 7 (sleeperHistory ++ [⟨.wait 7, .ok (.exited 7 0)⟩]) := by
  have calls : Course slotAfter (Job.run [] loneSleeper) {}
      (sleeperHistory ++ [⟨.wait 7, .ok (.exited 7 0)⟩]) (.ask (.log _ _) _) ⟨7⟩ :=
    .ask rfl <| .ask rfl <| .ask rfl <| .ask rfl <| .ask rfl <| .settled rfl rfl <| .start _ _
  have reached := (Relaying.reached_along calls [] []).tail
    (.delivered (by decide : Signal.interrupt ∈ Signal.relayed))
  exact ⟨_, _, reached, rfl, by decide⟩

end LineShell.SignalRelay
