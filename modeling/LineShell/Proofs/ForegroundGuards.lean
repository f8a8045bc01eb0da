import LineShell.Foreground
import Mathlib.Data.List.Basic

/-! Guards that overlap. There is one slot for all of them, so only what has happened last to any
guard counts: a guard that was created since is the one that signals follow, and a guard that has
gone away leaves the slot empty, whichever guards are still alive. -/
namespace LineShell.ForegroundGuards

/-- What can happen to guards, and to a shell that has them. -/
inductive Event where
  | created (pid : Int)
  /-- The guard at a position among the living goes away. -/
  | released (position : Nat)
  /-- A signal arrives. -/
  | delivered (signal : Signal)
  deriving DecidableEq

/-- A process and the signal it is sent. -/
abbrev Kill := Int × Signal

/-- What an event does to the guards, and the kills that the relay issues for it. Any guard that is
alive may go away. -/
inductive Step : Guards → Event → List Kill → Guards → Prop where
  | created {g : Guards} (pid : Int) : Step g (.created pid) [] (g.create pid)
  | released {g : Guards} {position : Nat} (alive : position < g.living.length) :
      Step g (.released position) [] (g.release position)
  | delivered {g : Guards} {signal : Signal} (relayed : signal ∈ Signal.relayed) :
      Step g (.delivered signal) (g.foreground.forward? signal).toList g

/-- The events in their order, all the kills for them, and the guards that are left. -/
inductive Trace : List Event → List Kill → Guards → Prop where
  | start : Trace [] [] {}
  | next {events : List Event} {kills more : List Kill} {g after : Guards} {event : Event}
      (sofar : Trace events kills g) (step : Step g event more after) :
      Trace (events ++ [event]) (kills ++ more) after

/-- Whether a guard was created or has gone away. -/
def Event.ofGuard : Event → Bool
  | .created _ | .released _ => true
  | .delivered _ => false

/-- The latest creation of a guard, or end of one. -/
def latest? (events : List Event) : Option Event :=
  (events.filter Event.ofGuard).getLast?

/-- The kills for an event after others. A signal is passed on once, to the process of a guard that
was created last. -/
def killsFor (before : List Event) : Event → List Kill
  | .delivered signal =>
    match latest? before with
    | some (.created pid) => if 0 < pid then [(pid, signal)] else []
    | _ => []
  | _ => []

section Traces

variable {events before after : List Event} {event : Event} {kills : List Kill} {g : Guards}

theorem latest?_snoc (events : List Event) (event : Event) :
    latest? (events ++ [event]) = if event.ofGuard then some event else latest? events := by
  rw [latest?, List.filter_append]
  cases guard : event.ofGuard <;> simp [guard, latest?]

/-- What every event keeps: the slot has the process of a guard that was created last and is still
alive, and else it is empty. -/
structure Settled (events : List Event) (g : Guards) : Prop where
  slot : g.foreground.slot = match latest? events with
    | some (.created pid) => pid
    | _ => 0
  idle : g.living = [] → g.foreground = {}

theorem Settled.step {more : List Kill} {next : Guards} (settled : Settled events g)
    (step : Step g event more next) : Settled (events ++ [event]) next := by
  cases step with
  | created pid =>
    refine ⟨?_, fun none => ?_⟩
    · rw [latest?_snoc]
      rfl
    · exact absurd none (List.append_ne_nil_of_right_ne_nil _ (List.cons_ne_nil _ _))
  | released alive =>
    rw [Guards.release, if_pos alive]
    refine ⟨?_, fun _ => rfl⟩
    rw [latest?_snoc]
    rfl
  | delivered relayed =>
    refine ⟨?_, settled.idle⟩
    rw [latest?_snoc]
    exact settled.slot

theorem Trace.settled (trace : Trace events kills g) : Settled events g := by
  induction trace with
  | start => exact ⟨rfl, fun _ => rfl⟩
  | next _ step ih => exact ih.step step

/-- The slot names a process exactly if what has happened last to any guard is that one was created
for it. -/
theorem Settled.job?_eq_some_iff (settled : Settled events g) {pid : Int} :
    g.foreground.job? = some pid ↔ latest? events = some (.created pid) ∧ 0 < pid := by
  have slot := settled.slot
  rw [Foreground.job?]
  split at slot
  · rename_i held created
    rw [created, slot]
    by_cases positive : 0 < held
    · rw [if_pos positive]
      constructor
      · intro same
        cases same
        exact ⟨rfl, positive⟩
      · rintro ⟨same, -⟩
        cases same
        rfl
    · rw [if_neg positive]
      constructor
      · nofun
      · rintro ⟨same, impossible⟩
        cases same
        exact absurd impossible positive
  · rename_i other
    rw [slot, if_neg (Int.lt_irrefl 0)]
    constructor
    · nofun
    · rintro ⟨created, -⟩
      exact absurd created (other pid)

/-- The kills for an event are those that the events before it call for. -/
theorem Settled.kills_eq {more : List Kill} {next : Guards} (settled : Settled events g)
    (step : Step g event more next) : more = killsFor events event := by
  cases step with
  | created | released => rfl
  | delivered relayed =>
    have slot := settled.slot
    rw [Foreground.forward?, Foreground.job?, slot, killsFor]
    split
    · split <;> rfl
    · rfl

/-- Every event of a trace has its own kills, after those of the events before it. -/
theorem Trace.kills_at (trace : Trace events kills g)
    (division : events = before ++ event :: after) :
    ∃ earlier later middle, Trace before earlier middle ∧
      kills = earlier ++ killsFor before event ++ later := by
  induction trace generalizing after with
  | start => simp at division
  | @next events kills more g final last sofar step ih =>
    rcases List.eq_nil_or_concat after with rfl | ⟨between, other, rfl⟩
    · obtain ⟨rfl, same⟩ := List.append_inj' division rfl
      cases same
      exact ⟨kills, [], g, sofar, by rw [List.append_nil, sofar.settled.kills_eq step]⟩
    · have longer : events ++ [last] = (before ++ event :: between) ++ [other] := by
        simpa using division
      obtain ⟨same, -⟩ := List.append_inj' longer rfl
      obtain ⟨earlier, later, middle, reached, rfl⟩ := ih same
      exact ⟨earlier, later ++ more, middle, reached, by rw [List.append_assoc]⟩

/-- No kill reaches a group of processes. -/
theorem Trace.kills_single (trace : Trace events kills g) :
    ∀ kill ∈ kills, 0 < kill.1 ∧ kill.2 ∈ Signal.relayed := by
  induction trace with
  | start => nofun
  | next sofar step ih =>
    refine List.forall_mem_append.mpr ⟨ih, ?_⟩
    cases step with
    | created | released => nofun
    | @delivered signal relayed =>
      intro kill member
      obtain ⟨pid, held, rfl⟩ := Option.map_eq_some_iff.mp (Option.mem_toList.mp member)
      exact ⟨(sofar.settled.job?_eq_some_iff.mp held).2, relayed⟩

end Traces

/-- The slot under any use of guards. At every moment it names a process exactly if what has happened
last to any guard is that one was created for this process, and its number is positive. Each signal
is passed on as one kill for the process that was named, or not at all if none was, and nothing else
leads to a kill. So no kill is for a number that is not positive, and once no guard is alive the slot
is empty. -/
theorem slot_follows_latest_guard {events : List Event} {kills : List Kill} {g : Guards}
    (trace : Trace events kills g) :
    (∀ pid, g.foreground.job? = some pid ↔ latest? events = some (.created pid) ∧ 0 < pid) ∧
    (∀ before event after, events = before ++ event :: after →
      ∃ earlier later middle, Trace before earlier middle ∧
        (∀ pid, middle.foreground.job? = some pid ↔
          latest? before = some (.created pid) ∧ 0 < pid) ∧
        kills = earlier ++ killsFor before event ++ later) ∧
    (∀ kill ∈ kills, 0 < kill.1 ∧ kill.2 ∈ Signal.relayed) ∧
    (g.living = [] → g.foreground = {}) := by
  refine ⟨fun _ => trace.settled.job?_eq_some_iff, ?_, trace.kills_single, trace.settled.idle⟩
  intro before event after division
  obtain ⟨earlier, later, middle, reached, same⟩ := trace.kills_at division
  exact ⟨earlier, later, middle, reached, fun _ => reached.settled.job?_eq_some_iff, same⟩

/-- Two guards, of which the first goes away while the second is alive, and one for a number that
stands for a group of processes. -/
def overlapping : List Event :=
  [.created 7, .created 8, .delivered .interrupt, .released 0, .delivered .suspend, .created (-1),
    .delivered .interrupt]

/-- Only the first signal is passed on, though a guard is always alive. -/
theorem slot_follows_latest_guard_overlapping :
    Trace overlapping [(8, .interrupt)] ⟨⟨-1⟩, [8, -1]⟩ ∧
    (⟨⟨-1⟩, [8, -1]⟩ : Guards).foreground.job? = none := by
  have trace : Trace overlapping [(8, .interrupt)] ⟨⟨-1⟩, [8, -1]⟩ :=
    Trace.start.next (.created 7) |>.next (.created 8)
      |>.next (@Step.delivered _ .interrupt (by decide))
      |>.next (@Step.released _ 0 (by decide))
      |>.next (@Step.delivered _ .suspend (by decide))
      |>.next (.created (-1))
      |>.next (@Step.delivered _ .interrupt (by decide))
  refine ⟨trace, ?_⟩
  obtain ⟨named, -⟩ := slot_follows_latest_guard trace
  cases job : (⟨⟨-1⟩, [8, -1]⟩ : Guards).foreground.job? with
  | none => rfl
  | some pid =>
    obtain ⟨same, positive⟩ := (named pid).mp job
    cases same
    cases positive

end LineShell.ForegroundGuards
