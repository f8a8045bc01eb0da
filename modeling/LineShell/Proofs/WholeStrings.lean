import LineShell.Proofs.EncodedText
import LineShell.Proofs.PipelineCalls
import Mathlib.Data.List.TakeWhile

/-! Texts on their way to the system. It reads a text up to its first NUL, so a text that holds one
would arrive without its end. What is handed over for a stage arrives as a whole: where no path with
a NUL is executable, a name with a NUL has no program, and a stage with one in an argument or in its
target is not started. -/
namespace LineShell.WholeStrings
open Dialogue PipelineDescriptors PipelineCalls EncodedText
open Text (Utf8.encode)

/-- What the system reads of a text, which is handed over with a NUL after it. -/
def received (text : String) : List UInt8 :=
  (Utf8.encode text ++ [0]).takeWhile (· != 0)

/-- A system that does not call a path executable if it would read only a part of it. -/
def honest : Rule Call Call.Answer Unit
  | _, .isExecutable path, found, _ => found = true → Job.holdsNul path = false
  | _, _, _, _ => True

/-- There is no program of this name. -/
def Nameless (stage : Stage) : Prop :=
  stage.name = "" ∨ Job.holdsNul stage.name = true

def BrokenArgument (stage : Stage) : Prop :=
  ∃ argument ∈ stage.argv, Job.holdsNul argument = true

def BrokenTarget (stage : Stage) : Prop :=
  ∃ target ∈ stage.redirect, Job.holdsNul target = true

/-- Nothing that the system needs for the stage holds a NUL. -/
structure Fit (path : String) (stage : Stage) : Prop where
  path : Job.holdsNul path = false
  arguments : ¬BrokenArgument stage
  target : ¬BrokenTarget stage

/-- Where a call of a child hands over the path of its program, the arguments or the target of its
stage, all of their bytes are received, and no others. -/
def HandsOver (path : String) (stage : Stage) : ChildCall → Prop
  | .execute given argv => received given = Utf8.encode path ∧
      argv.map received = stage.argv.map Utf8.encode
  | .openOutput given => ∃ target ∈ stage.redirect, received given = Utf8.encode target
  | _ => True

/-- The child can come to this call. -/
def Reaches (child : Child Nat) (call : ChildCall) : Prop :=
  ∃ history rest, Course anyAnswer child () history rest () ∧ rest.pending? = some call

/-- What preparing a stage comes to, once the search for its program has come to a result. -/
structure Prepared (stage : Stage) (resolved : Except LineError String)
    (outcome : Except LineError Launch) : Prop where
  whole : ∀ launch, outcome = .ok launch → ∃ path, resolved = .ok path ∧ Fit path stage ∧
    ∀ position pipes, Only (HandsOver path stage) (ChildTask.run ⟨launch, position, pipes⟩) ∧
      Reaches (ChildTask.run ⟨launch, position, pipes⟩) (.execute path stage.argv)
  ready : ∀ path, resolved = .ok path → Fit path stage → ∃ launch, outcome = .ok launch
  nameless : Nameless stage → outcome = .error (.commandNotFound stage.name)
  /-- The path of a program is never at fault. -/
  pathless : ∀ text, outcome ≠ .error (.launchFailed (text ++ ": path contains a NUL byte"))
  argument : ∀ path, resolved = .ok path → BrokenArgument stage →
    outcome = .error (.launchFailed (stage.name ++ ": argument contains a NUL byte"))
  target : ∀ path, resolved = .ok path → ¬BrokenArgument stage → BrokenTarget stage →
    outcome = .error (.launchFailed (stage.name ++ ": target contains a NUL byte"))

/-! ### Bytes -/

section Bytes

variable {text : String}

theorem holdsNul_iff : Job.holdsNul text = true ↔ '\x00' ∈ text.toList := by
  rw [Job.holdsNul, List.contains_iff_mem]

/-- The zero byte stands for the character NUL and is in no other. -/
theorem zero_mem_encode_iff : 0 ∈ Utf8.encode text ↔ Job.holdsNul text = true := by
  rw [holdsNul_iff, encode_eq, encodeChars, List.mem_flatMap]
  constructor
  · rintro ⟨c, member, inside⟩
    cases eq_of_mem_utf8EncodeChar (c := '\x00') rfl inside
    exact member
  · intro member
    exact ⟨'\x00', member, List.mem_singleton.mpr rfl⟩

/-- The texts that arrive as a whole are those that hold no NUL. -/
theorem received_eq_iff : received text = Utf8.encode text ↔ Job.holdsNul text = false := by
  rw [← Bool.not_eq_true, ← zero_mem_encode_iff]
  constructor
  · intro whole member
    rw [← whole] at member
    have other := List.mem_takeWhile_imp member
    cases other
  · intro free
    have others : ∀ b ∈ Utf8.encode text, (b != 0) = true := by
      intro b member
      rw [bne_iff_ne]
      rintro rfl
      exact free member
    rw [received, List.takeWhile_append_of_pos others]
    exact List.append_nil _

end Bytes

/-! ### The search for a program -/

/-- What a search can come to: a program for a whole name, or none. -/
def Answers (name : String) : Except LineError String → Prop
  | .ok path => name ≠ "" ∧ Job.holdsNul name = false ∧ Job.holdsNul path = false
  | .error e => e = .commandNotFound name

/-- Processes are asked for before this position only. -/
def ForksBefore (limit : Nat) : Call → Prop
  | .fork task => task.position < limit
  | _ => True

section Search

variable {name directory : String} {limit : Nat}

theorem holdsNul_of_candidate (clean : Job.holdsNul (Resolver.candidate name directory) = false) :
    Job.holdsNul name = false := by
  rw [← Bool.not_eq_true, holdsNul_iff] at clean ⊢
  intro member
  apply clean
  rw [Resolver.candidate, String.toList_append]
  exact List.mem_append_right _ member

theorem resolve_safe (searchPaths : List String) (name : String) :
    Safe honest (fun _ => ForksBefore limit) (Resolver.resolve searchPaths name)
      (fun resolved _ => Answers name resolved) () := by
  by_cases named : name = ""
  · subst named
    rfl
  induction searchPaths with
  | nil =>
    rw [Resolver.resolve_nil named]
    refine Safe.request trivial fun found _ answered => ?_
    cases found with
    | true =>
      have clean := answered rfl
      exact Safe.request trivial fun _ _ _ => ⟨named, clean, clean⟩
    | false => rfl
  | cons directory directories ih =>
    rw [Resolver.resolve_cons named]
    refine Safe.request trivial fun found _ answered => ?_
    cases found with
    | true =>
      have clean := answered rfl
      exact Safe.request trivial fun _ _ _ => ⟨named, holdsNul_of_candidate clean, clean⟩
    | false => exact ih

/-- Every search comes to a result. -/
theorem exists_resolved (searchPaths : List String) (name : String) : ∃ history resolved,
    Course honest (Resolver.resolve searchPaths name) () history (.done resolved) () := by
  by_cases named : name = ""
  · subst named
    exact ⟨[], _, .start _ ()⟩
  induction searchPaths with
  | nil =>
    rw [Resolver.resolve_nil named]
    refine ⟨[⟨.isExecutable name, false⟩], .error (.commandNotFound name), ?_⟩
    exact course_request_iff.mpr ⟨false, (), [], rfl, nofun, .start _ ()⟩
  | cons directory directories ih =>
    rw [Resolver.resolve_cons named]
    obtain ⟨history, resolved, further⟩ := ih
    exact ⟨_, resolved, course_request_iff.mpr ⟨false, (), history, rfl, nofun, further⟩⟩

end Search

/-! ### The stage -/

/-- What there is to be said against a stage whose program has a whole path. -/
inductive Faults (path : String) (stage : Stage) : Option String → Prop where
  | argument (broken : BrokenArgument stage) :
      Faults path stage (some (stage.name ++ ": argument contains a NUL byte"))
  | target (arguments : ¬BrokenArgument stage) (broken : BrokenTarget stage) :
      Faults path stage (some (stage.name ++ ": target contains a NUL byte"))
  | fit (fit : Fit path stage) : Faults path stage none

/-- The calls that a child can make, among which those that hand over a text hand over one of its
launch. -/
inductive Makes (launch : Launch) : ChildCall → Prop where
  | duplicate (source target : Nat) : Makes launch (.duplicate source target)
  | openOutput {target : String} (redirected : launch.redirect = some target) :
      Makes launch (.openOutput target)
  | close (descriptor : Nat) : Makes launch (.close descriptor)
  | execute : Makes launch (.execute launch.path launch.argv)
  | printError (text : String) : Makes launch (.printError text)

section Calls

variable {launch : Launch}

private theorem closePipes_makes (pipes : List PipeEnds) :
    Only (Makes launch) (ChildTask.closePipes pipes) := by
  induction pipes with
  | nil => trivial
  | cons ends rest ih =>
    refine (Only.request (.close _)).bind fun _ => ?_
    exact (Only.request (.close _)).bind fun _ => ih

private theorem giveUp_makes (message : String) (status : Nat) :
    Only (Makes launch) (ChildTask.giveUp message status) :=
  (Only.request (.printError message)).bind fun _ => trivial

private theorem become_makes (task : ChildTask) : Only (Makes task.launch) task.become := by
  refine (closePipes_makes task.pipes).bind fun _ => ?_
  exact (Only.request .execute).bind fun _ => giveUp_makes _ _

private theorem rewire_makes (task : ChildTask) (source target : Nat) {next : Child Nat}
    (further : Only (Makes task.launch) next) :
    Only (Makes task.launch) (task.rewire source target next) := by
  refine (Only.request (.duplicate source target)).bind fun duplicated => ?_
  cases duplicated with
  | ok done => exact further
  | error reason => exact giveUp_makes _ _

private theorem connectOutput_makes (task : ChildTask) :
    Only (Makes task.launch) task.connectOutput := by
  unfold ChildTask.connectOutput
  split
  · exact rewire_makes task _ _ (become_makes task)
  split
  · exact become_makes task
  · rename_i redirected
    refine (Only.request (.openOutput redirected)).bind fun opened => ?_
    cases opened with
    | error reason => exact giveUp_makes _ _
    | ok descriptor =>
      dsimp only
      split
      · exact become_makes task
      · refine rewire_makes task _ _ ?_
        exact (Only.request (.close _)).bind fun _ => become_makes task

theorem run_makes (task : ChildTask) : Only (Makes task.launch) task.run := by
  unfold ChildTask.run
  split
  · exact connectOutput_makes task
  split
  · exact rewire_makes task _ _ (connectOutput_makes task)
  · exact connectOutput_makes task

end Calls

section Execution

variable {call : ChildCall}

private theorem Reaches.request {request : ChildCall} {next : request.Answer → Child Nat}
    (answer : request.Answer) (further : Reaches (next answer) call) :
    Reaches (Dialogue.request request >>= next) call := by
  obtain ⟨history, rest, course, pending⟩ := further
  exact ⟨_, rest, .ask trivial course, pending⟩

private theorem Reaches.closePipes {next : Child Nat} (further : Reaches next call)
    (pipes : List PipeEnds) : Reaches (do ChildTask.closePipes pipes; next) call := by
  induction pipes with
  | nil => exact further
  | cons ends rest ih => exact .request () (.request () ih)

/-- A child that is refused nothing becomes its program. -/
theorem run_executes (task : ChildTask) :
    Reaches task.run (.execute task.launch.path task.launch.argv) := by
  have becomes : Reaches task.become (.execute task.launch.path task.launch.argv) :=
    .closePipes ⟨[], _, .start _ (), rfl⟩ task.pipes
  have connects : Reaches task.connectOutput (.execute task.launch.path task.launch.argv) := by
    unfold ChildTask.connectOutput
    split
    · exact .request (.ok ()) becomes
    split
    · exact becomes
    · exact .request (.ok 1) becomes
  unfold ChildTask.run
  split
  · exact connects
  split
  · exact .request (.ok ()) connects
  · exact connects

end Execution

section Stages

variable {stage : Stage} {path : String}

theorem faults_textFault? (clean : Job.holdsNul path = false) :
    Faults path stage (Job.textFault? stage path) := by
  rw [Job.textFault?, clean]
  cases argument : stage.argv.any Job.holdsNul with
  | true => exact .argument (List.any_eq_true.mp argument)
  | false =>
    have arguments : ¬BrokenArgument stage := by
      intro broken
      cases argument.symm.trans (List.any_eq_true.mpr broken)
    cases target : stage.redirect.any Job.holdsNul with
    | true => exact .target arguments ((Option.any_eq_true _ _).mp target)
    | false =>
      refine .fit ⟨clean, arguments, fun broken => ?_⟩
      cases target.symm.trans ((Option.any_eq_true _ _).mpr broken)

/-- An argument is told of before the target. -/
example : Job.textFault? { argv := ["ls", "a\x00"], redirect := some "\x00" } "/bin/ls" =
    some "ls: argument contains a NUL byte" := by decide

/-- A child that is started for a stage without NULs hands everything over whole. -/
theorem handsOver_of_fit (fit : Fit path stage) (position : Nat) (pipes : List PipeEnds) :
    Only (HandsOver path stage) (ChildTask.run ⟨Job.launchOf stage path, position, pipes⟩) := by
  refine (run_makes _).mono fun call makes => ?_
  cases makes with
  | duplicate | close | printError => trivial
  | @openOutput target redirected =>
    have clean : Job.holdsNul target = false :=
      Bool.eq_false_iff.mpr fun holds => fit.target ⟨target, redirected, holds⟩
    exact ⟨target, redirected, received_eq_iff.mpr clean⟩
  | execute =>
    refine ⟨received_eq_iff.mpr fit.path, List.map_congr_left fun argument member => ?_⟩
    have clean : Job.holdsNul argument = false :=
      Bool.eq_false_iff.mpr fun holds => fit.arguments ⟨argument, member, holds⟩
    exact received_eq_iff.mpr clean

/-- Texts with different ends are different. -/
private theorem append_ne_append {a b s t : String} (unlike : ¬s.toList <:+ t.toList)
    (unlike' : ¬t.toList <:+ s.toList) : a ++ s ≠ b ++ t := by
  intro same
  have ends : s.toList <:+ (b ++ t).toList := by
    rw [← same, String.toList_append]
    exact List.suffix_append _ _
  have ends' : t.toList <:+ (b ++ t).toList := by
    rw [String.toList_append]
    exact List.suffix_append _ _
  rcases List.suffix_or_suffix_of_suffix ends ends' with within | within
  · exact unlike within
  · exact unlike' within

theorem prepared_of_answers {resolved : Except LineError String}
    (answers : Answers stage.name resolved) :
    Prepared stage resolved (preparedFrom stage resolved).2 := by
  cases resolved with
  | error e =>
    cases answers
    exact ⟨nofun, nofun, fun _ => rfl, nofun, nofun, nofun⟩
  | ok path =>
    obtain ⟨named, whole, clean⟩ := answers
    have unnamed : ¬Nameless stage := by
      rintro (empty | broken)
      · exact named empty
      · exact Bool.noConfusion (whole.symm.trans broken)
    have faults : Faults path stage (Job.textFault? stage path) := faults_textFault? clean
    dsimp only [preparedFrom]
    generalize Job.textFault? stage path = fault at faults
    cases faults with
    | argument broken =>
      exact {
        whole := nofun
        ready := fun _ _ fit => absurd broken fit.arguments
        nameless := fun nameless => absurd nameless unnamed
        pathless := fun text same => append_ne_append (by decide) (by decide)
          (LineError.launchFailed.inj (Except.error.inj same))
        argument := fun _ _ _ => rfl
        target := fun _ _ arguments => absurd broken arguments }
    | target arguments broken =>
      exact {
        whole := nofun
        ready := fun _ _ fit => absurd broken fit.target
        nameless := fun nameless => absurd nameless unnamed
        pathless := fun text same => append_ne_append (by decide) (by decide)
          (LineError.launchFailed.inj (Except.error.inj same))
        argument := fun _ _ broken => absurd broken arguments
        target := fun _ _ _ _ => rfl }
    | fit fit =>
      refine {
        whole := fun launch same => ⟨path, rfl, fit, ?_⟩
        ready := fun _ _ _ => ⟨_, rfl⟩
        nameless := fun nameless => absurd nameless unnamed
        pathless := nofun
        argument := fun _ _ broken => absurd broken fit.arguments
        target := fun _ _ _ broken => absurd broken fit.target }
      cases same
      exact fun position pipes => ⟨handsOver_of_fit fit position pipes, run_executes _⟩

end Stages

/-! ### The pipeline -/

section Pipelines

variable {stage : Stage} {limit : Nat}

/-- The stage has no name, or a text that the system would read only a part of. -/
def Unfit (stage : Stage) : Prop :=
  Nameless stage ∨ BrokenArgument stage ∨ BrokenTarget stage

theorem Prepared.not_ok {resolved : Except LineError String} {outcome : Except LineError Launch}
    (prepared : Prepared stage resolved outcome) (unfit : Unfit stage) (launch : Launch) :
    outcome ≠ .ok launch := by
  intro same
  obtain ⟨path, -, fit, -⟩ := prepared.whole launch same
  rcases unfit with nameless | argument | target
  · cases same.symm.trans (prepared.nameless nameless)
  · exact fit.arguments argument
  · exact fit.target target

theorem prepare_safe (searchPaths : List String) (stage : Stage) :
    Safe honest (fun _ => ForksBefore limit) (Job.prepare searchPaths stage)
      (fun prepared _ => Unfit stage → ∀ launch, prepared.2 ≠ .ok launch) () := by
  rw [prepare_eq]
  refine ((resolve_safe searchPaths stage.name).mono ?_).bind
  intro resolved _ answers unfit
  exact (prepared_of_answers answers).not_ok unfit

/-- Stages from an unfit one on are not started. -/
theorem start_safe (unfit : Unfit stage) (searchPaths : List String) (pipes : List PipeEnds)
    (earlier later : List Stage) (position : Nat) :
    Safe honest (fun _ => ForksBefore (position + earlier.length))
      (Job.start searchPaths pipes position (earlier ++ stage :: later)) (fun _ _ => True) () := by
  induction earlier generalizing position with
  | nil =>
    refine ((prepare_safe searchPaths stage).mono ?_).bind
    rintro ⟨found, outcome⟩ _ unready
    cases outcome with
    | error reason => exact Safe.request trivial fun _ _ _ => trivial
    | ok launch => exact absurd rfl (unready unfit launch)
  | cons first earlier ih =>
    refine ((prepare_safe searchPaths first).mono ?_).bind
    rintro ⟨found, outcome⟩ _ -
    cases outcome with
    | error reason => exact Safe.request trivial fun _ _ _ => trivial
    | ok launch =>
      have before : position < position + (earlier.length + 1) := by omega
      refine Safe.request before fun forked _ _ => ?_
      cases forked with
      | error reason => exact Safe.request trivial fun _ _ _ => trivial
      | ok pid =>
        refine Safe.request trivial fun _ _ _ => ?_
        have further := ih (position + 1)
        rw [Nat.add_assoc, Nat.add_comm 1] at further
        exact (further.mono fun _ _ _ => trivial).bind

/-- A program that asks for no process keeps to every limit. -/
private theorem safe_of_forkless {β : Type} {program : Shell β} {allowed : Call → Prop}
    (only : Only allowed program) (forkless : ∀ call, allowed call → ForksBefore limit call) :
    Safe honest (fun _ => ForksBefore limit) program (fun _ _ => True) () := by
  have safe : Safe honest (fun _ => ForksBefore limit) program (fun _ t => t = ()) () :=
    only.safe forkless fun _ _ _ _ _ _ => rfl
  exact safe.mono fun _ _ _ => trivial

theorem run_safe (unfit : Unfit stage) (searchPaths : List String) (earlier later : List Stage) :
    Safe honest (fun _ => ForksBefore earlier.length)
      (Job.run searchPaths ⟨earlier ++ stage :: later⟩) (fun _ _ => True) () := by
  have forkless (call : Call) (either : Opens call ∨ Awaits call) :
      ForksBefore earlier.length call := by
    rcases either with opens | awaits
    · cases call <;> trivial
    · cases call <;> trivial
  refine ((safe_of_forkless (openPipes_opens [] _) fun call => forkless call ∘ .inl).mono ?_).bind
  rintro (reason | pipes) _ -
  · trivial
  have started := start_safe unfit searchPaths pipes earlier later 0
  rw [Nat.zero_add] at started
  refine (started.mono fun started _ _ => ?_).bind
  have closed := safe_of_forkless (closePipes_closes pipes).opens fun call => forkless call ∘ .inl
  refine (closed.mono fun _ _ _ => ?_).bind
  have waited := safe_of_forkless (Only.mapM reap_awaits started.children) fun call =>
    forkless call ∘ .inr
  exact (waited.mono fun _ _ _ => trivial).bind

/-- Every text that is handed over for a stage arrives as a whole, or nothing is started for it. A
launch is prepared only if neither the path that was found nor a text of the stage holds a NUL.
Without a name, or with a NUL in the name, no program is found wherever it is looked for, so the
path of a program is never at fault. Where a program is found, a NUL in an argument is told of
before one in the target. -/
theorem stages_are_handed_over_whole (searchPaths : List String) (stage : Stage) :
    (∃ history prepared,
      Course honest (Job.prepare searchPaths stage) () history (.done prepared) ()) ∧
    (∀ history found outcome,
      Course honest (Job.prepare searchPaths stage) () history (.done (found, outcome)) () →
      (∀ task answer, ⟨.fork task, answer⟩ ∉ history) ∧
      ∃ resolved, Course honest (Resolver.resolve searchPaths stage.name) () history
          (.done resolved) () ∧ Prepared stage resolved outcome) ∧
    ∀ earlier later history rest, Unfit stage →
      Course honest (Job.run searchPaths ⟨earlier ++ stage :: later⟩) () history rest () →
      ∀ task answer, ⟨.fork task, answer⟩ ∈ history → task.position < earlier.length := by
  refine ⟨?_, ?_, ?_⟩
  · obtain ⟨history, resolved, searched⟩ := exists_resolved searchPaths stage.name
    rw [prepare_eq]
    exact ⟨_, _, searched.bind (.start _ ())⟩
  · intro history found outcome course
    have quiet := (Only.along course (prepare_quiet searchPaths stage)).1
    rw [prepare_eq] at course
    obtain ⟨_, resolved, _, _, rfl, searched, ended⟩ := course_bind_iff.mp course
    obtain ⟨rfl, same, -⟩ := course_done_iff.mp ended
    rw [List.append_nil] at quiet ⊢
    refine ⟨fun task answer forked => quiet _ forked, resolved, searched, ?_⟩
    have safe : Safe honest (fun _ => ForksBefore 0) _ _ () := resolve_safe searchPaths stage.name
    have answers : Answers stage.name resolved := safe.along searched
    obtain rfl : outcome = (preparedFrom stage resolved).2 := congrArg Prod.snd same
    exact prepared_of_answers answers
  · intro earlier later history rest unfit course task answer forked
    obtain ⟨before, after, rfl⟩ := List.append_of_mem forked
    obtain ⟨_, _, _, admitted, -⟩ :=
      (run_safe unfit searchPaths earlier later).guard_of_exchange course
    exact admitted

end Pipelines

end LineShell.WholeStrings
