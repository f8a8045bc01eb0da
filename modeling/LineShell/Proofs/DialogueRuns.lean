import LineShell.Proofs.DialogueCourses

/-! Complete runs of programs. A run of a program that is put together is put together of runs of
its parts, in the order of the parts, so what is known of the parts is known of the whole. -/
namespace LineShell.Dialogue

variable {Q : Type} {A : Q → Type} {α β σ : Type}
  {program rest : Dialogue Q A α} {history : List (Exchange Q A)} {value : α}

theorem bind_done (program : Dialogue Q A α) : program.bind done = program := by
  induction program with
  | done value => rfl
  | ask request next ih => exact congrArg (ask request) (funext ih)
  | insist request settled next ih => exact congrArg (insist request settled) (funext ih)

/-- Programs one after another can be grouped in any way. -/
theorem bind_bind {γ : Type} (program : Dialogue Q A α) (f : α → Dialogue Q A β)
    (g : β → Dialogue Q A γ) :
    (program.bind f).bind g = program.bind fun value => (f value).bind g := by
  induction program with
  | done value => rfl
  | ask request next ih => exact congrArg (ask request) (funext ih)
  | insist request settled next ih => exact congrArg (insist request settled) (funext ih)

instance : LawfulMonad (Dialogue Q A) :=
  LawfulMonad.mk' (Dialogue Q A) bind_done (fun _ _ => rfl) bind_bind

/-! ### Runs of parts -/

theorem run_done_iff {given : α} :
    Run (done given : Dialogue Q A α) history value ↔ history = [] ∧ value = given := by
  constructor
  · intro ran
    cases ran
    exact ⟨rfl, rfl⟩
  · rintro ⟨rfl, rfl⟩
    exact .done value

theorem run_ask_iff {request : Q} {next : A request → Dialogue Q A α} :
    Run (ask request next) history value ↔
      ∃ answer later, history = ⟨request, answer⟩ :: later ∧ Run (next answer) later value := by
  constructor
  · intro ran
    cases ran with
    | ask answer further => exact ⟨answer, _, rfl, further⟩
  · rintro ⟨answer, later, rfl, further⟩
    exact .ask answer further

/-- A run of a program that begins with a request begins with its answer. -/
theorem run_request_iff {request : Q} {next : A request → Dialogue Q A α} :
    Run (Dialogue.request request >>= next) history value ↔
      ∃ answer later, history = ⟨request, answer⟩ :: later ∧ Run (next answer) later value :=
  run_ask_iff

/-- A request that is repeated has any number of answers that do not settle it, and one that
does. -/
theorem run_requestUntil_iff {request : Q} {settled : A request → Bool} {answer : A request} :
    Run (requestUntil request settled) history answer ↔ settled answer = true ∧
      ∃ earlier : List (A request), (∀ one ∈ earlier, settled one = false) ∧
        history = earlier.map (⟨request, ·⟩) ++ [⟨request, answer⟩] := by
  constructor
  · intro ran
    generalize whole : requestUntil request settled = program at ran
    induction ran with
    | done value => cases whole
    | ask answer further => cases whole
    | again one unsettled further ih =>
      cases whole
      obtain ⟨final, earlier, unsettled', rfl⟩ := ih rfl
      exact ⟨final, one :: earlier, List.forall_mem_cons.mpr ⟨unsettled, unsettled'⟩, rfl⟩
    | settled one final further =>
      cases whole
      cases further
      exact ⟨final, [], nofun, rfl⟩
  · rintro ⟨final, earlier, unsettled, rfl⟩
    induction earlier with
    | nil => exact .settled answer final (.done answer)
    | cons one earlier ih =>
      obtain ⟨first, later⟩ := List.forall_mem_cons.mp unsettled
      exact .again one first (ih later)

theorem Run.bind {first : Dialogue Q A β} {next : β → Dialogue Q A α} {middle : β}
    {before after : List (Exchange Q A)} (ran : Run first before middle)
    (further : Run (next middle) after value) : Run (first >>= next) (before ++ after) value := by
  induction ran with
  | done middle => exact further
  | ask answer _ ih => exact .ask answer (ih further)
  | again answer unsettled _ ih => exact .again answer unsettled (ih further)
  | settled answer final _ ih => exact .settled answer final (ih further)

/-- A run of one program after another is a run of the first and then a run of the second. -/
theorem run_bind_iff {first : Dialogue Q A β} {next : β → Dialogue Q A α} :
    Run (first >>= next) history value ↔ ∃ before middle after, history = before ++ after ∧
      Run first before middle ∧ Run (next middle) after value := by
  constructor
  · intro ran
    induction first generalizing history with
    | done middle => exact ⟨[], middle, history, rfl, .done middle, ran⟩
    | ask request left ih =>
      obtain ⟨answer, later, rfl, further⟩ := run_ask_iff.mp ran
      obtain ⟨before, middle, after, rfl, inside, past⟩ := ih answer further
      exact ⟨_, middle, after, rfl, .ask answer inside, past⟩
    | insist request settled left ih =>
      generalize whole : (insist request settled left >>= next) = program at ran
      induction ran with
      | done value => cases whole
      | ask answer further => cases whole
      | again answer unsettled further repeated =>
        cases whole
        obtain ⟨before, middle, after, rfl, inside, past⟩ := repeated ih rfl
        exact ⟨_, middle, after, rfl, .again answer unsettled inside, past⟩
      | settled answer final further =>
        cases whole
        obtain ⟨before, middle, after, rfl, inside, past⟩ := ih answer further
        exact ⟨_, middle, after, rfl, .settled answer final inside, past⟩
  · rintro ⟨before, middle, after, rfl, ran, further⟩
    exact ran.bind further

/-- Where all that follows a program is done with its value, its runs are those of the program. -/
theorem run_bind_done_iff {first : Dialogue Q A β} {f : β → α} :
    Run (first >>= fun middle => .done (f middle)) history value ↔
      ∃ middle, Run first history middle ∧ value = f middle := by
  rw [run_bind_iff]
  constructor
  · rintro ⟨before, middle, _, rfl, ran, ended⟩
    obtain ⟨rfl, rfl⟩ := run_done_iff.mp ended
    rw [List.append_nil]
    exact ⟨middle, ran, rfl⟩
  · rintro ⟨middle, ran, rfl⟩
    exact ⟨history, middle, [], (List.append_nil history).symm, ran, .done _⟩

/-! ### Values that programs end with -/

/-- Whatever is answered, the program ends with a value that `post` admits. -/
inductive Ends (post : α → Prop) : Dialogue Q A α → Prop where
  | done {value : α} (admitted : post value) : Ends post (done value)
  | ask {request : Q} {next : A request → Dialogue Q A α}
      (further : ∀ answer, Ends post (next answer)) : Ends post (ask request next)
  | insist {request : Q} {settled : A request → Bool} {next : A request → Dialogue Q A α}
      (further : ∀ answer, Ends post (next answer)) : Ends post (insist request settled next)

section Ends

variable {post : α → Prop} {first : Dialogue Q A β}

theorem Ends.of_forall (admitted : ∀ value, post value) (program : Dialogue Q A α) :
    program.Ends post := by
  induction program with
  | done value => exact .done (admitted value)
  | ask request next ih => exact .ask ih
  | insist request settled next ih => exact .insist ih

theorem Ends.mono {weaker : α → Prop} (ends : program.Ends post)
    (implied : ∀ value, post value → weaker value) : program.Ends weaker := by
  induction ends with
  | done admitted => exact .done (implied _ admitted)
  | ask _ ih => exact .ask ih
  | insist _ ih => exact .insist ih

theorem Ends.and {other : α → Prop} (ends : program.Ends post) (also : program.Ends other) :
    program.Ends fun value => post value ∧ other value := by
  induction ends with
  | done admitted =>
    cases also with
    | done further => exact .done ⟨admitted, further⟩
  | ask _ ih =>
    cases also with
    | ask further => exact .ask fun answer => ih answer (further answer)
  | insist _ ih =>
    cases also with
    | insist further => exact .insist fun answer => ih answer (further answer)

theorem Ends.bind {before : β → Prop} {next : β → Dialogue Q A α} (ends : first.Ends before)
    (further : ∀ value, before value → (next value).Ends post) : (first >>= next).Ends post := by
  induction ends with
  | done admitted => exact further _ admitted
  | ask _ ih => exact .ask ih
  | insist _ ih => exact .insist ih

/-- What a program ends with does not matter if every program that may follow ends as required. -/
theorem Ends.after {next : β → Dialogue Q A α} (further : ∀ value, (next value).Ends post) :
    (first >>= next).Ends post :=
  (of_forall (fun _ => trivial) first : first.Ends fun _ => True).bind fun value _ => further value

theorem Ends.of_run (ends : program.Ends post) (ran : Run program history value) : post value := by
  induction ran with
  | done value =>
    cases ends with
    | done admitted => exact admitted
  | ask answer _ ih =>
    cases ends with
    | ask further => exact ih (further answer)
  | again answer _ _ ih => exact ih ends
  | settled answer _ _ ih =>
    cases ends with
    | insist further => exact ih (further answer)

/-- A program that is safe in its world ends as it does in every world. -/
theorem Safe.and_ends {rule : Rule Q A σ} {guard : σ → Q → Prop} {kept : α → σ → Prop} {s : σ}
    (safe : Safe rule guard program kept s) (ends : program.Ends post) :
    Safe rule guard program (fun value t => kept value t ∧ post value) s := by
  induction ends generalizing s with
  | done admitted => exact ⟨safe, admitted⟩
  | ask _ ih => exact ⟨safe.1, fun answer t answered => ih answer (safe.2 answer t answered)⟩
  | insist _ ih =>
    obtain ⟨unchanged, here, each⟩ := safe
    refine ⟨unchanged, here, fun s keeps => ⟨(each s keeps).1, fun answer t answered => ?_⟩⟩
    obtain ⟨unsettled, final⟩ := (each s keeps).2 answer t answered
    exact ⟨unsettled, fun ends => ih answer (final ends)⟩

/-- What follows a program matters only for the values that the program ends with. -/
theorem Ends.bind_congr {before : β → Prop} {next other : β → Dialogue Q A α}
    (ends : first.Ends before) (same : ∀ value, before value → next value = other value) :
    first >>= next = first >>= other := by
  induction ends with
  | done admitted => exact same _ admitted
  | @ask request _ _ ih => exact congrArg (Dialogue.ask request) (funext ih)
  | @insist request settled _ _ ih =>
    exact congrArg (Dialogue.insist request settled) (funext ih)

end Ends

/-! ### Runs and courses -/

/-- A world in which every answer is possible. -/
def anyAnswer : Rule Q A Unit :=
  fun _ _ _ _ => True

/-- A run is a course that has come to its end. -/
theorem Run.course (ran : Run program history value) :
    Course anyAnswer program () history (.done value) () := by
  induction ran with
  | done value => exact .start _ ()
  | ask answer _ ih => exact .ask trivial ih
  | again answer unsettled _ ih => exact .again trivial unsettled ih
  | settled answer final _ ih => exact .settled trivial final ih

/-- A course that has come to its end is a run, whatever its world. -/
theorem Course.run {rule : Rule Q A σ} {s t : σ}
    (course : Course rule program s history (.done value) t) : Run program history value := by
  generalize ended : (done value : Dialogue Q A α) = rest at course
  induction course with
  | start => cases ended; exact .done value
  | ask _ _ ih => exact .ask _ (ih ended)
  | again _ unsettled _ ih => exact .again _ unsettled (ih ended)
  | settled _ final _ ih => exact .settled _ final (ih ended)

/-- A run goes on from wherever its exchanges have come to. -/
theorem Run.after_course {rule : Rule Q A σ} {before after : List (Exchange Q A)} {s t : σ}
    (course : Course rule program s before rest t) (ran : Run program (before ++ after) value) :
    Run rest after value := by
  induction course with
  | start => exact ran
  | ask _ _ ih =>
    cases ran with
    | ask _ further => exact ih further
  | again _ unsettled _ ih =>
    cases ran with
    | again _ _ further => exact ih further
    | settled _ final _ => cases unsettled.symm.trans final
  | settled _ final _ ih =>
    cases ran with
    | again _ unsettled _ => cases unsettled.symm.trans final
    | settled _ _ further => exact ih further

/-! ### Courses that have come to their end -/

section Ended

variable {rule : Rule Q A σ} {s t : σ}

theorem course_done_iff {given : α} :
    Course rule (done given) s history (done value) t ↔ history = [] ∧ value = given ∧ t = s := by
  constructor
  · intro course
    cases course
    exact ⟨rfl, rfl, rfl⟩
  · rintro ⟨rfl, rfl, rfl⟩
    exact .start _ _

/-- A program that begins with a request ends after its answer. -/
theorem course_request_iff {request : Q} {next : A request → Dialogue Q A α} :
    Course rule (Dialogue.request request >>= next) s history (done value) t ↔
      ∃ answer u later, history = ⟨request, answer⟩ :: later ∧ rule s request answer u ∧
        Course rule (next answer) u later (done value) t := by
  constructor
  · intro course
    rcases course.of_request with ⟨-, undone, -⟩ | past
    · cases undone
    · exact past
  · rintro ⟨answer, u, later, rfl, answered, further⟩
    exact .ask answered further

/-- Where both of two programs have come to their end, the second began where the first did. -/
theorem course_bind_iff {first : Dialogue Q A β} {next : β → Dialogue Q A α} :
    Course rule (first >>= next) s history (done value) t ↔
      ∃ before middle u after, history = before ++ after ∧
        Course rule first s before (done middle) u ∧
        Course rule (next middle) u after (done value) t := by
  constructor
  · intro course
    rcases course.of_bind with ⟨left, undone, ended, -⟩ | ⟨middle, u, before, after, rfl, inside, past⟩
    · cases left with
      | done middle => exact absurd rfl (undone middle)
      | ask | insist => cases ended
    · exact ⟨before, middle, u, after, rfl, inside, past⟩
  · rintro ⟨before, middle, u, after, rfl, inside, past⟩
    exact inside.bind past

end Ended

/-- A program can come to its end if whatever it asks can be answered. -/
theorem Only.exists_run {allowed : Q → Prop} (only : Only allowed program)
    (answered : ∀ request, allowed request → Nonempty (A request)) :
    ∃ history value, Run program history value := by
  induction program with
  | done value => exact ⟨[], value, .done value⟩
  | ask request next ih =>
    obtain ⟨answer⟩ := answered request only.1
    obtain ⟨history, value, ran⟩ := ih answer (only.2 answer)
    exact ⟨_, value, .ask answer ran⟩
  | insist request settled next ih =>
    obtain ⟨answer, final⟩ := only.1.2
    obtain ⟨history, value, ran⟩ := ih answer (only.2 answer)
    exact ⟨_, value, .settled answer final ran⟩

end LineShell.Dialogue
