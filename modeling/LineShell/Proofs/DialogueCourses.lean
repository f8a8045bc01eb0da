import LineShell.Dialogue

/-! Programs in a world that changes with its answers. A course is what has happened up to some
point and what is left of the program there, so a statement about every course covers every run,
finished or not. Safety is the proof method: a condition for each request is shown once along the
program and then holds wherever a course comes to that request. -/
namespace LineShell.Dialogue

variable {Q : Type} {A : Q → Type} {α β σ : Type}

/-- How a world may answer a request, with the state it is in afterwards. -/
abbrev Rule (Q : Type) (A : Q → Type) (σ : Type) : Type :=
  σ → (request : Q) → A request → σ → Prop

/-- The request a program makes next, unless it is done. -/
def pending? : Dialogue Q A α → Option Q
  | done _ => none
  | ask request _ => some request
  | insist request _ _ => some request

/-- The program comes through these exchanges from one state of the world to another, where the
rest of it is still to do. -/
inductive Course (rule : Rule Q A σ) :
    Dialogue Q A α → σ → List (Exchange Q A) → Dialogue Q A α → σ → Prop where
  | start (program : Dialogue Q A α) (s : σ) : Course rule program s [] program s
  | ask {request : Q} {next : A request → Dialogue Q A α} {answer : A request} {s t u : σ}
      {trace : List (Exchange Q A)} {rest : Dialogue Q A α}
      (answered : rule s request answer t) (further : Course rule (next answer) t trace rest u) :
      Course rule (ask request next) s (⟨request, answer⟩ :: trace) rest u
  | again {request : Q} {settled : A request → Bool} {next : A request → Dialogue Q A α}
      {answer : A request} {s t u : σ} {trace : List (Exchange Q A)} {rest : Dialogue Q A α}
      (answered : rule s request answer t) (unsettled : settled answer = false)
      (further : Course rule (insist request settled next) t trace rest u) :
      Course rule (insist request settled next) s (⟨request, answer⟩ :: trace) rest u
  | settled {request : Q} {settled : A request → Bool} {next : A request → Dialogue Q A α}
      {answer : A request} {s t u : σ} {trace : List (Exchange Q A)} {rest : Dialogue Q A α}
      (answered : rule s request answer t) (final : settled answer = true)
      (further : Course rule (next answer) t trace rest u) :
      Course rule (insist request settled next) s (⟨request, answer⟩ :: trace) rest u

/-- Every request is made in a state that `guard` admits, and the program ends in one that `post`
admits, whatever the world answers. A request that may be repeated needs a condition that
unsettled answers keep. -/
def Safe (rule : Rule Q A σ) (guard : σ → Q → Prop) :
    Dialogue Q A α → (α → σ → Prop) → σ → Prop
  | done value, post, s => post value s
  | ask request next, post, s => guard s request ∧
    ∀ answer t, rule s request answer t → Safe rule guard (next answer) post t
  | insist request settled next, post, s => ∃ kept : σ → Prop, kept s ∧ ∀ s, kept s →
    guard s request ∧ ∀ answer t, rule s request answer t →
      (settled answer = false → kept t) ∧
      (settled answer = true → Safe rule guard (next answer) post t)

variable {rule : Rule Q A σ} {guard : σ → Q → Prop} {program middle rest : Dialogue Q A α}
  {post : α → σ → Prop} {trace before after : List (Exchange Q A)} {s t u : σ}

/-- What is left of the first of two programs is asked before anything of the second. -/
theorem pending?_bind {left : Dialogue Q A β} {next : β → Dialogue Q A α}
    (undone : ∀ value, left ≠ .done value) : (left >>= next).pending? = left.pending? := by
  cases left with
  | done value => exact absurd rfl (undone value)
  | ask request further => rfl
  | insist request settled further => rfl

theorem Course.append (first : Course rule program s before middle t)
    (second : Course rule middle t after rest u) : Course rule program s (before ++ after) rest u := by
  induction first with
  | start program s => exact second
  | ask answered further ih => exact .ask answered (ih second)
  | again answered unsettled further ih => exact .again answered unsettled (ih second)
  | settled answered final further ih => exact .settled answered final (ih second)

/-- A course has come past every point of its exchanges. -/
theorem Course.split (course : Course rule program s (before ++ after) rest u) :
    ∃ middle t, Course rule program s before middle t ∧ Course rule middle t after rest u := by
  induction before generalizing program s with
  | nil => exact ⟨program, s, .start program s, course⟩
  | cons exchange before ih =>
    cases course with
    | ask answered further =>
      obtain ⟨middle, t, first, second⟩ := ih further
      exact ⟨middle, t, .ask answered first, second⟩
    | again answered unsettled further =>
      obtain ⟨middle, t, first, second⟩ := ih further
      exact ⟨middle, t, .again answered unsettled first, second⟩
    | settled answered final further =>
      obtain ⟨middle, t, first, second⟩ := ih further
      exact ⟨middle, t, .settled answered final first, second⟩

/-- A course of one program after another is still in the first, or has finished it and is in the
second. -/
theorem Course.of_bind {first : Dialogue Q A β} {next : β → Dialogue Q A α}
    (course : Course rule (first >>= next) s trace rest t) :
    (∃ left, (∀ value, left ≠ .done value) ∧ rest = left >>= next ∧
      Course rule first s trace left t) ∨
    ∃ value u before after, trace = before ++ after ∧ Course rule first s before (.done value) u ∧
      Course rule (next value) u after rest t := by
  induction first generalizing s trace with
  | done value => exact .inr ⟨value, _, [], _, rfl, .start _ _, course⟩
  | ask request left ih =>
    change Course rule (.ask request fun answer => left answer >>= next) s trace rest t at course
    cases course with
    | start => exact .inl ⟨.ask request left, nofun, rfl, .start _ _⟩
    | ask answered further =>
      rcases ih _ further with ⟨left, undone, here, inside⟩ | ⟨value, u, before, after, rfl, inside, past⟩
      · exact .inl ⟨left, undone, here, .ask answered inside⟩
      · exact .inr ⟨value, u, _, after, rfl, .ask answered inside, past⟩
  | insist request settled left ih =>
    -- The request may be made again, so the course is followed until its answer is settled.
    generalize whole : (insist request settled left >>= next) = program at course
    induction course with
    | start program s => exact .inl ⟨insist request settled left, nofun, whole.symm, .start _ s⟩
    | ask answered further => cases whole
    | again answered unsettled further repeated =>
      cases whole
      rcases repeated ih rfl with ⟨left, undone, here, inside⟩ | ⟨value, u, before, after, rfl, inside, past⟩
      · exact .inl ⟨left, undone, here, .again answered unsettled inside⟩
      · exact .inr ⟨value, u, _, after, rfl, .again answered unsettled inside, past⟩
    | settled answered final further =>
      cases whole
      rcases ih _ further with ⟨left, undone, here, inside⟩ | ⟨value, u, before, after, rfl, inside, past⟩
      · exact .inl ⟨left, undone, here, .settled answered final inside⟩
      · exact .inr ⟨value, u, _, after, rfl, .settled answered final inside, past⟩

/-- A course of a program is one of whatever begins with it. -/
theorem Course.within_bind {first left : Dialogue Q A β} {next : β → Dialogue Q A α}
    (course : Course rule first s trace left t) :
    Course rule (first >>= next) s trace (left >>= next) t := by
  induction course with
  | start program s => exact .start _ s
  | ask answered _ ih => exact .ask answered ih
  | again answered unsettled _ ih => exact .again answered unsettled ih
  | settled answered final _ ih => exact .settled answered final ih

/-- A course to the end of one program goes on with the next. -/
theorem Course.bind {first : Dialogue Q A β} {next : β → Dialogue Q A α} {value : β}
    (course : Course rule first s before (.done value) t)
    (further : Course rule (next value) t after rest u) :
    Course rule (first >>= next) s (before ++ after) rest u :=
  course.within_bind.append further

/-- A program that begins with a request is still there, or has its answer. -/
theorem Course.of_request {request : Q} {next : A request → Dialogue Q A α}
    (course : Course rule (Dialogue.request request >>= next) s trace rest t) :
    (trace = [] ∧ rest = .ask request next ∧ t = s) ∨
    ∃ answer u later, trace = ⟨request, answer⟩ :: later ∧ rule s request answer u ∧
      Course rule (next answer) u later rest t := by
  change Course rule (.ask request next) s trace rest t at course
  cases course with
  | start => exact .inl ⟨rfl, rfl, rfl⟩
  | ask answered further => exact .inr ⟨_, _, _, rfl, answered, further⟩

/-- A program that begins with a repeated request has unsettled answers only and is still there, or
has come past the first one that is settled. -/
theorem Course.of_requestUntil {request : Q} {settled : A request → Bool}
    {next : A request → Dialogue Q A α}
    (still : ∀ s answer t, rule s request answer t → t = s)
    (course : Course rule (Dialogue.requestUntil request settled >>= next) s trace rest t) :
    ∃ earlier : List (A request), (∀ one ∈ earlier, settled one = false) ∧
      (trace = earlier.map (⟨request, ·⟩) ∧ rest = .insist request settled next ∧ t = s ∨
        ∃ answer later, settled answer = true ∧
          trace = earlier.map (⟨request, ·⟩) ++ ⟨request, answer⟩ :: later ∧
          Course rule (next answer) s later rest t) := by
  obtain ⟨program, whole⟩ : ∃ program, program = insist request settled next := ⟨_, rfl⟩
  change Course rule (.insist request settled next) s trace rest t at course
  rw [← whole] at course
  induction course with
  | start program s => exact ⟨[], nofun, .inl ⟨rfl, whole, rfl⟩⟩
  | ask answered further => cases whole
  | @again request settled next answer s t u trace rest answered unsettled further ih =>
    cases whole
    cases still _ _ _ answered
    obtain ⟨earlier, others, past⟩ := ih rfl
    refine ⟨answer :: earlier, List.forall_mem_cons.mpr ⟨unsettled, others⟩, ?_⟩
    rcases past with ⟨rfl, here, rfl⟩ | ⟨final, later, ends, rfl, past⟩
    · exact .inl ⟨rfl, here, rfl⟩
    · exact .inr ⟨final, later, ends, rfl, past⟩
  | @settled request settled next answer s t u trace rest answered final further ih =>
    cases whole
    cases still _ _ _ answered
    exact ⟨[], nofun, .inr ⟨answer, trace, final, rfl, further⟩⟩

/-- What is left of a safe program is safe where it is left. -/
theorem Safe.along (course : Course rule program s trace rest t)
    (safe : Safe rule guard program post s) : Safe rule guard rest post t := by
  induction course with
  | start program s => exact safe
  | ask answered further ih => exact ih (safe.2 _ _ answered)
  | again answered unsettled further ih =>
    obtain ⟨kept, here, each⟩ := safe
    exact ih ⟨kept, ((each _ here).2 _ _ answered).1 unsettled, each⟩
  | settled answered final further ih =>
    obtain ⟨kept, here, each⟩ := safe
    exact ih (((each _ here).2 _ _ answered).2 final)

/-- A course of a safe program makes no request outside its guard. -/
theorem Safe.guard_of_course {request : Q} {next : A request → Dialogue Q A α}
    (safe : Safe rule guard program post s)
    (course : Course rule program s trace (.ask request next) t) : guard t request :=
  (safe.along course).1

/-- What a safe program asks next is inside its guard. -/
theorem Safe.guard_of_pending {request : Q} (safe : Safe rule guard program post s)
    (next : program.pending? = some request) : guard s request := by
  cases program with
  | done value => cases next
  | ask request further =>
    cases next
    exact safe.1
  | insist request settled further =>
    cases next
    obtain ⟨kept, here, each⟩ := safe
    exact (each s here).1

/-- Each exchange of a course of a safe program began in a state that its guard admits. -/
theorem Safe.guard_of_exchange {exchange : Exchange Q A} (safe : Safe rule guard program post s)
    (course : Course rule program s (before ++ exchange :: after) rest u) :
    ∃ middle t v, guard t exchange.1 ∧ rule t exchange.1 exchange.2 v ∧
      Course rule middle v after rest u := by
  obtain ⟨left, t, first, second⟩ := course.split
  have safe := safe.along first
  cases second with
  | ask answered further => exact ⟨_, t, _, safe.1, answered, further⟩
  | again answered unsettled further =>
    obtain ⟨kept, here, each⟩ := safe
    exact ⟨_, t, _, (each t here).1, answered, further⟩
  | settled answered final further =>
    obtain ⟨kept, here, each⟩ := safe
    exact ⟨_, t, _, (each t here).1, answered, further⟩

theorem Safe.mono {weaker : α → σ → Prop} (safe : Safe rule guard program post s)
    (implies : ∀ value t, post value t → weaker value t) : Safe rule guard program weaker s := by
  induction program generalizing s with
  | done value => exact implies value s safe
  | ask request next ih => exact ⟨safe.1, fun answer t answered => ih answer (safe.2 _ _ answered)⟩
  | insist request settled next ih =>
    obtain ⟨kept, here, each⟩ := safe
    refine ⟨kept, here, fun s keeps => ⟨(each s keeps).1, fun answer t answered => ?_⟩⟩
    obtain ⟨unsettled, final⟩ := (each s keeps).2 answer t answered
    exact ⟨unsettled, fun ends => ih answer (final ends)⟩

/-- One program after another is safe if the second is, wherever the first ends. -/
theorem Safe.bind {first : Dialogue Q A β} {second : β → Dialogue Q A α}
    (safe : Safe rule guard first (fun value t => Safe rule guard (second value) post t) s) :
    Safe rule guard (first >>= second) post s := by
  change Safe rule guard (first.bind second) post s
  induction first generalizing s with
  | done value => exact safe
  | ask request next ih => exact ⟨safe.1, fun answer t answered => ih answer (safe.2 _ _ answered)⟩
  | insist request settled next ih =>
    obtain ⟨kept, here, each⟩ := safe
    refine ⟨kept, here, fun s keeps => ⟨(each s keeps).1, fun answer t answered => ?_⟩⟩
    obtain ⟨unsettled, final⟩ := (each s keeps).2 answer t answered
    exact ⟨unsettled, fun ends => ih answer (final ends)⟩

/-- A request that is admitted leaves the rest to be safe after each of its answers. -/
theorem Safe.request {request : Q} {next : A request → Dialogue Q A α} (admitted : guard s request)
    (each : ∀ answer t, rule s request answer t → Safe rule guard (next answer) post t) :
    Safe rule guard (Dialogue.request request >>= next) post s :=
  ⟨admitted, each⟩

/-- A request that may be repeated is made in states that its unsettled answers keep. -/
theorem Safe.requestUntil {request : Q} {settled : A request → Bool}
    {next : A request → Dialogue Q A α} (kept : σ → Prop) (here : kept s)
    (admitted : ∀ s, kept s → guard s request)
    (unsettled : ∀ s answer t, kept s → rule s request answer t → settled answer = false → kept t)
    (final : ∀ s answer t, kept s → rule s request answer t → settled answer = true →
      Safe rule guard (next answer) post t) :
    Safe rule guard (Dialogue.requestUntil request settled >>= next) post s :=
  ⟨kept, here, fun s keeps => ⟨admitted s keeps, fun answer t answered =>
    ⟨unsettled s answer t keeps answered, final s answer t keeps answered⟩⟩⟩

private theorem Safe.mapM_loop {γ : Type} {body : γ → Dialogue Q A β} {kept : σ → Prop}
    (each : ∀ item s, kept s → Safe rule guard (body item) (fun _ t => kept t) s)
    (items : List γ) (values : List β) (s : σ) (here : kept s) :
    Safe rule guard (List.mapM.loop body items values) (fun _ t => kept t) s := by
  induction items generalizing values s with
  | nil => exact here
  | cons item items ih =>
    exact ((each item s here).mono fun value t keeps => ih (value :: values) t keeps).bind

/-- What every turn of a loop keeps, the loop keeps. -/
theorem Safe.mapM {γ : Type} {body : γ → Dialogue Q A β} {kept : σ → Prop}
    (each : ∀ item s, kept s → Safe rule guard (body item) (fun _ t => kept t) s)
    (items : List γ) (s : σ) (here : kept s) :
    Safe rule guard (items.mapM body) (fun _ t => kept t) s :=
  Safe.mapM_loop each items [] s here

/-- The program makes requests of one class only, and repeats none that no answer settles. -/
def Only (allowed : Q → Prop) : Dialogue Q A α → Prop
  | done _ => True
  | ask request next => allowed request ∧ ∀ answer, Only allowed (next answer)
  | insist request settled next =>
    (allowed request ∧ ∃ answer, settled answer = true) ∧ ∀ answer, Only allowed (next answer)

variable {allowed : Q → Prop}

theorem Only.mono {wider : Q → Prop} (only : Only allowed program)
    (implies : ∀ request, allowed request → wider request) : Only wider program := by
  induction program with
  | done value => trivial
  | ask request next ih =>
    exact ⟨implies request only.1, fun answer => ih answer (only.2 answer)⟩
  | insist request settled next ih =>
    exact ⟨⟨implies request only.1.1, only.1.2⟩, fun answer => ih answer (only.2 answer)⟩

/-- A course makes requests of the class, and so does what is left. -/
theorem Only.along (course : Course rule program s trace rest t) (only : Only allowed program) :
    (∀ exchange ∈ trace, allowed exchange.1) ∧ Only allowed rest := by
  induction course with
  | start program s => exact ⟨nofun, only⟩
  | ask answered further ih =>
    obtain ⟨made, left⟩ := ih (only.2 _)
    exact ⟨List.forall_mem_cons.mpr ⟨only.1, made⟩, left⟩
  | again answered unsettled further ih =>
    obtain ⟨made, left⟩ := ih only
    exact ⟨List.forall_mem_cons.mpr ⟨only.1.1, made⟩, left⟩
  | settled answered final further ih =>
    obtain ⟨made, left⟩ := ih (only.2 _)
    exact ⟨List.forall_mem_cons.mpr ⟨only.1.1, made⟩, left⟩

/-- What no request of the class shows is not seen in a course. -/
theorem Only.filterMap_eq_nil {γ : Type} {seen? : Exchange Q A → Option γ}
    (only : Only allowed program) (course : Course rule program s trace rest t)
    (unseen : ∀ exchange, allowed exchange.1 → seen? exchange = none) :
    trace.filterMap seen? = [] :=
  List.filterMap_eq_nil_iff.mpr fun exchange member =>
    unseen exchange ((only.along course).1 exchange member)

theorem Only.pending {request : Q} (only : Only allowed program)
    (next : program.pending? = some request) : allowed request := by
  cases program with
  | done value => cases next
  | ask request next => cases next; exact only.1
  | insist request settled next => cases next; exact only.1.1

/-- Requests that leave the world alone, one after another, leave it alone. -/
theorem Only.still (only : Only allowed program)
    (still : ∀ s request answer t, allowed request → rule s request answer t → t = s)
    (course : Course rule program s trace rest t) : t = s := by
  induction course with
  | start program s => rfl
  | ask answered further ih => rw [ih (only.2 _), still _ _ _ _ only.1 answered]
  | again answered unsettled further ih => rw [ih only, still _ _ _ _ only.1.1 answered]
  | settled answered final further ih => rw [ih (only.2 _), still _ _ _ _ only.1.1 answered]

theorem Only.request {request : Q} (admitted : allowed request) :
    Only allowed (Dialogue.request request : Dialogue Q A (A request)) :=
  ⟨admitted, fun _ => trivial⟩

theorem Only.requestUntil {request : Q} {settled : A request → Bool} (admitted : allowed request)
    (settles : ∃ answer, settled answer = true) :
    Only allowed (Dialogue.requestUntil request settled : Dialogue Q A (A request)) :=
  ⟨⟨admitted, settles⟩, fun _ => trivial⟩

theorem Only.bind {first : Dialogue Q A β} {second : β → Dialogue Q A α}
    (before : Only allowed first) (after : ∀ value, Only allowed (second value)) :
    Only allowed (first >>= second) := by
  change Only allowed (first.bind second)
  induction first with
  | done value => exact after value
  | ask request next ih => exact ⟨before.1, fun answer => ih answer (before.2 answer)⟩
  | insist request settled next ih => exact ⟨before.1, fun answer => ih answer (before.2 answer)⟩

private theorem Only.mapM_loop {γ : Type} {body : γ → Dialogue Q A β}
    (each : ∀ item, Only allowed (body item)) (items : List γ) (values : List β) :
    Only allowed (List.mapM.loop body items values) := by
  induction items generalizing values with
  | nil => trivial
  | cons item items ih => exact (each item).bind fun value => ih (value :: values)

theorem Only.mapM {γ : Type} {body : γ → Dialogue Q A β}
    (each : ∀ item, Only allowed (body item)) (items : List γ) :
    Only allowed (items.mapM body) :=
  Only.mapM_loop each items []

/-- Requests that are admitted where the program begins and leave the world alone make up a safe
program. -/
theorem Only.safe (admitted : ∀ request, allowed request → guard s request)
    (still : ∀ s request answer t, allowed request → rule s request answer t → t = s)
    (only : Only allowed program) : Safe rule guard program (fun _ t => t = s) s := by
  induction program with
  | done value => rfl
  | ask request next ih =>
    refine ⟨admitted request only.1, fun answer t answered => ?_⟩
    cases still s request answer t only.1 answered
    exact ih answer (only.2 answer)
  | insist request settled next ih =>
    refine ⟨(· = s), rfl, ?_⟩
    rintro _ rfl
    refine ⟨admitted request only.1.1, fun answer t answered => ?_⟩
    cases still _ request answer t only.1.1 answered
    exact ⟨fun _ => rfl, fun _ => ih answer (only.2 answer)⟩

end LineShell.Dialogue
