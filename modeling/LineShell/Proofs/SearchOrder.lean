import LineShell.Resolver
import LineShell.Proofs.DialogueRuns

/-! The order in which a program is searched for. Where it is settled which paths are executable,
the first directory with an executable of the name decides, and the name itself is the last resort.
More directories at the end can only add programs: they hide nothing that a directory before them
has. -/
namespace LineShell.SearchOrder
open Dialogue Resolver

/-- A system in which these paths are executable and no others. -/
def permits (executable : String → Bool) : Rule Call Call.Answer Unit
  | _, .isExecutable path, found, _ => found = executable path
  | _, _, _, _ => True

/-- The search for a name comes to this result. -/
def Finds (executable : String → Bool) (directories : List String) (name : String)
    (result : Except LineError String) : Prop :=
  ∃ history, Course (permits executable) (resolve directories name) () history (.done result) ()

/-- The first directory with an executable of this name. -/
def first? (executable : String → Bool) (directories : List String) (name : String) :
    Option String :=
  directories.find? fun directory => executable (candidate name directory)

/-- The result that the order of a search stands for. -/
def sought (executable : String → Bool) (directories : List String) (name : String) :
    Except LineError String :=
  if name = "" then .error (.commandNotFound name)
  else match first? executable directories name with
    | some directory => .ok (candidate name directory)
    | none => if executable name then .ok name else .error (.commandNotFound name)

variable {executable : String → Bool} {name path text : String}
  {directories : List String} {result given : Except LineError String}

/-! ### Runs of the search -/

private theorem ends_iff : (∃ history, Course (permits executable) (return given) () history
    (.done result) ()) ↔ result = given := by
  constructor
  · rintro ⟨history, course⟩
    exact (course_done_iff.mp course).2.1
  · rintro rfl
    exact ⟨[], .start _ _⟩

private theorem log_ends_iff : (∃ history, Course (permits executable) (do
      Shell.log .debug text
      return given) () history (.done result) ()) ↔ result = given := by
  constructor
  · rintro ⟨history, course⟩
    obtain ⟨⟨⟩, ⟨⟩, later, -, -, ended⟩ := course_request_iff.mp course
    exact ends_iff.mp ⟨later, ended⟩
  · rintro rfl
    exact ⟨[⟨.log .debug text, ()⟩], .ask trivial (.start _ _)⟩

private theorem asks_iff {next : Bool → Shell (Except LineError String)} :
    (∃ history, Course (permits executable) (Shell.isExecutable path >>= next) () history
      (.done result) ()) ↔
    ∃ history, Course (permits executable) (next (executable path)) () history
      (.done result) () := by
  constructor
  · rintro ⟨history, course⟩
    obtain ⟨_, ⟨⟩, later, -, rfl, further⟩ := course_request_iff.mp course
    exact ⟨later, further⟩
  · rintro ⟨later, further⟩
    exact ⟨_, .ask rfl further⟩

/-- The search has one result, and always comes to it. -/
theorem finds_iff : Finds executable directories name result ↔
    result = sought executable directories name := by
  by_cases named : name = ""
  · subst named
    rw [Finds, resolve_empty]
    exact ends_iff
  rw [sought, if_neg named]
  induction directories with
  | nil =>
    rw [Finds, resolve_nil named]
    refine asks_iff.trans ?_
    change _ ↔ result = if executable name then _ else _
    cases executable name with
    | true => exact log_ends_iff
    | false => exact ends_iff
  | cons directory directories ih =>
    rw [Finds, resolve_cons named]
    refine asks_iff.trans ?_
    rw [first?, List.find?_cons]
    cases executable (candidate name directory) with
    | true => exact log_ends_iff
    | false => exact ih

/-! ### More directories -/

section Laws

variable {directory : String} {further : List String}

theorem sought_of_first (named : name ≠ "")
    (found : first? executable directories name = some directory) :
    sought executable (directories ++ further) name = .ok (candidate name directory) := by
  rw [first?] at found
  rw [sought, if_neg named, first?, List.find?_append, found]
  rfl

theorem sought_of_none (none : name ≠ "" → first? executable directories name = none) :
    sought executable (directories ++ further) name = sought executable further name := by
  by_cases named : name = ""
  · rw [sought, sought, if_pos named, if_pos named]
  · have none := none named
    rw [first?] at none
    rw [sought, sought, if_neg named, if_neg named, first?, List.find?_append, none]
    rfl

/-- A candidate is longer than the name, so it never is the name. -/
theorem candidate_ne (name directory : String) : candidate name directory ≠ name := by
  intro same
  have length := congrArg String.length same
  simp only [candidate, String.length_append] at length
  have slash : "/".length = 1 := rfl
  omega

theorem of_first?_eq_some (found : first? executable directories name = some directory) :
    directory ∈ directories ∧ executable (candidate name directory) = true := by
  have permitted := List.find?_some found
  exact ⟨List.mem_of_find?_eq_some found, permitted⟩

theorem of_first?_eq_none (none : first? executable directories name = none) :
    ∀ directory ∈ directories, executable (candidate name directory) = false := by
  intro directory member
  exact Bool.eq_false_iff.mpr (List.find?_eq_none.mp none directory member)

/-- What is found is executable, and it is the name itself or stands in one of the directories. -/
theorem of_sought_eq_ok (found : sought executable directories name = .ok path) :
    executable path = true ∧
      (path = name ∨ ∃ directory ∈ directories, path = candidate name directory) := by
  rw [sought] at found
  split at found
  · cases found
  split at found
  · rename_i directory chosen
    cases found
    obtain ⟨member, permitted⟩ := of_first?_eq_some chosen
    exact ⟨permitted, .inr ⟨directory, member, rfl⟩⟩
  split at found
  · rename_i direct
    cases found
    exact ⟨direct, .inl rfl⟩
  · cases found

theorem of_sought_eq_error {e : LineError}
    (missed : sought executable directories name = .error e) :
    e = .commandNotFound name ∧ (name = "" ∨ executable name = false ∧
      ∀ directory ∈ directories, executable (candidate name directory) = false) := by
  rw [sought] at missed
  split at missed
  · rename_i empty
    cases missed
    exact ⟨rfl, .inl empty⟩
  split at missed
  · cases missed
  rename_i none
  split at missed
  · cases missed
  · rename_i direct
    cases missed
    exact ⟨rfl, .inr ⟨Bool.eq_false_iff.mpr direct, of_first?_eq_none none⟩⟩

/-- A name that is found is found with more directories too, and in the same place if that is one of
the directories. -/
theorem sought_append_of_ok (found : sought executable directories name = .ok path) :
    ∃ later, sought executable (directories ++ further) name = .ok later ∧
      ((∃ directory ∈ directories, path = candidate name directory) → later = path) := by
  have named : name ≠ "" := by
    rintro rfl
    cases found
  cases chosen : first? executable directories name with
  | some directory =>
    rw [sought, if_neg named, chosen] at found
    cases found
    exact ⟨_, sought_of_first named chosen, fun _ => rfl⟩
  | none =>
    -- Only the name itself was found, and another directory may come before it.
    rw [sought, if_neg named, chosen] at found
    dsimp only at found
    split at found
    · rename_i direct
      cases found
      rw [sought_of_none fun _ => chosen]
      have more : ∃ later, sought executable further name = .ok later := by
        rw [sought, if_neg named]
        cases first? executable further name with
        | some directory => exact ⟨_, rfl⟩
        | none => exact ⟨name, if_pos direct⟩
      obtain ⟨later, found⟩ := more
      refine ⟨later, found, ?_⟩
      rintro ⟨directory, -, same⟩
      exact absurd same.symm (candidate_ne name directory)
    · cases found

end Laws

/-- What a search in some directories has to do with one in these and in further ones after them. -/
structure InOrder (executable : String → Bool) (name : String) (directories further : List String) :
    Prop where
  decided : ∃ settled, ∀ result, Finds executable directories name result ↔ result = settled
  /-- The first directory with an executable of the name wins, whatever comes later. -/
  wins : name ≠ "" → ∀ directory, first? executable directories name = some directory →
    ∀ result, Finds executable (directories ++ further) name result ↔
      result = .ok (candidate name directory)
  passes : (name ≠ "" → first? executable directories name = none) →
    ∀ result, Finds executable (directories ++ further) name result ↔
      Finds executable further name result
  direct : ∀ result, Finds executable [] name result ↔
    result = if name ≠ "" ∧ executable name then .ok name else .error (.commandNotFound name)
  sound : ∀ path, Finds executable directories name (.ok path) →
    executable path = true ∧
      (path = name ∨ ∃ directory ∈ directories, path = candidate name directory)
  fails : ∀ e, Finds executable directories name (.error e) → e = .commandNotFound name ∧
    (name = "" ∨ executable name = false ∧
      ∀ directory ∈ directories, executable (candidate name directory) = false)
  /-- More directories never lose a program, and they change only one that is the name itself. -/
  grows : ∀ path, Finds executable directories name (.ok path) →
    ∃ later, Finds executable (directories ++ further) name (.ok later) ∧
      ((∃ directory ∈ directories, path = candidate name directory) → later = path)

/-- A program in the directory the shell works in gives way to a later search directory. -/
example : sought (["ls", "/bin/ls"].contains ·) [] "ls" = .ok "ls" ∧
    sought (["ls", "/bin/ls"].contains ·) ["/usr/bin", "/bin"] "ls" = .ok "/bin/ls" := ⟨rfl, rfl⟩

end LineShell.SearchOrder
