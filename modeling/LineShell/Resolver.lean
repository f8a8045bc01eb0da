import LineShell.Call

/-! The search for the executable of a name. The search directories come first, in their order,
then the name itself as a path. Whether a path is executable is asked of the system; a file that
may not be executed counts as missing. -/
namespace LineShell.Resolver

/-- An executable found for a name. -/
inductive Found where
  /-- In a search directory. -/
  | listed (path : String)
  /-- The name is itself the path. -/
  | direct (name : String)
  deriving DecidableEq, Repr

/-- The path to execute, whichever way it was found. -/
def Found.path : Found → String
  | listed path => path
  | direct name => name

/-- The path of a name in a directory. -/
def candidate (name directory : String) : String :=
  directory ++ "/" ++ name

/-- The first executable candidate, the name itself being the last one. The empty name has
none. -/
def find? {m : Type → Type} [Monad m] (isExecutable : String → m Bool)
    (directories : List String) (name : String) : m (Option Found) := do
  if name.isEmpty then return none
  match ← (directories.map (candidate name)).findM? isExecutable with
  | some path => return some (.listed path)
  | none => if ← isExecutable name then return some (.direct name) else return none

/-- The path of the executable for a name, asking the system and telling the log. -/
def resolve (directories : List String) (name : String) : Shell (Except LineError String) := do
  match ← find? Shell.isExecutable directories name with
  | none => return .error (.commandNotFound name)
  | some found =>
    Shell.log .debug <| match found with
      | .listed path => "resolved " ++ name ++ " to " ++ path ++ " via search paths"
      | .direct name => "resolved " ++ name ++ " as a direct path"
    return .ok found.path

/-! What a search asks first. -/

section Steps

variable {name : String}

/-- The empty name is not searched for. -/
theorem resolve_empty (directories : List String) :
    resolve directories "" = return .error (.commandNotFound "") :=
  rfl

/-- Without directories only the name itself is tried. -/
theorem resolve_nil (named : name ≠ "") :
    resolve [] name = (do
      if ← Shell.isExecutable name then
        Shell.log .debug ("resolved " ++ name ++ " as a direct path")
        return .ok name
      else return .error (.commandNotFound name)) := by
  have some : name.isEmpty = false := Bool.eq_false_iff.mpr (mt String.isEmpty_iff.mp named)
  rw [resolve, find?, some]
  refine congrArg (Dialogue.ask _) (funext fun found => ?_)
  cases found <;> rfl

/-- The first directory is tried before all else. -/
theorem resolve_cons (named : name ≠ "") (directory : String) (directories : List String) :
    resolve (directory :: directories) name = (do
      if ← Shell.isExecutable (candidate name directory) then
        Shell.log .debug
          ("resolved " ++ name ++ " to " ++ candidate name directory ++ " via search paths")
        return .ok (candidate name directory)
      else resolve directories name) := by
  have some : name.isEmpty = false := Bool.eq_false_iff.mpr (mt String.isEmpty_iff.mp named)
  rw [resolve, resolve, find?, find?, some]
  refine congrArg (Dialogue.ask _) (funext fun found => ?_)
  cases found <;> rfl

end Steps

end LineShell.Resolver
