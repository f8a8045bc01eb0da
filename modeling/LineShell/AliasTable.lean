/-! The table of aliases. It is bounded, keeps its entries in the order of their first
definition, and a new command for a known name leaves the name in its place. -/
namespace LineShell

/-- The most aliases that can be defined at once. -/
def maxAliases : Nat := 50

/-- Names with the commands they stand for. -/
structure AliasTable where
  entries : List (String × String) := []
  deriving DecidableEq, Repr

/-- Why an alias cannot be defined. -/
inductive AliasError where
  | invalidName (name : String)
  | tableFull
  deriving DecidableEq, Repr

/-- What the user reads when an alias is refused. -/
def AliasError.message : AliasError → String
  | invalidName name => "invalid alias name '" ++ name ++ "'"
  | tableFull => "cannot set alias: at most " ++ toString maxAliases ++ " aliases"

namespace AliasTable

/-- An ASCII letter or an underscore. -/
def isNameStart (c : Char) : Bool :=
  c.isAlpha || c == '_'

/-- An ASCII letter or digit, an underscore, a point or a hyphen. -/
def isNamePart (c : Char) : Bool :=
  c.isAlphanum || c == '_' || c == '.' || c == '-'

/-- The names that can be defined. -/
def isName (name : String) : Bool :=
  match name.toList with
  | [] => false
  | c :: rest => isNameStart c && rest.all isNamePart

/-- The command a name stands for. -/
def lookup (table : AliasTable) (name : String) : Option String :=
  table.entries.lookup name

/-- The table with one more definition. -/
def insert (table : AliasTable) (name command : String) : Except AliasError AliasTable :=
  if !isName name then .error (.invalidName name)
  else if table.entries.any (·.1 == name) then
    .ok ⟨table.entries.map fun entry => if entry.1 == name then (name, command) else entry⟩
  else if table.entries.length ≥ maxAliases then .error .tableFull
  else .ok ⟨table.entries ++ [(name, command)]⟩

end AliasTable

end LineShell
