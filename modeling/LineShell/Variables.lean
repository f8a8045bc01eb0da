/-! The variables a process is started with. The system holds them as entries of the form
`NAME=value` and looks a name up as the beginning of an entry, so an entry whose value holds an
equals sign also answers to the longer name. -/
namespace LineShell

/-- The entries in their order. -/
structure Variables where
  entries : List String := []
  deriving DecidableEq, Repr

namespace Variables

/-- The entries of the pairs in their order. All are kept, and of two with the same name the first
is the one that is looked up. -/
def ofPairs (pairs : List (String × String)) : Variables :=
  ⟨pairs.map fun (name, value) => name ++ "=" ++ value⟩

/-- The value in the first entry that begins with the name and an equals sign. No variable has
the empty name or one that holds a NUL. -/
def get? (vars : Variables) (name : String) : Option String :=
  if name.isEmpty || name.toList.contains '\x00' then none
  else
    let key := name.toList ++ ['=']
    (vars.entries.find? fun entry => key.isPrefixOf entry.toList).map fun entry =>
      String.ofList (entry.toList.drop key.length)

end Variables

end LineShell
