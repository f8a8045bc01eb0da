import LineShell.Machine.FileSystem

/-! Patterns of the command language. A character that was quoted stands for itself. -/
namespace LineShell.Machine.Sh

/-- A character and whether it was quoted. -/
abbrev Marked := Char × Bool

/-- What one place of a pattern takes. -/
inductive GlobAtom where
  | one (c : Char)
  | anyOne
  | anyRun
  | set (negated : Bool) (members : List (Char × Char))

/-- Whether the atom takes the character. -/
def GlobAtom.takes : GlobAtom → Char → Bool
  | one d, c => c == d
  | anyOne, _ | anyRun, _ => true
  | set negated members, c =>
    (members.any fun (low, high) => low ≤ c && c ≤ high) != negated

/-- The members of a set given the characters between its brackets. -/
def globMembers : List Char → List (Char × Char)
  | low :: '-' :: high :: rest => (low, high) :: globMembers rest
  | c :: rest => (c, c) :: globMembers rest
  | [] => []

/-- Reads a pattern. At most `fuel` characters are looked at. -/
def readGlob : Nat → List Marked → List GlobAtom
  | 0, _ => []
  | _, [] => []
  | fuel + 1, ('*', false) :: rest => .anyRun :: readGlob fuel rest
  | fuel + 1, ('?', false) :: rest => .anyOne :: readGlob fuel rest
  | fuel + 1, ('[', false) :: rest =>
    let inside := rest.takeWhile fun m => m != (']', false)
    if inside.length < rest.length && !inside.isEmpty then
      let (negated, members) := match inside.map (·.1) with
        | '!' :: cs | '^' :: cs => (true, cs)
        | cs => (false, cs)
      .set negated (globMembers members) :: readGlob fuel (rest.drop (inside.length + 1))
    else .one '[' :: readGlob fuel rest
  | fuel + 1, (c, _) :: rest => .one c :: readGlob fuel rest

/-- Whether a pattern takes a whole text. -/
def globMatches : List GlobAtom → List Char → Bool
  | [], cs => cs.isEmpty
  | .anyRun :: rest, [] => globMatches rest []
  | .anyRun :: rest, c :: cs => globMatches rest (c :: cs) || globMatches (.anyRun :: rest) cs
  | _ :: _, [] => false
  | atom :: rest, c :: cs => atom.takes c && globMatches rest cs
termination_by atoms cs => (cs.length, atoms.length)

/-- Whether a marked text holds something to match. -/
def isGlob (field : List Marked) : Bool :=
  field.any fun m => m == ('*', false) || m == ('?', false) || m == ('[', false)

/-- The paths that a pattern matches, going through its parts between slashes. -/
def globPaths (fs : FileSystem) (here : Nat) (found : List String) :
    List (List Marked) → List String
  | [] => found
  | part :: rest =>
    let extend (before : String) : List String :=
      if isGlob part then
        let directory := if before.isEmpty then "." else before
        match fs.find here directory true with
        | .error _ => []
        | .ok id =>
          let atoms := readGlob part.length part
          let hidden := part.head?.map (·.1) == some '.'
          ((fs.entries id).filter fun (name, _) =>
            (hidden || !name.startsWith ".") && globMatches atoms name.toList).map
              fun (name, _) => before ++ name
      else
        let path := before ++ String.ofList (part.map (·.1))
        if path.isEmpty || (fs.find here path false).toOption.isSome then [path] else []
    let paths := found.flatMap extend
    globPaths fs here (if rest.isEmpty then paths else paths.map (· ++ "/")) rest

/-- The parts of a marked text between slashes. -/
def slashParts : List Marked → List (List Marked)
  | [] => [[]]
  | ('/', _) :: rest => [] :: slashParts rest
  | m :: rest =>
    match slashParts rest with
    | [] => [[m]]
    | part :: parts => (m :: part) :: parts

/-- The fields that a field stands for: the paths it matches in order, or itself. -/
def globField (fs : FileSystem) (here : Nat) (field : List Marked) : List String :=
  let plain := String.ofList (field.map (·.1))
  if !isGlob field then [plain]
  else
    let paths := (globPaths fs here [""] (slashParts field)).mergeSort fun a b => a ≤ b
    if paths.isEmpty then [plain] else paths

end LineShell.Machine.Sh
