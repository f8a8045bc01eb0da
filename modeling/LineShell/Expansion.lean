import LineShell.Session
import LineShell.Text.Alphanumeric
import LineShell.Word

/-! Expansion of variables and of the home directory. It happens after a line has been split
into words, word by word, so no value ever becomes more or fewer words; a quoted word stays as
it is. Values are not looked at again. A variable that is not set stays as written. -/
namespace LineShell.Expansion

/-- The characters before the first `mark` and those after it. -/
def cutAt? (mark : Char) : List Char → Option (List Char × List Char)
  | [] => none
  | c :: rest =>
    if c == mark then some ([], rest)
    else (cutAt? mark rest).map fun (before, after) => (c :: before, after)

/-- What follows the mark is shorter than the whole. -/
theorem cutAt?_length {mark : Char} {cs before after : List Char}
    (h : cutAt? mark cs = some (before, after)) : after.length < cs.length := by
  induction cs generalizing before after with
  | nil => simp [cutAt?] at h
  | cons c rest ih =>
    unfold cutAt? at h
    split at h
    · simp only [Option.some.injEq, Prod.mk.injEq] at h
      simp [← h.2]
    · simp only [Option.map_eq_some_iff] at h
      obtain ⟨⟨b, a⟩, found, eq⟩ := h
      simp only [Prod.mk.injEq] at eq
      have := ih found
      simp [← eq.2]
      omega

/-- The text between braces split at its first colon followed by a hyphen: the name of the
variable, and the text that stands in for it when it is not set. Where the name would be empty
the whole text is the name. -/
def splitDefault (inside : List Char) : List Char × Option (List Char) :=
  match split inside with
  | (c :: name, some alternative) => (c :: name, some alternative)
  | _ => (inside, none)
where
  split : List Char → List Char × Option (List Char)
    | [] => ([], none)
    | ':' :: '-' :: rest => ([], some rest)
    | c :: rest =>
      let (name, alternative) := split rest
      (c :: name, alternative)

/-- The value of a reference in braces, or the text that takes its place. -/
def braced (lookup : String → Option String) (inside : List Char) : List Char :=
  let (name, alternative) := splitDefault inside
  match lookup (String.ofList name) with
  | some value => value.toList
  | none => alternative.getD ('$' :: '{' :: inside ++ ['}'])

/-- The value of a reference without braces, or the reference itself. -/
def plain (lookup : String → Option String) (name : List Char) : List Char :=
  match lookup (String.ofList name) with
  | some value => value.toList
  | none => '$' :: name

/-- The text with every reference replaced, from left to right. Two dollar signs stand for one;
a brace that is never closed, and a dollar sign before anything else, stand for themselves. -/
def substitute (lookup : String → Option String) : List Char → List Char
  | [] => []
  | '$' :: '{' :: rest =>
    match h : cutAt? '}' rest with
    | some (inside, after) =>
      have := cutAt?_length h
      braced lookup inside ++ substitute lookup after
    | none => '$' :: '{' :: substitute lookup rest
  | '$' :: '$' :: rest => '$' :: substitute lookup rest
  | '$' :: c :: rest =>
    if Text.isNameChar c then
      have : (rest.dropWhile Text.isNameChar).length ≤ rest.length :=
        (List.dropWhile_sublist _).length_le
      plain lookup (c :: rest.takeWhile Text.isNameChar) ++
        substitute lookup (rest.dropWhile Text.isNameChar)
    else '$' :: substitute lookup (c :: rest)
  | c :: rest => c :: substitute lookup rest
termination_by cs => cs.length
decreasing_by all_goals (simp_all; try omega)

/-- The text with a leading tilde replaced by the home directory, when the tilde stands alone or
before a slash. -/
def home (lookup : String → Option String) : List Char → List Char
  | ['~'] => ((lookup "HOME").map String.toList).getD ['~']
  | '~' :: '/' :: rest => ((lookup "HOME").map String.toList).getD ['~'] ++ '/' :: rest
  | cs => cs

/-- Variables first, then the home directory. A tilde that came out of a variable is left
alone. -/
def full (lookup : String → Option String) (cs : List Char) : List Char :=
  let expanded := substitute lookup cs
  if cs.head? == some '~' then home lookup expanded else expanded

/-- The argument for a word. A word without a leading tilde and without a dollar sign needs no
expansion. -/
def word (session : Session) (w : Word) : String :=
  let cs := w.text.toList
  if w.quoted || !(cs.head? == some '~' || cs.contains '$') then w.text
  else String.ofList (full session.valueOf? cs)

end LineShell.Expansion
