import LineShell.Text.Runs
import LineShell.Text.ClusterTables

/-! Extended grapheme clusters, the characters a reader perceives, and what a backspace in an
input line erases: the cluster before it. A line is cut into clusters first, so a backspace
never takes a part of one. -/
namespace LineShell.Text

/-- What a code point contributes to the choice of cluster boundaries. -/
inductive ClusterClass where
  | carriageReturn
  | lineFeed
  | control
  | extend
  | joiner
  | spacing
  | prepending
  | regional
  | pictographic
  | leading
  | vowel
  | trailing
  | syllableOpen
  | syllableClosed
  | other
  deriving DecidableEq, Repr

/-- The class of a code point beyond the Latin letters. -/
private def wideClass (n : Nat) : ClusterClass :=
  if n == 0x200D then .joiner
  else if 0xAC00 ≤ n && n < 0xD7A4 then
    if (n - 0xAC00) % 28 == 0 then .syllableOpen else .syllableClosed
  else if (0x1100 ≤ n && n < 0x1160) || (0xA960 ≤ n && n < 0xA97D) then .leading
  else if 0x1F1E6 ≤ n && n < 0x1F200 then .regional
  else if inRuns controlRuns n then .control
  else if inRuns extendRuns n then .extend
  else if inRuns spacingRuns n then .spacing
  else if inRuns prependRuns n then .prepending
  else if inRuns vowelRuns n then .vowel
  else if inRuns trailingRuns n then .trailing
  else if inRuns pictographicRuns n then .pictographic
  else .other

/-- The class of a character. -/
def ClusterClass.of (c : Char) : ClusterClass :=
  if c == '\r' then .carriageReturn
  else if c == '\n' then .lineFeed
  else if c.toNat < 0x20 || c.toNat == 0x7F then .control
  else if c.toNat < 0x7F then .other
  else wideClass c.toNat

/-- How far the characters before a place form a conjunct of consonants. -/
inductive Conjunct where
  | none
  | consonant
  | linked
  deriving DecidableEq, Repr

/-- What the characters before a place tell about a boundary there. -/
structure ClusterTail where
  /-- The class of the last character. -/
  last : ClusterClass
  /-- The text ends with a pictograph and extending marks. -/
  pictograph : Bool
  /-- The text ends with a pictograph, extending marks and one joiner. -/
  joined : Bool
  /-- The number of regional indicators at the end is odd. -/
  oddRegional : Bool
  conjunct : Conjunct

/-- How far a conjunct has come after one more character. -/
private def nextConjunct (before : Conjunct) (c : Char) (k : ClusterClass) : Conjunct :=
  if inRuns consonantRuns c.toNat then .consonant
  else if before == .none then .none
  else if inRuns linkerRuns c.toNat then .linked
  else if (k == .extend && c.toNat != 0x200C) || k == .joiner then before
  else .none

/-- What is known after one more character. -/
def ClusterTail.push (t : Option ClusterTail) (c : Char) : ClusterTail :=
  let k := ClusterClass.of c
  match t with
  | none => ⟨k, k == .pictographic, false, k == .regional, nextConjunct .none c k⟩
  | some t =>
    { last := k
      pictograph := k == .pictographic || (t.pictograph && k == .extend)
      joined := t.pictograph && k == .joiner
      oddRegional := k == .regional && !t.oddRegional
      conjunct := nextConjunct t.conjunct c k }

/-- The classes with a boundary on both sides. -/
private def isBreaking : ClusterClass → Bool
  | .carriageReturn | .lineFeed | .control => true
  | _ => false

/-- Whether the next character belongs to the same cluster as the one before it. -/
def ClusterTail.continues (t : ClusterTail) (c : Char) : Bool :=
  let k := ClusterClass.of c
  if t.last == .carriageReturn && k == .lineFeed then true
  else if isBreaking t.last || isBreaking k then false
  else match t.last, k with
    | _, .extend | _, .joiner | _, .spacing => true
    | .prepending, _ => true
    | .leading, .leading | .leading, .vowel | .leading, .syllableOpen
    | .leading, .syllableClosed => true
    | .syllableOpen, .vowel | .syllableOpen, .trailing | .vowel, .vowel
    | .vowel, .trailing => true
    | .syllableClosed, .trailing | .trailing, .trailing => true
    | .regional, .regional => t.oddRegional
    | .joiner, .pictographic => t.joined
    | _, _ => t.conjunct == .linked && inRuns consonantRuns c.toNat

/-- The clusters of the rest of a text, given the cluster under way in reverse. -/
def clustersFrom : Option ClusterTail → List Char → List Char → List (List Char)
  | _, [], [] => []
  | _, rev, [] => [rev.reverse]
  | none, _, c :: rest => clustersFrom (some (ClusterTail.push none c)) [c] rest
  | some t, rev, c :: rest =>
    if t.continues c then clustersFrom (some (ClusterTail.push (some t) c)) (c :: rev) rest
    else rev.reverse :: clustersFrom (some (ClusterTail.push (some t) c)) [c] rest

/-- The text cut into its clusters. -/
def clusters (cs : List Char) : List (List Char) :=
  clustersFrom none [] cs

/-- Each backspace takes itself and the last cluster still standing before it. -/
def eraseBackspaced (cs : List Char) : List Char :=
  ((clusters cs).foldl
    (fun kept cluster => if cluster == ['\x08'] then kept.tail else cluster :: kept)
    []).reverse.flatten

end LineShell.Text
