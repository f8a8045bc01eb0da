import LineShell.Limits
import LineShell.Word

/-! A line read as a pipeline: the segments between pipe characters, each with its words. The
pipe character separates stages everywhere, also inside quotes. A line that exceeds a limit is
refused as a whole, never shortened. -/
namespace LineShell

/-- One command of a pipeline. -/
structure Stage where
  /-- The words of the command; the first is its name as typed. -/
  argv : List String
  /-- The executable found for the name, once it has been looked for. -/
  program : Option String := none
  /-- The file that takes the output. -/
  redirect : Option String := none
  deriving DecidableEq, Repr

/-- The name as typed, empty for a stage without words. -/
def Stage.name (stage : Stage) : String :=
  stage.argv.headD ""

/-- The stages of a line in order, each feeding its output to the next. -/
structure Pipeline where
  stages : List Stage
  deriving DecidableEq, Repr

namespace Pipeline

/-- The pieces of a text between the places where `mark` stands. -/
def splitAt (mark : Char) : List Char → List (List Char)
  | [] => [[]]
  | c :: rest =>
    if c == mark then [] :: splitAt mark rest
    else match splitAt mark rest with
      | [] => [[c]]
      | piece :: pieces => (c :: piece) :: pieces

/-- The first segments of a line, `room` of them at most, without blank characters around. -/
def segments (line : String) (room : Nat) : List String :=
  ((splitAt '|' line.toList).take room).map fun piece => String.ofList (Text.trimChars piece)

/-- The stage of one segment, with `expand` giving the argument for each word. -/
def readStage (maxWords : Nat) (expand : Word → String) (segment : String) :
    Except LineError Stage := do
  let words ← Word.split segment (Limits.oneBeyond maxWords)
  if words.isEmpty then throw .emptyCommand
  if words.length > maxWords then throw (.tooManyWords maxWords)
  return { argv := words.map expand }

/-- The pipeline of a line, with `expand` giving the argument for each word. -/
def readWith (expand : Word → String) (limits : Limits) (line : String) :
    Except LineError Pipeline := do
  let pieces := segments line (Limits.oneBeyond limits.maxStages)
  if pieces.length > limits.maxStages then throw (.tooManyStages limits.maxStages)
  return ⟨← pieces.mapM (readStage limits.maxWords expand)⟩

/-- The pipeline of a line whose words are taken as they are. -/
def read (limits : Limits) (line : String) : Except LineError Pipeline :=
  readWith Word.text limits line

end Pipeline

end LineShell
