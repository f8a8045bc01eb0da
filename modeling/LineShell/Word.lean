import LineShell.Text.Blank
import LineShell.LineError

/-! The words of one segment of a line. Blank characters separate words. A quote outside of
quotes opens a quotation that runs to the next equal quote; what stands inside is taken as it
is, the quotes themselves are dropped, and the closing quote ends the word even if text follows
directly. There is no escape character. -/
namespace LineShell

/-- A word and whether some of it stood inside quotes. -/
structure Word where
  text : String
  quoted : Bool
  deriving DecidableEq, Repr

namespace Word

/-- A quote of either kind. -/
def isQuote (c : Char) : Bool :=
  c == '"' || c == '\''

/-- What has been read since the last complete word, latest character first. -/
inductive Progress where
  | between
  | bare (rev : List Char)
  | inside (quote : Char) (rev : List Char)

/-- A word completed by what comes next. -/
def ofReversed (rev : List Char) (quoted : Bool) : Word :=
  ⟨String.ofList rev.reverse, quoted⟩

/-- The words still to come when at most `room` more are wanted. The rest of the segment is
not looked at once there is no room; a segment that ends inside quotes has no words. -/
def scan : Nat → Progress → List Char → Except LineError (List Word)
  | 0, _, _ => .ok []
  | _ + 1, .between, [] => .ok []
  | _ + 1, .bare rev, [] => .ok [ofReversed rev false]
  | _ + 1, .inside _ _, [] => .error .unclosedQuote
  | room + 1, .between, c :: rest =>
    if Text.isBlank c then scan (room + 1) .between rest
    else if isQuote c then scan (room + 1) (.inside c []) rest
    else scan (room + 1) (.bare [c]) rest
  | room + 1, .bare rev, c :: rest =>
    if Text.isBlank c then (ofReversed rev false :: ·) <$> scan room .between rest
    else if isQuote c then scan (room + 1) (.inside c rev) rest
    else scan (room + 1) (.bare (c :: rev)) rest
  | room + 1, .inside quote rev, c :: rest =>
    if c == quote then (ofReversed rev true :: ·) <$> scan room .between rest
    else scan (room + 1) (.inside quote (c :: rev)) rest

/-- The first words of a segment, `room` of them at most. -/
def split (segment : String) (room : Nat) : Except LineError (List Word) :=
  scan room .between segment.toList

/-- The texts of the first words of a segment, `room` of them at most. -/
def texts (segment : String) (room : Nat) : Except LineError (List String) :=
  (·.map Word.text) <$> split segment room

end Word

end LineShell
