import LineShell.Machine.Sh.Tree

/-! Reading commands of the command language from text, one complete command at a time. -/
namespace LineShell.Machine.Sh

/-- The text still to be read, and the number of its line. -/
structure Cursor where
  rest : List Char
  line : Nat := 1

/-- What is wrong with the text, and where. -/
structure Problem where
  line : Nat
  message : String

/-- A reader takes some text and leaves the rest. -/
abbrev Reader := StateT Cursor (Except Problem)

namespace Reader

/-- Stops reading with the message. -/
def fail {α : Type} (message : String) : Reader α := do
  throw ⟨(← get).line, "Syntax error: " ++ message⟩

/-- The text that is not read yet. -/
def peek : Reader (List Char) := return (← get).rest

/-- Moves on by some characters, counting lines. -/
def skip (n : Nat) : Reader Unit :=
  modify fun c => ⟨c.rest.drop n, c.line + (c.rest.take n).count '\n'⟩

/-- The characters that begin a name. -/
def isNameStart (c : Char) : Bool := c.isAlpha || c == '_'

/-- The characters that go on a name. -/
def isNamePart (c : Char) : Bool := c.isAlphanum || c == '_'

/-- The characters that end a word. -/
def endsWord (c : Char) : Bool :=
  c == ' ' || c == '\t' || c == '\n' || c == ';' || c == '&' || c == '|' || c == '<' || c == '>' ||
    c == '(' || c == ')'

/-- Skips blanks, joined lines and a comment. -/
def skipBlanks : Nat → Reader Unit
  | 0 => return ()
  | fuel + 1 => do
    match ← peek with
    | ' ' :: _ | '\t' :: _ =>
      skip 1
      skipBlanks fuel
    | '\\' :: '\n' :: _ =>
      skip 2
      skipBlanks fuel
    | '#' :: rest => skip (1 + (rest.takeWhile (· != '\n')).length)
    | _ => return ()

/-- Skips blanks and line ends. -/
def skipLines : Nat → Reader Unit
  | 0 => return ()
  | fuel + 1 => do
    skipBlanks (← peek).length
    match ← peek with
    | '\n' :: _ =>
      skip 1
      skipLines fuel
    | _ => return ()

/-- The text up to the bracket that closes what has been opened `depth` times; quotes hide
brackets. -/
def enclosed (opening closing : Char) : Nat → Nat → List Char → Option (List Char)
  | 0, _, _ => none
  | _, _, [] => none
  | fuel + 1, depth, '\\' :: c :: rest =>
    (enclosed opening closing fuel depth rest).map fun cs => '\\' :: c :: cs
  | fuel + 1, depth, '\'' :: rest =>
    let inside := rest.takeWhile (· != '\'')
    (enclosed opening closing fuel depth (rest.drop (inside.length + 1))).map fun cs =>
      '\'' :: inside ++ '\'' :: cs
  | fuel + 1, depth, c :: rest =>
    if c == closing then
      match depth with
      | 0 => some []
      | depth + 1 => (enclosed opening closing fuel depth rest).map (c :: ·)
    else
      (enclosed opening closing fuel (if c == opening then depth + 1 else depth) rest).map (c :: ·)

/-- Reads what stands after a dollar sign. -/
def dollar (quoted : Bool) : Reader Piece := do
  let rest ← peek
  match rest with
  | '(' :: '(' :: inside =>
    match enclosed '(' ')' inside.length 0 inside with
    | some body =>
      skip (body.length + 4)
      return .arithmetic (String.ofList body) quoted
    | none => fail "Missing '))'"
  | '(' :: inside =>
    match enclosed '(' ')' inside.length 0 inside with
    | some body =>
      skip (body.length + 2)
      return .output (String.ofList body) quoted
    | none => fail "end of file unexpected (expecting \")\")"
  | '\x7b' :: inside =>
    match enclosed '\x7b' '\x7d' inside.length 0 inside with
    | none => fail "Missing '\x7d'"
    | some body =>
      skip (body.length + 2)
      match body with
      | '#' :: c :: name => return .parameter (String.ofList (c :: name)) "#count" "" quoted
      | _ =>
        let name :=
          if (body.head?.map isNameStart).getD false then body.takeWhile isNamePart
          else if (body.head?.map Char.isDigit).getD false then body.takeWhile Char.isDigit
          else body.take 1
        let after := body.drop name.length
        let operator := after.takeWhile fun c => ":-=+?#%".toList.contains c
        let operator := operator.take (match operator with
          | ':' :: _ => 2
          | '#' :: '#' :: _ | '%' :: '%' :: _ => 2
          | [] => 0
          | _ => 1)
        return .parameter (String.ofList name) (String.ofList operator)
          (String.ofList (after.drop operator.length)) quoted
  | c :: more =>
    if isNameStart c then
      let name := c :: more.takeWhile isNamePart
      skip name.length
      return .parameter (String.ofList name) "" "" quoted
    else if c.isDigit || "?$!#@*-".toList.contains c then
      skip 1
      return .parameter (String.singleton c) "" "" quoted
    else return .text "$" quoted
  | [] => return .text "$" quoted

/-- Reads the commands between backquotes. -/
def backquoted (quoted : Bool) : Reader Piece := do
  let body := (← peek).takeWhile (· != '`')
  if body.length == (← peek).length then fail "EOF in backquote substitution"
  skip (body.length + 1)
  return .output (String.ofList body) quoted

/-- Reads the inside of double quotes. -/
def doubleQuoted : Nat → Reader Word
  | 0 => fail "Unterminated quoted string"
  | fuel + 1 => do
    match ← peek with
    | [] => fail "Unterminated quoted string"
    | '"' :: _ =>
      skip 1
      return []
    | '\\' :: '\n' :: _ =>
      skip 2
      doubleQuoted fuel
    | '\\' :: c :: _ =>
      skip 2
      let text := if "$`\"\\".toList.contains c then String.singleton c else String.ofList ['\\', c]
      return Piece.text text true :: (← doubleQuoted fuel)
    | '$' :: _ =>
      skip 1
      let piece ← dollar true
      return piece :: (← doubleQuoted fuel)
    | '`' :: _ =>
      skip 1
      let piece ← backquoted true
      return piece :: (← doubleQuoted fuel)
    | c :: _ =>
      skip 1
      return Piece.text (String.singleton c) true :: (← doubleQuoted fuel)

/-- Reads a word up to its end. -/
def word : Nat → Reader Word
  | 0 => return []
  | fuel + 1 => do
    match ← peek with
    | [] => return []
    | '\\' :: '\n' :: _ =>
      skip 2
      word fuel
    | '\\' :: c :: _ =>
      skip 2
      return Piece.text (String.singleton c) true :: (← word fuel)
    | '\'' :: rest =>
      let inside := rest.takeWhile (· != '\'')
      if inside.length == rest.length then
        skip (rest.length + 1)
        fail "Unterminated quoted string"
      skip (inside.length + 2)
      return Piece.text (String.ofList inside) true :: (← word fuel)
    | '"' :: _ =>
      skip 1
      let inside ← doubleQuoted (← peek).length.succ
      return Piece.text "" true :: inside ++ (← word fuel)
    | '$' :: _ =>
      skip 1
      let piece ← dollar false
      return piece :: (← word fuel)
    | '`' :: _ =>
      skip 1
      let piece ← backquoted false
      return piece :: (← word fuel)
    | c :: _ =>
      if endsWord c then return []
      skip 1
      return Piece.text (String.singleton c) false :: (← word fuel)

/-- One word. -/
def readWord : Reader Word := do word ((← peek).length + 1)

/-- The text of a word without any quote or expansion. -/
def bareText? : Word → Option String
  | [] => some ""
  | .text chars false :: rest => (bareText? rest).map (chars ++ ·)
  | _ => none

/-- The reserved word that the text goes on with, if it does. -/
def keyword? : Reader (Option String) := do
  skipBlanks (← peek).length
  let before ← get
  let w ← tryCatch readWord fun _ => return []
  set before
  let reserved := ["if", "then", "elif", "else", "fi", "while", "until", "do", "done", "for", "in",
    "case", "esac", "\x7b", "\x7d", "!"]
  return (bareText? w).filter reserved.contains

/-- How an unexpected place of the text is named. -/
def unexpectedName : Reader String := do
  match ← peek with
  | [] => return "end of file"
  | '\n' :: _ => return "newline"
  | ';' :: ';' :: _ => return "\";;\""
  | '&' :: '&' :: _ => return "\"&&\""
  | '|' :: '|' :: _ => return "\"||\""
  | c :: _ =>
    match ← keyword? with
    | some k => return "\"" ++ k ++ "\""
    | none =>
      if endsWord c then return "\"" ++ String.singleton c ++ "\"" else return "word"

/-- Stops at the token that is next, naming what should have stood there. -/
def unexpected {α : Type} (expected : Option String) : Reader α := do
  let name ← unexpectedName
  fail (name ++ " unexpected" ++
    match expected with
    | some e => " (expecting \"" ++ e ++ "\")"
    | none => "")

/-- Reads one reserved word. -/
def expectWord (expected : String) : Reader Unit := do
  if (← keyword?) == some expected then
    let _ ← readWord
  else unexpected (some expected)

/-- The lines up to the one that ends a text within the commands, and what follows that line. At
most `fuel` lines are looked at. -/
def hereLines (stripped : Bool) (mark : String) : Nat → List Char → List Char × List Char
  | 0, cs => (cs, [])
  | _, [] => ([], [])
  | fuel + 1, cs =>
    let cs := if stripped then cs.dropWhile (· == '\t') else cs
    let line := cs.takeWhile (· != '\n')
    let after := cs.drop (line.length + 1)
    if String.ofList line == mark then ([], after)
    else
      let (body, rest) := hereLines stripped mark fuel after
      (cs.take (line.length + 1) ++ body, rest)

/-- A text within the commands as it stands between double quotes. -/
def quoteHere : List Char → List Char
  | [] => []
  | '\\' :: c :: rest =>
    if "$`\\\n".toList.contains c then '\\' :: c :: quoteHere rest
    else '\\' :: '\\' :: quoteHere (c :: rest)
  | '"' :: rest => '\\' :: '"' :: quoteHere rest
  | c :: rest => c :: quoteHere rest

/-- Reads the text that begins after the end of the line, takes it out of the commands, and gives
it as a word. Quotes around the mark of its end keep it as it stands. -/
def hereText (stripped : Bool) : Reader Word := do
  skipBlanks (← peek).length
  let mark ← readWord
  if mark.isEmpty then fail "end of file unexpected"
  let texts := mark.filterMap fun piece => match piece with
    | .text chars _ => some chars
    | _ => none
  let literal := mark.any fun piece => match piece with
    | .text _ quoted => quoted
    | _ => false
  let c ← get
  let line := c.rest.takeWhile (· != '\n')
  let (body, after) :=
    hereLines stripped (String.join texts) c.rest.length (c.rest.drop (line.length + 1))
  set (⟨line ++ '\n' :: after, c.line⟩ : Cursor)
  if literal then return [.text (String.ofList body) true]
  let quoted := quoteHere body ++ ['"']
  match (doubleQuoted (quoted.length + 1)).run ⟨quoted, c.line⟩ with
  | .ok (word, _) => return Piece.text "" true :: word
  | .error problem => throw problem

/-- Reads a redirection, if the text goes on with one. -/
def redirect? : Reader (Option Redirect) := do
  let rest ← peek
  let digits := rest.takeWhile Char.isDigit
  let number (standard : Nat) : Nat :=
    if digits.isEmpty then standard
    else digits.foldl (fun n c => n * 10 + (c.toNat - '0'.toNat)) 0
  let finish (descriptor : Nat) (kind : RedirectKind) (length : Nat) :
      Reader (Option Redirect) := do
    skip (digits.length + length)
    skipBlanks (← peek).length
    let target ← readWord
    if target.isEmpty then unexpected none
    return some ⟨descriptor, kind, target⟩
  match rest.drop digits.length with
  | '>' :: '>' :: _ => finish (number 1) .append 2
  | '>' :: '&' :: _ => finish (number 1) .copy 2
  | '>' :: '|' :: _ => finish (number 1) .output 2
  | '>' :: _ => finish (number 1) .output 1
  | '<' :: '<' :: rest =>
    let stripped := rest.head? == some '-'
    skip (digits.length + if stripped then 3 else 2)
    return some ⟨number 0, .here, ← hereText stripped⟩
  | '<' :: '&' :: _ => finish (number 0) .copy 2
  | '<' :: _ => finish (number 0) .input 1
  | _ => return none

/-- Reads the redirections after a compound command. -/
def redirects : Nat → Reader (List Redirect)
  | 0 => return []
  | fuel + 1 => do
    skipBlanks (← peek).length
    match ← redirect? with
    | some r => return r :: (← redirects fuel)
    | none => return []

/-- The name and value of an assignment. -/
def assignment? (w : Word) : Option (String × Word) :=
  let name := w.takeWhile fun piece => match piece with
    | .text "=" false => false
    | .text _ false => true
    | _ => false
  match w.drop name.length, (bareText? name).map String.toList with
  | .text "=" false :: value, some (c :: cs) =>
    if isNameStart c && cs.all isNamePart then some (String.ofList (c :: cs), value) else none
  | _, _ => none

/-- Reads the parts of a simple command. -/
def simpleParts (line : Nat) (assignments : List (String × Word)) (words : List Word)
    (found : List Redirect) : Nat → Reader Tree
  | 0 => return .simple line assignments words found
  | fuel + 1 => do
    skipBlanks (← peek).length
    match ← redirect? with
    | some r => simpleParts line assignments words (found ++ [r]) fuel
    | none =>
      let w ← readWord
      if w.isEmpty then return .simple line assignments words found
      match words, assignment? w with
      | [], some a => simpleParts line (assignments ++ [a]) words found fuel
      | _, _ => simpleParts line assignments (words ++ [w]) found fuel

/-- Whether a list ends here: at the end of the text, at a closing bracket, or at a reserved word
that closes a part of a compound command. -/
def atListEnd : Reader Bool := do
  match ← peek with
  | [] | ')' :: _ | ';' :: ';' :: _ => return true
  | _ =>
    let k ← keyword?
    return k.any ["then", "elif", "else", "fi", "do", "done", "esac", "\x7d"].contains

/-- Reads the words after `in`. -/
def wordList : Nat → Reader (List Word)
  | 0 => return []
  | fuel + 1 => do
    skipBlanks (← peek).length
    let w ← readWord
    if w.isEmpty then return [] else return w :: (← wordList fuel)

/-- Reads the patterns of a branch up to the closing bracket. -/
def patterns : Nat → Reader (List Word)
  | 0 => return []
  | fuel + 1 => do
    skipBlanks (← peek).length
    let w ← readWord
    skipBlanks (← peek).length
    match ← peek with
    | '|' :: _ =>
      skip 1
      return w :: (← patterns fuel)
    | ')' :: _ =>
      skip 1
      return [w]
    | _ => unexpected (some ")")

mutual

/-- Reads a command, simple or compound. -/
def command : Nat → Reader Tree
  | 0 => fail "too deep"
  | fuel + 1 => do
    skipBlanks (← peek).length
    let size := (← peek).length + 1
    match ← peek with
    | '(' :: _ =>
      skip 1
      let body ← list fuel
      match ← peek with
      | ')' :: _ =>
        skip 1
        return .subshell body (← redirects size)
      | _ => unexpected (some ")")
    | _ =>
      match ← keyword? with
      | some "\x7b" =>
        let _ ← readWord
        let body ← list fuel
        expectWord "\x7d"
        return .group body (← redirects size)
      | some "if" =>
        let _ ← readWord
        let t ← conditional fuel
        return .group t (← redirects size)
      | some "while" =>
        let _ ← readWord
        let condition ← list fuel
        expectWord "do"
        let body ← list fuel
        expectWord "done"
        return .group (.loop false condition body) (← redirects size)
      | some "until" =>
        let _ ← readWord
        let condition ← list fuel
        expectWord "do"
        let body ← list fuel
        expectWord "done"
        return .group (.loop true condition body) (← redirects size)
      | some "for" =>
        let _ ← readWord
        skipBlanks size
        let name := (bareText? (← readWord)).getD ""
        skipLines size
        let words ← if (← keyword?) == some "in" then do
            let _ ← readWord
            let found ← wordList size
            pure (some found)
          else pure none
        skipBlanks size
        match ← peek with
        | ';' :: _ => skip 1
        | _ => pure ()
        skipLines size
        expectWord "do"
        let body ← list fuel
        expectWord "done"
        return .group (.each name words body) (← redirects size)
      | some "case" =>
        let _ ← readWord
        skipBlanks size
        let subject ← readWord
        skipLines size
        expectWord "in"
        let branches ← branchList fuel
        return .group (.select subject branches) (← redirects size)
      | some "!" =>
        let _ ← readWord
        return .negate (← command fuel)
      | some _ => unexpected none
      | none =>
        let line := (← get).line
        let name := (← peek).takeWhile isNamePart
        match (← peek).drop name.length with
        | '(' :: ')' :: _ =>
          if name.isEmpty then unexpected none
          skip (name.length + 2)
          skipLines size
          return .define (String.ofList name) (← command fuel)
        | _ =>
          let t ← simpleParts line [] [] [] size
          match t with
          | .simple _ [] [] [] => unexpected none
          | t => return t

/-- Reads the rest of a choice after its condition has been announced. -/
def conditional : Nat → Reader Tree
  | 0 => fail "too deep"
  | fuel + 1 => do
    let condition ← list fuel
    expectWord "then"
    let whenTrue ← list fuel
    match ← keyword? with
    | some "elif" =>
      let _ ← readWord
      return .choose condition whenTrue (← conditional fuel)
    | some "else" =>
      let _ ← readWord
      let whenFalse ← list fuel
      expectWord "fi"
      return .choose condition whenTrue whenFalse
    | _ =>
      expectWord "fi"
      return .choose condition whenTrue .nothing

/-- Reads the branches of a selection. -/
def branchList : Nat → Reader (List (List Word × Tree))
  | 0 => fail "too deep"
  | fuel + 1 => do
    let size := (← peek).length + 1
    skipLines size
    if (← keyword?) == some "esac" then
      let _ ← readWord
      return []
    match ← peek with
    | '(' :: _ => skip 1
    | _ => pure ()
    let alternatives ← patterns size
    let body ← list fuel
    skipLines size
    match ← peek with
    | ';' :: ';' :: _ =>
      skip 2
      return (alternatives, body) :: (← branchList fuel)
    | _ =>
      expectWord "esac"
      return [(alternatives, body)]

/-- Reads commands joined by pipe characters. -/
def pipeline : Nat → Reader Tree
  | 0 => fail "too deep"
  | fuel + 1 => do
    let left ← command fuel
    skipBlanks (← peek).length
    match ← peek with
    | '|' :: '|' :: _ => return left
    | '|' :: _ =>
      skip 1
      skipLines (← peek).length
      return .pipe left (← pipeline fuel)
    | _ => return left

/-- Reads pipelines joined by conjunctions and disjunctions, given the one before. -/
def joined : Nat → Tree → Reader Tree
  | 0, left => return left
  | fuel + 1, left => do
    skipBlanks (← peek).length
    match ← peek with
    | '&' :: '&' :: _ =>
      skip 2
      skipLines (← peek).length
      joined fuel (.both left (← pipeline fuel))
    | '|' :: '|' :: _ =>
      skip 2
      skipLines (← peek).length
      joined fuel (.either left (← pipeline fuel))
    | _ => return left

/-- Reads a list up to its end, across lines. -/
def list : Nat → Reader Tree
  | 0 => fail "too deep"
  | fuel + 1 => do
    skipLines (← peek).length
    if ← atListEnd then return .nothing
    let first ← joined fuel (← pipeline fuel)
    skipBlanks (← peek).length
    match ← peek with
    | ';' :: ';' :: _ => return first
    | ';' :: _ | '\n' :: _ =>
      skip 1
      return .sequence first (← list fuel)
    | '&' :: _ =>
      skip 1
      return .sequence (.background first) (← list fuel)
    | _ => return first

end

/-- Reads the commands of one line and of the lines they go on. -/
def completeCommand : Nat → Reader Tree
  | 0 => return .nothing
  | fuel + 1 => do
    skipBlanks (← peek).length
    let size := 2 * (← peek).length + 16
    match ← peek with
    | [] => return .nothing
    | '\n' :: _ =>
      skip 1
      return .nothing
    | _ =>
      let first ← joined size (← pipeline size)
      skipBlanks (← peek).length
      match ← peek with
      | ';' :: ';' :: _ => unexpected none
      | ';' :: _ =>
        skip 1
        return .sequence first (← completeCommand fuel)
      | '&' :: _ =>
        skip 1
        return .sequence (.background first) (← completeCommand fuel)
      | '\n' :: _ =>
        skip 1
        return first
      | [] => return first
      | _ => unexpected none

end Reader

end LineShell.Machine.Sh
