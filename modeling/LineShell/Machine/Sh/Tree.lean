/-! Commands of the command language `sh` as trees. -/
namespace LineShell.Machine.Sh

/-- A piece of a word. What is expanded later is kept as it was written. -/
inductive Piece where
  | text (chars : String) (quoted : Bool)
  /-- A parameter with an operator and the word after it, both empty without braces. -/
  | parameter (name operator word : String) (quoted : Bool)
  /-- The output of commands. -/
  | output (source : String) (quoted : Bool)
  | arithmetic (source : String) (quoted : Bool)
  deriving Repr

/-- A word as its pieces. -/
abbrev Word := List Piece

/-- What a redirection does to its descriptor. -/
inductive RedirectKind where
  | input
  | output
  | append
  /-- The descriptor named by the target is copied, or the own one is closed. -/
  | copy
  /-- The target is itself the text that is read. -/
  | here
  deriving DecidableEq, Repr

/-- What one descriptor of a command is turned into. -/
structure Redirect where
  descriptor : Nat
  kind : RedirectKind
  target : Word
  deriving Repr

/-- A command, simple or compound. -/
inductive Tree where
  | nothing
  | simple (line : Nat) (assignments : List (String × Word)) (words : List Word)
      (redirects : List Redirect)
  | pipe (left right : Tree)
  | negate (command : Tree)
  | both (left right : Tree)
  | either (left right : Tree)
  | sequence (first second : Tree)
  | background (command : Tree)
  /-- The body is repeated as long as the condition succeeds, or fails if it is awaited. -/
  | loop (awaits : Bool) (condition body : Tree)
  | each (name : String) (words : Option (List Word)) (body : Tree)
  | choose (condition whenTrue whenFalse : Tree)
  /-- The branch of the first pattern that matches. -/
  | select (subject : Word) (branches : List (List Word × Tree))
  | group (body : Tree) (redirects : List Redirect)
  | subshell (body : Tree) (redirects : List Redirect)
  | define (name : String) (body : Tree)

end LineShell.Machine.Sh
