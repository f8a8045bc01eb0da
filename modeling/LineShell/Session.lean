import LineShell.AliasTable
import LineShell.History
import LineShell.Limits
import LineShell.Variables

/-! What the shell remembers between two lines. -/
namespace LineShell

/-- The directories searched for programs until others are set. -/
def defaultSearchPaths : List String :=
  ["/bin", "/usr/bin", "/usr/local/bin"]

/-- The state of one shell session. -/
structure Session where
  /-- Directories searched for programs, in this order. -/
  searchPaths : List String := defaultSearchPaths
  limits : Limits := {}
  /-- The directory the shell works in. Its path is a text, so a directory with a path that is not
  UTF-8 is not represented. -/
  directory : String
  /-- No further line is read once this is set. -/
  exiting : Bool := false
  aliases : AliasTable := {}
  history : History := {}
  /-- The variables the shell was started with and hands to its programs. -/
  environment : Variables := {}
  deriving DecidableEq, Repr

/-- The value of a variable. The working directory is the session's own, whatever the
environment says. -/
def Session.valueOf? (session : Session) (name : String) : Option String :=
  if name == "PWD" then some session.directory else session.environment.get? name

end LineShell
