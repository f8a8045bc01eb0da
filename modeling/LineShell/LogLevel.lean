/-! The levels of diagnostics. A threshold lets through what is at least as urgent as it. -/
namespace LineShell

/-- How urgent a diagnostic is. -/
inductive LogLevel where
  | error
  | warn
  | info
  | debug
  | trace
  deriving DecidableEq, Repr

namespace LogLevel

/-- Position in the order from most to least urgent, from 1 on. -/
def rank : LogLevel → Nat
  | error => 1
  | warn => 2
  | info => 3
  | debug => 4
  | trace => 5

/-- The word that stands for the level in a log line. -/
def label : LogLevel → String
  | error => "ERROR"
  | warn => "WARN"
  | info => "INFO"
  | debug => "DEBUG"
  | trace => "TRACE"

end LogLevel

/-- The least urgent level that is written, or none for silence. -/
abbrev LogThreshold := Option LogLevel

namespace LogThreshold

/-- Whether a diagnostic of the level is written. -/
def admits (threshold : LogThreshold) (level : LogLevel) : Bool :=
  match threshold with
  | none => false
  | some least => level.rank ≤ least.rank

/-- The threshold of a given name, in letters of either case. -/
def ofName? (name : String) : Option LogThreshold :=
  match String.ofList (name.toList.map Char.toUpper) with
  | "OFF" => some none
  | "ERROR" => some (some .error)
  | "WARN" => some (some .warn)
  | "INFO" => some (some .info)
  | "DEBUG" => some (some .debug)
  | "TRACE" => some (some .trace)
  | _ => none

end LogThreshold

end LineShell
