import LineShell.Machine.Box
import LineShell.Program

/-! The command line. The shell is run on a machine of its own, which starts out with the tools,
the script that is to be run, and what arrives on standard input. -/
namespace LineShell

/-- The variables of the environment that the shell is started with. -/
def passedVariables : List String :=
  ["HOME", "LANG", "PATH", "PWD", "TERM", "USER"]

/-- Those of the passed variables that are set. -/
def environment : IO Variables := do
  let pairs ← passedVariables.filterMapM fun name => do
    return (← IO.getEnv name).map (name, ·)
  return .ofPairs pairs

/-- The script that the arguments name, if it can be read. -/
def scriptFile (arguments : List String) : IO (List (String × Machine.Placed)) := do
  match Options.read arguments with
  | .ok (false, { script := some path, .. }) =>
    try
      let bytes ← IO.FS.readBinFile path
      return [(path, .file bytes 0o644)]
    catch _ => return []
  | _ => return []

/-- Runs the shell and gives its exit status. -/
def runMain (arguments : List String) : IO UInt32 := do
  let environment ← environment
  let script ← scriptFile arguments
  let input ← (← IO.getStdin).readBinToEnd
  let box := Machine.Box.make ((environment.get? "PWD").getD "/") script input environment
  let (status, box) := box.perform (Program.run Machine.maxPieces arguments environment)
  (← IO.getStdout).write (box.take box.streams.output).1
  (← IO.getStderr).write (box.take box.streams.error).1
  return (status.getD 1).toUInt32

end LineShell

/-- The shell as a program of the system. -/
def main (arguments : List String) : IO UInt32 :=
  LineShell.runMain arguments
