import QueryFoundry.CommandLine.Console
import QueryFoundry.Native.Loader

/-!
# The program

Arguments, input and a few variables go in; output, error messages and the exit code come out. The
program works on an in-memory machine of its own.
-/

namespace QueryFoundry.Main

open CommandLine

/-- The directory that the program works in. -/
def directory : Path := "/work"

/-- Read all lines that are left of a stream. -/
partial def readLines (stream : IO.FS.Stream) (before : String) : IO String := do
  let line ← stream.getLine
  if line.isEmpty then return before else readLines stream (before ++ line)

/-- The code that stands for the end by a signal. -/
def signalCode : Nat := 128

/-- Whether arguments ask for a source that is read from the input. -/
def readsInput (arguments : List String) : Bool :=
  match Demand.read none arguments with
  | .ok (.invoke invocation) =>
      match invocation.action with
      | .generate _ source _ | .run _ source _ => source == inputPath
      | _ => false
  | _ => false

end QueryFoundry.Main

open QueryFoundry in
/-- Run the program and pass on what it prints and the code that it ends with. -/
def main (arguments : List String) : IO UInt32 := do
  let input ← if Main.readsInput arguments then Main.readLines (← IO.getStdin) "" else pure ""
  let names := [CommandLine.Launch.configVariable, CommandLine.Launch.filterVariable] ++
    Workbench.backtraceVariables
  let bindings ← names.filterMapM fun name => do
    return (← IO.getEnv name).map (name, ·)
  let launch : CommandLine.Launch := { arguments, input := Text.toOctets input, bindings }
  let bench := Native.freshBench Main.directory Workbench.usualPlaces
  let (transcript, _) := launch.run Native.loader bench
  (← IO.getStdout).write (Text.octetBytes transcript.output)
  (← IO.getStderr).write (Text.octetBytes transcript.errors)
  return UInt32.ofNat (transcript.status.exitCode?.getD Main.signalCode)
