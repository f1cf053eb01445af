import QueryFoundry.Host
import QueryFoundry.Sandbox.System

/-!
# The in-memory machine as a host

The operations of a host, carried out on an in-memory machine. Texts are turned into bytes and back
at this border.
-/

namespace QueryFoundry

open Sandbox
open Text (Octets toOctets)

/-- An in-memory machine with the program that works on it: its input, its variables, what it has
logged and the libraries that it has loaded. -/
structure Workbench (μ : Type) where
  machine : Machine
  directory : Location
  searchPath : List Path
  environment : Environment
  input : Octets := ""
  messages : List LogEntry := []
  /-- How the program has ended, if a library that it had loaded ended it. -/
  ended : Option WaitStatus := none
  modules : μ

namespace Workbench

variable {μ : Type}

/-- The directories that programs are looked for in, unless others are given. -/
def usualPlaces : List Path := System.standardSearchPath

/-- The home directory where no variable names one. -/
def usualHome : Path := "/root"

/-- A workbench on a machine where nothing has happened yet, with some programs besides those of the
system, and a working directory that has been made for it. -/
def fresh (more : List (Octets × Utility)) (modules : μ) (directory : Path)
    (searchPath : List Path) : Workbench μ :=
  let machine := System.machine more
  let tree := (machine.tree.createDirectories [] (toOctets directory)).toOption.getD machine.tree
  { machine := { machine with tree }
    directory := ((toOctets directory).splitOn "/").filter (· != "")
    searchPath
    environment := [("PATH", toOctets (":".intercalate searchPath)), ("LC_ALL", "C"),
      ("NO_COLOR", "1"), ("HOME", toOctets usualHome)]
    modules }

/-- A text that the system cannot take because it holds a NUL character. -/
def holdsNul (text : String) : Bool :=
  text.toList.contains '\x00'

/-- Do something with a path, which must not hold a NUL character. -/
def withPath {α : Type} (path : Path) (action : Octets → Except IoError α) : Except IoError α :=
  if holdsNul path then .error .nulInPath else action (toOctets path)

/-- What is at a path. -/
def entry? (bench : Workbench μ) (path : Path) : Option Entry :=
  match withPath path (bench.machine.tree.find bench.directory) with
  | .ok (_, entry) => some entry
  | .error _ => none

/-- Put another file tree in the place of the present one, or report the error. -/
def changeTree (change : FileTree → Except IoError FileTree) :
    StateM (Workbench μ) (Except IoError Unit) := fun bench =>
  match change (bench.machine.tree.atTime bench.machine.clock) with
  | .ok tree => (.ok (), { bench with machine := { bench.machine with tree } })
  | .error error => (.error error, bench)

/-- Do something to the file tree that may change it also where it fails. -/
def alterTree (alter : FileTree → Except IoError Unit × FileTree) :
    StateM (Workbench μ) (Except IoError Unit) := fun bench =>
  let (answer, tree) := alter (bench.machine.tree.atTime bench.machine.clock)
  (answer, { bench with machine := { bench.machine with tree } })

/-- Make the directory at a path, which must not hold a NUL character, and those above it that are
missing. -/
def makeDirectories (base : Location) (path : Path) (tree : FileTree) :
    Except IoError Unit × FileTree :=
  if holdsNul path then (.error .nulInPath, tree) else tree.makeDirectories base (toOctets path)

/-- Read the bytes of a file as a text. -/
def decode (octets : Octets) : Except IoError String :=
  match Text.ofOctets? octets with
  | some text => .ok text
  | none => .error .invalidUtf8

/-- No argument is as long as this. -/
def argumentLimit : Nat := 131072

/-- Find out what a command does: its name and its task. A plain name is looked for in the
directories of the search path; permission that was refused there is remembered. -/
def loadCommand (bench : Workbench μ) (directory : Location) (program : Octets)
    (arguments : List Octets) : Except IoError (Octets × Task) :=
  let load (path : Octets) : Except IoError (Octets × Task) :=
    bench.machine.loadProgram directory Machine.interpreterDepth path (program :: arguments)
      bench.environment
  if (program :: arguments).any fun argument => argumentLimit ≤ argument.length then .error (.os 7)
  else if program.isEmpty then .error .notFound
  else if program.toList.contains '/' then load program
  else if longestName < program.length then .error .nameTooLong
  else
    let attempts := bench.searchPath.map fun place =>
      load (toOctets (Path.join place "") ++ program)
    let isPassedOver (attempt : Except IoError (Octets × Task)) : Bool :=
      match attempt with
      | .error error => error == .notFound || error == .notADirectory || error == .accessDenied
      | .ok _ => false
    match attempts.find? (!isPassedOver ·) with
    | some attempt => attempt
    | none =>
        if attempts.any fun
          | .error error => error == .accessDenied
          | .ok _ => false
        then .error .accessDenied else .error .notFound

/-- Start a command with the given open files for its output and its error messages. -/
def start (command : Command) (output errors : OpenFile) :
    StateM (Workbench μ) (Except IoError Child) := fun bench =>
  let texts := command.program :: command.directory.toList ++ command.arguments
  if texts.any holdsNul then (.error .nulInArgument, bench)
  else
    let found : Except IoError (Location × Entry) := match command.directory with
      | none => .ok (bench.directory, Entry.directory)
      | some directory => bench.machine.tree.find bench.directory (toOctets directory)
    match found with
    | .error error => (.error error, bench)
    | .ok (directory, entry) =>
        if !entry.isDirectory then (.error .notADirectory, bench)
        else
          match bench.loadCommand directory (toOctets command.program)
              (command.arguments.map toOctets) with
          | .error error => (.error error, bench)
          | .ok (name, task) =>
              let id := bench.machine.nextProcess
              let (input, first) := bench.machine.addOpenFile .null
              let (outputFile, second) := first.addOpenFile output
              let (errorFile, third) := second.addOpenFile errors
              let process : Process :=
                { id, name, task, directory
                  parent := Machine.hostProcess
                  group := if command.ownGroup then id else Machine.hostProcess
                  readyAt := third.clock + Machine.startTime
                  descriptors := [(0, input), (1, outputFile), (2, errorFile)] }
              (.ok ⟨id⟩, { bench with
                machine := { third with
                  processes := third.processes ++ [process], nextProcess := id + 1 } })

/-- Whether a child has not ended. -/
def isRunning (child : Child) (machine : Machine) : Bool :=
  (machine.process? child.id).any fun process => process.ended.isNone

/-- Take a child that has ended out of the machine. -/
def reap (child : Child) : StateM (Workbench μ) (Option WaitStatus) := fun bench =>
  match (bench.machine.process? child.id).bind Process.ended with
  | none => (none, bench)
  | some status =>
      (some status, { bench with
        machine := { bench.machine with
          processes := bench.machine.processes.filter (·.id != child.id) } })

theorem reap_clock (child : Child) (bench : Workbench μ) :
    (reap child bench).2.machine.clock = bench.machine.clock := by
  unfold reap
  split <;> rfl

/-- The status of a child if it has ended. -/
def poll (child : Child) : StateM (Workbench μ) (Except IoError (Option WaitStatus)) := fun bench =>
  let (status, after) := reap child bench
  (.ok status, after)

/-- Let the machine run until a child has ended. -/
def wait (child : Child) : StateM (Workbench μ) (Except IoError WaitStatus) := fun bench =>
  let ran := { bench with machine := bench.machine.runTo (isRunning child) }
  match reap child ran with
  | (some status, after) => (.ok status, after)
  | (none, after) => (.error (.os 10), after)

/-- Let the machine run for some time. -/
def pause (delay : Nat) : StateM (Workbench μ) Unit := fun bench =>
  ((), { bench with machine := bench.machine.runUntil (bench.machine.clock + delay) })

theorem pause_clock (delay : Nat) (bench : Workbench μ) :
    bench.machine.clock + delay ≤ (pause delay bench).2.machine.clock :=
  Nat.le_max_right ..

/-- Kill the processes of the group that a child leads. -/
def killGroup (child : Child) : StateM (Workbench μ) (Except IoError Unit) := fun bench =>
  let members := bench.machine.processes.filter (·.group == child.id)
  if members.isEmpty then (.error .noSuchProcess, bench)
  else (.ok (), { bench with machine := bench.machine.deliverAll members 9 bench.machine.clock })

/-- Run a command to its end and collect what it prints. -/
def capture (command : Command) :
    StateM (Workbench μ) (Except IoError (WaitStatus × String)) := fun bench =>
  let (stream, machine) := bench.machine.addStream
  match start command (.stream stream) .null { bench with machine } with
  | (.error error, after) => (.error error, after)
  | (.ok child, after) =>
      let ran := { after with
        machine := after.machine.runTo fun machine =>
          isRunning child machine || machine.isWritten stream }
      let text := Text.ofOctets (ran.machine.streamContent stream)
      match wait child ran with
      | (.error error, final) => (.error error, final)
      | (.ok status, final) => (.ok (status, text), final)

/-- Write a text to a stream, if the program has not ended. -/
def write (stream : Machine → Nat) (text : String) : StateM (Workbench μ) Unit :=
  modify fun bench =>
    if bench.ended.isSome then bench
    else { bench with
      machine := bench.machine.writeStream (stream bench.machine) (toOctets text) }

/-- Write a text to the output of the program. -/
def print : String → StateM (Workbench μ) Unit :=
  write Machine.outputStream

/-- Write a text to the error output of the program. -/
def printError : String → StateM (Workbench μ) Unit :=
  write Machine.errorStream

/-- Why the working directory cannot be determined: it is not there any more. -/
def directoryFault? (bench : Workbench μ) : Option IoError :=
  if (bench.machine.tree.lookup bench.directory).any Entry.isDirectory then none
  else some .notFound

/-- The variables that say whether errors tell where the program is, the first one that is set. -/
def backtraceVariables : List Octets := ["RUST_LIB_BACKTRACE", "RUST_BACKTRACE"]

/-- What errors tell of where the program is: nothing on this machine, where it has no code. -/
def backtrace? (bench : Workbench μ) : Option String :=
  match backtraceVariables.findSome? (List.lookup · bench.environment) with
  | none => none
  | some value => if value == "0" then none else some ""

/-- The home directory that the variables name. -/
def homeDirectory (bench : Workbench μ) : Path :=
  match bench.environment.lookup "HOME" with
  | some path => if path.isEmpty then usualHome else Text.ofOctets path
  | none => usualHome

/-- The host that an in-memory machine is. -/
def host (loader : ModuleLoader (Workbench μ)) : Host (Workbench μ) where
  -- The program is given its paths as texts here.
  isUnicode _ := true
  workingDirectory bench := Text.ofOctets (Machine.pathOf bench.directory)
  directoryFault? := directoryFault?
  homeDirectory := homeDirectory
  searchPath bench := bench.searchPath
  backtrace? := backtrace?
  ended? bench := bench.ended
  pathExists bench path := (bench.entry? path).isSome
  isFile bench path := (bench.entry? path).any Entry.isFile
  isDirectory bench path := (bench.entry? path).any Entry.isDirectory
  isExecutable bench path := (bench.entry? path).any fun
    | .file _ executable => executable
    | .directory => true
    | .device _ => false
  clock bench := bench.machine.clock
  readText path := do
    let bench ← get
    match bench.entry? path with
    | some (.device (.descriptor 0)) => return decode bench.input
    | _ => return (withPath path (bench.machine.tree.read bench.directory)).bind decode
  readInput := do return decode (← get).input
  createDirectories path := do
    let base := (← get).directory
    alterTree (makeDirectories base path)
  writeText path text := do
    let base := (← get).directory
    changeTree fun tree => withPath path fun octets => tree.write base octets (toOctets text)
  pause := pause
  spawn command := do
    let machine := (← get).machine
    start command (if command.quiet then .null else .stream machine.outputStream)
      (.stream machine.errorStream)
  poll := poll
  wait := wait
  killGroup := killGroup
  capture := capture
  log entry := modify fun bench => { bench with messages := bench.messages ++ [entry] }
  print := print
  loader := loader
  clock_le_poll child state := Nat.le_of_eq (reap_clock child state).symm
  clock_add_le_pause delay state := pause_clock delay state

end Workbench

end QueryFoundry
