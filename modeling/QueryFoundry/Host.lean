import QueryFoundry.IoError
import QueryFoundry.Path
import QueryFoundry.PipelineError
import QueryFoundry.ToolOutcome

/-!
# Hosts

The machine that a pipeline works on, given by its operations on a state of any type: questions
about files, reading and writing, child processes, a clock, loaded libraries, and the places that
text goes to. Nothing is assumed about a host but that its clock does not turn back while a child is
watched.
-/

namespace QueryFoundry

/-- A program to start, with its arguments. -/
structure Command where
  program : Path
  arguments : List String
  /-- The working directory of the child, where it differs from that of the host. -/
  directory : Option Path := none
  /-- Whether what the child prints is thrown away. -/
  quiet : Bool := false
  /-- Whether the child leads a process group of its own. -/
  ownGroup : Bool := false
deriving DecidableEq, Repr

/-- A started process. -/
structure Child where
  id : Nat
deriving DecidableEq, Repr

/-- How important a message is. -/
inductive Severity where
  | warning
  | information
  | detail
deriving DecidableEq, Repr

/-- The part of the program that a message comes from. -/
inductive LogOrigin where
  | buildCommand
  | building
  | config
  | executing
  | formatting
  | generating
  | pipeline
  | supervision
deriving DecidableEq, Repr

/-- A message for the log. -/
structure LogEntry where
  severity : Severity
  origin : LogOrigin
  text : String
deriving DecidableEq, Repr

/-- A loaded library. -/
structure Library where
  id : Nat
deriving DecidableEq, Repr

/-- The table of operations that a module's init function returned. -/
structure ModuleTable where
  /-- The library that the table lies in. -/
  library : Library
  address : Nat
  abiVersion : UInt32
deriving DecidableEq, Repr

/-- The result of a query that was run, as long as it is not released. -/
structure QueryHandle where
  address : Nat
deriving DecidableEq, Repr

/-- The operations on loaded libraries and on the modules in them. -/
structure ModuleLoader (σ : Type) where
  openLibrary : Path → StateM σ (Except LoadError Library)
  /-- Look up an init function by its name and call it; it may return no table. -/
  callInit : Library → String → StateM σ (Except LoadError (Option ModuleTable))
  /-- Run the query; there is no handle when that fails. -/
  callRun : ModuleTable → StateM σ (Option QueryHandle)
  callRowCount : ModuleTable → QueryHandle → StateM σ Int64
  callFetch : ModuleTable → QueryHandle → StateM σ Int64
  callRelease : ModuleTable → QueryHandle → StateM σ Unit
  closeLibrary : Library → StateM σ Unit
  /-- Do what has been put off until the program ends. -/
  finish : StateM σ Unit

/-- A machine with a state of type `σ`, given by its operations. -/
structure Host (σ : Type) where
  /-- Whether the bytes of a path are UTF-8. Else its text only shows it. -/
  isUnicode : Path → Bool
  /-- The directory that the program works in; it means nothing where there is a fault. -/
  workingDirectory : σ → Path
  /-- Why the working directory cannot be determined, where it cannot. -/
  directoryFault? : σ → Option IoError
  homeDirectory : σ → Path
  /-- The directories that programs are looked for in. -/
  searchPath : σ → List Path
  /-- Where the program is when an error is made, if its variables ask that errors tell it. -/
  backtrace? : σ → Option String
  /-- How the program has ended, if it did before its time: what it loaded or a signal ended it, or it
  panicked because a text could not be printed. Nothing that it does then has an effect. -/
  ended? : σ → Option WaitStatus
  pathExists : σ → Path → Bool
  isFile : σ → Path → Bool
  isDirectory : σ → Path → Bool
  isExecutable : σ → Path → Bool
  /-- The time since some moment in the past, in nanoseconds. -/
  clock : σ → Nat
  readText : Path → StateM σ (Except IoError String)
  /-- Read all that is given to the program as its input. -/
  readInput : StateM σ (Except IoError String)
  /-- Create a directory and those above it that are missing. -/
  createDirectories : Path → StateM σ (Except IoError Unit)
  /-- Write a file, in place of what it held. -/
  writeText : Path → String → StateM σ (Except IoError Unit)
  /-- Do nothing for at least a number of nanoseconds. -/
  pause : Nat → StateM σ Unit
  spawn : Command → StateM σ (Except IoError Child)
  /-- The status of a child if it has ended; it is then no longer kept. -/
  poll : Child → StateM σ (Except IoError (Option WaitStatus))
  /-- Wait for the end of a child. -/
  wait : Child → StateM σ (Except IoError WaitStatus)
  /-- Kill the process group that a child leads, or say that there is none. -/
  killGroup : Child → StateM σ (Except IoError Unit)
  /-- Run a program to its end and collect what it prints. -/
  capture : Command → StateM σ (Except IoError (WaitStatus × String))
  log : LogEntry → StateM σ Unit
  /-- Print a text; the program ends where that cannot be done. -/
  print : String → StateM σ Unit
  loader : ModuleLoader σ
  clock_le_poll : ∀ child state, clock state ≤ clock (poll child state).2
  clock_add_le_pause : ∀ delay state, clock state + delay ≤ clock (pause delay state).2

namespace Host

variable {σ : Type} (host : Host σ)

/-- Write a warning to the log. -/
def warn (origin : LogOrigin) (text : String) : StateM σ Unit :=
  host.log ⟨.warning, origin, text⟩

/-- Write a piece of information to the log. -/
def inform (origin : LogOrigin) (text : String) : StateM σ Unit :=
  host.log ⟨.information, origin, text⟩

/-- Write a detail to the log. -/
def tellDetail (origin : LogOrigin) (text : String) : StateM σ Unit :=
  host.log ⟨.detail, origin, text⟩

/-- The time that has gone by since a moment of the clock. -/
def elapsedSince (start : Nat) (state : σ) : Duration :=
  Duration.ofNanoseconds (host.clock state - start)

end Host

end QueryFoundry
