import QueryFoundry.Sandbox.FileTree
import QueryFoundry.ToolOutcome

/-!
# Tasks

What a process of the in-memory machine does: a request to the kernel and, for each answer, what the
process does then. Programs are written as functions that take what comes after them.
-/

namespace QueryFoundry.Sandbox

open Text (Octets)

/-- The variables that a program is started with. -/
abbrev Environment := List (Octets × Octets)

/-- How a file is opened. -/
inductive OpenMode where
  | read
  /-- To be read and written, created where it is missing. -/
  | readWrite
  /-- To be written, as it is. -/
  | write
  /-- To be written, created; nothing may be there. -/
  | exclusive
  /-- To be written from its start, empty or created. -/
  | truncate
  /-- To be written at its end, created where it is missing. -/
  | append
  /-- To be read and written, as it is. -/
  | update
  /-- To be read and written from its start, empty or created. -/
  | renew
  /-- To be read, and to be written at its end, created where it is missing. -/
  | extend
deriving DecidableEq, Repr

namespace OpenMode

/-- Whether a file that is opened can be read. -/
def isReadable : OpenMode → Bool
  | read | readWrite | update | renew | extend => true
  | write | exclusive | truncate | append => false

/-- Whether a file is written at its end only. -/
def isAppending (mode : OpenMode) : Bool :=
  mode = append || mode = extend

end OpenMode

/-- Where a distance in a file is counted from. -/
inductive SeekOrigin where
  | start
  | here
  | finish
deriving DecidableEq, Repr

/-- What happens when a signal arrives. -/
inductive Disposition where
  | standard
  | ignored
  /-- The process asks for it later. -/
  | caught
deriving DecidableEq, Repr

/-- What a process asks of the kernel. -/
inductive Request where
  | now
  | sleep (nanoseconds : Nat)
  | read (descriptor limit : Nat)
  | write (descriptor : Nat) (data : Octets)
  | openFile (path : Octets) (mode : OpenMode)
  /-- Move the place at which a file is read and written, by a distance from its start, from that place
  or from its end. -/
  | seek (descriptor : Nat) (distance : Int) (origin : SeekOrigin)
  | close (descriptor : Nat)
  /-- Let the second descriptor stand for what the first one stands for. -/
  | duplicate (source target : Nat)
  | pipe
  | status (path : Octets)
  | list (path : Octets)
  | createDirectory (path : Octets)
  | removeFile (path : Octets)
  | removeDirectory (path : Octets)
  | rename (source target : Octets)
  | setExecutable (path : Octets) (executable : Bool)
  | setTime (path : Octets) (time : Nat)
  | workingDirectory
  | changeDirectory (path : Octets)
  /-- Ask for the number of the process and that of its parent. -/
  | processId
  /-- Learn of the end of a child, or of any child, or wait for it. -/
  | awaitChild (child : Option Nat) (blocks : Bool)
  | sendSignal (target : Int) (signal : Nat)
  | setDisposition (signal : Nat) (disposition : Disposition)
  /-- The caught signals that arrived since the last time. -/
  | takeSignals
  /-- Become another program. -/
  | execute (path : Octets) (arguments : List Octets) (environment : Environment)
deriving Repr

/-- What the kernel answers. -/
inductive Reply where
  | done
  | failed (error : IoError)
  | number (value : Nat)
  | numbers (first second : Nat)
  | octets (value : Octets)
  | names (values : List Octets)
  /-- What is at a path, its place and the time at which it was last changed. -/
  | entry (value : Entry) (location : Location) (time : Nat)
  | ended (child : Nat) (status : WaitStatus)
  | signals (values : List Nat)
deriving Repr

/-- What a process does. -/
inductive Task where
  | exit (code : UInt8)
  | call (request : Request) (next : Reply → Task)
  /-- Start a child that shares the files that are open. -/
  | fork (child : Task) (next : Nat → Task)

instance : Inhabited Task := ⟨.exit 0⟩

/-- A piece of a program: what it does, given what comes after it. -/
def Program (α : Type) : Type := (α → Task) → Task

/-- End by a signal that the process sends to itself; the code is that of a process that survives
it. -/
def Task.raise (signal : Nat) (code : UInt8) : Task :=
  .call .processId fun reply =>
    let process : Nat := match reply with
      | .numbers own _ => own
      | _ => 0
    .call (.sendSignal process signal) fun _ => .exit code

namespace Program

instance : Monad Program where
  pure value := fun next => next value
  bind program after := fun next => program fun value => after value next

/-- Ask the kernel. -/
def ask (request : Request) : Program Reply := fun next => .call request next

/-- Ask the kernel for something that either is done or fails. -/
def attempt (request : Request) : Program (Except IoError Unit) := do
  match ← ask request with
  | .failed error => return .error error
  | _ => return .ok ()

/-- End the process. -/
def exit {α : Type} (code : UInt8) : Program α := fun _ => .exit code

/-- Start a child. -/
def fork (child : Task) : Program Nat := fun next => .fork child next

/-- Write to a descriptor, or tell why that fails. -/
def tryWrite (descriptor : Nat) (data : Octets) : Program (Except IoError Unit) := do
  if data.isEmpty then return .ok ()
  else attempt (.write descriptor data)

/-- Write to a descriptor; what cannot be written is lost. -/
def write (descriptor : Nat) (data : Octets) : Program Unit := do
  let _ ← tryWrite descriptor data

/-- Print a text. -/
def print (data : Octets) : Program Unit := write 1 data

/-- Print an error message. -/
def complain (data : Octets) : Program Unit := write 2 data

/-- The most bytes that are read at once. -/
def chunk : Nat := 65536

/-- Read a descriptor to its end. -/
def readAll (descriptor : Nat) : Nat → List Octets → Program (Except IoError Octets)
  | 0, read => pure (.ok (String.join read.reverse))
  | fuel + 1, read => do
      match ← ask (.read descriptor chunk) with
      | .octets data =>
          if data.isEmpty then return .ok (String.join read.reverse)
          else readAll descriptor fuel (data :: read)
      | .failed error => return .error error
      | _ => return .ok (String.join read.reverse)

/-- The greatest number of pieces that are read from one descriptor. -/
def readLimit : Nat := 1000000

/-- Open a file and read it. -/
def readFile (path : Octets) : Program (Except IoError Octets) := do
  match ← ask (.openFile path .read) with
  | .number descriptor =>
      let content ← readAll descriptor readLimit []
      let _ ← ask (.close descriptor)
      return content
  | .failed error => return .error error
  | _ => return .ok ""

/-- Write a file, in place of what it held. -/
def writeFile (path content : Octets) : Program (Except IoError Unit) := do
  match ← ask (.openFile path .truncate) with
  | .number descriptor =>
      write descriptor content
      let _ ← ask (.close descriptor)
      return .ok ()
  | .failed error => return .error error
  | _ => return .ok ()

/-- What is at a path, its place and its time, if something is there. -/
def inspect? (path : Octets) : Program (Option (Entry × Location × Nat)) := do
  match ← ask (.status path) with
  | .entry entry location time => return some (entry, location, time)
  | _ => return none

/-- What is at a path, if something is there. -/
def status? (path : Octets) : Program (Option Entry) := do
  return (← inspect? path).map Prod.fst

/-- The working directory. -/
def workingDirectory : Program Octets := do
  match ← ask .workingDirectory with
  | .octets path => return path
  | _ => return "/"

/-- Run a program to its end. -/
def toTask (program : Program UInt8) : Task := program .exit

end Program

end QueryFoundry.Sandbox
