import QueryFoundry.Native.Compiler
import QueryFoundry.Sandbox.Hosting

/-!
# Loading native libraries

Libraries of the in-memory machine are put into memory, set up and called. Their code asks the machine
for what it needs as a process does: the one that the workbench is for its children.
-/

namespace QueryFoundry.Native

open Text (Octets toOctets)
open Sandbox (Machine Process Reply Request Task)

/-- A library that is loaded. -/
structure LoadedLibrary where
  path : Path
  linked : LinkedLibrary
deriving Inhabited

/-- What is loaded on a workbench. -/
structure Modules where
  image : Image := {}
  libraries : List (Nat × LoadedLibrary) := []
  /-- The files that native code has opened, by their descriptors. -/
  descriptors : List (Nat × Nat) := []
  next : Nat := 1

/-- A workbench whose native libraries are kept in a part of what it keeps. -/
abbrev NativeBench := Workbench Modules

/-! ## The process of the workbench -/

/-- The descriptors that every process has. -/
def standardDescriptors : List Nat := [0, 1, 2]

/-- Let the workbench be a process of its machine, which only moves when native code asks for
something. -/
def enterMachine (bench : NativeBench) : Machine :=
  let (input, first) := bench.machine.addOpenFile (.generated bench.input)
  let (output, second) := first.addOpenFile (.stream bench.machine.outputStream)
  let (errors, third) := second.addOpenFile (.stream bench.machine.errorStream)
  let process : Process :=
    { id := Machine.hostProcess, parent := 1, group := Machine.hostProcess, name := "host"
      task := .exit 0, readyAt := third.clock, stopped := true, directory := bench.directory
      descriptors := [(0, input), (1, output), (2, errors)] ++ bench.modules.descriptors }
  let others := third.processes.filter (·.id != Machine.hostProcess)
  { third with processes := process :: others }

/-- Take the process of the workbench out of its machine, unless it has files open. -/
def leaveMachine (machine : Machine) (bench : NativeBench) : NativeBench :=
  match machine.process? Machine.hostProcess with
  | none => { bench with machine }
  | some process =>
      let opened := process.descriptors.filter fun entry =>
        !standardDescriptors.contains entry.1
      let kept := { process with descriptors := opened }
      let others := machine.processes.filter (·.id != Machine.hostProcess)
      let left := { machine with processes := if opened.isEmpty then others else kept :: others }
      { bench with
        machine := left.collectOpenFiles, directory := process.directory
        modules := { bench.modules with descriptors := opened } }

/-- Whether a request of the workbench has to wait. -/
def isWaiting (request : Request) (machine : Machine) : Bool :=
  match machine.process? Machine.hostProcess with
  | none => false
  | some process =>
      match machine.serve process machine.clock request with
      | .wait => true
      | .answer .. => false

/-- Serve a request of the workbench; the machine runs until it can be answered. -/
def serveHost (machine : Machine) (request : Request) : Reply × Machine :=
  match request with
  | .sleep nanoseconds => (.done, machine.runUntil (machine.clock + nanoseconds))
  | _ =>
      let ran := machine.runTo (isWaiting request)
      match ran.process? Machine.hostProcess with
      | none => (.failed (.os 3), ran)
      | some process =>
          match ran.serve process ran.clock request with
          | .answer reply after => (reply, after)
          | .wait => (.failed (.os 11), ran)

/-- Start a child of the workbench that shares its files. -/
def startChild (machine : Machine) (task : Task) : Nat × Machine :=
  let id := machine.nextProcess
  match machine.process? Machine.hostProcess with
  | none => (id, machine)
  | some process =>
      let child : Process := { process with
        id, parent := Machine.hostProcess, task, stopped := false
        readyAt := machine.clock + Machine.forkTime }
      (id, { machine with processes := machine.processes ++ [child], nextProcess := id + 1 })

/-- A bound on the number of steps of a call of native code. -/
def callLimit : Nat := 100000000

/-- Run native code to its next stop. -/
def runOnMachine : Nat → Processor → Machine → Stop × Processor × Machine
  | 0, processor, machine => (.fault, processor, machine)
  | fuel + 1, processor, machine =>
      match processor.step with
      | .running after => runOnMachine fuel after machine
      | .request request answer =>
          let (reply, served) := serveHost machine request
          runOnMachine fuel (answer reply) served
      | .fork child answer =>
          let (id, started) := startChild machine child
          runOnMachine fuel (answer id) started
      | .stopped reason after => (reason, after, machine)

/-- The directories that programs are looked for in, which native code may change. -/
def searchPathIn (before after : Sandbox.Environment) (known : List Path) : List Path :=
  match after.lookup "PATH" with
  | some path =>
      if before.lookup "PATH" == some path then known
      else (path.splitOn ":").map Text.ofOctets
  | none => known

/-- How a call of native code leaves the workbench: what ends it ends the program, and nothing that
was put off is then done, unless it ends by the function for that. -/
def leaveCall (bench : NativeBench) : Stop → Option UInt64 × NativeBench
  | .returned value => (some value, bench)
  | .exited code => (none, { bench with ended := some (.exited code) })
  | .left code => (none, { bench with ended := some (.exited code), modules := {} })
  | .aborted => (none, { bench with ended := some (.signaled 6), modules := {} })
  | .fault => (none, { bench with ended := some (.signaled 11), modules := {} })

/-- Call native code; there is no result where it ends the program, or where that has ended. -/
def callNative (function : UInt64) (arguments : List UInt64) :
    StateM NativeBench (Option UInt64) := fun bench =>
  if bench.ended.isSome then (none, bench) else
  let machine := enterMachine bench
  let ⟨image, libraries, descriptors, next⟩ := bench.modules
  let withImage (image : Image) : Modules := ⟨image, libraries, descriptors, next⟩
  let bench : NativeBench := { bench with modules := withImage {} }
  let ⟨⟨memory, state⟩, system, groups, finishers⟩ := image
  match Processor.start? ⟨memory, { state with environment := bench.environment }⟩ function
      arguments with
  | none => leaveCall { bench with modules := withImage image } .fault
  | some ready =>
      let (reason, ⟨memory, state⟩, ran) := runOnMachine callLimit ready machine
      let environment := state.environment
      let left := leaveMachine ran { bench with
        environment
        searchPath := searchPathIn bench.environment environment bench.searchPath
        modules := withImage ⟨⟨memory, state⟩, system, groups, finishers⟩ }
      leaveCall left reason

/-- Make calls one after the other. -/
def callAll : List UInt64 → StateM NativeBench Unit
  | [] => pure ()
  | first :: rest => do
      let _ ← callNative first []
      callAll rest

/-! ## Libraries -/

/-- The compiled sources of the library in a file, if the loader takes the file. A name without a
separator means a library of the system. -/
def unitsAt? (bench : NativeBench) (path : Path) : Option (Linkage × List CompiledUnit) := do
  let octets := toOctets path
  if !octets.toList.contains '/' then none
  else
    let content ← (bench.machine.tree.read bench.directory octets).toOption
    let binary ← Binary.read? Machine.libraryMark content
    return (binary.linkage, ← binary.compile.toOption)

/-- Put a library in that consists of some compiled sources, and let it be set up. -/
def addLibrary (path : Path) (linkage : Linkage) (units : List CompiledUnit) :
    StateM NativeBench (Except LoadError Library) := do
  let bench ← get
  match bench.modules.image.addLibrary linkage units with
  | .error _ => return .error .openFailed
  | .ok (image, linked, calls) =>
      let id := bench.modules.next
      set { bench with
        modules := { bench.modules with
          image, next := id + 1, libraries := (id, ⟨path, linked⟩) :: bench.modules.libraries } }
      callAll calls
      return .ok ⟨id⟩

/-- Load a library. One that stays loaded for ever is not loaded again. -/
def openLibrary (path : Path) : StateM NativeBench (Except LoadError Library) := do
  let bench ← get
  match bench.modules.libraries.find? fun entry => entry.2.path == path with
  | some (id, _) => return .ok ⟨id⟩
  | none =>
      match unitsAt? bench path with
      | none => return .error .openFailed
      | some (linkage, units) => addLibrary path linkage units

/-- Make the calls that were put off until a library is unloaded. -/
def callDeferred (handle : Option UInt64) : Nat → StateM NativeBench Unit
  | 0 => pure ()
  | fuel + 1 => do
      let bench ← get
      let processor := bench.modules.image.processor
      match if bench.ended.isSome then none else processor.state.takeExit? handle with
      | none => pure ()
      | some (call, state) => do
          set { bench with
            modules := { bench.modules with
              image := { bench.modules.image with processor := ⟨processor.memory, state⟩ } } }
          let _ ← callNative call.function [call.argument]
          callDeferred handle fuel

/-- Unload a library. -/
def closeLibrary (library : Library) : StateM NativeBench Unit := do
  let bench ← get
  match bench.modules.libraries.lookup library.id with
  | none => pure ()
  | some loaded =>
      if loaded.linked.isPermanent || bench.ended.isSome then pure ()
      else
        callAll loaded.linked.destructors
        callDeferred (some loaded.linked.handle) Executable.exitLimit
        modify fun bench => { bench with
          modules := { bench.modules with
            libraries := bench.modules.libraries.filter (·.1 != library.id) } }

/-- What happens when the process of the workbench ends. Native code may still end it otherwise. -/
def finish : StateM NativeBench Unit := do
  let ended := (← get).ended
  modify fun bench => { bench with ended := none }
  callDeferred none Executable.exitLimit
  for (_, loaded) in (← get).modules.libraries do
    callAll loaded.linked.destructors
  callAll (← get).modules.image.finishers
  modify fun bench => { bench with ended := bench.ended <|> ended }

/-! ## Modules -/

/-- A symbol name as the loader takes it: a NUL character may end it but not lie in it. -/
def symbolName? (symbol : String) : Option Octets :=
  let octets := (toOctets symbol).toList
  let name := if octets.getLast? == some '\x00' then octets.dropLast else octets
  if name.contains '\x00' then none else some (String.ofList name)

/-- Where the entries of a table of operations lie. -/
def entryOffset (index : Nat) : UInt64 := UInt64.ofNat (8 * index)

/-- Some bytes at an address, as a number. -/
def wordAt? (address : UInt64) (count : Nat) : StateM NativeBench (Option UInt64) := do
  return (← get).modules.image.processor.memory.load? address count

/-- Call the init function of a library. -/
def callInit (library : Library) (symbol : String) :
    StateM NativeBench (Except LoadError (Option ModuleTable)) := do
  match symbolName? symbol with
  | none => return .error .nulInSymbol
  | some name =>
      let loaded? := (← get).modules.libraries.lookup library.id
      match loaded?.bind fun loaded => loaded.linked.exports[name]? with
      | none => return .error .symbolMissing
      | some function =>
          match ← callNative function [] with
          | none => return .ok none
          | some table =>
              if table == 0 then return .ok none
              match ← wordAt? table 4 with
              | none => return .ok none
              | some version => return .ok (some ⟨library, table.toNat, version.toUInt32⟩)

/-- Call an entry of a table of operations. -/
def callEntry (table : ModuleTable) (index : Nat) (arguments : List UInt64) :
    StateM NativeBench (Option UInt64) := do
  match ← wordAt? (UInt64.ofNat table.address + entryOffset index) 8 with
  | none => return none
  | some function => callNative function arguments

/-- Call an operation of a module that returns a number. -/
def callNumber (index : Nat) (table : ModuleTable) (handle : QueryHandle) :
    StateM NativeBench Int64 := do
  return ((← callEntry table index [UInt64.ofNat handle.address]).getD 0).toInt64

/-- Run the query of a module. -/
def callRun (table : ModuleTable) : StateM NativeBench (Option QueryHandle) := do
  match ← callEntry table 1 [] with
  | none => return none
  | some handle => return if handle == 0 then none else some ⟨handle.toNat⟩

/-- Release the result of a query. -/
def callRelease (table : ModuleTable) (handle : QueryHandle) : StateM NativeBench Unit := do
  let _ ← callEntry table 4 [UInt64.ofNat handle.address]

/-- The loader of native libraries. -/
def loader : ModuleLoader NativeBench where
  openLibrary := openLibrary
  callInit := callInit
  callRun := callRun
  callRowCount := callNumber 2
  callFetch := callNumber 3
  callRelease := callRelease
  closeLibrary := closeLibrary
  finish := finish

/-- A workbench with compilers, where no library is loaded. -/
def freshBench (directory : Path) (searchPath : List Path) : NativeBench :=
  Workbench.fresh Compiler.all {} directory searchPath

end QueryFoundry.Native
