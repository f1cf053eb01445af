import QueryFoundry.Native.Library
import QueryFoundry.Native.Linking
import QueryFoundry.Native.Processor.Step
import QueryFoundry.Sandbox.Machine

/-!
# Compiled programs

An image is what is loaded into one process: libraries, and the parts of the system that they need.
The functions of the system are put in when something needs them, and stay.

Compiled programs are tasks of the machine: everything is set up, the main function is called, and
at the end all is called that was put off until then.
-/

namespace QueryFoundry.Native

open Text (Octets)

/-- What is loaded into a process. -/
structure Image where
  processor : Processor := {}
  /-- The symbols of the system that are there. -/
  system : SymbolTable := {}
  /-- The names of the groups of the system that are there. -/
  groups : List Octets := []
  /-- The functions of the system that are called at the end. -/
  finishers : List UInt64 := []
deriving Inhabited

/-- How the sources of a library or a program belong together. -/
structure Linkage where
  /-- Whether what compilers for C++ put into libraries is there. -/
  hasCppRuntime : Bool := false
  /-- Whether all functions must be found before anything is called. -/
  isEager : Bool := false
  /-- Whether they are a program of its own. -/
  isProgram : Bool := false
deriving DecidableEq, Inhabited

namespace Image

/-- Whether a source needs what compilers for C++ put into libraries besides it. -/
def needsCppRuntime (content : CompiledUnit) : Bool :=
  let isSpecial : Instruction → Bool
    | .throw | .rethrow | .guard .. | .defer _ => true
    | .service name _ => name == "dynamicCast"
    | .symbol name _ => Library.cppSymbols.contains name
    | _ => false
  content.functions.any (fun function => function.code.any isSpecial) ||
    content.data.any fun item => item.symbol.startsWith "_ZTI"

/-- Put the parts of the system in that some symbols belong to; what has to be called for them is
returned, too. -/
def addSystem (image : Image) (symbols : List Octets) :
    Except LinkError (Image × List UInt64) := do
  let (groups, units) := Library.neededGroups Library.searchLimit symbols image.groups []
  if units.isEmpty then return (image, [])
  let ⟨processor, system, _, finishers⟩ := image
  let (linked, library) ← Linking.link processor { known := fun name => system[name]? } units
  let all := library.exports.fold (fun (table : SymbolTable) name address =>
    table.insert name address) system
  return (⟨linked, all, groups, library.destructors ++ finishers⟩,
    library.preparers ++ library.constructors)

/-- The symbols of the system that come before those of a library with the same names. -/
def preferredSymbols (units : List CompiledUnit) : List Octets :=
  let shared := units.flatMap fun content =>
    content.functions.filterMap fun function =>
      if function.binding == .internal || function.isHidden then none else some function.symbol
  shared.filter fun name => Library.isPreferred name

/-- Put a library in that consists of some compiled sources. What has to be called before it can be
used is returned, too. -/
def addLibrary (image : Image) (linkage : Linkage) (units : List CompiledUnit) :
    Except LinkError (Image × LinkedLibrary × List UInt64) := do
  if !linkage.hasCppRuntime && units.any needsCppRuntime then throw (.missing "_ZTVN10__cxxabiv1")
  let preferred := if linkage.isProgram then [] else preferredSymbols units
  let missing := Linking.missingSymbols (Linking.frameUnit :: units)
  let (ready, first) ← image.addSystem (preferred ++ missing)
  let ⟨processor, system, groups, finishers⟩ := ready
  let (linked, library) ← Linking.link processor
    { preferred := fun name => if preferred.contains name then system[name]? else none
      known := fun name => system[name]?
      isLazy := !linkage.isEager } units
  return (⟨linked, system, groups, finishers⟩, library,
    first ++ library.preparers ++ library.constructors)

end Image

/-- Take what is called last out of what is called at the end; only that of one library, if one is
given. -/
def ProcessorState.takeExit? (state : ProcessorState) (handle : Option UInt64) :
    Option (ExitCall × ProcessorState) := do
  let fits (call : ExitCall) : Bool := handle.all (· == call.handle)
  let found ← state.atExit.find? fits
  let before := state.atExit.takeWhile fun call => !fits call
  return (found, { state with atExit := before ++ state.atExit.drop (before.length + 1) })

/-! ## Programs -/

open Sandbox (Task)

namespace Executable

/-- A bound on the number of steps of a call. -/
def stepLimit : Nat := 20000000

/-- A time after which nobody waits any more. -/
def longTime : Nat := 1000000000000000000

/-- Run to the next stop. A program that takes too many steps is taken to go on for ever. -/
def run (next : Stop → Processor → Task) : Nat → Processor → Task
  | 0, _ => .call (.sleep longTime) fun _ => .exit 124
  | fuel + 1, processor =>
      match processor.step with
      | .running after => run next fuel after
      | .request request answer => .call request fun reply => run next fuel (answer reply)
      | .fork child answer => .fork child fun id => run next fuel (answer id)
      | .stopped reason after => next reason after

/-- Make calls one after the other. -/
def callAll (ended : Stop → Processor → Task) (done : Processor → Task) :
    List (UInt64 × List UInt64) → Processor → Task
  | [], processor => done processor
  | (function, arguments) :: rest, processor =>
      match processor.start? function arguments with
      | none => ended .fault {}
      | some ready =>
          run (fun reason after =>
            match reason with
            | .returned _ => callAll ended done rest after
            | other => ended other after) stepLimit ready

/-- What becomes of a process that can do nothing more. -/
def giveUp : Stop → Task
  | .exited code | .left code => .exit code
  | .aborted => .raise 6 134
  | _ => .raise 11 139

/-- The most calls that are made at the end. -/
def exitLimit : Nat := 100000

/-- End a program: make the calls that were put off until then, and those of the program and the
system. -/
def finish (code : UInt8) (calls : List UInt64) : Nat → Processor → Task
  | 0, _ => .exit code
  | fuel + 1, ⟨memory, state⟩ =>
      match state.takeExit? none with
      | some (call, rest) =>
          callAll (fun reason _ => giveUp reason) (finish code calls fuel)
            [(call.function, [call.argument])] ⟨memory, rest⟩
      | none =>
          callAll (fun reason _ => giveUp reason) (fun _ => .exit code)
            (calls.map fun address => (address, [])) ⟨memory, state⟩

/-- Put texts into memory, and the list of their addresses behind them. -/
def putTexts (memory : Memory) (texts : List Octets) : Option (UInt64 × Memory) := do
  let (addresses, written) ← texts.foldlM (fun (addresses, memory) text => do
    let bytes := (Heap.bytesOf text).push 0
    let (address, extended) ← memory.extend? bytes.size 1
    return (address :: addresses, ← extended.write? address bytes)) ([], memory)
  let (list, extended) ← written.extend? (8 * (texts.length + 1)) 8
  return (list, ← Processor.writeArguments extended list.toNat addresses.reverse)

/-- What a program that consists of some compiled sources does. -/
def task (linkage : Linkage) (units : List CompiledUnit) (arguments : List Octets)
    (environment : Sandbox.Environment) : Task :=
  match ({} : Image).addLibrary linkage units with
  | .error _ => .exit 127
  | .ok (image, library, calls) =>
      let ⟨⟨memory, state⟩, _, _, finishers⟩ := image
      let variables_ := environment.map fun (name, value) => name ++ "=" ++ value
      let prepared : Option (UInt64 × UInt64 × Memory) := do
        let (list, first) ← putTexts memory arguments
        let (others, second) ← putTexts first variables_
        return (list, others, second)
      match prepared, library.exports["main"]? with
      | some (list, others, ready), some main =>
          let last (code : UInt8) : Processor → Task :=
            finish code (library.destructors ++ finishers) exitLimit
          let ended (reason : Stop) (processor : Processor) : Task :=
            match reason with
            | .exited code => last code processor
            | other => giveUp other
          let callMain (processor : Processor) : Task :=
            match processor.start? main [UInt64.ofNat arguments.length, list, others] with
            | none => giveUp .fault
            | some started =>
                run (fun reason after =>
                  match reason with
                  | .returned code => last code.toUInt8 after
                  | other => ended other after) stepLimit started
          callAll ended callMain (calls.map fun address => (address, []))
            ⟨ready, { state with environment }⟩
      | _, _ => .exit 127

end Executable

end QueryFoundry.Native
