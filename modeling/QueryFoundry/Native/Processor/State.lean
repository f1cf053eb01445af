import QueryFoundry.Native.Processor.Memory
import QueryFoundry.Native.Processor.Number
import QueryFoundry.Sandbox.Task
import Std.Data.HashMap

/-!
# The state of native code

What a program that runs consists of: memory, a stack of words, the functions that are being called,
and what has been put off until some level is left.

Pieces of memory are handed out and given back. The size of a piece stands in front of it; pieces
that were given back are handed out again when one of their size is asked for.
-/

namespace QueryFoundry.Native

open Text (Octets)

/-- A function that can be called. -/
structure LoadedFunction where
  name : Octets
  frameSize : Nat
  code : Array Instruction
deriving Inhabited

/-- An object that was thrown: its address and the addresses of its type and its destructor. -/
structure Thrown where
  object : UInt64
  type : UInt64
  destructor : UInt64
deriving DecidableEq, Repr, Inhabited

/-- Why a function is called. -/
inductive CallReason where
  /-- Its result is wanted. -/
  | value
  /-- A level is being left. -/
  | leaving
  /-- Something was thrown. -/
  | unwinding (thrown : Thrown)
deriving DecidableEq, Repr, Inhabited

/-- A function that is being called. -/
structure CallFrame where
  code : Array Instruction
  position : Nat := 0
  /-- The address of the arguments. -/
  arguments : Nat
  /-- The address of the places. -/
  base : Nat
  /-- The end of the places. -/
  limit : Nat
  reason : CallReason := .value
  /-- The number of calls around this one. -/
  depth : Nat := 0
deriving Inhabited

/-- What was put off until a level is left. -/
inductive Deferred where
  | call (function argument : UInt64)
  /-- Something that catches what is thrown, with the words below its operands. -/
  | handlers (entries : List (UInt64 × Nat)) (operands : List UInt64)
  /-- Something that lets nothing that is thrown pass. -/
  | shield
  /-- The end of the handling of what was caught. -/
  | caught (thrown : Thrown)
deriving Inhabited

/-- Something that was put off, with its level and the number of calls around the one that it
belongs to. -/
structure DeferredEntry where
  level : Nat
  depth : Nat
  action : Deferred
deriving Inhabited

/-- A call that is made when a library is unloaded. -/
structure ExitCall where
  /-- The address that tells the library from others. -/
  handle : UInt64
  function : UInt64
  argument : UInt64
deriving DecidableEq, Repr, Inhabited

/-- The state of a program without its memory. -/
structure ProcessorState where
  functions : Array LoadedFunction := #[]
  operands : List UInt64 := []
  frame : CallFrame := default
  callers : List CallFrame := []
  deferred : List DeferredEntry := []
  /-- What was caught and is being handled, the last one first. -/
  caught : List Thrown := []
  /-- The addresses of memory that was given back, by size. -/
  free : Std.HashMap Nat (List UInt64) := {}
  environment : Sandbox.Environment := []
  /-- What is called when a library is unloaded or the program ends, the last one first. -/
  atExit : List ExitCall := []
deriving Inhabited

/-- A program that runs. -/
structure Processor where
  memory : Memory := {}
  state : ProcessorState := {}
deriving Inhabited

/-- Why a program stops. -/
inductive Stop where
  /-- The function that was called first has returned. -/
  | returned (value : UInt64)
  /-- The program ends, once the calls are made that were put off until then. -/
  | exited (code : UInt8)
  /-- The program ends at once. -/
  | left (code : UInt8)
  | aborted
  /-- It did something that has no meaning. -/
  | fault
deriving DecidableEq, Repr, Inhabited

/-- What comes of a step. -/
inductive Outcome where
  | running (processor : Processor)
  | request (request : Sandbox.Request) (next : Sandbox.Reply → Processor)
  /-- Start a child. -/
  | fork (child : Sandbox.Task) (next : Nat → Processor)
  | stopped (reason : Stop) (processor : Processor)

namespace Processor

/-- The address of the first function. -/
def functionBase : Nat := 4194304

/-- The distance between the addresses of two functions. -/
def functionDistance : Nat := 16

/-- The address of a function. -/
def functionAddress (index : Nat) : UInt64 :=
  UInt64.ofNat (functionBase + functionDistance * index)

/-- The function at an address. -/
def functionAt? (state : ProcessorState) (address : UInt64) : Option LoadedFunction :=
  let place := address.toNat
  if place < functionBase || (place - functionBase) % functionDistance != 0 then none
  else state.functions[(place - functionBase) / functionDistance]?

/-- Write the arguments of a call. -/
def writeArguments (memory : Memory) (place : Nat) : List UInt64 → Option Memory
  | [] => some memory
  | value :: rest => do
      let written ← memory.store? (UInt64.ofNat place) value 8
      writeArguments written (place + 8) rest

/-- Enter a function. -/
def enter? (memory : Memory) (state : ProcessorState) (address : UInt64) (arguments : List UInt64)
    (reason : CallReason) : Option Processor := do
  let function ← functionAt? state address
  let start := Memory.alignUp state.frame.limit 16
  let base := Memory.alignUp (start + 8 * arguments.length) 16
  let limit := base + Memory.alignUp function.frameSize 16
  let reached ← memory.reach? (limit - Memory.stackBase + 64)
  let written ← writeArguments reached start arguments
  return ⟨written, { state with
    callers := state.frame :: state.callers
    frame :=
      { code := function.code, arguments := start, base, limit, reason
        depth := state.frame.depth + 1 } }⟩

/-- The frame below all calls. -/
def bottom : CallFrame :=
  { code := #[], arguments := Memory.stackBase, base := Memory.stackBase
    limit := Memory.stackBase, depth := 0 }

/-- Let a program that does nothing call a function. -/
def start? (processor : Processor) (address : UInt64) (arguments : List UInt64) :
    Option Processor :=
  match processor with
  | ⟨memory, state⟩ =>
      enter? memory { state with
        frame := bottom, callers := [], operands := [], deferred := [], caught := [] }
        address arguments .value

/-! ## Types of what is thrown -/

/-- What the first word of the description of a type says. -/
def recordDescription : UInt64 := 1

/-- What the first word of the description of a pointer type says. -/
def pointerDescription : UInt64 := 2

/-- Whether two descriptions are those of the same type. -/
def isSameType (memory : Memory) (left right : UInt64) : Bool :=
  left == right ||
    match memory.load? (left + 8) 8, memory.load? (right + 8) 8 with
    | some first, some second => memory.text? first == memory.text? second
    | _, _ => false

/-- How deeply types may be derived from each other. -/
def derivationDepth : Nat := 32

mutual

/-- The distance from an object of one type to the part of it that is of another type. -/
def distanceTo? (memory : Memory) (source target : UInt64) : Nat → Option UInt64
  | 0 => none
  | depth + 1 => do
      if isSameType memory source target then return 0
      if (← memory.load? source 8) != recordDescription then failure
      let count ← memory.load? (source + 16) 8
      distanceThrough? memory (source + 24) target count.toNat depth

/-- The distance through one of the parts that are listed at an address. -/
def distanceThrough? (memory : Memory) (list target : UInt64) : Nat → Nat → Option UInt64
  | _, 0 | 0, _ => none
  | count + 1, depth + 1 =>
      let first : Option UInt64 := do
        let base ← memory.load? list 8
        let offset ← memory.load? (list + 8) 8
        let inner ← distanceTo? memory base target depth
        return inner + offset
      match first with
      | some distance => some distance
      | none => distanceThrough? memory (list + 16) target count (depth + 1)

end

/-- The distance by which a handler of one type sees an object of the other type, if it catches
it. -/
def catches? (memory : Memory) (handler thrown : UInt64) : Option UInt64 :=
  match distanceTo? memory thrown handler derivationDepth with
  | some distance => some distance
  | none => do
      guard ((← memory.load? handler 8) == pointerDescription)
      guard ((← memory.load? thrown 8) == pointerDescription)
      let wanted ← memory.load? (handler + 16) 8
      let given ← memory.load? (thrown + 16) 8
      let wantedConst ← memory.load? (handler + 24) 8
      let givenConst ← memory.load? (thrown + 24) 8
      guard (wantedConst == 1 || givenConst == 0)
      let name ← memory.text? (← memory.load? (wanted + 8) 8)
      if name == "v" then return 0
      let _ ← distanceTo? memory given wanted derivationDepth
      return 0

/-- The first of some handlers that catches something, with the distance by which it sees it. -/
def chooseHandler? (memory : Memory) (type : UInt64) :
    List (UInt64 × Nat) → Option (Nat × UInt64)
  | [] => none
  | (handler, label) :: rest =>
      if handler == 0 then some (label, 0)
      else
        match catches? memory handler type with
        | some distance => some (label, distance)
        | none => chooseHandler? memory type rest

end Processor

/-! ## Memory that is asked for -/

namespace Heap

/-- The number of bytes in front of a piece. -/
def headSize : Nat := 16

/-- The size of the piece for some bytes. -/
def pieceSize (size : Nat) : Nat := Memory.alignUp (max size 1) 16

/-- Hand out a piece of memory. -/
def allocate? (size : Nat) (memory : Memory) (state : ProcessorState) :
    Option (UInt64 × Memory × ProcessorState) := do
  let piece := pieceSize size
  match (state.free[piece]?).getD [] with
  | address :: others =>
      return (address, memory, { state with free := state.free.insert piece others })
  | [] => do
      let (start, extended) ← memory.extend? (headSize + piece) 16
      let written ← extended.store? start (UInt64.ofNat piece) 8
      return (start + UInt64.ofNat headSize, written, state)

/-- The size of the piece at an address. -/
def sizeAt? (address : UInt64) (memory : Memory) : Option Nat :=
  (memory.load? (address - UInt64.ofNat headSize) 8).map UInt64.toNat

/-- Take a piece of memory back. -/
def release? (address : UInt64) (memory : Memory) (state : ProcessorState) :
    Option (Memory × ProcessorState) := do
  if address == 0 then return (memory, state)
  let piece ← sizeAt? address memory
  let known := (state.free[piece]?).getD []
  return (memory, { state with free := state.free.insert piece (address :: known) })

/-- Hand out a piece of memory of another size with the bytes of the one at an address. -/
def resize? (address : UInt64) (size : Nat) (memory : Memory) (state : ProcessorState) :
    Option (UInt64 × Memory × ProcessorState) := do
  if address == 0 then allocate? size memory state
  else
    let piece ← sizeAt? address memory
    if pieceSize size == piece then return (address, memory, state)
    let (fresh, first, state) ← allocate? size memory state
    let copied ← first.copy? fresh address (min piece size)
    let (released, state) ← release? address copied state
    return (fresh, released, state)

/-- The bytes of some characters. -/
def bytesOf (text : Octets) : ByteArray :=
  text.toList.foldl (fun bytes character => bytes.push (UInt8.ofNat character.toNat)) .empty

/-- The characters that some bytes are. -/
def charactersOf (bytes : ByteArray) : Octets :=
  String.ofList (bytes.toList.map fun byte => Char.ofNat byte.toNat)

/-- Hand out a piece of memory that holds a text with a zero behind it. -/
def allocateText? (text : Octets) (memory : Memory) (state : ProcessorState) :
    Option (UInt64 × Memory × ProcessorState) := do
  let bytes := (bytesOf text).push 0
  let (address, extended, changed) ← allocate? bytes.size memory state
  return (address, ← extended.write? address bytes, changed)

end Heap

end QueryFoundry.Native
