import QueryFoundry.Native.Syntax
import Std.Data.HashMap

/-!
# Instructions

What sources are compiled to: functions whose instructions work on a stack of words, and data with a
place in memory. Places are named by symbols until everything is linked.
-/

namespace QueryFoundry.Native

open Text (Octets)

/-- How a number is kept in a word. -/
inductive NumberForm where
  | bool
  | integer (kind : IntegerKind)
  | float
  | double
deriving DecidableEq, Repr, Inhabited

/-- Pointers are numbers of this form. -/
abbrev NumberForm.address : NumberForm := .integer .unsignedLong

/-- The instructions. Operands come from a stack of words, and results are left there. -/
inductive Instruction where
  | push (value : UInt64)
  /-- Push the address that a symbol stands for, moved by a distance. -/
  | symbol (name : Octets) (distance : Int)
  /-- Push the address of a place of the present function. -/
  | frame (offset : Nat)
  /-- Push the address of an argument of the present function. -/
  | argument (index : Nat)
  | load (bytes : Nat) (isSigned : Bool)
  /-- Store a word at the address below it. -/
  | store (bytes : Nat)
  /-- Copy bytes from an address to the one below it. -/
  | copy (bytes : Nat)
  /-- Put zeros at an address. -/
  | clear (bytes : Nat)
  | duplicate
  | drop
  | swap
  /-- Push the second word once more. -/
  | over
  | unary (operator : UnaryOperator) (form : NumberForm)
  | binary (operator : BinaryOperator) (form : NumberForm)
  | convert (source target : NumberForm)
  /-- Take some bits out of a word. -/
  | takeBits (first count : Nat) (isSigned : Bool)
  /-- Put a word into some bits of the one below it. -/
  | putBits (first count : Nat)
  | label (number : Nat)
  /-- Leave the levels that a label does not lie in, on the way to it. -/
  | leaveFor (label : Nat)
  | jump (label : Nat)
  | jumpIfZero (label : Nat)
  /-- Call the function at the address that lies on its arguments, the first one on top of them. -/
  | call (arguments : Nat)
  /-- Return to the caller, with everything undone that was put off. -/
  | finish
  /-- Put a call off until its level is left: the function lies on its argument. -/
  | defer (level : Nat)
  /-- Leave a level: make the calls that were put off there or further inside, the last one first. -/
  | close (level : Nat)
  /-- Leave a level without these calls. -/
  | dismiss (level : Nat)
  /-- Catch what is thrown until the level is left, and go on at the label of the first handler that
  fits. The types of the handlers that do not catch everything are operands, that of the first one on
  top. -/
  | guard (level : Nat) (handlers : List (Bool × Nat))
  /-- Let nothing that is thrown get out of the level. -/
  | shield (level : Nat)
  /-- Throw the object at an address; its type and its destructor lie on it. -/
  | throw
  /-- Throw what was caught last once more. -/
  | rethrow
  /-- Ask for something that instructions cannot do. -/
  | service (name : Octets) (arguments : Nat)
  /-- Make room in the frame of the present function. -/
  | reserve
  | trap
deriving Repr, Inhabited

/-- A list of instructions. -/
abbrev Code := List Instruction

namespace Code

/-- The positions of the labels of some code, which take no room themselves. -/
def labelPositions (code : Code) : Std.HashMap Nat Nat :=
  (code.foldl (fun (found : Std.HashMap Nat Nat × Nat) instruction =>
    match instruction with
    | .label number => (found.1.insert number found.2, found.2)
    | _ => (found.1, found.2 + 1)) ({}, 0)).1

/-- Put positions in place of labels; the levels that labels lie in are given. -/
def assemble (code : Code) (levels : List (Nat × Nat)) : Array Instruction :=
  let positions := code.labelPositions
  let target (label : Nat) : Nat := (positions[label]?).getD 0
  let resolve (instruction : Instruction) : Option Instruction :=
    match instruction with
    | .label _ => none
    | .jump label => some (.jump (target label))
    | .jumpIfZero label => some (.jumpIfZero (target label))
    | .guard level handlers =>
        some (.guard level (handlers.map fun (isTyped, label) => (isTyped, target label)))
    | .leaveFor label => some (.close ((levels.lookup label).getD 0 + 1))
    | other => some other
  (code.filterMap resolve).toArray

end Code

/-- How a symbol of one source is seen by others. -/
inductive Binding where
  /-- Only in its source. -/
  | internal
  /-- Everywhere; there must not be another one. -/
  | global
  /-- Everywhere, unless there is another one. -/
  | weak
  /-- Everywhere, unless there is another one; a library that holds it is not unloaded. -/
  | unique
deriving DecidableEq, Repr, Inhabited

/-- A compiled function. -/
structure CompiledFunction where
  symbol : Octets
  binding : Binding := .global
  isHidden : Bool := false
  /-- The size of its places. -/
  frameSize : Nat
  code : Array Instruction
deriving Inhabited

/-- A piece of memory with its initial bytes and the symbols whose addresses it holds. -/
structure DataItem where
  symbol : Octets
  binding : Binding := .global
  isHidden : Bool := false
  size : Nat
  alignment : Nat := 1
  /-- The first bytes; the others are zero. -/
  bytes : List UInt8 := []
  /-- Words that hold the addresses of symbols, by their offset. -/
  addresses : List (Nat × Octets) := []
deriving Inhabited

/-- What a source is compiled to. -/
structure CompiledUnit where
  functions : List CompiledFunction := []
  data : List DataItem := []
  /-- Other names of symbols. -/
  aliases : List (Octets × Octets) := []
  /-- Symbols that may be nowhere. -/
  optional : List Octets := []
  /-- Functions that give data its initial bytes before anything else is done. -/
  preparers : List Octets := []
  /-- Functions that are called when the program is started, those of a smaller number first. -/
  constructors : List (Nat × Octets) := []
  /-- Functions that are called when the program ends, those of a greater number first. -/
  destructors : List (Nat × Octets) := []
deriving Inhabited

end QueryFoundry.Native
