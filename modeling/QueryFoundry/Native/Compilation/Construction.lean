import QueryFoundry.Native.Compilation.Casts

/-!
# Making objects

How a place comes to hold an object: by a constructor, as a copy of bytes, or as zeros. An object is
made at the address on top of the stack.
-/

namespace QueryFoundry.Native.Compile

open Text (Octets)

/-- A place at a distance from another one. -/
def shifted (place : Code) (distance : Nat) : Code :=
  if distance == 0 then place
  else
    match place with
    | [.frame offset] => [.frame (offset + distance)]
    | [.symbol name start] => [.symbol name (start + distance)]
    | other => other ++ [Instruction.push (UInt64.ofNat distance), .binary .add .address]

/-- Keep the address on top of the stack in a place of its own: what does that, and what pushes the
address then. -/
def takeAddress : Compile (Code × Code) := do
  let slot ← reserveWord
  return ([.frame slot, .swap, .store 8], [.frame slot, .load 8 false])

/-- Make several objects in a row, from the address on top of the stack on: the number of objects,
their size, and what makes one. -/
def repeatMaking (count : Code) (size : Nat) (element : Code) : Compile Code := do
  let address ← reserveWord
  let left ← reserveWord
  let again ← newLabel
  let done ← newLabel
  let advance (slot : Nat) (operator : BinaryOperator) (distance : Nat) : Code :=
    [.frame slot, .frame slot, .load 8 false, .push (UInt64.ofNat distance),
      .binary operator .address, .store 8]
  return [Instruction.frame address, .swap, .store 8, .frame left] ++ count ++
    [Instruction.store 8, .label again, .frame left, .load 8 false, .jumpIfZero done,
      .frame address, .load 8 false] ++ element ++
    advance address .add size ++ advance left .subtract 1 ++ [Instruction.jump again, .label done]

/-- Whether a function is one that a structure has without being told. -/
def isStandard (entry : FunctionEntry) : Bool :=
  entry.isImplicit

/-- Call a constructor for the object whose address is on top of the stack. A structure that inherits
others virtually is told whether the object is a whole one, which holds the shared parts. -/
def constructBy (id : Nat) (operands : List Operand) (isWhole : Bool) : Compile Code := do
  let entry ← functionEntry id
  let owner := entry.owner.getD 0
  let found ← completeRecord owner
  checkAccess owner entry.access entry.name
  if entry.specifiers.body == .deleted then throw (.deleted entry.name)
  let (parameters, _) := parametersOf entry.type
  let standard ← if operands.length < parameters.length then
      standardArguments entry operands.length
    else pure []
  let arguments ← convertArguments parameters (operands ++ standard)
  if isStandard entry && arguments.length == 1 && found.isPlainToCopy then
    return arguments.flatten ++ [Instruction.copy (if isWhole then found.size else found.usedSize)]
  if isStandard entry && arguments.isEmpty && found.isPlainToMake then return [.drop]
  let flags : Code := if found.shared.isEmpty then [] else [.push (if isWhole then 1 else 0)]
  let address ← functionAddress id
  if arguments.isEmpty && flags.isEmpty then return address ++ [Instruction.call 1, .drop]
  let (take, place) ← takeAddress
  return take ++ argumentCode arguments ++ flags ++ place ++ address ++
    [Instruction.call (arguments.length + flags.length + 1), .drop]

/-- Make an object of a type without arguments at the address on top of the stack; unless a
constructor gives it another one, its value may be asked to be zero. -/
def makeDefaultWithin : Nat → ValueType → Bool → Compile Code
  | 0, _, _ => throw .tooDeep
  | depth + 1, target, isZero => do
      match target.plain with
      | .array element length =>
          let inner ← makeDefaultWithin depth element isZero
          let size ← sizeOf element
          match inner with
          | [.drop] => return [.drop]
          | [.clear _] => return [.clear (size * length.getD 0)]
          | _ => repeatMaking [.push (UInt64.ofNat (length.getD 0))] size inner
      | .record id =>
          let found ← completeRecord id
          if !found.isComplete then throw (.incomplete found.name)
          if !(← isCpp) then return if isZero then [.clear found.size] else [.drop]
          if found.isAbstract then throw (.invalid found.name)
          let chosen ← choose found.name found.constructors none none []
          let make ← constructBy chosen [] true
          if isZero && isStandard (← functionEntry chosen) then
            match make with
            | [.drop] => return [.clear found.size]
            | _ => return [Instruction.duplicate, .clear found.size] ++ make
          else return make
      | .reference _ | .movedReference _ => mismatch "reference"
      | _ => if isZero then return [.clear (← sizeOf target)] else return [.drop]

/-- Make an object of a type without arguments at the address on top of the stack. -/
def makeDefault (target : ValueType) (isZero : Bool) : Compile Code :=
  makeDefaultWithin typeDepth target isZero

/-- Make an object of a type from operands. Behind an equals sign, constructors that have to be named
are not taken. -/
def constructFrom (target : ValueType) (form : InitialForm) (operands : List Operand) :
    Compile Operand := do
  let made (code : Code) : Operand := { type := target.plain, code }
  match target.plain, operands with
  | .record _, [] | .array .., [] => return made (← makeDefault target (form != .assigned))
  | .record id, _ => do
      let found ← completeRecord id
      if !found.isComplete then throw (.incomplete found.name)
      if found.isAbstract then throw (.invalid found.name)
      if let [single] := operands then
        match single.subject with
        | .plain =>
            if single.type.plain == .record id then
              if single.category == .value then return single
              if !(← isCpp) then return made (single.code ++ [Instruction.copy found.size])
        | _ => pure ()
      if !(← isCpp) then mismatch "structure"
      let isAllowed (constructor : FunctionEntry) : Bool :=
        form != .assigned || !constructor.specifiers.isExplicit
      let chosen ← best found.name
        (← candidates found.constructors none none operands isAllowed)
      return made (← constructBy chosen.function operands true)
  | .array .., _ => mismatch "array"
  | _, [] => return { (← inForm (.ofInt 0 .int) target) with type := target.plain }
  | _, [single] => convert single target
  | _, _ => mismatch "arguments"

/-- Compile something as if it stood in a function of the object at a place. -/
def withSelf {α : Type} (type : ValueType) (place : Code) (action : Compile α) : Compile α := do
  let outer ← context
  changeContext fun context => { context with
    self := some type, selfPlace := place, closure := none }
  let result ← action
  changeContext fun context => { context with
    self := outer.self, selfPlace := outer.selfPlace, closure := outer.closure }
  return result

end QueryFoundry.Native.Compile
