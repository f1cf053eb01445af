import QueryFoundry.Native.Compilation.Types
import QueryFoundry.Native.Processor.Number

/-!
# Values and their types

How a value is taken from its place, how numbers and pointers are turned into other types, and how
references come to refer to something.
-/

namespace QueryFoundry.Native

open Text (Octets)

namespace Constant

/-- The word that a constant is kept in. -/
def word : Constant → NumberForm → UInt64
  | integer value, form => NumberForm.convert (.integer .long) form (wordOf value)
  | real bits, form => NumberForm.convert .double form bits

/-- The constant in a word. -/
def ofWord (form : NumberForm) (word : UInt64) : Constant :=
  match form with
  | .bool => integer word.toNat
  | .integer kind => integer (kind.toInt word)
  | .float => real (NumberForm.convert .float .double word)
  | .double => real word

end Constant

namespace Operand

/-- A whole number of a type. -/
def ofInt (value : Int) (type : ValueType) : Operand :=
  { type, code := [.push (wordOf value)], constant := some (.integer value) }

/-- A truth value. -/
def ofBool (value : Bool) : Operand := ofInt (if value then 1 else 0) .bool

/-- Something with a place whose address some code pushes. -/
def ofPlace (type : ValueType) (code : Code) : Operand :=
  if type.isReference then
    { type := type.referred, category := .place, code := code ++ [Instruction.load 8 false] }
  else { type, category := .place, code }

/-- Nothing. -/
def nothing : Operand := { type := .void }

/-- Whether the operand is the number zero, which also stands for the pointer that points nowhere. -/
def isZero (operand : Operand) : Bool :=
  operand.constant == some (.integer 0) && operand.type.isIntegral && operand.category == .value

end Operand

namespace Compile

/-! ## Functions as values -/

/-- Ask for the body of a function to be compiled. -/
def request (id : Nat) : Compile Unit := do
  let entry ← functionEntry id
  if entry.specifiers.body == .deleted then throw (.deleted entry.name)
  if entry.progress == .declared then
    changeFunction id fun entry => { entry with progress := .requested }
    modify fun environment => { environment with requested := id :: environment.requested }

/-- The code that pushes the address of a function. -/
def functionAddress (id : Nat) : Compile Code := do
  request id
  return [.symbol (← functionEntry id).symbol 0]

/-- The only function among some entities. -/
def singleFunction (name : Octets) (found : List Entity)
    (arguments : Option (List TemplateArgument)) : Compile Nat := do
  match found, arguments with
  | [.function id], _ => return id
  | [.template id], some given =>
      match ← instantiate id given with
      | .function id => return id
      | _ => throw (.mismatch name)
  | _, _ => throw (.ambiguous name)

/-- The value of a function: its address. -/
def functionValue (id : Nat) : Compile Operand := do
  return { type := .pointer (← functionEntry id).type, code := ← functionAddress id }

/-! ## Values -/

/-- The operand with the code of its known value. -/
def settled (operand : Operand) : Compile Operand := do
  match operand.constant with
  | some value =>
      let form ← formOf operand.type
      return { operand with category := .value, code := [.push (value.word form)], bits := none }
  | none => return operand

/-- The value of an operand: what is at its place. Structures keep their place. -/
def value (operand : Operand) : Compile Operand := do
  match operand.subject with
  | .functions name found arguments => functionValue (← singleFunction name found arguments)
  | .methods name .. => throw (.mismatch name)
  | .list _ => throw (.mismatch "list")
  | .plain =>
      match operand.type with
      | .function .. =>
          if operand.category == .value then return operand
          else return { operand with type := operand.type.decayed, category := .value }
      | .array element _ =>
          return { operand with type := .pointer element, category := .value }
      | type =>
          if operand.category == .value then
            if type.isScalar then settled { operand with type := type.plain } else return operand
          else if type.isScalar then
            if operand.constant.isSome then return ← settled { operand with type := type.plain }
            let load ← loadOf type
            match operand.bits with
            | none =>
                return { type := type.plain, code := operand.code ++ [load] }
            | some (first, count) =>
                let taken ← isSigned type
                return { type := type.plain
                         code := operand.code ++
                           [Instruction.load (← wordSize type) false, .takeBits first count taken] }
          else return operand

/-- A number in another form. -/
def inForm (operand : Operand) (target : ValueType) : Compile Operand := do
  let source ← formOf operand.type
  let wanted ← formOf target
  match operand.constant with
  | some known =>
      let word := NumberForm.convert source wanted (known.word source)
      return { type := target.plain, code := [.push word]
               constant := if target.isPointer || target.plain == .nullPointer then none
                 else some (Constant.ofWord wanted word) }
  | none =>
      return { type := target.plain
               code := if source == wanted then operand.code
                 else operand.code ++ [Instruction.convert source wanted] }

/-- The type that calculations with a number are done in. -/
def promoted (type : ValueType) : Compile ValueType := do
  match ← underlying type with
  | .bool => return .int
  | .integer kind => return .integer kind.promoted
  | other => return other

/-- A number in the type that calculations with it are done in. Few bits always fit into `int`. -/
def promote (operand : Operand) : Compile Operand := do
  let found ← value operand
  let target ← match operand.bits with
    | some (_, count) => do
        let isSmall := count < 32 || (count == 32 && (← isSigned operand.type))
        if isSmall then pure ValueType.int else promoted found.type
    | none => promoted found.type
  inForm found target

/-- The type that two numbers have in common. -/
def commonType (left right : ValueType) : Compile ValueType := do
  let first ← promoted left
  let second ← promoted right
  match first, second with
  | .longDouble, _ | _, .longDouble => return .longDouble
  | .double, _ | _, .double => return .double
  | .float, _ | _, .float => return .float
  | .integer one, .integer other => return .integer (one.common other)
  | _, _ => throw (.mismatch "operands")

/-- Whether an enumeration turns into numbers by itself. -/
def isScopedEnumeration (type : ValueType) : Compile Bool := do
  match type.plain with
  | .enumeration id => return (← enumeration id).isScoped
  | _ => return false

/-- Whether values of a type can be calculated with. -/
def isNumber (type : ValueType) : Compile Bool := do
  if type.isArithmetic then return true
  else return type.isEnumeration && !(← isScopedEnumeration type)

/-! ## Pointers -/

/-- Whether a type promises at least what another one promises, apart from which they are the same
type. -/
def qualifies : ValueType → ValueType → Bool
  | .const source, .const target => qualifies source target
  | .const _, _ => false
  | source, .const target => qualifies source target
  | .pointer source, .pointer target => qualifies source target
  | .array source length, .array target other =>
      qualifies source target && (length == other || other.isNone)
  | source, target => source == target

/-- Add a distance to an address unless it points nowhere. -/
def shiftPointer (label : Nat) (change : Code) : Code :=
  [Instruction.duplicate, .jumpIfZero label] ++ change ++ [Instruction.label label]

/-- The code that turns a pointer to one type into a pointer to another one, if that is allowed
without being written. In C all pointers turn into each other. -/
def pointerChange? (source target : ValueType) : Compile (Option Code) := do
  if qualifies source target || !(← isCpp) then return some []
  if source.isConst && !target.isConst then return none
  match source.plain, target.plain with
  | .function .., .void => return none
  | _, .void => return some []
  | .record derived, .record base =>
      if derived != base && (← isDerived derived base) then
        let change ← toBase [] derived base
        if change.isEmpty then return some []
        else return some (shiftPointer (← newLabel) change)
      else return none
  | .function result parameters isVariadic isConst,
    .function result' parameters' isVariadic' isConst' =>
      return if result == result' && parameters == parameters' && isVariadic == isVariadic' &&
        isConst == isConst' then some [] else none
  | _, _ => return none

/-! ## Destruction -/

/-- The destructor of a structure that has something to do. -/
def destructorOf? (id : Nat) : Compile (Option Nat) := do
  return (← completeRecord id).destructor

/-- The structures that a type consists of. -/
def elementType : ValueType → ValueType
  | .array element _ => elementType element
  | .const inner => elementType inner
  | type => type

/-- Whether objects of a type have to be destroyed. -/
def needsDestruction (type : ValueType) : Compile Bool := do
  match elementType type with
  | .record id => return (← destructorOf? id).isSome
  | _ => return false

/-- The number of structures in a value of a type. -/
def elementCount : ValueType → Nat
  | .array element length => length.getD 0 * elementCount element
  | .const inner => elementCount inner
  | _ => 1

/-- Add a compiled function. -/
def emitFunction (function : CompiledFunction) : Compile Unit :=
  changeOutput fun output => { output with functions := function :: output.functions }

/-- The function that destroys the objects of an array, the last one first. -/
def arrayDestructor (type : ValueType) (destructor : Code) (size : Nat) : Compile Code := do
  let symbol := "destroy array " ++ toString (← fresh)
  let again ← newLabel
  let done ← newLabel
  let left : Code := [.frame 0, .load 8 false]
  let code : Code :=
    [Instruction.frame 0, .push (UInt64.ofNat (elementCount type)), .store 8, .label again] ++
      left ++
      [Instruction.jumpIfZero done, .frame 0] ++ left ++
      [Instruction.push 1, .binary .subtract .address, .store 8, .argument 0, .load 8 false] ++
      left ++
      [Instruction.push (UInt64.ofNat size), .binary .multiply .address, .binary .add .address] ++
      destructor ++ [Instruction.call 1, .drop, .jump again, .label done, .push 0, .finish]
  emitFunction { symbol, binding := .internal, frameSize := 8, code := code.assemble [] }
  return [.symbol symbol 0]

/-- The code that pushes the address of the function that destroys an object of a type, if there is
something to do. -/
def destroyer? (type : ValueType) : Compile (Option Code) := do
  match elementType type with
  | .record id =>
      match ← destructorOf? id with
      | none => return none
      | some destructor =>
          let entry ← functionEntry destructor
          checkAccess id entry.access entry.name
          let address ← functionAddress destructor
          match type.plain with
          | .array .. => return some (← arrayDestructor type address (← sizeOf (.record id)))
          | _ => return some address
  | _ => return none

/-- Put off the destruction of an object until the present level is left. -/
def deferDestruction (type : ValueType) (place : Code) : Compile Code := do
  match ← destroyer? type with
  | none => return []
  | some destroyer =>
      changeContext fun context => { context with hasDeferred := true }
      return place ++ destroyer ++ [Instruction.defer (← context).level]

/-! ## Temporary objects -/

/-- Give an operand without a place a new one. -/
def materialize (operand : Operand) : Compile Operand := do
  if operand.category != .value then return operand
  let (size, alignment) ← storageOf operand.type
  let place : Code := [.frame (← reserve size alignment)]
  if operand.type.isScalar then
    return { type := operand.type, category := .moved
             code := place ++ operand.code ++ [← storeOf operand.type] ++ place }
  else
    let destruction ← deferDestruction operand.type place
    return { type := operand.type, category := .moved
             code := place ++ operand.code ++ destruction ++ place }

/-- Whether a reference to a type can refer to something of another type as it is. -/
def isCompatible (target source : ValueType) : Compile Bool := do
  match source.plain, target.plain with
  | .record derived, .record base => isDerived derived base
  | .array element length, .array element' length' =>
      return element.plain == element'.plain && (length == length' || length'.isNone)
  | first, second => return first == second || qualifies first second

/-- The code that pushes the address of the part of an operand that a reference refers to. -/
def partAddress (operand : Operand) (target : ValueType) : Compile Code := do
  match operand.type.plain, target.plain with
  | .record derived, .record base => toBase operand.code derived base
  | _, _ => return operand.code

end Compile

end QueryFoundry.Native
