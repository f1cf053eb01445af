import QueryFoundry.Native.Compilation.Closures

/-!
# Objects that are made and given up

Objects that live until they are deleted, and what is thrown. An array whose objects have to be
destroyed is preceded by their number.
-/

namespace QueryFoundry.Native.Compile

open Text (Octets)

/-- The functions that obtain or release memory for objects of a type. -/
def memoryFunctions (name : Octets) (type : ValueType) : Compile (List Entity) := do
  let own ← match type.recordId? with
    | some id => members id ("operator " ++ name)
    | none => pure []
  if own.isEmpty then lookupIn 0 ("operator " ++ name) else return own

/-- Obtain memory for objects of a type. -/
def obtain (type : ValueType) (isArray : Bool) (size : Operand) (placement : List Operand) :
    Compile Operand := do
  let name := if isArray then "new[]" else "new"
  let found ← memoryFunctions name type
  let chosen ← choose name found none none (size :: placement)
  callFunction chosen none false (size :: placement) .last

/-- Release the memory at an address. -/
def release (type : ValueType) (isArray : Bool) (address : Code) : Compile Code := do
  let name := if isArray then "delete[]" else "delete"
  let found ← memoryFunctions name type
  let pointer : Operand := { type := .pointer .void, code := address }
  let size : Operand := .ofInt (← if type.plain == .void then pure 1 else sizeOf type) .size
  let plain ← candidates found none none [pointer] fun _ => true
  let operands := if plain.isEmpty then [pointer, size] else [pointer]
  let chosen ← choose name found none none operands
  discarded (← callFunction chosen none false operands .last)

/-- Make an object in memory that is released if that fails. -/
def guardedMaking (type : ValueType) (address make : Code) (isGuarded : Bool) : Compile Code := do
  let found ← memoryFunctions "delete" type
  let isCalling := make.any fun
    | .call _ => true
    | _ => false
  match isGuarded && isCalling, found with
  | true, [.function id] => do
      let level := (← context).level + 1
      return address ++ (← functionAddress id) ++ [Instruction.defer level] ++ make ++
        [Instruction.dismiss level]
  | _, _ => return make

/-- Make new objects in a row. -/
def createArray (placement : List Operand) (element : ValueType) (length initial : Expr) :
    Compile Operand := do
  let count ← if length.isAbsent then do
      match ← listedLength element initial with
      | some count => pure (Operand.ofInt count .size)
      | none => mismatch "length"
    else do
      let written ← value (← expression length)
      if !(← isNumber written.type) || written.type.isReal then mismatch "length"
      inForm written .size
  let size ← sizeOf element
  let hasCount ← needsDestruction element
  let extra := if hasCount then 8 else 0
  let countSlot ← reserveWord
  let slot ← reserveWord
  let number : Code := [.frame countSlot, .load 8 false]
  let address : Code := [.frame slot, .load 8 false]
  let total : Operand :=
    { type := .size
      code := number ++ [Instruction.push (UInt64.ofNat size), .binary .multiply .address,
        .push extra, .binary .add .address] }
  let memory ← obtain element true total placement
  let keep : Code := if hasCount then
      address ++ number ++ [Instruction.store 8, .frame slot] ++ address ++
        [Instruction.push 8, .binary .add .address, .store 8]
    else []
  let repeated (element : Code) : Compile Code := do
    match element with
    | [.drop] => return []
    | _ => return address ++ (← repeatMaking number size element)
  let make ← match initial, count.constant with
    | .absent, _ => do repeated (← makeDefault element false)
    | .initial _ [], _ => do repeated (← makeDefault element true)
    | _, some (.integer known) =>
        setInitial (.array element (some known.toNat)) address initial
    | .initial _ items, _ => do
        let given := (← itemsOf items).length
        let first ← setInitial (.array element (some given)) address initial
        let left : Code := number ++
          [Instruction.push (UInt64.ofNat given), .binary .subtract .address]
        let rest ← repeatMaking left size (← makeDefault element true)
        pure (first ++ shifted address (size * given) ++ rest)
    | _, _ => mismatch "array"
  return { type := .pointer element
           code := [Instruction.frame countSlot] ++ count.code ++
             [Instruction.store 8, .frame slot] ++ memory.code ++
             [Instruction.store 8] ++ keep ++ make ++ address }

/-- Make a new object. -/
def createObject (place : List Expr) (written : TypeExpr) (initial : Expr) : Compile Operand := do
  let placement ← expandAll argumentOperand place
  match written with
  | .array element length => createArray placement (← type element) length initial
  | _ => do
      let named ← type written
      let found ← match isInferred named, initial with
        | true, .initial _ [single] => do pure (inferFrom named (← expression single).type.decayed)
        | _, _ => pure named
      match found.plain with
      | .array element (some length) =>
          createArray placement element (.integer length .size) initial
      | _ => do
          let slot ← reserveWord
          let address : Code := [.frame slot, .load 8 false]
          let memory ← obtain found false (.ofInt (← sizeOf found) .size) placement
          let before := (← context).hasDeferred
          changeContext fun context => { context with hasDeferred := false }
          let make ← setInitial found address initial
          let isUndisturbed := !(← context).hasDeferred
          changeContext fun context => { context with
            hasDeferred := before || context.hasDeferred }
          let guarded ← guardedMaking found address make (isUndisturbed && placement.isEmpty)
          return { type := .pointer found
                   code := [Instruction.frame slot] ++ memory.code ++ [Instruction.store 8] ++
                     guarded ++ address }

/-- Destroy the objects of an array whose number precedes them, the last one first. -/
def destroyRow (address destructor : Code) (size : Nat) : Compile Code := do
  let slot ← reserveWord
  let again ← newLabel
  let done ← newLabel
  let left : Code := [.frame slot, .load 8 false]
  return [Instruction.frame slot] ++ address ++
    [Instruction.push 8, .binary .subtract .address, .load 8 false, .store 8, .label again] ++
    left ++
    [Instruction.jumpIfZero done, .frame slot] ++ left ++
    [Instruction.push 1, .binary .subtract .address, .store 8] ++ address ++ left ++
    [Instruction.push (UInt64.ofNat size), .binary .multiply .address, .binary .add .address] ++
    destructor ++ [Instruction.call 1, .drop, .jump again, .label done]

/-- Destroy an object and release its memory. Its whole is released where a part of it is given. -/
def destroyOne (target : ValueType) (id destructor : Nat) (address : Code) : Compile Code := do
  let entry ← functionEntry destructor
  checkAccess id entry.access entry.name
  let position ← if entry.isVirtual then virtualPosition? id entry.name entry.type else pure none
  match position with
  | some position => do
      let whole ← reserveWord
      let find : Code := [Instruction.frame whole] ++ address ++ address ++
        [Instruction.load 8 false, .push 16, .binary .subtract .address, .load 8 false,
          .binary .add .address, .store 8]
      let (reach, callee) ← virtualCallee address position
      return find ++ reach ++ callee ++ [Instruction.call 1, .drop] ++
        (← release target false [.frame whole, .load 8 false])
  | none =>
      return address ++ (← functionAddress destructor) ++ [Instruction.call 1, .drop] ++
        (← release target false address)

/-- Give an object up. -/
def deleteObject (isArray : Bool) (operand : Operand) : Compile Operand := do
  let pointer ← scalarOf operand .nullPointer
  match pointer.type.plain with
  | .pointer target => do
      if target.isFunction then mismatch "delete"
      let slot ← reserveWord
      let done ← newLabel
      let address : Code := [.frame slot, .load 8 false]
      if let some id := target.recordId? then
        let _ ← attempt? (completeRecord id)
      let destructor? ← match elementType target with
        | .record id =>
            if (← record id).isComplete then pure ((← record id).destructor.map (id, ·))
            else pure none
        | _ => pure none
      let body ← match destructor?, isArray with
        | some (id, destructor), true => do
            let entry ← functionEntry destructor
            checkAccess id entry.access entry.name
            let destroy ← destroyRow address (← functionAddress destructor) (← sizeOf target)
            pure (destroy ++ (← release target true
              (address ++ [Instruction.push 8, .binary .subtract .address])))
        | some (id, destructor), false => destroyOne target id destructor address
        | none, _ => release target isArray address
      return { type := .void
               code := [Instruction.frame slot] ++ pointer.code ++ [Instruction.store 8] ++
                 address ++
                 [Instruction.jumpIfZero done] ++ body ++ [Instruction.label done] }
  | _ => mismatch "delete"

/-! ## What is thrown -/

/-- Throw a value, or what was caught last. -/
def throwOperand (written : Expr) : Compile Operand := do
  if written.isAbsent then return { type := .void, code := [.rethrow] }
  let operand ← match ← expression written with
    | operand => match operand.subject with
      | .functions .. => value operand
      | _ => pure operand
  let type := operand.type.decayed
  let size ← sizeOf type
  let slot ← reserveWord
  let address : Code := [.frame slot, .load 8 false]
  let make ← storeInto type address none operand
  let destructor := (← destroyer? type).getD [.push 0]
  return { type := .void
           code := [Instruction.frame slot, .push (UInt64.ofNat size), .service "allocate" 1,
             .store 8] ++
             make ++ address ++ [Instruction.symbol (← describe type) 0] ++ destructor ++
             [Instruction.throw] }

/-- What is known of the type of an operand when the program runs. -/
def typeInfo (written : Expr) : Compile Operand := do
  let (entities, _) ← resolve (.name (.plainName "std") .plain "type_info" [])
  let some (.type found) := entities.head? | throw (.undeclared "type_info")
  let fixed (type : ValueType) : Compile Operand := do
    return { type := found.toConst, category := .place
             code := [.symbol (← describe type.referred) 0] }
  match written with
  | .type written => fixed (← type written)
  | _ => do
      let operand ← expression written
      match operand.type.plain, operand.category with
      | .record id, .place =>
          if ← isPolymorphic id then
            return { type := found.toConst, category := .place
                     code := operand.code ++ [Instruction.load 8 false, .push 8,
                       .binary .subtract .address, .load 8 false] }
          else fixed operand.type
      | _, _ => fixed operand.type

end QueryFoundry.Native.Compile
