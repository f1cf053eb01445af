import QueryFoundry.Native.Compilation.Storage

/-!
# Names and members as operands

What a name is worth where a value is needed: a variable, a member of the present object or of
another one, a constant, or functions that are still to be chosen from. A call chooses among them.
-/

namespace QueryFoundry.Native.Compile

open Text (Octets)

/-! ## Members of objects -/

/-- The offset of a structure inside a member without a name of another structure. -/
def hiddenOffset? : Nat → Nat → Nat → Compile (Option Nat)
  | 0, _, _ => return none
  | depth + 1, owner, target => do
      let found ← record owner
      found.fields.toList.findSomeM? fun field => do
        match field.name, field.type.recordId? with
        | "", some inner =>
            if inner == target then return some field.offset
            else return (← hiddenOffset? depth inner target).map (· + field.offset)
        | _, _ => return none

/-- A structure and all that it inherits from. -/
def lineage : Nat → Nat → Compile (List Nat)
  | 0, _ => return []
  | depth + 1, id => do
      let inherited ← (← record id).bases.mapM fun base => lineage depth base.record
      return id :: inherited.flatten

/-- Reach a structure that an object inherits from, or a member without a name. -/
def reach (code : Code) (derived target : Nat) : Compile Code := do
  if ← isDerived derived target then toBase code derived target
  else
    let holders ← lineage inheritanceDepth derived
    let found ← holders.findSomeM? fun holder => do
      return (← hiddenOffset? inheritanceDepth holder target).map (holder, ·)
    match found with
    | some (holder, offset) => return shifted (← toBase code derived holder) offset
    | none => mismatch "member"

/-- A member of an object that has a place. -/
def fieldOperand (object : Operand) (owner index : Nat) : Compile Operand := do
  let found ← record owner
  let some field := found.fields[index]? | throw (.noMember found.name)
  checkAccess owner field.access field.name
  let derived := object.type.recordId?.getD owner
  let code := shifted (← reach object.code derived owner) field.offset
  if field.type.isReference then return .ofPlace field.type code
  let type := if object.type.isConst && !field.isMutable then field.type.toConst else field.type
  return { type, category := if object.category == .place then .place else .moved
           code, bits := field.bits }

/-- The object that the present function works on. -/
def selfOperand : Compile Operand := do
  match (← context).self with
  | some type => return { type, category := .place, code := ← selfCode }
  | none => throw (.undeclared "this")

/-- The object that holds what the present function without a name has captured. -/
def closureOperand (id : Nat) : Compile Operand := do
  let here ← context
  let isConst ← match here.function with
    | some function =>
        match (← functionEntry function).type with
        | .function _ _ _ isConst => pure isConst
        | _ => pure false
    | none => pure false
  let type : ValueType := .record id
  return { type := if isConst then type.toConst else type, category := .place
           code := [.argument (if here.resultPlace.isEmpty then 0 else 1), .load 8 false] }

/-! ## Variables -/

/-- Whether a definition of a member stands outside of its structure. -/
def isOutside (name : Expr) : Bool :=
  !name.scopeOf.isAbsent

/-- Give a member of a template its initial value when it is used for the first time. -/
def demand (id : Nat) : Compile Unit := do
  let found ← variable_ id
  match found.pending with
  | some (.variable_ name _ _ written specifiers, scope) => do
      changeVariable id fun known => { known with pending := none }
      inScope scope do
        let isFixed := specifiers.isConstexpr
        let constant ← if found.type.isConst || isFixed then
            knownValue? found.type written isFixed
          else pure none
        changeVariable id fun known => { known with constant }
        let isInline := specifiers.isInline || (isFixed && 201703 ≤ (← get).version)
        if constant.isNone || isInline || isOutside name then
          defineStatic id written .unique false isFixed
  | _ => pure ()

/-- A variable as an operand. -/
def variableOperand (id : Nat) : Compile Operand := do
  demand id
  let found ← variable_ id
  let here := (← context).depth
  if found.constant.isNone && found.depth.any (· != here) then throw (.undeclared found.name)
  let operand := Operand.ofPlace found.type found.place
  return { operand with constant := found.constant }

/-! ## Names -/

/-- Whether an entity is a function or makes functions. -/
def isCallable (entity : Entity) : Compile Bool := do
  match entity with
  | .function _ => return true
  | .template id => return (← template id).kind == .function
  | _ => return false

/-- Whether an entity is a function that is called on an object. -/
def isMethod (entity : Entity) : Compile Bool := do
  match entity with
  | .function id =>
      let entry ← functionEntry id
      return entry.owner.isSome && !entry.isStatic
  | .template id => return (← template id).owner.isSome
  | _ => return false

/-- What a name stands for as an operand. -/
def entityOperand (name : Octets) (isQualified : Bool) (entities : List Entity)
    (given : Option (List TemplateArgument)) : Compile Operand := do
  let isValue : Entity → Bool
    | .variable_ _ | .field .. | .constant .. => true
    | _ => false
  match entities.find? isValue with
  | some (.variable_ id) => variableOperand id
  | some (.constant number type) => return .ofInt number type
  | some (.field owner index) => do
      match (← context).closure with
      | some (closure, _) =>
          if closure == owner then return ← fieldOperand (← closureOperand closure) owner index
      | none => pure ()
      match (← context).self with
      | some _ => fieldOperand (← selfOperand) owner index
      | none =>
          -- Only the type matters where there is no object.
          fieldOperand { type := .record owner, category := .place, code := [.push 0] } owner index
  | _ => do
      let functions ← entities.filterM isCallable
      if functions.isEmpty then
        if entities.isEmpty then throw (.undeclared name) else throw (.invalid name)
      match (← context).self with
      | some type =>
          if ← functions.anyM isMethod then
            return { type := .void
                     subject := .methods name functions given (← selfCode) type isQualified .place }
      | none => pure ()
      return { type := .void, subject := .functions name functions given }

/-- A name as an operand. -/
def nameOperand (written : Expr) : Compile Operand := do
  let (entities, given) ← resolve written
  entityOperand written.lastName (isOutside written) entities given

/-- The functions that convert an object to a type, by the type that is written. -/
def conversionNamed (id : Nat) (written : TypeExpr) : Compile (List Entity) := do
  let wanted ← type written
  (← conversionsOf inheritanceDepth id).filterM fun entity => do
    match entity with
    | .function function => return resultOf (← functionEntry function).type == wanted
    | _ => return false

/-- A member of an object by its name. -/
def memberOperand (object : Operand) (written : Expr) : Compile Operand := do
  match written with
  | .name scope kind text arguments =>
      match object.type.recordId? with
      | none =>
          if kind == .destructor then
            return { type := .void
                     subject := .methods "~" [] none object.code object.type true .place }
          else throw (.noMember text)
      | some id => do
          let found ← completeRecord id
          if !found.isComplete && !found.isBeingDefined then throw (.incomplete found.name)
          let place ← materialize object
          let methods (name : Octets) (functions : List Entity)
              (given : Option (List TemplateArgument)) : Operand :=
            { type := .void
              subject := .methods name functions given place.code object.type (!scope.isAbsent)
                place.category }
          if kind == .destructor then
            return methods "~" (found.destructor.toList.map Entity.function) none
          let (entities, given) ← match scope, kind with
            | .absent, .conversion =>
                match arguments with
                | [.type wanted] => do pure (← conversionNamed id wanted, none)
                | _ => throw (.noMember text)
            | .absent, .template => do withArguments text (← members id text) arguments
            | .absent, .operator => do pure (← members id ("operator " ++ text), none)
            | .absent, _ => do pure (← members id text, none)
            | _, _ => resolve written
          let before : Code := if isStable place.code then [] else place.code ++ [Instruction.drop]
          match entities with
          | [.field owner index] => fieldOperand place owner index
          | [.variable_ variableId] => do
              let operand ← variableOperand variableId
              return { operand with code := before ++ operand.code }
          | [.constant number type] => return .ofInt number type
          | [] => throw (.noMember text)
          | _ => do
              let functions ← entities.filterM isCallable
              if functions.isEmpty then throw (.noMember text)
              return methods text functions given
  | _ => throw (.invalid "member")

/-- What an arrow behind an operand leads to. -/
def arrowTarget : Nat → Operand → Compile Operand
  | 0, _ => throw .tooDeep
  | depth + 1, operand => do
      if operand.type.isRecord then
        match ← callMember? operand "operator ->" [] .first with
        | some made => arrowTarget depth made
        | none => mismatch "arrow"
      else
        let pointer ← value operand
        match pointer.type.plain with
        | .pointer target => return { type := target, category := .place, code := pointer.code }
        | _ => mismatch "arrow"

/-! ## Calls by name -/

/-- Call what an operand stands for. -/
def callOperand (callee : Operand) (operands : List Operand) : Compile Operand := do
  match callee.subject with
  | .functions name found given => do
      let id ← choose name found given none operands
      let entry ← functionEntry id
      if entry.owner.isSome && !entry.isStatic then throw (.mismatch name)
      callFunction id none false operands .last
  | .methods name found given code type isExact category => do
      if found.isEmpty then return { type := .void, code := code ++ [Instruction.drop] }
      let id ← choose name found given (some (type, category)) operands
      callFunction id (some (code, type)) isExact operands .first
  | .list _ => mismatch "call"
  | .plain => do
      if callee.type.isRecord then
        match ← callMember? callee "operator ()" operands .first with
        | some made => return made
        | none =>
            match ← attempt? (scalarOf callee .nullPointer) with
            | some pointer => callPointer pointer operands
            | none => throw (.noMatch "call")
      else callPointer callee operands

/-- Let a function be known that is called without having been declared. -/
def declareImplicitly (name : Octets) : Compile Entity := do
  let id := (← get).functions.size
  modify fun environment => { environment with
    functions := environment.functions.push
      { name, symbol := name, type := .function .int [] true false, scope := 0 } }
  declareIn 0 name (.function id)
  return .function id

/-- What is called by a name, with the functions that belong to the types of the arguments. -/
def calleeNamed (written : Expr) (operands : List Operand) : Compile Operand := do
  match written with
  | .name .absent kind text _ => do
      let isKnown := !(← lookup (if kind == .operator then "operator " ++ text else text)).isEmpty
      let (entities, given) ← if isKnown then resolve written else pure ([], none)
      if ← isCpp then
        let isMember ← entities.anyM fun entity => return !(← isFree entity)
        let others ← if isMember then pure [] else associatedFunctions text operands
        entityOperand text false (distinct (entities ++ others)) given
      else if isKnown then entityOperand text false entities given
      else entityOperand text false [← declareImplicitly text] none
  | _ => nameOperand written

end QueryFoundry.Native.Compile
