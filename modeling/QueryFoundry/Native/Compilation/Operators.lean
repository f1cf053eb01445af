import QueryFoundry.Native.Compilation.Initial

/-!
# Operators

Calculations with numbers and pointers, comparisons and assignments. Operators on structures are
functions, which are looked for among the members of the left operand and beside the types of all
operands.
-/

namespace QueryFoundry.Native.Compile

open Text (Octets)

/-! ## Operators that are functions -/

/-- The type that an argument of a template is. -/
def typeArgument? : TemplateArgument → Option ValueType
  | .type type => some type
  | _ => none

/-- The namespaces that functions for values of a type are looked for in. -/
def associatedScopes : Nat → ValueType → Compile (List Nat)
  | 0, _ => return []
  | depth + 1, type => do
      match type with
      | .const inner | .pointer inner | .reference inner | .movedReference inner
      | .array inner _ => associatedScopes depth inner
      | .enumeration id => return [← enclosingNamespace (← enumeration id).scope]
      | .member id inner =>
          return (← associatedScopes depth (.record id)) ++ (← associatedScopes depth inner)
      | .function result parameters _ _ => do
          let found ← (result :: parameters).mapM (associatedScopes depth)
          return found.flatten
      | .record id => do
          let found ← record id
          let own ← enclosingNamespace found.scope
          let inherited ← found.bases.mapM fun base => associatedScopes depth (.record base.record)
          let types := match found.origin with
            | some (_, arguments) => (flattened arguments).filterMap typeArgument?
            | none => []
          let given ← types.mapM (associatedScopes depth)
          return own :: inherited.flatten ++ given.flatten
      | _ => return []

/-- The functions of a name that belong to the types of some operands. -/
def associatedFunctions (name : Octets) (operands : List Operand) : Compile (List Entity) := do
  let scopes ← operands.mapM fun operand => do
    match operand.subject with
    | .plain => associatedScopes 8 operand.type
    | .functions _ [.function id] _ => associatedScopes 8 (← functionEntry id).type
    | _ => return []
  let found ← scopes.flatten.eraseDups.mapM fun scope => lookupIn scope name
  return distinct (found.flatten.filter fun
    | .function _ | .template _ => true
    | _ => false)

/-- Whether a function is no member of a structure. -/
def isFree (entity : Entity) : Compile Bool := do
  match entity with
  | .function id => return (← functionEntry id).owner.isNone
  | .template id => return (← template id).owner.isNone
  | _ => return false

/-- Apply an operator to operands by the function that fits best, if there is one. -/
def overloaded? (symbol : Octets) (operands : List Operand) (order : ObjectOrder) :
    Compile (Option Operand) := do
  let isSpecial (operand : Operand) : Bool := operand.type.isRecord || operand.type.isEnumeration
  if !(← isCpp) || !operands.any isSpecial then return none
  let name := "operator " ++ symbol
  let own ← match operands with
    | object :: rest =>
        match object.subject, object.type.plain with
        | .plain, .record id => do
            let _ ← attempt? (completeRecord id)
            let found ← members id name
            if found.isEmpty then pure []
            else candidates found none (some (object.type, object.category)) rest fun _ => true
        | _, _ => pure []
    | [] => pure []
  let around ← lookupFrom name scopeDepth (← enclosingNamespace (← get).scope)
  let beside ← associatedFunctions name operands
  let free ← (distinct (around ++ beside)).filterM isFree
  let others ← if free.isEmpty then pure [] else candidates free none none operands fun _ => true
  let all := own ++ others.map fun candidate =>
    { candidate with ranks := candidate.ranks.drop 1 }
  if all.isEmpty then return none
  let chosen := (← best name all).function
  let entry ← functionEntry chosen
  match operands with
  | object :: rest =>
      if entry.owner.isSome && !entry.isStatic then
        let place ← materialize object
        return some (← callFunction chosen (some (place.code, object.type)) false rest order)
      else return some (← callFunction chosen none false operands order)
  | [] => return none

/-- The order in which the operands of an operator that is a function are evaluated. -/
def orderOf (operator : BinaryOperator) : ObjectOrder :=
  match operator with
  | .shiftLeft | .shiftRight | .comma => .first
  | _ => .last

/-! ## Values to calculate with -/

/-- Turn an object into a number or a pointer by its conversion function; the type of the other
operand may tell which one. -/
def scalarOf (operand : Operand) (other : ValueType) : Compile Operand := do
  match operand.type.plain with
  | .record id => do
      let found ← conversionsOf inheritanceDepth id
      let suitable ← found.filterMapM fun entity => do
        match entity with
        | .function function => do
            let entry ← functionEntry function
            let result := (resultOf entry.type).referred
            if !entry.specifiers.isExplicit && !result.isRecord then return some function
            else return none
        | _ => return none
      match suitable with
      | [] => mismatch "operand"
      | [single] => do
          let place ← materialize operand
          value (← callFunction single (some (place.code, operand.type)) false [] .last)
      | _ => do
          match ← convertByFunction? operand other.plain false with
          | some made => value made
          | none => mismatch "operand"
  | _ => value operand

/-- The type that truth values of the language have. -/
def truthType : Compile ValueType := do
  if ← isCpp then return .bool else return .int

/-- Leave an operand without its value. -/
def discarded (operand : Operand) : Compile Code := do
  match operand.subject with
  | .plain =>
      if operand.type.plain == .void then return operand.code
      else if operand.constant.isSome && operand.category == .value then return []
      else if operand.type.isRecord && operand.category == .value then
        return (← materialize operand).code ++ [Instruction.drop]
      else return operand.code ++ [Instruction.drop]
  | .methods _ _ _ object _ _ _ => return object ++ [Instruction.drop]
  | _ => return []

/-- The value of a constant that an operator makes of constants. -/
def folded? (operator : BinaryOperator) (form result : NumberForm) (left right : Operand) :
    Option Constant := do
  let first ← left.constant
  let second ← right.constant
  let word ← NumberForm.binary operator form (first.word form) (second.word form)
  return Constant.ofWord result word

/-- Apply an operator to two values of a form; the result has a type. -/
def applyBinary (operator : BinaryOperator) (form : NumberForm) (type : ValueType)
    (left right : Operand) : Compile Operand := do
  let result ← formOf type
  let made : Operand :=
    { type, code := left.code ++ right.code ++ [Instruction.binary operator form] }
  match folded? operator form result left right with
  | some constant => settled { made with constant := some constant }
  | none => return made

/-! ## Arithmetic -/

/-- The distance of some elements of a type, in bytes. -/
def scaled (position : Operand) (target : ValueType) : Compile Operand := do
  if target.isFunction then mismatch "pointer"
  let size ← sizeOf target
  let count ← inForm (← promote position) .distance
  if size == 1 then return count
  applyBinary .multiply (.integer .long) .distance count (.ofInt size .distance)

/-- Move a pointer by some elements. -/
def movePointer (operator : BinaryOperator) (pointer position : Operand) : Compile Operand := do
  match pointer.type.plain with
  | .pointer target => do
      if !(← isNumber position.type) || position.type.isReal then mismatch "pointer"
      let distance ← scaled position target
      if distance.constant == some (.integer 0) then return { pointer with type := pointer.type.plain }
      return { type := pointer.type.plain
               code := pointer.code ++ distance.code ++ [Instruction.binary operator .address] }
  | _ => mismatch "pointer"

/-- The number of elements between two pointers. -/
def pointerDistance (left right : Operand) (target : ValueType) : Compile Operand := do
  let size ← sizeOf target
  let bytes : Code := left.code ++ right.code ++ [Instruction.binary .subtract (.integer .long)]
  return { type := .distance
           code := if size ≤ 1 then bytes
             else bytes ++
               [Instruction.push (UInt64.ofNat size), .binary .divide (.integer .long)] }

/-- Compare two pointers, or a pointer and nothing. -/
def comparePointers (operator : BinaryOperator) (left right : Operand) : Compile Operand := do
  let source := left.type.plain
  let target := right.type.plain
  let (first, second) ← if source == target then pure (left, right)
    else
      match ← attempt? (convert right source) with
      | some made => pure (left, made)
      | none =>
          match ← attempt? (convert left target) with
          | some made => pure (made, right)
          | none =>
              match source, target with
              | .pointer given, .pointer taken =>
                  if qualifies given.plain taken.plain || qualifies taken.plain given.plain ||
                      !(← isCpp) then
                    pure (left, right)
                  else mismatch "pointers"
              | _, _ => mismatch "pointers"
  let type ← truthType
  return { type, code := first.code ++ second.code ++ [Instruction.binary operator .address] }

/-- Apply an operator to two numbers. -/
def calculate (operator : BinaryOperator) (left right : Operand) : Compile Operand := do
  if !(← isNumber left.type) || !(← isNumber right.type) then mismatch "operands"
  match operator with
  | .shiftLeft | .shiftRight => do
      let first ← promote left
      let second ← promote right
      if first.type.isReal || second.type.isReal then mismatch "operands"
      let form ← formOf first.type
      let amount ← inForm second (.integer .unsignedLong)
      applyBinary operator form first.type first amount
  | _ => do
      let first ← promote left
      let second ← promote right
      let type ← commonType first.type second.type
      let isWhole := [BinaryOperator.remainder, .bitAnd, .bitXor, .bitOr].contains operator
      if isWhole && type.isReal then mismatch "operands"
      let result ← if operator.isComparison then truthType else pure type
      applyBinary operator (← formOf type) result (← inForm first type) (← inForm second type)

/-- Apply an operator that is part of the language to two operands. -/
def builtinBinary (operator : BinaryOperator) (first second : Operand) : Compile Operand := do
  let left ← scalarOf first second.type
  let right ← scalarOf second first.type
  -- Few bits are calculated with in another type than those of the whole.
  let raisedLeft ← if first.bits.isSome then promote first else pure left
  let raisedRight ← if second.bits.isSome then promote second else pure right
  let isAddress (type : ValueType) : Bool :=
    match type.plain with
    | .pointer _ | .nullPointer | .member .. => true
    | _ => false
  match operator, left.type.plain, right.type.plain with
  | .add, .pointer _, _ => movePointer .add left right
  | .add, _, .pointer _ => do
      let distance ← scaled left (match right.type.plain with
        | .pointer target => target
        | other => other)
      return { type := right.type.plain
               code := distance.code ++ right.code ++ [Instruction.binary .add .address] }
  | .subtract, .pointer target, .pointer other =>
      if target.plain == other.plain then pointerDistance left right target
      else mismatch "pointers"
  | .subtract, .pointer _, _ => movePointer .subtract left right
  | _, _, _ =>
      if operator.isComparison && (isAddress left.type || isAddress right.type) then
        comparePointers operator left right
      else if operator.isComparison && left.type.isEnumeration && left.type == right.type then
        let type ← underlying left.type
        calculate operator { raisedLeft with type } { raisedRight with type }
      else calculate operator raisedLeft raisedRight

/-- Evaluate the second operand only if the first one does not tell the result yet. -/
def shortcut (operator : BinaryOperator) (left right : Operand) : Compile Operand := do
  let first ← truth left
  let second ← truth right
  let type ← truthType
  let isAnd := operator == .and
  match first.constant with
  | some (.integer known) =>
      if (known != 0) == isAnd then
        match second.constant with
        | some constant => return { second with type, constant := some constant }
        | none => return { second with type }
      else return .ofInt (if isAnd then 0 else 1) type
  | _ => do
      let settledLabel ← newLabel
      let done ← newLabel
      let test : Code := if isAnd then [] else [.unary .not .bool]
      return { type
               code := first.code ++ test ++ [Instruction.jumpIfZero settledLabel] ++ second.code ++
                 [Instruction.jump done, .label settledLabel, .push (if isAnd then 0 else 1),
                 .label done] }

/-- Evaluate two operands for the value of the second one. -/
def sequenced (left right : Operand) : Compile Operand := do
  let before ← discarded left
  if before.isEmpty then return right
  match right.subject with
  | .plain => return { right with code := before ++ right.code, constant := none }
  | _ => do
      let found ← value right
      return { found with code := before ++ found.code, constant := none }

/-- Reach the member that a pointer to a member tells. -/
def throughMember (object pointer : Operand) : Compile Operand := do
  let found ← value pointer
  match object.type.plain, found.type.plain with
  | .record derived, .member owner target => do
      let place ← materialize object
      let base ← toBase place.code derived owner
      match target with
      | .function .. => mismatch "member function"
      | _ =>
          let type := if object.type.isConst then target.toConst else target
          return { type, category := object.category
                   code := base ++ found.code ++ [Instruction.binary .add .address] }
  | _, _ => mismatch "member"

/-- Apply an operator to two operands. -/
def binaryOperator (operator : BinaryOperator) (left right : Operand) : Compile Operand := do
  match ← overloaded? operator.symbol [left, right] (orderOf operator) with
  | some made => return made
  | none =>
      match operator with
      | .and | .or => shortcut operator left right
      | .comma => sequenced left right
      | .member => throughMember left right
      | .memberThrough => do
          let pointer ← value left
          match pointer.type.plain with
          | .pointer target =>
              throughMember { type := target, category := .place, code := pointer.code } right
          | _ => mismatch "member"
      | _ => builtinBinary operator left right

/-! ## Single operands -/

/-- The place that a pointer points to. -/
def dereference (operand : Operand) : Compile Operand := do
  match ← overloaded? "*" [operand] .last with
  | some made => return made
  | none =>
      let pointer ← scalarOf operand .nullPointer
      match pointer.type.plain with
      | .pointer target =>
          if target.plain == .void && (← isCpp) then mismatch "void"
          return { type := target, category := .place, code := pointer.code }
      | _ => mismatch "pointer"

/-- The address of an operand. -/
def addressOf (operand : Operand) : Compile Operand := do
  match operand.subject with
  | .functions _ [.function id] none => do
      let entry ← functionEntry id
      match entry.owner with
      | some owner =>
          if entry.isStatic then functionValue id
          else return { (← functionValue id) with type := .member owner entry.type }
      | none => functionValue id
  | .functions .. => return operand
  | .methods name .. => throw (.mismatch name)
  | .list _ => mismatch "list"
  | .plain =>
      if operand.bits.isSome then mismatch "bits"
      match operand.category with
      | .place => return { type := .pointer operand.type, code := operand.code }
      | .moved => if ← isCpp then mismatch "temporary"
                  else return { type := .pointer operand.type, code := operand.code }
      | .value => mismatch "value"

/-- Apply an operator to a number. -/
def builtinUnary (operator : UnaryOperator) (operand : Operand) : Compile Operand := do
  let found ← if operand.bits.isSome then promote operand else scalarOf operand .int
  match operator, found.type.plain with
  | .plus, .pointer _ => return found
  | _, _ => do
      if !(← isNumber found.type) then mismatch "operand"
      let raised ← promote found
      if operator == .complement && raised.type.isReal then mismatch "operand"
      let form ← formOf raised.type
      match operator with
      | .plus => return raised
      | _ =>
          let made : Operand :=
            { type := raised.type, code := raised.code ++ [Instruction.unary operator form] }
          match raised.constant with
          | some known =>
              match NumberForm.unary operator form (known.word form) with
              | some word => settled { made with constant := some (Constant.ofWord form word) }
              | none => return made
          | none => return made

/-- Apply an operator to one operand. -/
def unaryOperator (operator : UnaryOperator) (operand : Operand) : Compile Operand := do
  match operator with
  | .dereference => dereference operand
  | .address =>
      match ← overloaded? "&" [operand] .last with
      | some made => return made
      | none => addressOf operand
  | .not =>
      match ← overloaded? "!" [operand] .last with
      | some made => return made
      | none =>
          let found ← truth operand
          let type ← truthType
          match found.constant with
          | some (.integer known) => return .ofInt (if known == 0 then 1 else 0) type
          | _ => return { type, code := found.code ++ [Instruction.unary .not .bool] }
  | _ =>
      match ← overloaded? operator.symbol [operand] .last with
      | some made => return made
      | none => builtinUnary operator operand

/-- The element of an array at a position. -/
def elementAt (array position : Operand) : Compile Operand := do
  let order : ObjectOrder := if 201703 ≤ (← get).version then .first else .last
  match ← overloaded? "[]" [array, position] order with
  | some made => return made
  | none =>
      let category : Category := match array.subject, array.type.plain with
        | .plain, .array .. => if array.category == .place then .place else .moved
        | _, _ => .place
      let base ← match array.type.plain, array.category with
        | .array .., .value => materialize array
        | _, _ => pure array
      let sum ← builtinBinary .add base position
      match sum.type.plain with
      | .pointer target =>
          if target.plain == .void then mismatch "void"
          return { type := target, category, code := sum.code }
      | _ => mismatch "array"

/-! ## Assignment -/

/-- Store the word that some code pushes at the address on top of the stack, which remains there. -/
def storeAt (target : Operand) (word : Code) : Compile Code := do
  match target.bits with
  | none => return .duplicate :: word ++ [← storeOf target.type]
  | some (first, count) =>
      let size ← wordSize target.type
      return [Instruction.duplicate, .duplicate, .load size false] ++ word ++
        [Instruction.putBits first count, .store size]

/-- Give up if the place of an operand must not be changed. -/
def checkChangeable (target : Operand) : Compile Unit := do
  match target.subject with
  | .plain => pure ()
  | _ => mismatch "assignment"
  if target.type.isConst then mismatch "const"
  if target.type.isScalar || target.type.isRecord then pure () else mismatch "assignment"
  if target.category == .value && target.type.isScalar then mismatch "assignment"
  if target.category == .moved && target.type.isScalar && (← isCpp) then mismatch "assignment"

/-- What an assignment is as an operand: in C only a value. -/
def assigned (target : Operand) (code : Code) : Compile Operand := do
  let place : Operand := { target with code, category := .place, constant := none }
  if ← isCpp then return place
  else if target.type.isScalar then value place
  else return { place with category := .moved }

/-- Copy the bytes of a structure to another one. -/
def copyRecord (target source : Operand) (size : Nat) : Compile Operand := do
  let given ← materialize source
  let destination ← materialize target
  let code ← if (← isCpp) && !isStable destination.code then do
      let (before, again) ← kept given.code
      pure (before ++ destination.code ++ [Instruction.duplicate] ++ again ++
        [Instruction.copy size])
    else pure (destination.code ++ [Instruction.duplicate] ++ given.code ++ [Instruction.copy size])
  assigned destination code

/-- Assign to a structure. -/
def assignRecord (target value : Operand) (id : Nat) : Compile Operand := do
  let found ← completeRecord id
  if !(← isCpp) then
    match value.subject with
    | .plain =>
        if value.type.plain == .record id then return ← copyRecord target value found.size
        else mismatch "structure"
    | _ => mismatch "structure"
  else
    let functions ← members id "operator ="
    let chosen ← best "operator ="
      (← candidates functions none (some (target.type, target.category)) [value] fun _ => true)
    let entry ← functionEntry chosen.function
    if entry.specifiers.body == .deleted then throw (.deleted entry.name)
    if isStandard entry && found.isPlainToAssign then
      let (parameters, _) := parametersOf entry.type
      let converted ← convert value (parameters.headD .void)
      copyRecord target
        { type := .record id, category := .place, code := converted.code } found.size
    else
      let place ← materialize target
      callFunction chosen.function (some (place.code, target.type)) false [value] .last

/-- Assign a value to a place. -/
def assignTo (target value : Operand) : Compile Operand := do
  match target.type.plain, target.subject with
  | .record id, .plain =>
      if target.type.isConst && !(← isCpp) then mismatch "const"
      assignRecord target value id
  | _, _ => do
      checkChangeable target
      let made ← convert value target.type.plain
      let isLate := (← isCpp) && 201703 ≤ (← get).version && !isStable made.code &&
        !isStable target.code
      if isLate then
        let (before, again) ← kept made.code
        assigned target (before ++ target.code ++ (← storeAt target again))
      else assigned target (target.code ++ (← storeAt target made.code))

/-- Change a place by an operator: the result lies in a place of its own before it is stored. -/
def change (target : Operand) (operator : BinaryOperator) (amount : Operand) :
    Compile (Code × Code) := do
  checkChangeable target
  let present : Operand := { target with code := [] }
  let sum ← builtinBinary operator present amount
  let made ← if target.type.isEnumeration && (← isCpp) then mismatch "enumeration"
    else convert sum target.type.plain
  let slot ← reserveWord
  let store ← storeAt target [.frame slot, .load 8 false]
  return ([Instruction.duplicate] ++ made.code ++ [Instruction.frame slot, .swap, .store 8], store)

/-- Change a place by an operator and an operand. -/
def assignWith (operator : BinaryOperator) (target amount : Operand) : Compile Operand := do
  match ← overloaded? (operator.symbol ++ "=") [target, amount] (orderOf operator) with
  | some made => return made
  | none => do
      let found ← scalarOf amount target.type
      let raised ← if amount.bits.isSome then promote amount else pure found
      let (before, again) ← if raised.constant.isSome then pure ([], raised.code)
        else kept raised.code
      let (compute, store) ← change target operator { raised with code := again }
      assigned target (before ++ target.code ++ compute ++ store)

/-- Count a place up or down. -/
def stepOperator (isIncrement isPrefixed : Bool) (target : Operand) : Compile Operand := do
  let symbol := if isIncrement then "++" else "--"
  let operands := if isPrefixed then [target] else [target, .ofInt 0 .int]
  match ← overloaded? symbol operands .last with
  | some made => return made
  | none => do
      let operator : BinaryOperator := if isIncrement then .add else .subtract
      let one : Operand := .ofInt 1 .int
      if target.type.plain == .bool && (← isCpp) then mismatch "bool"
      let (compute, store) ← change target operator one
      if isPrefixed then assigned target (target.code ++ compute ++ store)
      else
        let present ← value { target with code := [] }
        let slot ← reserveWord
        let remember : Code := [Instruction.duplicate] ++ present.code ++
          [Instruction.frame slot, .swap, .store 8]
        return { type := target.type.plain
                 code := target.code ++ remember ++ compute ++ store ++
                   [Instruction.drop, .frame slot, .load 8 false] }

/-! ## Choices -/

/-- The type that two alternatives have in common. -/
def unifiedType (left right : Operand) : Compile ValueType := do
  let first := left.type.decayed
  let second := right.type.decayed
  if first == second then return first
  if (← isNumber left.type) && (← isNumber right.type) then return ← commonType left.type right.type
  if left.type.isRecord || right.type.isRecord then
    let forward ← hypothetically? (convert left second)
    let backward ← hypothetically? (convert right first)
    match forward, backward with
    | some _, none => return second
    | none, some _ => return first
    | some _, some _ => throw (.ambiguous "choice")
    | none, none => mismatch "choice"
  else if isNull left && second.isScalar && !right.type.isArithmetic then return second
  else if isNull right && first.isScalar && !left.type.isArithmetic then return first
  else
    match first, second with
    | .pointer one, .pointer other =>
        if qualifies one other then return second
        else if qualifies other one then return first
        else
          match ← hypothetically? (convert left second), ← hypothetically? (convert right first) with
          | some _, none => return second
          | none, some _ => return first
          | some _, some _ => return if one.plain == .void then first else second
          | none, none =>
              if one.plain == other.plain then return .pointer one.plain.toConst
              else if ← isCpp then mismatch "choice" else return .pointer .void
    | _, _ => if ← isCpp then mismatch "choice" else return first

end QueryFoundry.Native.Compile
