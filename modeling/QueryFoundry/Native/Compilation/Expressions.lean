import QueryFoundry.Native.Compilation.Builtins

/-!
# Expressions

The operand that each kind of expression stands for.
-/

namespace QueryFoundry.Native.Compile

open Text (Octets)

/-! ## Literals -/

/-- A text that never changes. -/
def textOperand (codes : List Nat) (element : ValueType) : Compile Operand := do
  let size ← sizeOf element
  let bytes := (codes ++ [0]).flatMap fun code => (wordBytes code).take size
  let symbol ← textSymbol bytes
  let kept := if ← isCpp then element.toConst else element
  return { type := .array kept (some (codes.length + 1)), category := .place
           code := [.symbol symbol 0] }

/-- A name as an operand; the name of the present function is known by some names of its own. -/
def namedOperand (written : Expr) : Compile Operand := do
  match written with
  | .name .absent .plain text _ =>
      if ["__func__", "__FUNCTION__", "__PRETTY_FUNCTION__"].contains text then
        let name ← match (← context).function with
          | some id => do pure (← functionEntry id).name
          | none => pure ""
        textOperand (name.toList.map Char.toNat) (.const .char)
      else nameOperand written
  | _ => nameOperand written

/-! ## Pointers to members -/

/-- The pointer to a member that a name with a scope stands for, if it is one. -/
def memberPointer? (written : Expr) : Compile (Option Operand) := do
  match ← resolve written with
  | ([.field owner index], _) => do
      let found ← completeRecord owner
      let some field := found.fields[index]? | throw (.noMember found.name)
      checkAccess owner field.access field.name
      return some { type := .member owner field.type, code := [.push (UInt64.ofNat field.offset)] }
  | ([.function id], none) => do
      let entry ← functionEntry id
      match entry.owner, entry.isStatic with
      | some owner, false => do
          checkAccess owner entry.access entry.name
          let position ← if entry.isVirtual then virtualPosition? owner entry.name entry.type
            else pure none
          let type : ValueType := .member owner entry.type
          match position with
          | some position =>
              -- An odd number is no address of a function.
              return some { type, code := [.push (UInt64.ofNat (16 * position + 1))] }
          | none => return some { type, code := ← functionAddress id }
      | _, _ => return none
  | _ => return none

/-- Call the function that a pointer to a member tells, on an object. -/
def callThroughMember (object pointer : Operand) (operands : List Operand) :
    Compile Operand := do
  let found ← value pointer
  match object.type.plain, found.type.plain with
  | .record derived, .member owner (.function result parameters isVariadic _) => do
      if operands.length != parameters.length && !isVariadic then throw (.noMatch "call")
      let place ← materialize object
      let base ← toBase place.code derived owner
      let objectSlot ← reserveWord
      let functionSlot ← reserveWord
      let direct ← newLabel
      let self : Code := [.frame objectSlot, .load 8 false]
      let function : Code := [.frame functionSlot, .load 8 false]
      let entry : Code := self ++ [Instruction.load 8 false] ++ function ++
        [Instruction.push 1, .binary .subtract .address, .binary .add .address]
      let resolve : Code := function ++
        [Instruction.push 1, .binary .bitAnd .address, .jumpIfZero direct,
        .frame functionSlot] ++ entry ++
        [Instruction.load 8 false, .frame objectSlot] ++ self ++ entry ++
        [Instruction.push 8, .binary .add .address, .load 8 false, .binary .add .address, .store 8,
          .store 8, .label direct]
      let before : Code := [Instruction.frame objectSlot] ++ base ++
        [Instruction.store 8, .frame functionSlot] ++
        found.code ++ [Instruction.store 8] ++ resolve
      let arguments ← convertArguments parameters operands
      let made ← resultOperand result (argumentCode arguments ++ self) (arguments.length + 1)
        function
      return { made with code := before ++ made.code }
  | _, _ => mismatch "member function"

/-! ## Calls -/

/-- The object and the pointer to a member function of a call. -/
def memberCallee? (written : Expr) : Compile (Option (Operand × Operand)) := do
  match written with
  | .binary .member object pointer => return some (← expression object, ← expression pointer)
  | .binary .memberThrough object pointer => do
      let target ← arrowTarget 16 (← expression object)
      return some (target, ← expression pointer)
  | _ => return none

/-- A call. -/
def callExpression (callee : Expr) (arguments : List Expr) : Compile Operand := do
  match callee with
  | .name .absent .plain text _ =>
      if propertyNames.contains text then return ← propertyOperand text arguments
      if text == "__underlying_type" then return ← underlyingSample arguments
      let operands ← expandAll argumentOperand arguments
      match builtinName? text with
      | some name => callBuiltin name operands
      | none =>
          if text == "alloca" && (← lookup text).isEmpty then callBuiltin "alloca" operands
          else callOperand (← calleeNamed callee operands) operands
  | _ => do
      match ← memberCallee? callee with
      | some (object, pointer) => do
          let operands ← expandAll argumentOperand arguments
          callThroughMember object pointer operands
      | none => do
          let found ← match callee with
            | .name .. => do
                let operands ← expandAll argumentOperand arguments
                return ← callOperand (← calleeNamed callee operands) operands
            | other => expression other
          callOperand found (← expandAll argumentOperand arguments)

/-! ## Choices -/

/-- The code of one of two alternatives by a condition. -/
def selected (condition : Operand) (whenTrue whenFalse : Code) : Compile Code := do
  match condition.constant with
  | some (.integer known) => return if known != 0 then whenTrue else whenFalse
  | _ => do
      let other ← newLabel
      let done ← newLabel
      return condition.code ++ [Instruction.jumpIfZero other] ++ whenTrue ++
        [Instruction.jump done, .label other] ++ whenFalse ++ [Instruction.label done]

/-- Choose between two operands. -/
def choose2 (condition left right : Operand) : Compile Operand := do
  let isSamePlace := left.category == right.category && left.category != .value &&
    left.type == right.type && left.bits.isNone && right.bits.isNone
  if isSamePlace && ((← isCpp) || left.type.isRecord) then
    return { type := left.type, category := left.category
             code := ← selected condition left.code right.code }
  let type ← unifiedType left right
  match type.plain with
  | .void =>
      return { type := .void, code := ← selected condition (← discarded left) (← discarded right) }
  | _ => do
      let first ← convert left type
      let second ← convert right type
      let code ← selected condition first.code second.code
      let constant := match condition.constant with
        | some (.integer known) => if known != 0 then first.constant else second.constant
        | _ => none
      return { type := type.plain, code, constant }

/-- An operand of a choice: functions as pointers. -/
def alternative (written : Expr) : Compile Operand := do
  let operand ← argumentOperand written
  match operand.subject with
  | .functions .. => value operand
  | _ => return operand

/-- A choice. -/
def choiceExpression (test whenTrue whenFalse : Expr) : Compile Operand := do
  let tested ← expression test
  match whenTrue with
  | .absent => do
      let found ← value tested
      let (before, again) ← kept found.code
      let present := { found with code := again }
      let condition ← truth present
      let right ← alternative whenFalse
      let made ← choose2 condition present right
      return { made with code := before ++ made.code }
  | _ => do
      let condition ← truth tested
      let left ← alternative whenTrue
      let right ← alternative whenFalse
      let isThrow : Expr → Bool
        | .throw _ => true
        | _ => false
      match isThrow whenTrue, isThrow whenFalse with
      | true, false | false, true => do
          let kept := if isThrow whenTrue then right else left
          let made ← if kept.type.isRecord || kept.type.plain == .void then pure kept else value kept
          let (first, second) := if isThrow whenTrue then (left.code, made.code)
            else (made.code, right.code)
          return { made with code := ← selected condition first second, constant := none }
      | _, _ => choose2 condition left right

/-! ## Sizes and types -/

/-- The value that is left by some code that only calculates. -/
def calculated? : Code → List UInt64 → Option UInt64
  | [], [value] => some value
  | .push value :: rest, stack => calculated? rest (value :: stack)
  | .binary operator form :: rest, right :: left :: stack =>
      match NumberForm.binary operator form left right with
      | some value => calculated? rest (value :: stack)
      | none => none
  | _, _ => none

/-- The size of a type or of the value of an expression, or what its address is a multiple of. -/
def sizeExpression (written : Expr) (isAlignment : Bool) : Compile Operand := do
  let ofType (type : ValueType) : Compile Operand := do
    if type.isFunction || type.plain == .void then
      if ← isCpp then mismatch "size"
    match type with
    | .array _ none => mismatch "size"
    | _ => pure ()
    let size ← if isAlignment then alignmentOf type else sizeOf type
    return .ofInt size .size
  match written with
  | .type written => ofType (← type written).referred
  | _ => do
      let isVariable ← match written with
        | .name .absent .plain text _ => lookup text
        | _ => pure []
      match isVariable, isAlignment with
      | [.variable_ id], false =>
          match (← variable_ id).size with
          | some code => return { type := .size, code }
          | none => pure ()
      | _, _ => pure ()
      let found ← hypothetically? do
        let operand ← expression written
        match operand.subject with
        | .plain =>
            if operand.bits.isSome then mismatch "size"
            ofType operand.type
        | _ => if ← isCpp then mismatch "size" else return .ofInt 1 .size
      match found with
      | some size => return size
      | none =>
          -- Do it once more to learn why it failed.
          let _ ← expression written
          mismatch "size"

/-- A choice by the type of an operand. -/
def genericExpression (operand : Expr) (cases : List Expr) : Compile Operand := do
  let found ← expression operand
  let wanted := found.type.decayed
  let exact ← cases.findSomeM? fun item => do
    match item with
    | .genericCase .automatic _ => return none
    | .genericCase written result =>
        return if (← type written).plain == wanted then some result else none
    | _ => return none
  let standard := cases.findSome? fun
    | .genericCase .automatic result => some result
    | _ => none
  match exact, standard with
  | some result, _ | none, some result => expression result
  | none, none => throw (.noMatch "_Generic")

/-- Reach a member of an object by the path to it. -/
def pathOperand (object : Operand) : Expr → Compile Operand
  | .member inner _ name => do memberOperand (← pathOperand object inner) name
  | .index inner position => do elementAt (← pathOperand object inner) (← expression position)
  | name => memberOperand object name

/-- The offset of a member. -/
def offsetExpression (written : TypeExpr) (member : Expr) : Compile Operand := do
  let object : Operand := { type := ← type written, category := .place, code := [.push 0] }
  let found ← pathOperand object member
  match calculated? found.code [] with
  | some offset => return .ofInt offset.toNat .size
  | none => mismatch "offset"

/-- The next argument of a list of them. -/
def nextArgument (list : Expr) (written : TypeExpr) : Compile Operand := do
  let found ← type written
  let pointer ← value (← expression list)
  let slot ← reserveWord
  let code : Code := pointer.code ++
    [Instruction.duplicate, .load 8 false, .frame slot, .swap, .store 8,
      .frame slot, .load 8 false, .push 8, .binary .add .address, .store 8,
      .frame slot, .load 8 false]
  if found.isRecord then
    return { type := found.plain, category := .moved, code := code ++ [Instruction.load 8 false] }
  else return { type := found.plain, code := code ++ [← loadOf found] }

/-- Whether an expression can throw nothing: it calls only functions that promise that. -/
def isQuiet (written : Expr) : Compile Bool := do
  let found ← hypothetically? do
    let operand ← expression written
    let promising := (← get).functions.toList.filterMap fun entry =>
      if entry.specifiers.isNoexcept || entry.kind == .destructor then some entry.symbol else none
    return isQuietCode promising operand.code
  match found with
  | some result => return result
  | none =>
      let _ ← expression written
      return false
where
  /-- Whether each call is one of functions that throw nothing. -/
  isQuietCode (promising : List Octets) : Code → Bool
    | [] => true
    | .symbol name _ :: .call _ :: rest => promising.contains name && isQuietCode promising rest
    | .call _ :: _ | .throw :: _ => false
    | _ :: rest => isQuietCode promising rest

/-! ## Packs -/

/-- An operator between all members of a pack. -/
def foldExpression (operator : BinaryOperator) (first pack : Expr) (isLeft : Bool) :
    Compile Operand := do
  let isPack (written : Expr) : Compile Bool := do
    return !(← packsOf written.mentioned).isEmpty
  let (start, pattern, fromLeft) ← if first.isAbsent then pure (Expr.absent, pack, isLeft)
    else if ← isPack first then pure (pack, first, true)
    else pure (first, pack, false)
  let members ← forPack pattern.mentioned (expression pattern)
  let outer ← if start.isAbsent then pure [] else do pure [← expression start]
  let items := if fromLeft then outer ++ members else members ++ outer
  match items, items.getLast? with
  | [], _ | _, none =>
      match operator with
      | .and => return .ofBool true
      | .or => return .ofBool false
      | .comma => return .nothing
      | _ => mismatch "fold"
  | head :: rest, some last =>
      if fromLeft then rest.foldlM (fun left right => binary operator left right) head
      else items.dropLast.foldrM (fun left right => binary operator left right) last

/-- The number of members of a pack. -/
def packSizeExpression (name : Octets) : Compile Operand := do
  match ← lookup name with
  | [.pack entities] => return .ofInt entities.length .size
  | _ => throw (.undeclared name)

/-! ## Objects -/

/-- An object that is made from arguments where it is needed. -/
def constructExpression (written : TypeExpr) (form : InitialForm) (items : List Expr) :
    Compile Operand := do
  let named ← type written
  let target ← match named, form with
    | .array element none, .braces => do
        pure (.array element (← listedLength element (.initial .braces items)))
    | _, _ => pure named
  if !(← isCpp) then
    let (size, alignment) ← storageOf target
    let value : Expr := .initial .braces items
    if (← context).depth == 0 then
      let symbol := "literal " ++ toString (← fresh)
      emitData { symbol, binding := .internal, size, alignment }
      let place : Code := [.symbol symbol 0]
      let (routine, code) ← emitRoutine (setInitial target place value)
      if !isFixed code then throw .notConstant
      addPreparation routine
      return { type := target, category := .place, code := place }
    else
      let place : Code := [.frame (← reserve size alignment)]
      return { type := target, category := .place
               code := (← setInitial target place value) ++ place }
  match form, target.plain with
  | .braces, _ => list target.plain items
  | _, .void => do
      let operands ← expandAll argumentOperand items
      let codes ← operands.mapM discarded
      return { type := .void, code := codes.flatten }
  | _, .record _ => do construct target.plain .arguments (← expandAll argumentOperand items)
  | _, _ => do
      match ← expandAll argumentOperand items with
      | [single] => cast .written single target
      | operands => construct target.plain .arguments operands

/-- The value of the last statement of a block. -/
def blockExpression (body : Statement) : Compile Operand := do
  match body with
  | .block statements =>
      match statements.getLast? with
      | some (.expression last) => inNewScope .block do
          let (code, result) ← inLevel do
            let before ← statements.dropLast.mapM statement
            let operand ← expression last
            let found ← if operand.type.plain == .void || operand.type.isRecord then
                pure operand
              else value operand
            return (before.flatten ++ found.code, found)
          return { result with code, constant := none }
      | _ => return { type := .void, code := ← statement body }
  | _ => return { type := .void, code := ← statement body }

/-- An operator in front of an operand. -/
def unaryExpression (operator : UnaryOperator) (operand : Expr) : Compile Operand := do
  match operator, operand with
  | .address, .name scope _ _ _ =>
      if !scope.isAbsent then
        if let some pointer := ← memberPointer? operand then return pointer
      unaryOperator .address (← expression operand)
  | _, _ => unaryOperator operator (← expression operand)

/-- The operand that an expression stands for. -/
def expressionOf (written : Expr) : Compile Operand := do
  match written with
  | .integer value type => settled (.ofInt value type)
  | .real bits type => settled { type, constant := some (.real bits) }
  | .text codes element => textOperand codes element
  | .nullPointer => return { type := .nullPointer, code := [.push 0] }
  | .boolean value => return .ofBool value
  | .this => do
      let object ← selfOperand
      return { type := .pointer object.type, code := object.code }
  | .name .. => namedOperand written
  | .unary operator operand => unaryExpression operator operand
  | .step isIncrement isPrefixed operand => do
      stepOperator isIncrement isPrefixed (← expression operand)
  | .binary operator left right => do
      binaryOperator operator (← expression left) (← expression right)
  | .assign none target value => do assignTo (← expression target) (← argumentOperand value)
  | .assign (some operator) target value => do
      assignWith operator (← expression target) (← argumentOperand value)
  | .choice test whenTrue whenFalse => choiceExpression test whenTrue whenFalse
  | .call callee arguments => callExpression callee arguments
  | .index array position => do elementAt (← expression array) (← argumentOperand position)
  | .member object isArrow name => do
      let found ← expression object
      memberOperand (← if isArrow then arrowTarget 16 found else pure found) name
  | .cast kind target operand => do
      let wanted ← type target
      castTo kind (← argumentOperand operand) wanted
  | .construct target form items => constructExpression target form items
  | .size operand isAlignment => sizeExpression operand isAlignment
  | .packSize name => packSizeExpression name
  | .create place target initial => createObject place target initial
  | .delete isArray operand => do deleteObject isArray (← expression operand)
  | .throw operand => throwOperand operand
  | .lambda captures definition _ => closure captures definition
  | .initial _ items => return { type := .automatic, subject := .list items }
  | .block body => blockExpression body
  | .fold operator first pack isLeft => foldExpression operator first pack isLeft
  | .typeInfo operand => typeInfo operand
  | .noexcept operand => do return .ofBool (← isQuiet operand)
  | .generic operand cases => genericExpression operand cases
  | .argument list target => nextArgument list target
  | .offset target member => offsetExpression target member
  | .sameType left right => do
      return .ofInt (if (← type left).plain == (← type right).plain then 1 else 0) .int
  | _ => throw (.invalid "expression")

end QueryFoundry.Native.Compile
