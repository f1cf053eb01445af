import QueryFoundry.Native.Compilation.Functions

/-!
# Declarations

Variables, functions, enumerations, namespaces and templates, inside and outside of functions.
-/

namespace QueryFoundry.Native.Compile

open Text (Octets)

/-! ## Types that follow from values -/

/-- The operand that an initial value is. -/
def initialOperand (written : Expr) : Compile Operand := do
  match written with
  | .initial .assigned [.initial .braces items] => do
      let isSequence := !(← lookupIn 0 "std").isEmpty
      match ← expandAll expression items with
      | first :: _ =>
          if !isSequence then mismatch "auto"
          let name : Expr := .name (.plainName "std") .template "initializer_list"
            [.type (.plain first.type.decayed)]
          match ← namedType? name with
          | some type => list type items
          | none => mismatch "auto"
      | [] => mismatch "auto"
  | .initial _ [single] => do
      let operand ← argumentOperand single
      match operand.subject with
      | .functions .. => value operand
      | _ => return operand
  | _ => mismatch "auto"

/-- The type of a variable by the operand that it is given. -/
def inferredType (pattern : ValueType) (operand : Operand) : ValueType :=
  match pattern with
  | .movedReference .automatic =>
      if operand.category == .place then referenceTo operand.type
      else movedReferenceTo operand.type
  | .reference inner => referenceTo (inferFrom inner operand.type)
  | .movedReference inner => movedReferenceTo (inferFrom inner operand.type)
  | other => inferFrom other operand.type.decayed

/-- The type of a variable as it is declared, with the length of an array that follows from the
initial value. -/
def declaredType (written : TypeExpr) (initial : Expr) (isConstexpr : Bool) :
    Compile ValueType := do
  let declared ← type written
  let complete ← match declared with
    | .array element none => do pure (.array element (← listedLength element initial))
    | .const (.array element none) => do
        pure (ValueType.array element.toConst (← listedLength element initial))
    | other => pure other
  return if isConstexpr then complete.toConst else complete

/-- Give up if there are no objects of a type. -/
def checkObject (type : ValueType) : Compile Unit := do
  if type.isReference then return
  if type.isFunction || type.plain == .void then throw (.invalid "variable")
  match elementType type with
  | .record id => do
      let found ← completeRecord id
      if !found.isComplete then throw (.incomplete found.name)
      if found.isAbstract then throw (.invalid found.name)
  | _ => pure ()

/-- Add a variable. -/
def addVariable (made : Variable) : Compile Nat := do
  let id := (← get).variables_.size
  modify fun environment => { environment with
    variables_ := environment.variables_.push made }
  return id

/-- Let a name that is not taken stand for a local variable. -/
def declareLocal (name : Octets) (made : Variable) : Compile Nat := do
  let known := ((← scopeEntry (← get).scope).names[name]?).getD []
  let isTaken := known.any fun
    | .variable_ _ | .function _ | .constant .. => true
    | _ => false
  if isTaken then throw (.redeclared name)
  let id ← addVariable made
  declare name (.variable_ id)
  return id

/-! ## Local variables -/

/-- The object that a reference makes live as long as itself. -/
structure Extended where
  type : ValueType
  place : Code
deriving Inhabited

/-- Let a local reference refer to an operand. An object that has no place yet gets one, in which it
lives as long as the reference. -/
def extendedReference (type inner : ValueType) (operand : Operand) :
    Compile (Code × Option Extended) := do
  let own : Compile (Option Operand) := do
    match operand.subject with
    | .list items =>
        if inner.isRecord || inner.isArray then return some (← list inner.plain items)
        else return some (← convert operand inner.plain)
    | .plain =>
        if operand.category != .value then
          if operand.type.isRecord || !inner.isScalar || operand.bits.isNone then return none
          else return some (← convert operand inner.plain)
        else if ← isCompatible inner operand.type then return some operand
        else return some (← convert operand inner.plain)
    | _ => return none
  match ← own with
  | none => return ((← convert operand type).code, none)
  | some made => do
      if !inner.isConst && !(match type with
        | .movedReference _ => true
        | _ => false) then mismatch "reference"
      let (size, alignment) ← storageOf made.type
      let place : Code := [.frame (← reserve size alignment)]
      let store ← if made.type.isScalar then do
          pure (place ++ made.code ++ [← storeOf made.type])
        else pure (place ++ made.code)
      let address ← partAddress { made with code := place, category := .moved } inner
      return (store ++ address, some { type := made.type, place })

/-- Put off the end of what lives as long as a local variable. -/
def deferEnd (specifiers : Specifiers) (type : ValueType) (place : Code) : Compile Code := do
  let destruction ← if type.isReference then pure [] else deferDestruction type place
  let cleanup? := specifiers.attributes.findSome? fun
    | .cleanup function => some function
    | _ => none
  match cleanup? with
  | some function =>
      match ← lookup function with
      | [.function id] => do
          changeContext fun context => { context with hasDeferred := true }
          return destruction ++ place ++ (← functionAddress id) ++
            [Instruction.defer (← context).level]
      | _ => throw (.undeclared function)
  | none => return destruction

/-- Declare a local reference. -/
def localReference (name : Octets) (pattern : ValueType) (initial : Expr) : Compile Code := do
  if initial.isAbsent then mismatch "reference"
  let slot ← reserveWord
  let (code, type, extended) ← inLevel do
    let operand ← match isInferred pattern, initial with
      | true, _ => initialOperand initial
      | false, .initial .braces items =>
          pure { type := .automatic, subject := .list items : Operand }
      | false, .initial _ [single] => argumentOperand single
      | false, _ => mismatch "reference"
    let type := if isInferred pattern then inferredType pattern operand else pattern
    let (address, extended) ← extendedReference type type.referred operand
    return ([Instruction.frame slot] ++ address ++ [Instruction.store 8], type, extended)
  let ending ← match extended with
    | some object => deferDestruction object.type object.place
    | none => pure []
  let _ ← declareLocal name
    { name, type, place := [.frame slot], depth := some (← context).depth, isDefined := true }
  return code ++ ending

/-- Declare a local object whose value is known beforehand: it is there once for all calls. -/
def localConstant (name : Octets) (type : ValueType) (initial : Expr) : Compile Code := do
  let symbol := "constant " ++ name ++ " " ++ toString (← fresh)
  let id ← declareLocal name
    { name, type, place := [.symbol symbol 0], symbol, isDefined := true }
  defineStatic id initial .internal false true
  return []

/-- Declare a local variable whose type follows from its initial value. -/
def localInferred (name : Octets) (pattern : ValueType) (initial : Expr)
    (specifiers : Specifiers) : Compile Code := do
  if specifiers.isConstexpr then
    let found := inferredType pattern (← initialOperand initial)
    if found.isRecord then return ← localConstant name found.toConst initial
  let (code, type, place) ← inLevel do
    let operand ← initialOperand initial
    let found := inferredType pattern operand
    let type := if specifiers.isConstexpr then found.toConst else found
    checkObject type
    let (size, alignment) ← storageOf type
    let place : Code := [.frame (← reserve size alignment)]
    return (← storeInto type place none operand, type, place)
  let ending ← deferEnd specifiers type place
  let constant ← if type.isConst && (← isCpp) then
      knownValue? type initial specifiers.isConstexpr
    else pure none
  let _ ← declareLocal name
    { name, type, place, depth := some (← context).depth, constant, isDefined := true }
  return code ++ ending

/-- Declare a local array whose length is not known before. -/
def localRow (name : Octets) (element : TypeExpr) (length : Expr) : Compile Code := do
  let inner ← type element
  let size ← sizeOf inner
  let slot ← reserveWord
  let bytes ← reserveWord
  let code ← wholeExpression do
    let count ← convert (← expression length) .size
    return [Instruction.frame bytes] ++ count.code ++
      [Instruction.push (UInt64.ofNat size), .binary .multiply .address, .store 8, .frame slot,
        .frame bytes, .load 8 false, .reserve, .store 8]
  let place : Code := [.frame slot, .load 8 false]
  let _ ← declareLocal name
    { name, type := .array inner none, place, depth := some (← context).depth
      size := some [.frame bytes, .load 8 false], isDefined := true }
  return code

/-- Declare a local variable. -/
def localVariable (name : Octets) (written : TypeExpr) (initial : Expr)
    (specifiers : Specifiers) : Compile Code := do
  match written, ← attempt? (type written) with
  | .array element length, none => do
      -- Learn whether only the length is the reason.
      let operand ← expression length
      if operand.constant.isSome || !initial.isAbsent then
        let _ ← type written
      localRow name element length
  | _, _ => do
      let declared ← type written
      if declared.isReference then localReference name declared initial
      else if isInferred declared then localInferred name declared initial specifiers
      else do
        let type ← declaredType written initial specifiers.isConstexpr
        checkObject type
        match type with
        | .array _ none => throw (.invalid name)
        | _ => pure ()
        if specifiers.isConstexpr && (type.isRecord || type.isArray) then
          return ← localConstant name type initial
        let here ← context
        let isResult := name == here.namedResult && type.plain == here.result.plain && !name.isEmpty
        let place : Code ← if isResult then pure here.resultPlace else do
          let (size, alignment) ← storageOf type
          pure [.frame (← reserve size alignment)]
        let constant ← if type.isConst && (← isCpp) && !initial.isAbsent then
            knownValue? type initial specifiers.isConstexpr
          else pure none
        if specifiers.isConstexpr && isKnowable type && constant.isNone then throw .notConstant
        let _ ← declareLocal name
          { name, type, place, depth := some here.depth, constant, isDefined := true }
        let code ← wholeExpression (setInitial type place initial)
        let ending ← if isResult then pure [] else deferEnd specifiers type place
        return code ++ ending

/-- Whether some code uses places of its function. -/
def usesFrame (code : Code) : Bool :=
  code.any fun
    | .frame _ | .argument _ => true
    | _ => false

/-- Declare a variable of a function that lives as long as the program. -/
def localStatic (name : Octets) (written : TypeExpr) (initial : Expr)
    (specifiers : Specifiers) : Compile Code := do
  let pattern ← declaredType written initial specifiers.isConstexpr
  let owner ← match (← context).function with
    | some id => do pure (some (← functionEntry id))
    | none => pure none
  let symbol := ((owner.map (·.symbol)).getD "") ++ "." ++ name ++ "." ++ toString (← fresh)
  let binding : Binding := match owner with
    | some entry => if entry.binding == .weak then .unique else .internal
    | none => .internal
  let place : Code := [.symbol symbol 0]
  let constant ← if pattern.isConst && (← isCpp) && !initial.isAbsent && !isInferred pattern then
      knownValue? pattern initial specifiers.isConstexpr
    else pure none
  let known : Variable := { name, type := pattern, place, symbol, constant, isDefined := true }
  let declareFirst := !isInferred pattern
  let early ← if declareFirst then some <$> declareLocal name known else pure none
  let (code, type, _) ← inLevel do
    if isInferred pattern then
      let operand ← initialOperand initial
      let type := inferredType pattern operand
      return (← storeInto type place none operand, type, ())
    else if initial.isAbsent && !(← isCpp) then return ([], pattern, ())
    else return (← setInitial pattern place initial, pattern, ())
  if early.isNone then
    let _ ← declareLocal name { known with type }
  checkObject type
  let (size, alignment) ← storageOf type
  emitData { symbol, binding, size, alignment }
  let ending ← if type.isReference then pure [] else destroyAtExit type place
  if isFixed code && !usesFrame code && ending.isEmpty then
    if !code.isEmpty then
      let (routine, _) ← emitRoutine (pure code)
      addPreparation routine
    return []
  if !(← isCpp) then throw .notConstant
  let guard := symbol ++ " guard"
  emitData { symbol := guard, binding, size := 8, alignment := 8 }
  let done ← newLabel
  return [Instruction.symbol guard 0, .load 8 false, .unary .not .address, .jumpIfZero done] ++
    code ++
    ending ++ [Instruction.symbol guard 0, .push 1, .store 8, .label done]

/-! ## Variables outside of functions -/

/-- Whether a scope belongs to a namespace without a name. -/
def isPrivateScope : Nat → Nat → Compile Bool
  | 0, _ => return false
  | depth + 1, scope => do
      let found ← scopeEntry scope
      if found.name == "_GLOBAL__N_1" then return true
      match found.parent with
      | some parent => isPrivateScope depth parent
      | none => return false

/-- The symbol of a variable in a scope. -/
def variableSymbol (scope : Nat) (name : Octets) (specifiers : Specifiers) : Compile Octets := do
  match specifiers.label, specifiers.linkage with
  | some label, _ => return label
  | none, some "C" => return name
  | none, _ => do
      if !(← isCpp) || scope == 0 then return name
      match ← scopeParts mangleDepth scope with
      | [] => return name
      | _ => return "_Z" ++ (← scopedSymbol scope (partName name))

/-- How a variable outside of functions is seen by others. -/
def variableBinding (scope : Nat) (type : ValueType) (specifiers : Specifiers) :
    Compile Binding := do
  if specifiers.isStatic then return .internal
  if ← isCpp then
    if ← isPrivateScope scopeDepth scope then return .internal
    if specifiers.isInline then return .unique
    if type.isConst && !specifiers.isExtern then return .internal
  return if isWeak specifiers then .weak else .global

/-- The variable that a name stood for before in a scope. -/
def knownVariable? (scope : Nat) (name : Octets) : Compile (Option Nat) := do
  let known := ((← scopeEntry scope).names[name]?).getD []
  let location? : Entity → Option Nat
    | .variable_ id => some id
    | _ => none
  match known.findSome? location? with
  | some id => return some id
  | none =>
      let isTaken := known.any fun
        | .function _ | .constant .. | .template _ => true
        | _ => false
      if isTaken then throw (.redeclared name) else return none

/-- Whether two declarations of a variable can be meant. -/
def sameVariableType (first second : ValueType) : Bool :=
  match first, second with
  | .array one _, .array other none | .array one none, .array other _ => one == other
  | one, other => one == other

/-- Declare a variable outside of functions. -/
def globalVariable (name : Octets) (written : TypeExpr) (initial : Expr)
    (specifiers : Specifiers) : Compile Unit := do
  let scope := (← get).scope
  let type ← declaredType written initial specifiers.isConstexpr
  let isDeclaration := specifiers.isExtern && initial.isAbsent
  let id ← match ← knownVariable? scope name with
    | some id => do
        let known ← variable_ id
        if !sameVariableType known.type type && !isInferred type then throw (.redeclared name)
        if known.isDefined && !isDeclaration && ((← isCpp) || !initial.isAbsent) then
          if known.isReferenced || (← isCpp) then throw (.redeclared name)
        let better := match known.type, type with
          | .array _ none, other => other
          | first, _ => first
        changeVariable id fun known => { known with type := better }
        pure id
    | none => do
        let symbol ← variableSymbol scope name specifiers
        let id ← addVariable { name, type, place := [.symbol symbol 0], symbol }
        declareIn scope name (.variable_ id)
        pure id
  if isWeak specifiers && isDeclaration then
    let symbol := (← variable_ id).symbol
    changeOutput fun output => { output with optional := symbol :: output.optional }
  if isDeclaration then return
  let binding ← variableBinding scope type specifiers
  let isHidden ← isHiddenBy specifiers
  if !initial.isAbsent then changeVariable id fun known => { known with isReferenced := true }
  if isInferred type then
    let known? ← hypothetically? do
      let found := inferredType type (← initialOperand initial)
      match found.isConst, ← knownValue? found initial specifiers.isConstexpr with
      | true, some constant => return (found, constant)
      | _, _ => throw .notConstant
    if let some (found, constant) := known? then
      changeVariable id fun known => { known with type := found, constant := some constant }
    defineStaticWith id binding isHidden specifiers.isConstexpr fun place => do
      let operand ← initialOperand initial
      let found := inferredType type operand
      changeVariable id fun known => { known with type := found }
      storeInto found place none operand
  else
    checkObject type
    let constant ← if type.isConst && (← isCpp) && !initial.isAbsent then
        knownValue? type initial specifiers.isConstexpr
      else pure none
    changeVariable id fun known => { known with constant }
    defineStatic id initial binding isHidden specifiers.isConstexpr
  let alias? := specifiers.attributes.findSome? fun
    | .alias target => some target
    | _ => none
  if let some target := alias? then
    let symbol := (← variable_ id).symbol
    changeOutput fun output => { output with aliases := (symbol, target) :: output.aliases }

/-- Define a variable that was declared in the scope in front of its name. -/
def variableOutside (name : Expr) (written : TypeExpr) (initial : Expr)
    (specifiers : Specifiers) : Compile Unit := do
  let scope ← scopeOfName 64 name.scopeOf
  let some id ← knownVariable? scope name.lastName | throw (.noMember name.lastName)
  let known ← variable_ id
  if known.isDefined then throw (.redeclared name.lastName)
  inScope scope do
    let declared ← declaredType written initial false
    let type := match known.type with
      | .array _ none => declared
      | other => other
    let pending := known.pending
    changeVariable id fun known => { known with type, pending := none }
    let isMember := (← scopeEntry scope).kind != .namespace
    let value := match initial, pending with
      | .absent, some (.variable_ _ _ _ first _, _) => first
      | other, _ => other
    let isForced := match pending with
      | some (.variable_ _ _ _ _ first, _) => first.isConstexpr
      | _ => specifiers.isConstexpr
    let constant ← if type.isConst && !value.isAbsent then knownValue? type value isForced
      else pure none
    changeVariable id fun known => { known with constant }
    let binding : Binding ← if isMember then pure .global else variableBinding scope type specifiers
    defineStatic id value binding (← isHiddenBy specifiers) isForced

/-- Declare a structure that is only mentioned. -/
def declareMentioned (written : TypeExpr) : Compile Unit := do
  match written with
  | .tagged key (.name .absent .plain text _) => do
      let scope := (← get).scope
      let target ← if ← isCpp then pure scope else tagScope
      match (← scopeEntry target).tags[text]? with
      | some _ => pure ()
      | none => if key != "enum" then let _ ← declareTag key text target
  | _ => pure ()

/-- Declare a variable. -/
def declareVariable (name : Expr) (written : TypeExpr) (initial : Expr)
    (specifiers : Specifiers) : Compile Code := do
  if name.isAbsent then
    declareMentioned written
    return []
  if isOutside name then
    variableOutside name written initial specifiers
    return []
  let text := name.lastName
  if (← context).depth == 0 then
    globalVariable text written initial specifiers
    return []
  else if specifiers.isExtern then
    let found ← type written
    let _ ← declareLocal text
      { name := text, type := found, place := [.symbol text 0], symbol := text }
    return []
  else if specifiers.isStatic then localStatic text written initial specifiers
  else localVariable text written initial specifiers

/-! ## Functions -/

/-- Whether two functions of one name are the same one. -/
def sameFunction (first second : ValueType) : Compile Bool := do
  if ← isCpp then return parametersOf first == parametersOf second
  else
    let isOpen (type : ValueType) : Bool := parametersOf type == ([], true)
    if resultOf first == resultOf second && (isOpen first || isOpen second ||
        parametersOf first == parametersOf second) then return true
    else throw (.redeclared "function")

/-- The function that has been declared before in a scope with a type. -/
def knownFunction? (scope : Nat) (name : Octets) (type : ValueType) : Compile (Option Nat) := do
  let known := ((← scopeEntry scope).names[name]?).getD []
  let isTaken := known.any fun
    | .variable_ _ | .constant .. => true
    | _ => false
  if isTaken then throw (.redeclared name)
  let found ← known.findSomeM? fun entity => do
    match entity with
    | .function id => do
        let entry ← functionEntry id
        if entry.owner.isNone && (← sameFunction entry.type type) then return some id else return none
    | _ => return none
  return found

/-- The parameters of a function with the standard arguments of another declaration. -/
def joinParameters (given known : List Statement) : List Statement :=
  if given.length != known.length then given
  else
    (given.zip known).map fun
      | (.variable_ name type width .absent specifiers, .variable_ _ _ _ standard _) =>
          .variable_ name type width standard specifiers
      | (other, _) => other

/-- What two declarations of a function say together. -/
def joinSpecifiers (given known : Specifiers) : Specifiers :=
  { given with
    isStatic := given.isStatic || known.isStatic
    isInline := given.isInline || known.isInline
    isConstexpr := given.isConstexpr || known.isConstexpr
    isNoexcept := given.isNoexcept || known.isNoexcept
    linkage := given.linkage.orElse fun _ => known.linkage
    label := given.label.orElse fun _ => known.label
    body := if given.body == .plain then known.body else given.body
    attributes := given.attributes ++ known.attributes }

/-- How a function is seen by others. -/
def functionBinding (scope : Nat) (specifiers : Specifiers) : Compile Binding := do
  if specifiers.isStatic then return .internal
  if ← isCpp then
    if ← isPrivateScope scopeDepth scope then return .internal
    if specifiers.isInline || specifiers.isConstexpr then return .weak
  return if isWeak specifiers then .weak else .global

/-- Take account of what the attributes of a function ask for. -/
def obeyAttributes (id : Nat) (isDefined : Bool) : Compile Unit := do
  let entry ← functionEntry id
  for property in entry.specifiers.attributes do
    match property with
    | .constructor order =>
        if isDefined then
          request id
          changeOutput fun output => { output with
            constructors := output.constructors ++ [(order, entry.symbol)] }
    | .destructor order =>
        if isDefined then
          request id
          changeOutput fun output => { output with
            destructors := output.destructors ++ [(order, entry.symbol)] }
    | .weak =>
        if !isDefined then changeOutput fun output => { output with
          optional := entry.symbol :: output.optional }
    | .alias target => changeOutput fun output => { output with
        aliases := (entry.symbol, target) :: output.aliases }
    | .other "used" => if isDefined then request id
    | _ => pure ()

/-- Declare a function by a name without a scope. -/
def plainFunction (name : Expr) (written : TypeExpr) (initializers : List Expr)
    (body : Statement) (specifiers : Specifiers) : Compile Unit := do
  let text := declaredName name
  let here := (← get).scope
  let target ← if specifiers.isFriend then enclosingNamespace here else pure here
  let type ← functionType name written
  let parameters := writtenParameters written
  let isC := !(← isCpp) || specifiers.linkage == some "C" || text == "main"
  let symbol ← match specifiers.label with
    | some label => pure label
    | none => if isC then pure text else functionSymbol target text .plain type []
  let isDefined := !body.isEmpty
  let joined ← match ← knownFunction? target text type with
    | some id => do
        let known ← functionEntry id
        if resultOf known.type != resultOf type && !isInferred (resultOf type) then
          throw (.redeclared text)
        if known.hasBody && isDefined then throw (.redeclared text)
        let all := joinSpecifiers specifiers known.specifiers
        let own := if isDefined || !known.hasBody then joinParameters parameters known.parameters
          else joinParameters known.parameters parameters
        changeFunction id fun entry => { entry with
          type := if parametersOf entry.type == ([], true) then type else entry.type
          symbol := (all.label.filter fun _ => known.specifiers.label.isNone).getD entry.symbol
          specifiers := all, parameters := own
          initializers := if isDefined then initializers else entry.initializers
          body := if isDefined then body else entry.body
          hasBody := entry.hasBody || isDefined
          scope := if isDefined then here else entry.scope }
        pure id
    | none => do
        let id ← addFunction
          { name := text, symbol, type, scope := here, specifiers, parameters, initializers, body
            hasBody := isDefined, depth := (← context).depth }
        declareIn target text (.function id)
        pure id
  let entry ← functionEntry joined
  let binding ← functionBinding target entry.specifiers
  changeFunction joined fun entry => { entry with binding }
  if entry.specifiers.body == .deleted then return
  obeyAttributes joined isDefined
  -- What only is meant to be put in the place of its calls is not there for others.
  let isAbsent := !(← isCpp) && entry.specifiers.isInline && !entry.specifiers.isStatic &&
    !entry.specifiers.isExtern && !specifiers.isExtern
  if isDefined && binding != .internal && !entry.specifiers.isInline &&
      !entry.specifiers.isConstexpr then request joined
  if !(← isCpp) && entry.specifiers.isInline && specifiers.isExtern && entry.hasBody then
    request joined
  if isDefined && isAbsent then
    changeFunction joined fun entry => { entry with progress := .requested }

/-- Declare or define a function. -/
def declareFunction (name : Expr) (written : TypeExpr) (initializers : List Expr)
    (body : Statement) (specifiers : Specifiers) : Compile Unit := do
  if !isOutside name then plainFunction name written initializers body specifiers
  else
    let scope ← scopeOfName 64 name.scopeOf
    let unscoped : Expr := match name with
      | .name _ kind text arguments => .name .absent kind text arguments
      | other => other
    match (← scopeEntry scope).kind with
    | .record id => do
        if specifiers.isFriend then return
        inScope scope (defineMethod id (.function name written initializers body specifiers))
    | _ => inScope scope (plainFunction unscoped written initializers body specifiers)

/-! ## Enumerations -/

/-- The kind of whole number that the values of an enumeration are kept as. -/
def enumerationKind (values : List Int) : Compile ValueType := do
  let least := values.foldl min 0
  let greatest := values.foldl max 0
  let fits (kind : IntegerKind) : Bool := kind.wrap least == least && kind.wrap greatest == greatest
  let order : List IntegerKind := if ← isCpp then [.int, .unsigned, .long, .unsignedLong]
    else if least < 0 then [.int, .long] else [.unsigned, .unsignedLong]
  return .integer ((order.find? fits).getD .unsignedLong)

/-- Declare the items of an enumeration; their values are returned. -/
def enumerators (scopes : List Nat) (type : ValueType) : Int → List Expr → Compile (List Int)
  | _, [] => return []
  | next, item :: rest => do
      match item with
      | .enumerator name written => do
          let number ← if written.isAbsent then pure next
            else do evaluate (← value (← expression written))
          for scope in scopes do
            let known := ((← scopeEntry scope).names[name]?).getD []
            let isTaken := known.any fun
              | .type _ => false
              | _ => true
            if isTaken then throw (.redeclared name)
            declareIn scope name (.constant number type)
          return number :: (← enumerators scopes type (number + 1) rest)
      | _ => throw (.invalid "enumerator")

/-- Declare an enumeration. -/
def declareEnumeration (name : Expr) (isScoped isOpaque : Bool) (underlying : TypeExpr)
    (items : List Expr) : Compile Unit := do
  let text := name.lastName
  let here ← match name.scopeOf with
    | .absent => if ← isCpp then pure (← get).scope else tagScope
    | scope => scopeOfName 64 scope
  let fixed ← match underlying with
    | .automatic => pure (if isScoped then some ValueType.int else none)
    | written => do pure (some (← type written).plain)
  let known := (← scopeEntry here).tags[text]?
  let id ← match known with
    | some (.enumeration id) => pure id
    | some _ => throw (.redeclared text)
    | none => do
        let id := (← get).enumerations.size
        let own ← addScope { kind := .namespace, parent := some here, name := text }
        modify fun environment => { environment with
          enumerations := environment.enumerations.push
            { name := text, underlying := fixed.getD .int, isScoped, scope := own } }
        changeScope here fun scope => { scope with
          tags := scope.tags.insert text (.enumeration id) }
        if ← isCpp then declareIn here text (.type (.enumeration id))
        pure id
  if isOpaque then return
  let own := (← enumeration id).scope
  let inCpp ← isCpp
  let target ← if inCpp then pure (← get).scope else tagScope
  let scopes := if isScoped then [own] else if inCpp then [own, target] else [target]
  let type : ValueType := if inCpp then .enumeration id else .int
  let values ← inScope own (enumerators scopes type 0 items)
  if fixed.isNone then
    let kind ← enumerationKind values
    modify fun environment => { environment with
      enumerations := environment.enumerations.modify id fun found =>
        { found with underlying := kind } }

/-! ## Namespaces -/

/-- The namespace with a name in the present scope; it may be new. -/
def openNamespace (name : Octets) (isInline : Bool) : Compile Nat := do
  let here := (← get).scope
  let key := if name.isEmpty then "<unnamed>" else name
  let known := ((← scopeEntry here).names[key]?).getD []
  let namespace? : Entity → Option Nat
    | .namespace scope => some scope
    | _ => none
  match known.findSome? namespace? with
  | some scope => return scope
  | none => do
      if !known.isEmpty then throw (.redeclared name)
      let title := if name.isEmpty then "_GLOBAL__N_1" else name
      let scope ← addScope { kind := .namespace, parent := some here, name := title }
      declareIn here key (.namespace scope)
      if name.isEmpty || isInline then
        changeScope here fun outer => { outer with used := outer.used ++ [scope] }
      return scope

/-- Let the names of a namespace be known in the present scope. -/
def useNamespace (name : Expr) : Compile Unit := do
  let scope ← scopeOfName 64 name
  if (← scopeEntry scope).kind != .namespace then throw (.invalid "namespace")
  let here := (← get).scope
  if scope != here then
    changeScope here fun outer => { outer with used := outer.used ++ [scope] }

/-- Let a name from another scope be known in the present scope. -/
def useName (name : Expr) : Compile Unit := do
  let scope ← scopeOfName 64 name.scopeOf
  let text := declaredName name
  let entities ← lookupIn scope text
  let tag := (← scopeEntry scope).tags[text]?
  if entities.isEmpty && tag.isNone then throw (.undeclared text)
  let here := (← get).scope
  let known := ((← scopeEntry here).names[text]?).getD []
  for entity in entities do
    if !known.contains entity then declareIn here text entity
  if let some type := tag then
    changeScope here fun outer => { outer with tags := outer.tags.insert text type }

/-! ## Templates -/

/-- The function that a definition for special arguments of a function template defines. -/
def specialFunction (definition : Statement) : Compile Unit := do
  match mainDeclaration definition with
  | .function name written initializers body specifiers => do
      let scope ← match name.scopeOf with
        | .absent => pure (← get).scope
        | outer => scopeOfName 64 outer
      let type ← functionType name written
      let given ← match name with
        | .name _ .template _ arguments => expandAll writtenArgument arguments
        | _ => pure []
      let templates := (((← scopeEntry scope).names[declaredName name]?).getD []).filterMap fun
        | .template id => some id
        | _ => none
      let fitting ← templates.findSomeM? fun id => do
        let found ← template id
        match functionPattern found.declaration with
        | some (result, inputs) =>
            attempt? do
              let known := givenArguments found.parameters given
              match ← inScope found.scope (searchType found.parameters searchDepth
                  (.function result inputs false false) type known) with
              | some bound => return (id, ← inScope found.scope (inOrder found.parameters bound))
              | none => throw (.noMatch found.name)
        | none => return none
      match fitting with
      | none => throw (.noMatch name.lastName)
      | some (id, row) => do
          let found ← template id
          let (inner, all) ← boundScope found.scope found.parameters row
          let made ← makeFunction found id inner all definition
          match made with
          | .function function => do
              let isInline := specifiers.isInline || specifiers.isConstexpr
              changeFunction function fun entry => { entry with
                scope := found.scope, initializers, body
                parameters := writtenParameters written
                binding := if isInline then .weak else .global }
              remember id all made
              if !isInline && !body.isEmpty then request function
          | _ => pure ()
  | _ => throw (.invalid "template")

/-- The template that a member belongs to whose definition stands outside. -/
def ownerTemplate? (name : Expr) : Compile (Option Nat) := do
  match name.scopeOf with
  | .name _ .template _ _ => return (← templatesNamed name.scopeOf).head?
  | _ => return none

/-- Give a member template of a structure its definition. -/
def memberTemplateOutside (id : Nat) (parameters : List Statement) (definition : Statement)
    (name : Expr) : Compile Unit := do
  let found ← record id
  let named := ((← scopeEntry found.scope).names[declaredName name]?).getD []
  let templates := (named ++ found.constructors).filterMap fun
    | .template id => some id
    | _ => none
  let suitable ← templates.filterM fun other => do
    let entry ← template other
    return sameParameters entry.parameters parameters && !isDefinition entry.declaration
  match suitable with
  | other :: _ =>
      changeTemplate other fun entry => { entry with
        parameters := withStandards parameters entry.parameters, declaration := definition }
  | [] => throw (.noMember name.lastName)

/-- Declare a template, or what is defined outside of one. -/
def declareTemplate (parameters : List Statement) (definition : Statement) : Compile Unit := do
  let inner := match definition with
    | .template _ inner => inner
    | other => other
  let some (kind, name) := declaredBy inner | throw (.invalid "template")
  let isSpecial := parameters.isEmpty
  match isSpecial, kind with
  | true, .function =>
      match name.scopeOf, ← ownerTemplate? name with
      | .absent, _ | _, none => specialFunction definition
      | _, some _ => do
          let scope ← scopeOfName 64 name.scopeOf
          match (← scopeEntry scope).kind, mainDeclaration definition with
          | .record id, .function _ written _ _ _ => inScope scope do
              let type ← functionType name written
              let known := ((← scopeEntry scope).names[declaredName name]?).getD []
              for entity in known do
                match entity with
                | .function function =>
                    if parametersOf (← functionEntry function).type == parametersOf type then
                      changeFunction function fun entry => { entry with hasBody := false }
                | _ => pure ()
              defineMethod id definition
          | _, _ => throw (.invalid "template")
  | true, .variable_ =>
      if isOutside name then
        let scope ← scopeOfName 64 name.scopeOf
        if let some id ← knownVariable? scope name.lastName then
          changeVariable id fun known => { known with pending := none }
        let _ ← declaration definition
      else addTemplate (← get).scope parameters definition none .everyone
  | _, _ => do
      match ← ownerTemplate? name with
      | some id => do
          let scope := (← get).scope
          changeTemplate id fun found => { found with
            members := found.members ++ [(parameters, definition, scope)] }
          for (_, entity) in (← template id).instances do
            match entity with
            | .type (.record made) =>
                if (← record made).isComplete then applyOutside made parameters definition scope
            | _ => pure ()
      | none =>
          match name.scopeOf with
          | .absent => addTemplate (← get).scope parameters definition none .everyone
          | outer => do
              let scope ← scopeOfName 64 outer
              match (← scopeEntry scope).kind with
              | .record id => inScope scope (memberTemplateOutside id parameters definition name)
              | _ => inScope scope (addTemplate scope parameters definition none .everyone)

/-! ## Parts of values -/

/-- Let names stand for the parts of an array or a structure. -/
def bindParts (names : List Octets) (object : Operand) : Compile Code := do
  let depth := (← context).depth
  let add (name : Octets) (part : Operand) : Compile Unit := do
    let id ← addVariable
      { name, type := part.type, place := part.code
        depth := if depth == 0 then none else some depth, isDefined := true }
    declare name (.variable_ id)
  match object.type.plain with
  | .array element (some length) => do
      if length != names.length then mismatch "bindings"
      let size ← sizeOf element
      for (name, index) in names.zipIdx do
        let type := if object.type.isConst then element.toConst else element
        add name { object with type, code := shifted object.code (size * index) }
      return []
  | .record id => do
      let found ← completeRecord id
      if found.fields.size != names.length then mismatch "bindings"
      for (name, index) in names.zipIdx do
        add name (← fieldOperand object id index)
      return []
  | _ => mismatch "bindings"

/-- Let names stand for the parts of a value. -/
def declareBindings (names : List Octets) (written : TypeExpr) (initial : Expr) :
    Compile Code := do
  let hidden := "<parts " ++ toString (← fresh) ++ ">"
  let made ← declareVariable (.plainName hidden) written initial {}
  let object ← expression (.plainName hidden)
  let isTuple ← match object.type.recordId? with
    | some _ => do
        let size : Expr := .name (.name (.plainName "std") .template "tuple_size"
          [.type (.plain object.type.plain)]) .plain "value" []
        match ← attempt? do evaluate (← expression size) with
        | some count =>
            if count.toNat != names.length then mismatch "bindings"
            pure true
        | none => pure false
    | none => pure false
  if isTuple then
    let codes ← names.zipIdx.mapM fun (name, index) =>
      declareVariable (.plainName name) (.movedReference .automatic)
        (.initial .assigned [.call
          (.name (.plainName "std") .template "get" [.integer index .size])
          [.plainName hidden]]) {}
    return made ++ codes.flatten
  else return made ++ (← bindParts names object)

/-- What a declaration declares and does. -/
def declarationOf (written : Statement) : Compile Code := do
  let silent (action : Compile Unit) : Compile Code := do
    action
    return []
  match written with
  | .empty | .access _ => return []
  | .group members => do
      let codes ← members.mapM declaration
      return codes.flatten
  | .variable_ name type _ initial specifiers => declareVariable name type initial specifiers
  | .function name type initializers body specifiers =>
      silent (declareFunction name type initializers body specifiers)
  | .bindings names type initial => declareBindings names type initial
  | .alias name target => silent do
      let found ← type target
      let known := ((← scopeEntry (← get).scope).names[name]?).getD []
      match known with
      | [] => declare name (.type found)
      | _ =>
          if !known.contains (.type found) then throw (.redeclared name)
  | .record key name bases members specifiers =>
      silent (defineRecord key name bases members specifiers)
  | .enumeration name isScoped isOpaque underlying items =>
      silent (declareEnumeration name isScoped isOpaque underlying items)
  | .namespace name isInline members => silent do
      let scope ← openNamespace name isInline
      inScope scope do
        for member in members do
          let _ ← declaration member
  | .namespaceAlias name target => silent do
      declare name (.namespace (← scopeOfName 64 target))
  | .useNamespace name => silent (useNamespace name)
  | .use name => silent (useName name)
  | .template parameters inner => silent (declareTemplate parameters inner)
  | .instantiate inner => silent do
      match mainDeclaration inner with
      | .variable_ .absent named _ _ _ =>
          match (← type named).recordId? with
          | some id => let _ ← completeRecord id
          | none => pure ()
      | _ => pure ()
  | .assertion condition => silent do
      let known ← evaluate (← truth (← expression condition))
      if known == 0 then throw (.invalid "assertion")
  | _ => throw (.invalid "declaration")

end QueryFoundry.Native.Compile
