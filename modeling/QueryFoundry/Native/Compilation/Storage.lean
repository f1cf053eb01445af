import QueryFoundry.Native.Compilation.Operators

/-!
# Storage

Things that live as long as the program: how they are named and seen by other sources, and when they
are given their initial values. Values that are known beforehand are there before anything else is
done; the others are found out one after the other when the program is started.
-/

namespace QueryFoundry.Native.Compile

open Text (Octets)

/-! ## Levels -/

/-- Compile something that is a level of its own: what it puts off is done at its end. -/
def inLevel {α : Type} (action : Compile (Code × α)) : Compile (Code × α) := do
  let outer ← context
  let level := outer.level + 1
  changeContext fun context => { context with level, hasDeferred := false }
  let (code, result) ← action
  let isLeft := (← context).hasDeferred
  changeContext fun context => { context with
    level := outer.level, hasDeferred := outer.hasDeferred }
  return (if isLeft then code ++ [Instruction.close level] else code, result)

/-- Compile an expression as a whole: its temporary objects are destroyed at its end. -/
def wholeExpression (action : Compile Code) : Compile Code := do
  let (code, _) ← inLevel do return (← action, ())
  return code

/-! ## Functions of their own -/

/-- Compile something as the body of another function; what was found out about that function is
returned, too. -/
def inFunction {α : Type} (inner : Context) (action : Compile α) : Compile (α × Context) := do
  let outer ← context
  changeContext fun _ => inner
  let result ← action
  let found ← context
  changeContext fun _ => outer
  return (result, found)

/-- Compile something as a function without arguments and a result; its symbol and what it does are
returned. -/
def emitRoutine (action : Compile Code) : Compile (Octets × Code) := do
  let symbol := "routine " ++ toString (← fresh)
  let (code, found) ← inFunction { depth := (← context).depth } action
  let whole : Code := code ++ [Instruction.push 0, .finish]
  emitFunction
    { symbol, binding := .internal, frameSize := found.frameSize
      code := whole.assemble found.labelLevels }
  return (symbol, code)

/-- Whether some code depends on nothing that is done when the program runs. -/
def isFixed : Code → Bool
  | [] => true
  | .symbol name _ :: .copy _ :: rest => name.startsWith "text " && isFixed rest
  | .copy _ :: _ | .load .. :: _ | .call _ :: _ | .service .. :: _ | .defer _ :: _
  | .throw :: _ => false
  | _ :: rest => isFixed rest

/-- What calls a function without arguments. -/
def callRoutine (symbol : Octets) : Code :=
  [.symbol symbol 0, .call 0, .drop]

/-- Do something before anything else is done. -/
def addPreparation (symbol : Octets) : Compile Unit :=
  modify fun environment => { environment with
    prepare := environment.prepare ++ callRoutine symbol }

/-- Do something when the program is started. -/
def addStartup (symbol : Octets) : Compile Unit :=
  modify fun environment => { environment with
    startup := environment.startup ++ callRoutine symbol }

/-- Let an object be destroyed when the program ends or its library is unloaded. -/
def destroyAtExit (type : ValueType) (place : Code) : Compile Code := do
  match ← destroyer? type with
  | none => return []
  | some destroyer =>
      return [Instruction.symbol "__dso_handle" 0] ++ place ++ destroyer ++
        [Instruction.service "atExit" 3, .drop]

/-! ## How symbols are seen -/

/-- Whether a symbol is seen in its library only. -/
def isHiddenBy (specifiers : Specifiers) : Compile Bool := do
  let visibility? := specifiers.attributes.findSome? fun
    | .visibility name => some name
    | _ => none
  match visibility? with
  | some name => return name == "hidden" || name == "internal"
  | none => return (← get).hidesSymbols

/-- Whether there may be another thing with the same symbol. -/
def isWeak (specifiers : Specifiers) : Bool :=
  specifiers.attributes.contains .weak

/-- The kind of number that a known value of a type is, if values of the type can be known. -/
def isKnowable (type : ValueType) : Bool :=
  type.isArithmetic || type.isEnumeration

/-- The value that an initial value gives a variable of a type, if it is known beforehand. Where it
has to be, the program is run to find it out. -/
def knownValue? (type : ValueType) (written : Expr) (isForced : Bool) :
    Compile (Option Constant) := do
  if !isKnowable type then return none
  let found ← hypothetically? do
    let operand ← match written with
      | .initial .braces items => pure { type := .automatic, subject := .list items : Operand }
      | .initial _ [.initial .braces items] =>
          pure { type := .automatic, subject := .list items : Operand }
      | .initial _ [single] => expression single
      | .initial _ _ => throw .notConstant
      | plain => expression plain
    let made ← convert operand type.plain
    match made.constant with
    | some constant => pure constant
    | none =>
        if isForced && type.plain.isReal == false then return .integer (← evaluate made)
        else throw .notConstant
  return found

/-! ## Variables -/

/-- Give a variable with a symbol room and its initial value, which some action finds out. -/
def defineStaticWith (id : Nat) (binding : Binding) (isHidden isForced : Bool)
    (action : Code → Compile Code) : Compile Unit := do
  let symbol := (← variable_ id).symbol
  changeVariable id fun known => { known with isDefined := true }
  if let some (.integer known) := (← variable_ id).constant then
    let (size, alignment) ← storageOf (← variable_ id).type
    emitData
      { symbol, binding, isHidden, size, alignment
        bytes := (wordBytes (wordOf known).toNat).take size }
    return
  let place : Code := [.symbol symbol 0]
  let (routine, code) ← emitRoutine (wholeExpression (action place))
  let found ← variable_ id
  let (size, alignment) ← storageOf found.type
  emitData { symbol, binding, isHidden, size, alignment }
  if !isFixed code then
    if !(← isCpp) then throw .notConstant
    if isForced then
      let _ ← evaluate { type := .int, code := [.symbol routine 0, .call 0] }
  if !code.isEmpty then
    if isFixed code || isForced then addPreparation routine else addStartup routine
  if !found.type.isReference && (← needsDestruction found.type) then
    let (destruction, _) ← emitRoutine (destroyAtExit found.type place)
    addStartup destruction

/-- Give a variable with a symbol room and its initial value. -/
def defineStatic (id : Nat) (written : Expr) (binding : Binding) (isHidden isForced : Bool) :
    Compile Unit :=
  defineStaticWith id binding isHidden isForced fun place => do
    if written.isAbsent && !(← isCpp) then return []
    let type := (← variable_ id).type
    if isForced && written.isAbsent && type.isScalar then mismatch "const"
    setInitial type place written

end QueryFoundry.Native.Compile
