import QueryFoundry.Native.Compilation.Members

/-!
# Functions without names

A function without a name is an object whose structure holds what the function captures, and which
can be called. Where everything may be captured, that is each variable of the function around it
whose name occurs.
-/

namespace QueryFoundry.Native.Compile

open Text (Octets)

/-- Something that is captured: the name and the type of the member that holds it, and the operand
that it is given. -/
structure Captured where
  name : Octets
  type : ValueType
  value : Operand
deriving Inhabited

/-- Whether an entity belongs to the function that is being compiled, so that it has to be captured. -/
def isLocal (entity : Entity) : Compile Bool := do
  let here ← context
  match entity with
  | .variable_ id => return (← variable_ id).depth == some here.depth && here.depth != 0
  | .field owner _ => return here.closure.any fun closure => closure.1 == owner
  | _ => return false

/-- Capture what an entity stands for. -/
def captureEntity (name : Octets) (isReference : Bool) (entity : Entity) : Compile Captured := do
  let found ← entityOperand name false [entity] none
  let operand := { found with constant := none }
  if isReference then return { name, type := referenceTo operand.type, value := operand }
  else return { name, type := operand.type, value := operand }

/-- Capture what a name stands for; of a pack, each member. -/
def captureName (name : Octets) (isReference : Bool) :
    Compile (List Captured × Option (Octets × Nat)) := do
  match ← lookup name with
  | [.pack entities] => do
      let found ← entities.zipIdx.mapM fun (entity, index) =>
        captureEntity (name ++ " " ++ toString index) isReference entity
      return (found, some (name, found.length))
  | entities =>
      match ← entities.filterM isLocal with
      | entity :: _ => return ([← captureEntity name isReference entity], none)
      | [] =>
          if entities.isEmpty then throw (.undeclared name) else return ([], none)

/-- Capture the object that the present function works on. -/
def captureSelf (isReference : Bool) : Compile (List Captured) := do
  match (← context).self with
  | none => return []
  | some type =>
      let object ← selfOperand
      if isReference then
        let value : Operand := { type := .pointer type, code := object.code }
        return [{ name := "this", type := .pointer type, value }]
      else return [{ name := "this", type := type.plain, value := object }]

/-- What a function without a name captures as it is written. -/
def captureWritten (written : Expr) : Compile (List Captured × Option (Octets × Nat)) := do
  match written with
  | .capture "this" isReference .absent => return (← captureSelf isReference, none)
  | .capture "" _ .absent => return ([], none)
  | .capture name isReference .absent => captureName name isReference
  | .capture name isReference value => do
      let single := match value with
        | .initial .braces [single] => single
        | other => other
      let operand ← expression single
      if isReference then
        return ([{ name, type := referenceTo operand.type, value := operand }], none)
      else
        let type := operand.type.decayed
        return ([{ name, type, value := operand }], none)
  | _ => throw (.invalid "capture")

/-- What a function without a name captures because its name occurs. -/
def captureMentioned (names : List Octets) (isReference : Bool) :
    Compile (List Captured × List (Octets × Nat)) := do
  let found ← names.mapM fun name => do
    match ← lookup name with
    | [.pack entities] =>
        if ← entities.anyM isLocal then some <$> captureName name isReference else return none
    | entities =>
        if ← entities.anyM isLocal then some <$> captureName name isReference else return none
  let taken := found.filterMap id
  return ((taken.map Prod.fst).flatten, taken.filterMap Prod.snd)

/-- Give the member that holds something captured its value. -/
def storeCaptured (place : Code) (field : Field) (operand : Operand) : Compile Code := do
  let target := shifted place field.offset
  match field.type.plain with
  | .array .. => return target ++ operand.code ++ [Instruction.copy (← sizeOf field.type)]
  | _ => storeInto field.type target none operand

/-- Let a function without a name that captures nothing be turned into a pointer to a function. -/
def addPointerConversion (id function : Nat) : Compile Unit := do
  Compile.function function
  let entry ← functionEntry function
  match entry.type with
  | .function result parameters isVariadic _ => do
      let plain : ValueType := .function result parameters isVariadic false
      let number := toString (← fresh)
      let first := if result.isRecord then 1 else 0
      let count := parameters.length
      let given : Code := (List.range count).reverse.flatMap fun index =>
        [.argument (first + index), .load 8 false]
      let place : Code := if result.isRecord then [.argument 0, .load 8 false] else []
      let code : Code := given ++ [Instruction.push 0] ++ place ++
        [Instruction.symbol entry.symbol 0, .call (count + 1 + first), .finish]
      emitFunction
        { symbol := "plain " ++ number, binding := .internal, frameSize := 0
          code := code.assemble [] }
      let symbol := "pointer " ++ number
      emitFunction
        { symbol, binding := .internal, frameSize := 0
          code := (Code.assemble [.symbol ("plain " ++ number) 0, .finish] []) }
      let conversion := (← get).functions.size
      modify fun environment => { environment with
        functions := environment.functions.push
          { name := "conversion", kind := .conversion, symbol
            type := .function (.pointer plain) [] false true, scope := 0, owner := some id
            progress := .compiled } }
      changeRecord id fun found => { found with conversions := [.function conversion] }
  | _ => pure ()

/-- The object that a function without a name is. -/
def closure (captures : List Expr) (definition : Statement) : Compile Operand := do
  let written ← captures.mapM captureWritten
  let explicit := (written.map Prod.fst).flatten
  let explicitPacks := written.filterMap Prod.snd
  let rule? := captures.findSome? fun
    | .capture "" isReference .absent => some isReference
    | _ => none
  let known := explicit.map (·.name) ++ explicitPacks.map Prod.fst
  let (implicit, packs) ← match rule? with
    | none => pure ([], [])
    | some isReference => do
        let names := definition.mentioned.eraseDups.filter fun name => !known.contains name
        let (found, packs) ← captureMentioned names isReference
        let self ← if known.contains "this" then pure [] else captureSelf true
        pure (found ++ self, packs)
  let all := explicit ++ implicit
  let name := "<closure " ++ toString (← fresh) ++ ">"
  let parts := all.map fun captured =>
    Statement.variable_ (.plainName captured.name) (.plain captured.type) .absent .absent {}
  let _ ← declaration (.record .struct (.plainName name) [] (parts ++ [definition]) {})
  let some type ← lookupTag? name scopeDepth (← get).scope | throw (.undeclared name)
  let id := type.recordId?.getD 0
  changeRecord id fun found => { found with isClosure := true, isAggregate := false }
  let found ← completeRecord id
  for (pack, count) in explicitPacks ++ packs do
    let entities ← (List.range count).mapM fun index => do
      let member := pack ++ " " ++ toString index
      return (((← scopeEntry found.scope).names[member]?).getD []).headD (.constant 0 .int)
    replaceIn found.scope pack (.pack entities)
  let isPlain := match definition with
    | .template .. => false
    | _ => true
  match (← members id "operator ()"), isPlain with
  | [.function function], true =>
      if all.isEmpty then addPointerConversion id function
      request function
  | _, _ => pure ()
  let (take, place) ← takeAddress
  let filled ← (found.fields.toList.zip all).mapM fun (field, captured) =>
    storeCaptured place field captured.value
  return { type := .record id, code := take ++ filled.flatten }

end QueryFoundry.Native.Compile
