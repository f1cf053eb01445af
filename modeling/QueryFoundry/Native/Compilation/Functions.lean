import QueryFoundry.Native.Compilation.Tables

/-!
# Bodies of functions

What functions are compiled to. A constructor makes the parts of its object before its own body; a
destructor destroys them behind it. The functions that a structure has without being told do the
same with each part.
-/

namespace QueryFoundry.Native.Compile

open Text (Octets)

/-! ## Parameters -/

/-- Let the name of a parameter stand for the argument at a position. -/
def addParameter (name : Octets) (type : ValueType) (position : Nat) : Compile Entity := do
  let place : Code := if type.isRecord then [.argument position, .load 8 false]
    else [.argument position]
  let id := (← get).variables_.size
  let depth := (← context).depth
  modify fun environment => { environment with
    variables_ := environment.variables_.push
      { name, type, place, depth := some depth, isDefined := true } }
  return .variable_ id

/-- Whether a parameter must not be changed. -/
def isConstParameter : TypeExpr → Bool
  | .const _ => true
  | _ => false

/-- Let the names of parameters stand for the arguments from a position on. -/
def addParameters : List Statement → List ValueType → Nat → Compile Unit
  | [], _, _ => pure ()
  | parameter :: rest, types, position => do
      match parameter with
      | .variable_ name written _ _ _ => do
          let text := name.lastName
          match written with
          | .expansion _ => do
              let count := types.length - rest.length
              let entities ← (types.take count).zipIdx.mapM fun (type, index) =>
                addParameter text type (position + index)
              if !text.isEmpty then declare text (.pack entities)
              addParameters rest (types.drop count) (position + count)
          | _ => do
              match types with
              | type :: others => do
                  let full := if isConstParameter written && !type.isReference then type.toConst
                    else type
                  let entity ← addParameter text full position
                  if !text.isEmpty then
                    let here := (← scopeEntry (← get).scope).names
                    if here.contains text then throw (.redeclared text)
                    declare text entity
                  addParameters rest others (position + 1)
              | [] => pure ()
      | _ => addParameters rest types position

/-! ## Results in their place -/

mutual

/-- What the statements that end a function return. -/
def returned : Statement → List Expr
  | .finish value => [value]
  | .block body | .group body => returnedAll body
  | .branch _ _ whenTrue whenFalse => returned whenTrue ++ returned whenFalse
  | .loop _ _ body | .repeat body _ | .forEach _ _ body | .switch _ body => returned body
  | .case _ _ next | .otherwise next | .label _ next => returned next
  | .attempt body handlers => returned body ++ returnedAll handlers
  | .handler _ body => returned body
  | _ => []

/-- What the statements that end a function return. -/
def returnedAll : List Statement → List Expr
  | [] => []
  | first :: rest => returned first ++ returnedAll rest

end

/-- The variable of the outermost block of a function that all its results are: it is made in the
place of the result. -/
def namedResult (body : Statement) (parameters : List Statement) : Octets :=
  match body, returned body with
  | .block statements, .name .absent .plain text _ :: rest =>
      let isSame : Expr → Bool
        | .name .absent .plain other _ => other == text
        | _ => false
      let isDeclared : Statement → Bool
        | .variable_ name _ _ _ specifiers => name.lastName == text && !specifiers.isStatic
        | _ => false
      let isParameter := parameters.any fun parameter => parameterName parameter == text
      if rest.all isSame && statements.any isDeclared && !isParameter then text else ""
  | _, _ => ""

/-! ## Parts of objects -/

/-- Something that has to be made before the body of a constructor. -/
structure Made where
  /-- The structure that is inherited, if it is one. -/
  base : Option Nat := none
  name : Octets := ""
  type : ValueType
  offset : Nat
  bits : Option (Nat × Nat) := none
  initial : Expr := .absent
deriving Inhabited

/-- The function that destroys an inherited part of an object. -/
def baseDestroyer? (id : Nat) : Compile (Option Code) := do
  let found ← completeRecord id
  match found.destructor with
  | none => return none
  | some destructor =>
      let address ← functionAddress destructor
      match found.shared.isEmpty, address with
      | false, [.symbol name _] => return some [.symbol (name ++ " part") 0]
      | _, _ => return some address

/-- Put off the destruction of a part of an object. -/
def deferPart (part : Made) (place : Code) : Compile Code := do
  let destroyer? ← match part.base with
    | some base => baseDestroyer? base
    | none => if part.type.isReference then pure none else destroyer? part.type
  match destroyer? with
  | none => return []
  | some destroyer => return place ++ destroyer ++ [Instruction.defer (← context).level]

/-- The parts of a structure: those that it inherits and its members. -/
def madeParts (found : RecordEntry) (isShared : Bool) : List Made :=
  if isShared then
    found.shared.map fun (base, offset) => { base := some base, type := .record base, offset }
  else
    (found.bases.filter fun base => !base.isVirtual).map (fun base =>
      { base := some base.record, type := .record base.record, offset := base.offset : Made }) ++
    (found.fields.toList.map fun field =>
      { name := field.name, type := field.type, offset := field.offset, bits := field.bits
        initial := field.initial : Made }).filter fun part =>
          part.name != "" || part.type.isRecord

/-- What is written for the parts of an object in front of the body of a constructor. -/
structure Initializer where
  /-- The structure that the name stands for, if it does. -/
  base : Option Nat
  name : Octets
  value : Expr
  scope : Nat
deriving Inhabited

/-- The initial values that are written in front of the body of a constructor. -/
def readInitializers (id : Nat) (written : List Expr) : Compile (List Initializer) := do
  let fields := (← record id).fields.toList.map (·.name)
  expandAll (fun item => do
    match item with
    | .assign none name value => do
        let scope := (← get).scope
        let isField := name.scopeOf.isAbsent && fields.contains name.lastName
        let base ← if isField then pure none else do
          match ← attempt? (namedType? name) with
          | some (some (.record base)) => pure (some base)
          | _ => pure none
        if base.isNone && !isField && (← members id name.lastName).isEmpty then
          throw (.noMember name.lastName)
        return { base, name := name.lastName, value, scope : Initializer }
    | _ => throw (.invalid "initializer")) written

/-- Give a part of an object its first value. -/
def makePart (id : Nat) (place : Code) (given : List Initializer) (part : Made) : Compile Code := do
  let target := shifted place part.offset
  match part.base with
  | some base => do
      let value? := given.find? fun initializer => initializer.base == some base
      let operands ← match value? with
        | none => pure []
        | some initializer => inScope initializer.scope do
            match initializer.value with
            | .initial .arguments items => expandAll argumentOperand items
            | .initial _ items => expandAll argumentOperand items
            | _ => pure []
      let found ← completeRecord base
      let isSame (single : Operand) : Bool :=
        single.type.plain == ValueType.record base && single.category == Category.value
      match operands.all isSame, operands with
      | true, [single] => return target ++ single.code
      | _, _ => do
          let isListed := match value? with
            | some initializer => match initializer.value with
              | .initial .braces _ => true
              | _ => false
            | none => false
          let chosen? ← attempt? (choose found.name found.constructors none none operands)
          match chosen?, isListed, value? with
          | none, true, some initializer =>
              inScope initializer.scope (initial (.record base) target initializer.value)
          | _, _, _ => do
              let chosen ← choose found.name found.constructors none none operands
              let isZeroed := value?.isSome && operands.isEmpty &&
                (← functionEntry chosen).isImplicit
              let clear : Code := [.clear found.usedSize]
              let cleared := if isZeroed then target ++ clear else []
              return cleared ++ target ++ (← constructBy chosen operands false)
  | none => do
      let own := given.find? fun initializer => initializer.base.isNone && initializer.name == part.name
      let inner? ← match own, part.name, part.type.recordId? with
        | none, "", some hidden => do
            let inside ← given.filterM fun initializer => do
              return initializer.base.isNone && !(← members hidden initializer.name).isEmpty
            pure (some (hidden, inside))
        | _, _, _ => pure none
      match inner? with
      | some (hidden, inside) => do
          if inside.isEmpty then
            return target ++ (← makeDefault (.record hidden) false)
          let codes ← inside.mapM fun initializer => inScope initializer.scope do
            let field ← memberOperand
              { type := part.type, category := .place, code := target }
              (.plainName initializer.name)
            initial field.type field.code initializer.value
          return codes.flatten
      | none => do
          let (scope, value) := match own with
            | some initializer => (some initializer.scope, initializer.value)
            | none => (none, part.initial)
          if value.isAbsent && !part.type.isReference && part.type.isConst &&
              part.type.isScalar then mismatch "const"
          let inside : Compile Code := do
            match part.bits with
            | none =>
                if value.isAbsent && !part.type.isReference then
                  match ← makeDefault part.type false with
                  | [.drop] => return []
                  | code => return target ++ code
                else initial part.type target value
            | some _ =>
                match value with
                | .absent => return []
                | .initial _ [] => do
                    storeInto part.type target part.bits (.ofInt 0 .int)
                | .initial _ [single] => do
                    storeInto part.type target part.bits (← argumentOperand single)
                | other => do storeInto part.type target part.bits (← expression other)
          match scope with
          | some scope => inScope scope inside
          | none => inScope (← record id).scope inside

/-- Make parts of an object; each of them is destroyed if something fails later. -/
def makeParts (id : Nat) (place : Code) (given : List Initializer) (parts : List Made) :
    Compile Code := do
  let codes ← parts.mapM fun part => do
    let made ← wholeExpression (makePart id place given part)
    return made ++ (← deferPart part (shifted place part.offset))
  return codes.flatten

/-! ## Constructors and destructors -/

/-- Compile a body that something has to be done behind. -/
def inFinished (body : Compile Code) : Compile Code := do
  let label ← newLabel
  let level := (← context).level
  changeContext fun context => { context with finishTarget := some (label, level) }
  let code ← wholeExpression body
  changeContext fun context => { context with finishTarget := none }
  return code ++ [Instruction.label label]

/-- What a constructor does. -/
def constructorBody (entry : FunctionEntry) (id : Nat) (parts : List Made → Compile Code) :
    Compile Code := do
  let found ← record id
  let place ← selfCode
  let isUnion := found.key == .union
  let whole ← if found.shared.isEmpty then pure [] else do
    let skip ← newLabel
    let tables ← setTables id place
    let made ← parts (madeParts found true)
    pure ([Instruction.argument 1, .load 8 false, .jumpIfZero skip] ++ tables ++ made ++
      [Instruction.label skip])
  let all := madeParts found false
  let bases ← parts (all.filter fun part => part.base.isSome)
  let tables ← if found.tables.isEmpty then pure []
    else if found.shared.isEmpty then setTables id place
    else do
      let skip ← newLabel
      pure ([Instruction.argument 1, .load 8 false, .jumpIfZero skip] ++ (← setTables id place) ++
        [Instruction.label skip])
  let ownFields := all.filter fun part => part.base.isNone
  let fields ← if isUnion then do
      let chosen ← match entry.initializers with
        | .assign none name _ :: _ =>
            pure (ownFields.filter fun part => part.name == name.lastName)
        | _ => pure (ownFields.filter fun part => !part.initial.isAbsent)
      parts chosen
    else parts ownFields
  let body ← inFinished (statement entry.body)
  return whole ++ bases ++ tables ++ fields ++ body ++ [Instruction.dismiss 1, .push 0, .finish]

/-- The constructor of the same structure that a constructor leaves everything to. -/
def delegation? (id : Nat) (given : List Initializer) : Option Initializer :=
  given.find? fun initializer => initializer.base == some id

/-- Compile a constructor that is written. -/
def writtenConstructor (entry : FunctionEntry) (id : Nat) : Compile Code := do
  let given ← readInitializers id entry.initializers
  let place ← selfCode
  match delegation? id given with
  | some initializer => do
      let made ← wholeExpression <| inScope initializer.scope do
        let operands ← match initializer.value with
          | .initial _ items => expandAll argumentOperand items
          | _ => pure []
        let found ← record id
        let chosen ← choose found.name found.constructors none none operands
        return place ++ (← constructBy chosen operands true)
      let guard ← deferPart { base := some id, type := .record id, offset := 0 } place
      let body ← inFinished (statement entry.body)
      return made ++ guard ++ body ++ [Instruction.dismiss 1, .push 0, .finish]
  | none => constructorBody entry id (makeParts id place given)

/-- Copy a part of an object to the place of the same part of another one. -/
def copyPart (place : Code) (source : Operand) (part : Made) : Compile Code := do
  let target := shifted place part.offset
  match part.base with
  | some base => do
      let found ← completeRecord base
      let given := { source with
        type := if source.type.isConst then (ValueType.record base).toConst else .record base
        code := shifted source.code part.offset }
      let chosen ← choose found.name found.constructors none none [given]
      return target ++ (← constructBy chosen [given] false)
  | none => do
      let given := shifted source.code part.offset
      if part.type.isReference then return target ++ given ++ [Instruction.load 8 false, .store 8]
      let constant (type : ValueType) : ValueType :=
        if source.type.isConst then type.toConst else type
      match part.type.plain with
      | .array .. => do
          let element := elementType part.type
          let size ← sizeOf element
          let isPlain ← match element with
            | .record inner => do pure (← completeRecord inner).isPlainToCopy
            | _ => pure true
          if isPlain then return target ++ given ++ [Instruction.copy (← sizeOf part.type)]
          let codes ← (List.range (elementCount part.type)).mapM fun index =>
            storeInto element (shifted target (size * index)) none
              { source with type := constant element, code := shifted given (size * index) }
          return codes.flatten
      | _ =>
          storeInto part.type target part.bits
            { source with type := constant part.type, code := given, bits := part.bits }

/-- Assign a part of an object to the same part of another one. -/
def assignPart (place : Code) (source : Operand) (part : Made) : Compile Code := do
  let target := shifted place part.offset
  let given := shifted source.code part.offset
  let constant (type : ValueType) : ValueType :=
    if source.type.isConst then type.toConst else type
  let single (type : ValueType) (offset : Nat) : Compile Code := do
    let left : Operand :=
      { type, category := .place, code := shifted target offset, bits := part.bits }
    let right := { source with
      type := constant type, code := shifted given offset, bits := part.bits }
    match part.base, type.recordId? with
    | some _, some inner =>
        if isEmptyRecord (← completeRecord inner) then return []
        else if (← record inner).isPlainToAssign then
          return left.code ++ right.code ++ [Instruction.copy (← record inner).usedSize]
        else discarded (← assignTo left right)
    | _, _ => discarded (← assignTo left right)
  match part.type.plain with
  | .array .. => do
      let element := elementType part.type
      let size ← sizeOf element
      let codes ← (List.range (elementCount part.type)).mapM fun index =>
        single element (size * index)
      return codes.flatten
  | _ => single part.type 0

/-- The other object that a function of a structure copies from. -/
def otherObject (entry : FunctionEntry) (id position : Nat) : Operand :=
  let (parameters, _) := parametersOf entry.type
  let self : ValueType := .record id
  match parameters with
  | .movedReference _ :: _ =>
      { type := self, category := .moved, code := [.argument position, .load 8 false] }
  | .reference inner :: _ =>
      { type := if inner.isConst then self.toConst else self, category := .place
        code := [.argument position, .load 8 false] }
  | _ => { type := self, category := .place, code := [.argument position, .load 8 false] }

/-- Compile a function that a structure has without being told. -/
def implicitBody (entry : FunctionEntry) (id : Nat) : Compile Code := do
  let found ← record id
  let place ← selfCode
  let (parameters, _) := parametersOf entry.type
  match entry.kind with
  | .constructor =>
      if parameters.isEmpty then
        constructorBody { entry with body := .empty } id (makeParts id place [])
      else
        let source := otherObject entry id (if found.shared.isEmpty then 1 else 2)
        if found.key == .union then
          return place ++ source.code ++ [Instruction.copy found.size, .push 0, .finish]
        constructorBody { entry with body := .empty } id fun parts => do
          let codes ← parts.mapM fun part => do
            let made ← wholeExpression (copyPart place source part)
            return made ++ (← deferPart part (shifted place part.offset))
          return codes.flatten
  | _ => do
      let source := otherObject entry id 1
      if found.key == .union then
        return place ++ source.code ++ [Instruction.copy found.size] ++ place ++
          [Instruction.finish]
      let codes ← (madeParts found false).mapM fun part =>
        wholeExpression (assignPart place source part)
      let shared ← (madeParts found true).mapM fun part =>
        wholeExpression (assignPart place source part)
      return codes.flatten ++ shared.flatten ++ place ++ [Instruction.finish]

/-- Compile a destructor; parts that are inherited virtually belong to whole objects only. -/
def destructorBody (entry : FunctionEntry) (id : Nat) (isWhole : Bool) : Compile Code := do
  let found ← record id
  let place ← selfCode
  let isUnion := found.key == .union
  let shared := if isWhole then madeParts found true else []
  let parts := if isUnion then [] else shared ++ madeParts found false
  let tables ← if found.tables.isEmpty || !(found.shared.isEmpty || isWhole) then pure []
    else setTables id place
  let puttingOff ← parts.mapM fun part => deferPart part (shifted place part.offset)
  let body ← wholeExpression (statement entry.body)
  return tables ++ puttingOff.flatten ++ body ++ [Instruction.push 0, .finish]

/-! ## Functions -/

/-- Compile the body of a function in its context; the scope of its parameters is the present one. -/
def bodyCode (entry : FunctionEntry) (isWhole : Bool) : Compile Code := do
  match entry.kind, entry.owner with
  | .constructor, some id =>
      if entry.isImplicit || entry.specifiers.body == .defaulted then implicitBody entry id
      else writtenConstructor entry id
  | .destructor, some id => destructorBody entry id isWhole
  | _, some id =>
      if entry.isImplicit || entry.specifiers.body == .defaulted then implicitBody entry id
      else return (← wholeExpression (statement entry.body)) ++ [Instruction.push 0, .finish]
  | _, none => return (← wholeExpression (statement entry.body)) ++ [Instruction.push 0, .finish]

/-- Move the positions of arguments down by one. -/
def withoutFirstArgument (code : Code) : Code :=
  code.map fun
    | .argument index => .argument (index - 1)
    | other => other

/-- Let nothing that is thrown leave a function that promises so. -/
def shielded (entry : FunctionEntry) (code : Code) : Code :=
  let isThrowing := code.any fun
    | .call _ | .throw | .rethrow => true
    | _ => false
  if entry.specifiers.isNoexcept && isThrowing then .shield 1 :: code else code

/-- The context that a function is compiled in. -/
def functionContext (id : Nat) (entry : FunctionEntry) : Compile Context := do
  let result := resultOf entry.type
  let isInferring := isInferred result
  let hasPlace := result.isRecord || isInferring
  let isMethod := entry.owner.isSome && !entry.isStatic
  let constant := virtualPosition?.isConstFunction entry.type
  let owner? ← match entry.owner with
    | some owner => do pure (some (← completeRecord owner))
    | none => pure none
  let hasFlag := entry.kind == .constructor && owner?.any fun found => !found.shared.isEmpty
  let first := (if hasPlace then 1 else 0) + (if isMethod then 1 else 0) + if hasFlag then 1 else 0
  let self? : Option ValueType := match isMethod, entry.owner with
    | true, some owner =>
        let type : ValueType := .record owner
        some (if constant then type.toConst else type)
    | _, _ => none
  let base : Context :=
    { depth := entry.depth + 1, function := some id, result, self := self?
      resultPlace := if hasPlace then [.argument 0, .load 8 false] else []
      infersResult := isInferring
      argumentCount := first + (parametersOf entry.type).1.length
      namedResult := if result.isRecord then namedResult entry.body entry.parameters else "" }
  match owner?, entry.owner with
  | some found, some owner =>
      if found.isClosure then
        let closureCode : Code := [.argument (if hasPlace then 1 else 0), .load 8 false]
        let captured := found.fields.find? fun field => field.name == "this"
        match captured with
        | some field =>
            let place := shifted closureCode field.offset
            match field.type.plain with
            | .pointer target =>
                return { base with
                  self := some target, selfPlace := place ++ [Instruction.load 8 false]
                  closure := some (owner, .nothing) }
            | other =>
                return { base with
                  self := some (if constant then other.toConst else other), selfPlace := place
                  closure := some (owner, .nothing) }
        | none => return { base with self := none, closure := some (owner, .nothing) }
      else return base
  | _, _ => return base

/-- Compile a function with a body under a symbol. -/
def emitBody (id : Nat) (symbol : Octets) (isWhole : Bool) : Compile Unit := do
  let entry ← functionEntry id
  let inner ← functionContext id entry
  let isInferring := inner.infersResult
  let first := inner.argumentCount - (parametersOf entry.type).1.length
  let (code, found) ← inFunction inner <| inScope entry.scope <| inNewScope .block do
    addParameters entry.parameters (parametersOf entry.type).1 first
    bodyCode entry isWhole
  let missing := found.labels.filter fun (_, number) =>
    !found.labelLevels.any fun entry => entry.1 == number
  if let (name, _) :: _ := missing then throw (.undeclared name)
  if isInferring && found.infersResult then
    changeFunction id fun entry => { entry with
      type := match entry.type with
        | .function _ parameters isVariadic isConst =>
            .function .void parameters isVariadic isConst
        | other => other }
  let final ← functionEntry id
  let isShifted := isInferring && !(resultOf final.type).isRecord
  let whole := shielded entry (if isShifted then withoutFirstArgument code else code)
  emitFunction
    { symbol, binding := entry.binding, isHidden := ← isHiddenBy entry.specifiers
      frameSize := found.frameSize, code := whole.assemble found.labelLevels }

/-- Compile the body of a function, unless that has been done. -/
def compileFunction (id : Nat) : Compile Unit := do
  let entry ← functionEntry id
  if entry.progress == .compiled then return
  let isDefined := entry.hasBody || entry.isImplicit || entry.specifiers.body == .defaulted
  if !isDefined then return
  changeFunction id fun entry => { entry with progress := .compiled }
  let outer := (← get).isConverting
  modify fun environment => { environment with isConverting := false }
  let owner? ← match entry.owner with
    | some owner => do pure (some (← completeRecord owner))
    | none => pure none
  emitBody id entry.symbol true
  if entry.kind == .destructor && owner?.any fun found => !found.shared.isEmpty then
    emitBody id (entry.symbol ++ " part") false
  modify fun environment => { environment with isConverting := outer }

end QueryFoundry.Native.Compile
