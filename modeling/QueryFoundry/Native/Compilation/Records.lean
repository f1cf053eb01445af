import QueryFoundry.Native.Compilation.Generic

/-!
# Structures

The members of structures and the room that they take, and the functions that a structure has
without being told.
-/

namespace QueryFoundry.Native.Compile

open Text (Octets)

/-! ## Members -/

/-- Add a member to a structure; its place is found out later. -/
def addField (id : Nat) (field : Field) : Compile Unit := do
  let found ← record id
  if field.name != "" then
    let known := ((← scopeEntry found.scope).names[field.name]?).getD []
    let isTaken := known.any fun
      | .field owner _ => owner == id
      | .variable_ _ | .function _ => true
      | _ => false
    if isTaken then throw (.redeclared field.name)
    declareIn found.scope field.name (.field id found.fields.size)
  changeRecord id fun found => { found with fields := found.fields.push field }

/-- Let the members of a member without a name be known as members of the structure itself. -/
def importNames (id inner : Nat) : Compile Unit := do
  let target := (← record id).scope
  let names := (← scopeEntry (← record inner).scope).names
  for (name, entities) in names.toList do
    let fields := entities.filter fun
      | .field .. => true
      | _ => false
    for entity in fields do
      let known := ((← scopeEntry target).names[name]?).getD []
      if !known.isEmpty then throw (.redeclared name)
      declareIn target name entity

/-- Declare a function that is a member of a structure. -/
def addMethod (id : Nat) (access : Access) (name : Expr) (written : TypeExpr)
    (initializers : List Expr) (body : Statement) (specifiers : Specifiers) : Compile Nat := do
  let found ← record id
  let kind := memberKind found name
  let text := declaredName name
  let type ← functionType name written
  let symbol ← functionSymbol found.scope text kind type []
  let entry : FunctionEntry :=
    { name := text, kind, symbol := symbol ++ specifiers.subjectMark, type, scope := found.scope
      owner := some id, access, specifiers
      isStatic := specifiers.isStatic || isAlwaysStatic text
      isVirtual := specifiers.isVirtual
      isImplicit := specifiers.body == .defaulted
      parameters := writtenParameters written, initializers, body
      hasBody := !body.isEmpty
      binding := if found.depth == 0 then .weak else .internal
      depth := found.depth }
  let isSame (entity : Entity) : Compile Bool := do
    match entity with
    | .function other => do
        let known ← functionEntry other
        return known.owner == some id && parametersOf known.type == parametersOf type &&
          known.specifiers.subjectMark == specifiers.subjectMark &&
          virtualPosition?.isConstFunction known.type == virtualPosition?.isConstFunction type
    | _ => return false
  let known ← match kind with
    | .constructor => pure found.constructors
    | .conversion => pure []
    | .destructor => pure (found.destructor.toList.map Entity.function)
    | .plain => do pure (((← scopeEntry found.scope).names[text]?).getD [])
  if ← known.anyM isSame then throw (.redeclared text)
  let function ← addFunction entry
  match kind with
  | .constructor => changeRecord id fun found => { found with
      constructors := found.constructors ++ [.function function] }
  | .destructor => changeRecord id fun found => { found with destructor := some function }
  | .conversion => changeRecord id fun found => { found with
      conversions := found.conversions ++ [.function function] }
  | .plain => declareIn found.scope text (.function function)
  return function

/-- Declare a variable that belongs to a structure and not to its objects. -/
def addStaticMember (id : Nat) (access : Access) (statement : Statement) : Compile Unit := do
  match statement with
  | .variable_ name written width initial specifiers => do
      let found ← record id
      let text := name.lastName
      let declared ← type written
      let inferred ← if isInferred declared then do
          match initial with
          | .initial _ [single] => pure (inferFrom declared (← expression single).type.decayed)
          | _ => mismatch "auto"
        else match declared with
          | .array element none => do pure (.array element (← listedLength element initial))
          | _ => pure declared
      let full := if specifiers.isConstexpr then inferred.toConst else inferred
      let symbol := "_Z" ++ (← scopedSymbol found.scope (partName text))
      let number := (← get).variables_.size
      let isGiven := !initial.isAbsent || specifiers.isInline
      modify fun environment => { environment with
        variables_ := environment.variables_.push
          { name := text, type := full, place := [.symbol symbol 0], symbol, access
            pending := if isGiven then
                some (.variable_ (.plainName text) written width initial specifiers, found.scope)
              else none } }
      declareIn found.scope text (.variable_ number)
  | _ => pure ()

/-- Let the constructors of an inherited structure be constructors of a structure. -/
def inheritConstructors (id base : Nat) (access : Access) (baseName : Expr) : Compile Unit := do
  let found ← completeRecord base
  for entity in found.constructors do
    match entity with
    | .function function => do
        let entry ← functionEntry function
        let (parameters, _) := parametersOf entry.type
        let isCopy := parameters.length == 1 &&
          (parameters.headD .void).referred.plain == .record base
        if !isCopy && !parameters.isEmpty then
          let names := (List.range parameters.length).map fun index => "<given " ++ toString index ++ ">"
          let initials := entry.parameters.map fun
            | .variable_ _ _ _ initial _ => initial
            | _ => .absent
          let given := (names.zip (parameters.zip initials)).map fun (name, type, initial) =>
            Statement.variable_ (.plainName name) (.plain type) .absent initial {}
          let passed := (names.zip parameters).map fun (name, type) =>
            let target := if type.isReference then type else .movedReference type
            Expr.cast .static (.plain target) (.plainName name)
          let _ ← addMethod id access (.plainName (← record id).name)
            (.function (.plain .void) given false false)
            [.assign none baseName (.initial .arguments passed)] (.block [])
            { isExplicit := entry.specifiers.isExplicit }
    | _ => pure ()

/-- Use names of other structures as names of members. -/
def useInRecord (id : Nat) (access : Access) (name : Expr) : Compile Unit := do
  let found ← record id
  let scopeName := name.scopeOf
  let owner? ← namedType? scopeName
  match owner? with
  | some (.record base) => do
      let isConstructor := name.lastName == (← record base).name || name.lastName == scopeName.lastName
      if isConstructor then inheritConstructors id base access scopeName
      else
        let entities ← members base (declaredName name)
        if entities.isEmpty then throw (.noMember name.lastName)
        for entity in entities do declareIn found.scope (declaredName name) entity
  | _ => do
      let (entities, _) ← resolve name
      for entity in entities do declareIn found.scope (declaredName name) entity

/-- The number of bits of a member. -/
def widthOf (width : Expr) : Compile (Option (Nat × Nat)) := do
  if width.isAbsent then return none
  let count ← evaluate (← expression width)
  if count < 0 then throw (.invalid "width")
  return some (0, count.toNat)

/-- Declare what is written as a member of a structure; who may use the members that follow is
returned. -/
def declareMember (id : Nat) : Nat → Access → Statement → Compile Access
  | 0, _, _ => throw .tooDeep
  | depth + 1, access, statement => do
      match statement with
      | .empty => return access
      | .access level => return level
      | .group parts => do
          for part in parts do
            let _ ← declareMember id depth access part
          return access
      | .variable_ name written width initial specifiers => do
          if specifiers.isFriend then
            let friendName := match written with
              | .tagged _ named | .named named => named.lastName
              | _ => ""
            changeRecord id fun found => { found with friends := friendName :: found.friends }
          else if specifiers.isStatic then addStaticMember id access statement
          else
            let found ← type written
            if found.isFunction || found.plain == .void then throw (.invalid "member")
            if isInferred found then throw (.invalid "auto")
            let bits ← widthOf width
            let text := name.lastName
            if text == "" && bits.isNone then
              match found.recordId? with
              | some inner => do
                  let _ ← completeRecord inner
                  addField id { name := "", type := found, initial, access }
                  importNames id inner
              | none => pure ()
            else
              addField id
                { name := text, type := found, bits, initial, access
                  isMutable := specifiers.isMutable }
          return access
      | .function name written initializers body specifiers => do
          if specifiers.isFriend then
            changeRecord id fun found => { found with
              friends := ("()" ++ declaredName name) :: found.friends }
            let _ ← declaration
              (.function name written initializers body { specifiers with isInline := true })
          else let _ ← addMethod id access name written initializers body specifiers
          return access
      | .template parameters inner => do
          if (specifiersOf inner).isFriend then
            match declaredBy inner with
            | some (kind, name) => do
                let mark := if kind == .function then "()" else ""
                changeRecord id fun found => { found with
                  friends := (mark ++ declaredName name) :: found.friends }
                if kind == .function then
                  let scope ← enclosingNamespace (← get).scope
                  addTemplate scope parameters inner none .everyone
            | none => pure ()
          else addTemplate (← record id).scope parameters inner (some id) access
          return access
      | .use name => do
          useInRecord id access name
          return access
      | other => do
          let _ ← declaration other
          return access

/-! ## Room -/

/-- The least multiple of a number that is at least as great as a value. -/
def aligned (value alignment : Nat) : Nat :=
  let step := max alignment 1
  (value + step - 1) / step * step

/-- How far the layout of a structure has come. -/
structure LayoutState where
  /-- The bytes that are used. -/
  size : Nat := 0
  alignment : Nat := 1
  /-- The bits behind the last whole place. -/
  bit : Nat := 0
deriving Inhabited

/-- Give a member its place. -/
def placeField (isUnion isPacked : Bool) (state : LayoutState) (field : Field) :
    Compile (LayoutState × Field) := do
  let (size, natural) ← storageOf field.type
  let alignment := if isPacked then 1 else natural
  match field.bits with
  | some (_, count) =>
      if isUnion then
        return ({ state with
          size := max state.size size, alignment := max state.alignment alignment },
          { field with offset := 0, bits := some (0, count) })
      else if count == 0 then
        let start := aligned state.bit (8 * natural)
        return ({ state with size := (start + 7) / 8, bit := start }, field)
      else
        let unit := 8 * size
        let start := state.bit
        let fits := start / unit == (start + count - 1) / unit
        let first := if fits || isPacked then start else aligned start unit
        let place := first / unit * unit
        let finish := first + count
        return ({ size := max state.size ((finish + 7) / 8)
                  alignment := max state.alignment alignment
                  bit := finish },
          { field with offset := place / 8, bits := some (first - place, count) })
  | none =>
      if isUnion then
        return ({ state with
          size := max state.size size, alignment := max state.alignment alignment },
          { field with offset := 0 })
      else
        let offset := aligned state.size alignment
        return ({ size := offset + size, alignment := max state.alignment alignment
                  bit := 8 * (offset + size) },
          { field with offset })

/-- Give members their places one after the other. -/
def placeFields (isUnion isPacked : Bool) : LayoutState → List Field →
    Compile (LayoutState × List Field)
  | state, [] => return (state, [])
  | state, field :: rest => do
      let (after, placed) ← placeField isUnion isPacked state field
      let (last, others) ← placeFields isUnion isPacked after rest
      return (last, placed :: others)

/-- Whether a structure has no members of any kind. -/
def isEmptyRecord (found : RecordEntry) : Bool :=
  found.fields.isEmpty && found.tables.isEmpty && found.shared.isEmpty && found.usedSize == 0

/-- Give the structures that are inherited their places; the one that shares its table with the
structure comes first. -/
def placeBases (primary : Option Nat) : LayoutState → List Base →
    Compile (LayoutState × List Base)
  | state, [] => return (state, [])
  | state, base :: rest => do
      if base.isVirtual || some base.record == primary then
        let (last, others) ← placeBases primary state rest
        return (last, base :: others)
      let found ← record base.record
      if isEmptyRecord found then
        let (last, others) ← placeBases primary state rest
        return (last, { base with offset := 0 } :: others)
      let offset := aligned state.size found.alignment
      let used := offset + found.usedSize
      let (last, others) ← placeBases primary
        { size := used, alignment := max state.alignment found.alignment, bit := 8 * used } rest
      return (last, { base with offset } :: others)

/-- The structures that are inherited virtually, directly or not, those of the structure that shares
its table first. -/
def sharedBases (primary : Option Nat) (bases : List Base) : Compile (List Nat) := do
  let ordered := bases.filter (fun base => some base.record == primary) ++
    bases.filter (fun base => some base.record != primary)
  let found ← ordered.mapM fun base => do
    let inner := (← record base.record).shared.map Prod.fst
    return inner ++ (if base.isVirtual then [base.record] else [])
  return found.flatten.eraseDups

/-- Give the parts that are inherited virtually their places behind everything else. -/
def placeShared : LayoutState → List Nat → Compile (LayoutState × List (Nat × Nat))
  | state, [] => return (state, [])
  | state, id :: rest => do
      let found ← record id
      let offset := if isEmptyRecord found then 0 else aligned state.size found.alignment
      let used := if isEmptyRecord found then state.size else offset + found.usedSize
      let (last, others) ← placeShared
        { size := used, alignment := max state.alignment found.alignment, bit := 8 * used } rest
      return (last, (id, offset) :: others)

/-- The number that attributes ask the addresses of a structure to be multiples of. -/
def alignmentAsked (specifiers : Specifiers) : Nat :=
  specifiers.attributes.foldl (fun found property =>
    match property with
    | .aligned size => max found size
    | _ => found) 1

/-! ## Functions without being told -/

/-- Whether a constructor or an assignment takes another object of the structure: by what kind of
reference. -/
def copyKind? (id : Nat) (entry : FunctionEntry) : Option Category :=
  match parametersOf entry.type with
  | (first :: rest, _) =>
      if rest.length ≤ standardCount entry && first.referred.plain == .record id then
        match first with
        | .reference _ => some .place
        | .movedReference _ => some .moved
        | _ => some .value
      else none
  | _ => none

/-- The functions among entities. -/
def functionsOf (entities : List Entity) : Compile (List FunctionEntry) :=
  entities.filterMapM fun entity => do
    match entity with
    | .function id => return some (← functionEntry id)
    | _ => return none

/-- What the functions of a structure allow to be done with its objects. -/
structure Abilities where
  mayMake : Bool
  mayCopy : Bool
  mayMove : Bool
  mayAssign : Bool
  mayMoveAssign : Bool
  mayDestroy : Bool

/-- What may be done with the objects of a structure. -/
def abilitiesOf (id : Nat) : Compile Abilities := do
  let found ← completeRecord id
  let constructors ← functionsOf found.constructors
  let assignments ← functionsOf (((← scopeEntry found.scope).names["operator ="]?).getD [])
  let isUsable (entry : FunctionEntry) : Bool :=
    entry.specifiers.body != .deleted && entry.access != .owner
  let copies := constructors.filter fun entry => copyKind? id entry == some .place
  let moves := constructors.filter fun entry => copyKind? id entry == some .moved
  let assigns := assignments.filter fun entry => copyKind? id entry != some .moved
  let moveAssigns := assignments.filter fun entry => copyKind? id entry == some .moved
  let hasTemplate := found.constructors.any fun
    | .template _ => true
    | _ => false
  let isDestroyed ← match found.destructor with
    | some destructor => do pure (isUsable (← functionEntry destructor))
    | none => pure true
  let makers := constructors.filter fun entry =>
    (parametersOf entry.type).1.length ≤ standardCount entry
  return {
    mayMake := makers.any isUsable || (makers.isEmpty && hasTemplate)
    mayCopy := copies.any isUsable
    mayMove := if moves.isEmpty then copies.any isUsable else moves.any isUsable
    mayAssign := assigns.any isUsable
    mayMoveAssign := if moveAssigns.isEmpty then assigns.any isUsable else moveAssigns.any isUsable
    mayDestroy := isDestroyed }

/-- The structures that a structure consists of: those that it inherits and those of its members. -/
def componentsOf (found : RecordEntry) : List (Nat × Option Field) :=
  found.bases.map (fun base => (base.record, none)) ++
    found.fields.toList.filterMap fun field =>
      match elementType field.type with
      | .record id => if field.type.isReference then none else some (id, some field)
      | _ => none

/-- Add a function that a structure has without being told. -/
def addImplicit (id : Nat) (name : Expr) (parameters : List ValueType) (result : ValueType)
    (isAllowed : Bool) : Compile Nat := do
  let given := parameters.zipIdx.map fun (type, index) =>
    Statement.variable_ (.plainName ("<other " ++ toString index ++ ">")) (.plain type) .absent
      .absent {}
  addMethod id .everyone name (.function (.plain result) given false false) [] .empty
    { body := if isAllowed then .defaulted else .deleted, isInline := true }

/-- Add the functions that a structure has without being told, and find out which of its functions
only work on bytes. -/
def addImplicits (id : Nat) : Compile Unit := do
  let found ← record id
  let self : ValueType := .record id
  let constructors ← functionsOf found.constructors
  let assignments ← functionsOf (((← scopeEntry found.scope).names["operator ="]?).getD [])
  let copies := constructors.filter fun entry => copyKind? id entry == some .place
  let moves := constructors.filter fun entry => copyKind? id entry == some .moved
  let assigns := assignments.filter fun entry =>
    copyKind? id entry == some .place || copyKind? id entry == some .value
  let moveAssigns := assignments.filter fun entry => copyKind? id entry == some .moved
  let components := componentsOf found
  let abilities ← components.mapM fun (component, field?) => do
    return (← abilitiesOf component, field?)
  let fields := found.fields.toList
  let hasReference := fields.any fun field => field.type.isReference
  let isUnion := found.key == .union
  let isMaking (entry : Abilities × Option Field) : Bool :=
    entry.1.mayMake || entry.2.any fun field => !field.initial.isAbsent
  let isUnmade := fields.any fun field =>
    field.initial.isAbsent && (field.type.isReference ||
      (field.type.isConst && field.type.isScalar))
  let mayMake := isUnion || (abilities.all isMaking && !isUnmade)
  let isChangeable := !hasReference && !fields.any fun field => field.type.isConst
  let hasOwnDestructor := found.destructor.isSome
  let isMoving := !moves.isEmpty || !moveAssigns.isEmpty
  let title : Expr := .plainName found.name
  if found.constructors.isEmpty then
    let _ ← addImplicit id title [] .void mayMake
  if copies.isEmpty then
    let isAllowed := !isMoving && abilities.all (fun entry => entry.1.mayCopy)
    let _ ← addImplicit id title [.reference self.toConst] .void isAllowed
  let mayMove := abilities.all fun entry => entry.1.mayMove
  if moves.isEmpty && copies.isEmpty && assigns.isEmpty && moveAssigns.isEmpty &&
      !hasOwnDestructor && mayMove then
    let _ ← addImplicit id title [.movedReference self] .void true
  let operator : Expr := .name .absent .operator "=" []
  if assigns.isEmpty then
    let isAllowed := !isMoving && isChangeable && abilities.all fun entry => entry.1.mayAssign
    let _ ← addImplicit id operator [.reference self.toConst] (.reference self) isAllowed
  if moveAssigns.isEmpty && assigns.isEmpty && copies.isEmpty && moves.isEmpty &&
      !hasOwnDestructor && isChangeable && abilities.all (fun entry => entry.1.mayMoveAssign) then
    let _ ← addImplicit id operator [.movedReference self] (.reference self) true
  let inner ← components.mapM fun (component, _) => record component
  let hasTables := !found.tables.isEmpty || !found.shared.isEmpty
  let own ← functionsOf (← record id).constructors
  let standard (entries : List FunctionEntry) : Bool := entries.all fun entry => entry.isImplicit
  let makers := own.filter fun entry => (parametersOf entry.type).1.isEmpty
  let copiers := own.filter fun entry => (copyKind? id entry).isSome
  let setters ← functionsOf (((← scopeEntry found.scope).names["operator ="]?).getD [])
  let hasInitial := fields.any fun field => !field.initial.isAbsent
  changeRecord id fun found => { found with
    isPlainToMake := standard makers && !hasTables && !hasInitial &&
      inner.all fun part => part.isPlainToMake
    isPlainToCopy := standard copiers && !hasTables && inner.all fun part => part.isPlainToCopy
    isPlainToAssign := standard (setters.filter fun entry => (copyKind? id entry).isSome) &&
      !hasTables && inner.all fun part => part.isPlainToAssign }
  let isDestroyedInside := inner.any fun part => part.destructor.isSome
  match found.destructor with
  | some destructor => do
      let entry ← functionEntry destructor
      if entry.isImplicit && !entry.isVirtual && !isDestroyedInside then
        changeRecord id fun found => { found with destructor := none }
  | none =>
      let isVirtual := found.tables.any fun table =>
        table.entries.any fun entry => entry.name == "~"
      if (isDestroyedInside && !isUnion) || isVirtual then
        let _ ← addMethod id .everyone (.name .absent .destructor found.name [])
          (.function (.plain .void) [] false false) [] .empty
          { body := .defaulted, isInline := true, isVirtual }

/-- Whether the members of a structure can be given their values one by one. -/
def isRowOfParts (id : Nat) : Compile Bool := do
  let found ← record id
  let version := (← get).version
  let constructors ← functionsOf found.constructors
  let hasOwn := constructors.any (fun entry => entry.specifiers.body == .plain) ||
    found.constructors.any fun
      | .template _ => true
      | _ => false
  let isOpen := found.fields.all fun field => field.access == .everyone
  let hasBases := if 201703 ≤ version then
      found.bases.any fun base => base.isVirtual || base.access != .everyone
    else !found.bases.isEmpty
  let hasInitial := version < 201402 && found.fields.any fun field => !field.initial.isAbsent
  return !hasOwn && isOpen && !hasBases && !hasInitial && found.tables.isEmpty

end QueryFoundry.Native.Compile
