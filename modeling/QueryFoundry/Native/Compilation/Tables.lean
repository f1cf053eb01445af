import QueryFoundry.Native.Compilation.Records

/-!
# Virtual functions

Which functions are virtual, and the tables through which they are chosen. Each part of an object
that has a table finds there, for each function, the one that overrides it last, and the distance
from the part to the object of that function.
-/

namespace QueryFoundry.Native.Compile

open Text (Octets)

/-- Whether a member function overrides an entry of a table. -/
def overrides (name : Octets) (type : ValueType) (entry : VirtualEntry) : Bool :=
  entry.name == name && (name == "~" ||
    (parametersOf entry.type == parametersOf type &&
      virtualPosition?.isConstFunction entry.type == virtualPosition?.isConstFunction type))

/-- The entries of the tables of some structures. -/
def inheritedEntries (bases : List Base) : Compile (List VirtualEntry) := do
  let found ← bases.mapM fun base => do
    return (← record base.record).tables.flatMap fun table => table.entries
  return found.flatten

/-- The member functions that a structure has declared itself, of those from a number on. -/
def ownFunctions (id first : Nat) : Compile (List Nat) := do
  let functions := (← get).functions
  return (List.range (functions.size - first)).filterMap fun index =>
    match functions[first + index]? with
    | some entry => if entry.owner == some id then some (first + index) else none
    | none => none

/-- Let the functions of a structure that override virtual ones be virtual. -/
def markVirtual (own : List Nat) (inherited : List VirtualEntry) : Compile Unit := do
  for function in own do
    let entry ← functionEntry function
    if entry.kind == .plain || entry.kind == .destructor || entry.kind == .conversion then
      let overridden := inherited.filter (overrides entry.name entry.type)
      if overridden.isEmpty then
        if entry.specifiers.isOverride then throw (.invalid "override")
      else
        for other in overridden do
          if (← functionEntry other.function).specifiers.isFinal then throw (.invalid "final")
        changeFunction function fun entry => { entry with isVirtual := true }

/-- The place of a structure that another one inherits from, in a whole object of the latter. -/
def placeIn? (derived target : Nat) : Compile (Option Nat) := do
  let shared := (← record derived).shared
  match ← basePaths derived target inheritanceDepth with
  | [] => return none
  | path :: rest =>
      let isFixed := rest.isEmpty || (path :: rest).all fun path => path.any (·.isVirtual)
      if !isFixed then return none
      return some (path.foldl (fun offset base =>
        if base.isVirtual then (shared.lookup base.record).getD 0 else offset + base.offset) 0)

/-- The virtual function that a structure has declared itself and that overrides an entry. -/
def ownOverrider? (id : Nat) (entry : VirtualEntry) : Compile (Option Nat) := do
  let functions := (← get).functions
  return (List.range functions.size).find? fun index =>
    match functions[index]? with
    | some found =>
        found.owner == some id && found.isVirtual && overrides found.name found.type entry
    | none => false

/-- The function that overrides an entry last in a structure that inherits virtually. -/
def finalOverrider? (id : Nat) (entry : VirtualEntry) : Compile (Option (Nat × Nat)) := do
  let lineage := (← lineage inheritanceDepth id).eraseDups
  let candidates ← lineage.filterMapM fun owner => do
    return (← ownOverrider? owner entry).map (owner, ·)
  candidates.findM? fun (owner, _) => candidates.allM fun (other, _) => isDerived owner other

/-- The structures that two functions refer to by their results, if these are different ones. -/
def resultRecords? (own expected : ValueType) : Option (Nat × Nat) :=
  let target? : ValueType → Option Nat
    | .pointer target | .reference target | .movedReference target => target.recordId?
    | _ => none
  match target? (resultOf own).plain, target? (resultOf expected).plain with
  | some first, some second => if first == second then none else some (first, second)
  | _, _ => none

/-- Whether what a function refers to has to be turned into what callers of another one expect. -/
def needsResultChange (own expected : ValueType) : Compile Bool := do
  match resultRecords? own expected with
  | none => return false
  | some (derived, target) => return (← baseOffset? derived target) != some 0

/-- The symbol of a function for callers that expect another result: the function itself, or one that
calls it and reaches for the part of its result. -/
def resultChanger (symbol : Octets) (own expected : ValueType) : Compile Octets := do
  match resultRecords? own expected with
  | none => return symbol
  | some (derived, target) =>
      if !(← needsResultChange own expected) then return symbol
      let done ← newLabel
      let count := (parametersOf own).1.length + 1
      let arguments : Code := (List.range count).reverse.flatMap fun index =>
        [.argument index, .load 8 false]
      let result : Code := [.frame 0, .load 8 false]
      let code : Code := [Instruction.frame 0] ++ arguments ++
        [Instruction.symbol symbol 0, .call count, .store 8] ++
        result ++ [Instruction.jumpIfZero done, .frame 0] ++ (← toBase result derived target) ++
        [Instruction.store 8, .label done] ++ result ++ [Instruction.finish]
      let changer := "changed result " ++ toString (← fresh)
      emitFunction
        { symbol := changer, binding := .internal, frameSize := 8, code := code.assemble [] }
      return changer

/-- An entry of an inherited table as the structure that inherits it has it. -/
def settledEntry (id : Nat) (own : List Nat) (offset : Nat) (entry : VirtualEntry) :
    Compile VirtualEntry := do
  let override? ← own.findM? fun function => do
    let found ← functionEntry function
    return found.isVirtual && overrides found.name found.type entry
  match override? with
  | some function =>
      return { entry with function, adjustment := -(offset : Int) }
  | none => do
      if (← record id).shared.isEmpty then return entry
      match ← finalOverrider? id entry with
      | some (owner, function) =>
          match ← placeIn? id owner with
          | some place =>
              return { entry with function, adjustment := (place : Int) - (offset : Int) }
          | none => return entry
      | none => return entry

/-- The parts of a structure that have a table, besides the first one. -/
def tableParts (id : Nat) (primary : Option Nat) : Compile (List VirtualTable) := do
  let found ← record id
  let inherited ← found.bases.mapM fun base => do
    if base.isVirtual then return []
    let tables := (← record base.record).tables.filter fun table => !table.isShared
    let rest := if some base.record == primary then
        tables.filter fun table => table.offset != 0
      else tables
    return rest.map fun table => { table with offset := base.offset + table.offset }
  let shared ← found.shared.mapM fun (base, offset) => do
    let tables := (← record base).tables.filter fun table => !table.isShared
    return tables.map fun table => { table with offset := offset + table.offset, isShared := true }
  return inherited.flatten ++ shared.flatten

/-- The tables of a structure whose members have their places. -/
def buildTables (id : Nat) (own : List Nat) (primary : Option Nat) : Compile Unit := do
  let others ← tableParts id primary
  let settledOthers ← others.mapM fun table => do
    return { table with entries := ← table.entries.mapM (settledEntry id own table.offset) }
  let shared ← match primary with
    | some base => do
        match (← record base).tables.find? fun table => table.offset == 0 with
        | some table => pure table.entries
        | none => pure []
    | none => pure []
  let first ← shared.mapM (settledEntry id own 0)
  let added ← own.filterMapM fun function => do
    let entry ← functionEntry function
    let isKnown ← first.anyM fun known => do
      return overrides entry.name entry.type known &&
        !(← needsResultChange entry.type known.type)
    if entry.isVirtual && !isKnown then
      return some ({ name := entry.name, type := entry.type, function } : VirtualEntry)
    else return none
  let reached ← (settledOthers.flatMap (·.entries)).filterMapM fun entry => do
    if (first ++ added).any (overrides entry.name entry.type) then return none
    let owner := (← functionEntry entry.function).owner.getD id
    match ← placeIn? id owner with
    | some place => return some { entry with adjustment := (place : Int) }
    | none => return none
  let distinctReached := (reached.foldl (fun (kept : List VirtualEntry) entry =>
    if kept.any (overrides entry.name entry.type) then kept else entry :: kept) []).reverse
  let entries := first ++ added ++ distinctReached
  let tables := { offset := 0, record := id, entries } :: settledOthers
  let isAbstract ← (tables.flatMap (·.entries)).anyM fun entry => do
    return (← functionEntry entry.function).specifiers.body == .pure
  changeRecord id fun found => { found with tables, isAbstract }

/-! ## Tables in memory -/

/-- The symbol of the tables of a structure. -/
def tableSymbol (id : Nat) : Compile Octets := do
  return "_ZTV" ++ (← typeSymbol (.record id))

/-- Where the entries of each table of a structure start. -/
def tableStarts (id : Nat) : Compile (List (VirtualTable × Nat)) := do
  let tables := (← record id).tables
  let (found, _) ← tables.foldlM (fun (found, position) table => do
    let shared := (← record table.record).shared.length
    let start := position + 8 * shared + 16
    return ((table, start) :: found, start + 16 * table.entries.length))
    (([], 0) : List (VirtualTable × Nat) × Nat)
  return found.reverse

/-- The bytes of a word that may be negative. -/
def signedBytes (value : Int) : List UInt8 :=
  wordBytes (wordOf value).toNat

/-- Write the tables of a structure. -/
def emitTables (id : Nat) : Compile Unit := do
  let found ← record id
  if found.hasTables || found.tables.isEmpty then return
  changeRecord id fun found => { found with hasTables := true }
  let description ← describe (.record id)
  let parts ← (← tableStarts id).mapM fun (table, start) => do
    let shared := (← record table.record).shared.reverse
    let distances := shared.map fun (base, _) =>
      ((found.shared.lookup base).getD 0 : Int) - (table.offset : Int)
    let head := (distances.flatMap signedBytes) ++ signedBytes (-(table.offset : Int)) ++ wordBytes 0
    let entries ← table.entries.zipIdx.mapM fun (entry, index) => do
      let called ← functionEntry entry.function
      let address ← if called.specifiers.body == .pure then pure [] else do
        match ← functionAddress entry.function with
        | [.symbol name _] => do
            let changed ← resultChanger name called.type entry.type
            pure [(start + 16 * index, changed)]
        | _ => pure []
      return (wordBytes 0 ++ signedBytes entry.adjustment, address)
    return (head ++ entries.flatMap Prod.fst, (start - 8, description) :: entries.flatMap Prod.snd)
  let bytes := parts.flatMap Prod.fst
  emitData
    { symbol := ← tableSymbol id, binding := if found.depth == 0 then .weak else .internal
      size := bytes.length, alignment := 8, bytes, addresses := parts.flatMap Prod.snd }

/-- Let the parts of an object know their tables. -/
def setTables (id : Nat) (place : Code) : Compile Code := do
  emitTables id
  let symbol ← tableSymbol id
  let codes := (← tableStarts id).map fun (table, start) =>
    shifted place table.offset ++ [Instruction.symbol symbol start, .store 8]
  return codes.flatten

/-! ## Definitions of structures -/

/-- The structures that another one is declared to inherit from. -/
def readBases (written : List Expr) : Compile (List Base) := do
  expandAll (fun base => do
    match base with
    | .base access isVirtual written => do
        let found ← type written
        match found.plain with
        | .record id => do
            let entry ← completeRecord id
            if !entry.isComplete then throw (.incomplete entry.name)
            if entry.isFinal || entry.key == .union then throw (.invalid entry.name)
            return { record := id, access, isVirtual : Base }
        | _ => throw (.invalid "base")
    | _ => throw (.invalid "base")) written

/-- Give the members and the parts of a structure their places. -/
def layOut (id : Nat) (hasTables : Bool) (primary : Option Nat) (isPacked : Bool)
    (asked : Nat) : Compile Unit := do
  let found ← record id
  let isUnion := found.key == .union
  let start : LayoutState ← match primary with
    | some base => do
        let inner ← record base
        pure { size := inner.usedSize, alignment := inner.alignment, bit := 8 * inner.usedSize }
    | none => pure (if hasTables then { size := 8, alignment := 8, bit := 64 } else {})
  let (withBases, bases) ← placeBases primary start found.bases
  let (withFields, fields) ← placeFields isUnion isPacked withBases found.fields.toList
  let shared ← sharedBases primary found.bases
  let (whole, places) ← placeShared withFields shared
  let alignment := max whole.alignment asked
  let size := aligned whole.size alignment
  let isEmptyKind := size == 0 && (← isCpp)
  changeRecord id fun found => { found with
    bases, fields := fields.toArray, shared := places, alignment
    size := if isEmptyKind then 1 else size, usedSize := withFields.size }

/-- Define a structure whose members are declared in the present scope. -/
def fillRecord (id : Nat) (key : RecordKey) (bases : List Expr) (body : List Statement)
    (specifiers : Specifiers) : Compile Unit := do
  let isPacked := specifiers.attributes.contains .packed
  changeRecord id fun found => { found with
    key, isBeingDefined := true, isFinal := specifiers.isFinal, isPacked }
  let inherited ← readBases bases
  changeRecord id fun found => { found with bases := inherited }
  let first := (← get).functions.size
  let standard : Access := if key == .classKey then .owner else .everyone
  let _ ← body.foldlM (fun access member => declareMember id 64 access member) standard
  if ← isCpp then
    let entries ← inheritedEntries inherited
    markVirtual (← ownFunctions id first) entries
    let found ← record id
    if found.destructor.isNone && entries.any fun entry => entry.name == "~" then
      let _ ← addMethod id .everyone (.name .absent .destructor found.name [])
        (.function (.plain .void) [] false false) [] .empty
        { body := .defaulted, isInline := true, isVirtual := true }
    let own ← ownFunctions id first
    let hasOwn ← own.anyM fun function => do return (← functionEntry function).isVirtual
    let hasTables := hasOwn || !entries.isEmpty || inherited.any (·.isVirtual)
    let primary? ← inherited.findM? fun base => do
      return !base.isVirtual && !(← record base.record).tables.isEmpty
    let primary := primary?.map (·.record)
    layOut id hasTables primary isPacked (alignmentAsked specifiers)
    if hasTables then buildTables id own primary
    addImplicits id
    let isAggregate ← isRowOfParts id
    changeRecord id fun found =>
      let isSimple := isAggregate && found.bases.isEmpty && found.isPlainToCopy &&
        found.isPlainToMake && found.isPlainToAssign && found.destructor.isNone
      { found with
        isAggregate, isComplete := true, isBeingDefined := false
        usedSize := if isSimple && !found.fields.isEmpty then found.size else found.usedSize }
  else
    layOut id false none isPacked (alignmentAsked specifiers)
    changeRecord id fun found => { found with
      isComplete := true, isBeingDefined := false, usedSize := found.size }

/-- Give a member function that was declared in its structure its definition. -/
def defineMethod (id : Nat) (definition : Statement) : Compile Unit := do
  match mainDeclaration definition with
  | .function name written initializers body specifiers => do
      let found ← record id
      let kind := memberKind found (match name with
        | .name _ kind text arguments => .name .absent kind text arguments
        | other => other)
      let text := declaredName name
      let type ← functionType name written
      let known ← match kind with
        | .constructor => pure found.constructors
        | .destructor => pure (found.destructor.toList.map Entity.function)
        | .conversion => pure found.conversions
        | .plain => do pure (((← scopeEntry found.scope).names[text]?).getD [])
      let fits (entity : Entity) : Compile Bool := do
        match entity with
        | .function other => do
            let entry ← functionEntry other
            return entry.owner == some id && parametersOf entry.type == parametersOf type &&
              resultOf entry.type == resultOf type &&
              entry.specifiers.subjectMark == specifiers.subjectMark &&
              virtualPosition?.isConstFunction entry.type ==
                virtualPosition?.isConstFunction type
        | _ => return false
      match ← known.findM? fits with
      | some (.function function) => do
          let entry ← functionEntry function
          if entry.hasBody then throw (.redeclared text)
          let scope := (← get).scope
          let standards := entry.parameters.map fun
            | .variable_ _ _ _ initial _ => initial
            | _ => .absent
          let parameters := ((writtenParameters written).zip standards).map fun
            | (.variable_ name type width .absent specifiers, standard) =>
                Statement.variable_ name type width standard specifiers
            | (other, _) => other
          let isInline := entry.specifiers.isInline || specifiers.isInline ||
            specifiers.isConstexpr || entry.origin.isSome || found.origin.isSome
          changeFunction function fun entry => { entry with
            parameters, initializers, body, hasBody := !body.isEmpty, scope
            binding := if isInline then entry.binding else .global
            specifiers := { entry.specifiers with
              body := if specifiers.body == .plain then entry.specifiers.body else specifiers.body } }
          if !isInline then request function
      | _ => throw (.noMember text)
  | _ => throw (.invalid "member")

/-- The arguments of a template that the name of a member is written with. -/
def ownerPatterns (name : Expr) : List Expr :=
  match name.scopeOf with
  | .name _ .template _ arguments => arguments
  | _ => []

/-- Whether arguments of a template are just its parameters. -/
def isGeneral (parameters : List Statement) (patterns : List Expr) : Bool :=
  let nameOf : Expr → Octets
    | .type (.named name) | .expansion (.type (.named name)) | .expansion name | name => name.lastName
  parameters.map parameterName == patterns.map nameOf

/-- Give a member of what a template made its definition that stands outside. -/
def applyOutside (id : Nat) (parameters : List Statement) (definition : Statement)
    (scope : Nat) : Compile Unit := do
  let found ← record id
  let some (origin, actual) := found.origin | return
  let inner? := match definition with
    | .template more inner => some (more, inner)
    | _ => none
  let declared := (inner?.map Prod.snd).getD definition
  let some (_, name) := declaredBy declared | return
  if isGeneral parameters (ownerPatterns name) then
    if ← isSpecialized (← template origin) actual then return
  let bound? ← attempt? <| inScope scope do
    match ← searchArguments parameters searchDepth (ownerPatterns name) (flattened actual) [] with
    | some bound => inOrder parameters bound
    | none => throw (.noMatch "member")
  match bound? with
  | none => pure ()
  | some given => do
      let inner ← addScope { kind := .template, parent := some found.scope }
      inScope inner do
        let _ ← bindParameters parameters given
        match inner?, mainDeclaration declared with
        | some (more, _), _ => do
            let names := (← scopeEntry found.scope).names
            let entities := (names[declaredName name]?).getD [] ++ found.constructors
            let templates := entities.filterMap fun
              | .template id => some id
              | _ => none
            let suitable ← templates.filterM fun other => do
              let entry ← template other
              return entry.owner == some id && sameParameters entry.parameters more &&
                !isDefinition entry.declaration
            match suitable with
            | other :: _ =>
                changeTemplate other fun entry => { entry with
                  parameters := withStandards more entry.parameters
                  declaration := declared, scope := inner }
            | [] => throw (.noMember (declaredName name))
        | none, .variable_ title .. => do
            match ((← scopeEntry found.scope).names[title.lastName]?).getD [] with
            | [.variable_ variableId] =>
                let isStarted : Option (Statement × Nat) → Bool
                  | some (.variable_ _ _ _ initial _, _) => !initial.isAbsent
                  | _ => false
                -- What has its value where it is declared keeps it.
                changeVariable variableId fun known =>
                  if isStarted known.pending then known
                  else { known with pending := some (mainDeclaration declared, inner) }
            | _ => throw (.noMember title.lastName)
        | none, .function .. => defineMethod id declared
        | none, _ => pure ()

/-- Make the members of a structure that a template made known. -/
def completeNow (id : Nat) : Compile Unit := do
  let found ← record id
  if found.isComplete || found.isBeingDefined then return
  match found.origin with
  | none => pure ()
  | some (origin, arguments) => do
      let entry ← template origin
      let (parameters, declaration, scope, given) ← definitionFor entry arguments
      match mainDeclaration declaration with
      | .record key _ bases body specifiers => do
          let outer := (← get).isConverting
          modify fun environment => { environment with isConverting := false }
          let (inner, _) ← boundScope scope parameters given
          changeScope found.scope fun members => { members with parent := some inner }
          let _ ← inFunction { depth := found.depth } <| inScope found.scope do
            fillRecord id key bases body specifiers
            for (parameters, definition, outside) in entry.members do
              applyOutside id parameters definition outside
          modify fun environment => { environment with isConverting := outer }
      | _ => pure ()

/-- Define a structure. -/
def defineRecord (key : RecordKey) (name : Expr) (bases : List Expr) (body : List Statement)
    (specifiers : Specifiers) : Compile Unit := do
  let text := name.lastName
  let target ← match name.scopeOf with
    | .absent => if ← isCpp then pure (← get).scope else tagScope
    | scope => scopeOfName 64 scope
  let word := match key with
    | .struct => "struct"
    | .classKey => "class"
    | .union => "union"
  let id ← match (← scopeEntry target).tags[text]? with
    | some (.record id) => do
        let found ← record id
        if found.isComplete || found.isBeingDefined then throw (.redeclared text)
        pure id
    | some _ => throw (.redeclared text)
    | none => do
        match ← declareTag word text target with
        | .record id => pure id
        | _ => throw (.redeclared text)
  if (← context).depth > 0 then
    let number := toString (← fresh)
    changeScope (← record id).scope fun members => { members with name := text ++ "." ++ number }
  inScope (← record id).scope (fillRecord id key bases body specifiers)

end QueryFoundry.Native.Compile
