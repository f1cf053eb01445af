import QueryFoundry.Native.Compilation.Statements

/-!
# Declarations of templates

Templates, their definitions for special arguments, and what they make of arguments. A structure
that a template makes gets its members when they are needed.
-/

namespace QueryFoundry.Native.Compile

open Text (Octets)

/-! ## What is declared -/

/-- The declaration that counts among some that stand together. -/
def mainDeclaration : Statement → Statement
  | .group members =>
      (members.find? fun
        | .function .. | .record .. | .alias .. => true
        | .variable_ name .. => !name.isAbsent
        | _ => false).getD (.group members)
  | other => other

/-- What a template makes by its declaration, and the name that is declared. -/
def declaredBy (declaration : Statement) : Option (TemplateKind × Expr) :=
  match mainDeclaration declaration with
  | .function name .. => some (.function, name)
  | .record _ name .. => some (.record, name)
  | .alias name _ => some (.alias, .plainName name)
  | .variable_ .absent (.tagged _ name) _ _ _ => some (.record, name)
  | .variable_ name .. => some (.variable_, name)
  | _ => none

/-- Whether a declaration defines what it declares. -/
def isDefinition (declaration : Statement) : Bool :=
  match mainDeclaration declaration with
  | .function _ _ _ body specifiers => !body.isEmpty || specifiers.body != .plain
  | .record .. | .alias .. => true
  | .variable_ name .. => !name.isAbsent
  | _ => false

/-- What a name is declared as: operators and destructors have names of their own. -/
def declaredName (name : Expr) : Octets :=
  match name with
  | .name _ .operator text _ => "operator " ++ text
  | .name _ .destructor _ _ => "~"
  | .name _ .conversion _ _ => "conversion"
  | other => other.lastName

/-- The specifiers of a declaration. -/
def specifiersOf (declaration : Statement) : Specifiers :=
  match mainDeclaration declaration with
  | .function _ _ _ _ specifiers | .variable_ _ _ _ _ specifiers | .record _ _ _ _ specifiers =>
      specifiers
  | _ => {}

/-! ## Templates -/

/-- Whether two lists of parameters of templates are the same but for the names. -/
def sameParameters (first second : List Statement) : Bool :=
  first.length == second.length && (first.zip second).all fun (one, other) =>
    isPackParameter one == isPackParameter other &&
      match one, other with
      | .typeParameter .., .typeParameter .. | .templateParameter .., .templateParameter ..
      | .variable_ .., .variable_ .. => true
      | _, _ => false

/-- The standard arguments of one list of parameters for those of another one. -/
def withStandards (parameters known : List Statement) : List Statement :=
  (parameters.zip known).map fun
    | (.typeParameter name isPack .absent, .typeParameter _ _ standard) =>
        .typeParameter name isPack standard
    | (.templateParameter name isPack .absent, .templateParameter _ _ standard) =>
        .templateParameter name isPack standard
    | (.variable_ name type width .absent specifiers, .variable_ _ _ _ standard _) =>
        .variable_ name type width standard specifiers
    | (own, _) => own

/-- The types of the parameters of a function template as far as they can be compared. -/
def inputsKey (parameters : List Statement) (declaration : Statement) : Compile (List ValueType) := do
  let unknown := parameters.zipIdx.map fun (parameter, index) =>
    match parameter with
    | .variable_ .. => TemplateArgument.value (1000000 + index) .int
    | .templateParameter .. => .template 0
    | _ => .type (.unknown (1000000 + index))
  match functionPattern declaration with
  | some (_, inputs) => do
      let found ← attempt? do
        let (inner, _) ← boundScope (← get).scope parameters unknown
        inScope inner (parameterTypes inputs)
      match found with
      | some types => return types
      | none => return [.unknown (← fresh)]
  | none => return []

/-- Whether a function template has been declared before. -/
def knownTemplate? (name : Octets) (parameters : List Statement) (declaration : Statement)
    (scope : Nat) : Compile (Option Nat) := do
  let entities := ((← scopeEntry scope).names[name]?).getD []
  let templates := entities.filterMap fun
    | .template id => some id
    | _ => none
  match declaredBy declaration with
  | some (.function, _) => do
      let key ← inputsKey parameters declaration
      templates.findM? fun id => do
        let found ← template id
        if found.kind != .function || !sameParameters found.parameters parameters then return false
        if isDefinition found.declaration && isDefinition declaration then return false
        let isConst (statement : Statement) : Bool := match mainDeclaration statement with
          | .function _ (.function _ _ _ isConst) _ _ _ => isConst
          | _ => false
        return (← inputsKey found.parameters found.declaration) == key &&
          isConst found.declaration == isConst declaration
  | _ => return templates.head?

/-- The templates that a name with a scope stands for. -/
def templatesNamed (name : Expr) : Compile (List Nat) := do
  let plain : Expr := match name with
    | .name scope kind text _ => .name scope (if kind == .template then .plain else kind) text []
    | other => other
  let (entities, _) ← resolve plain
  let origins ← entities.filterMapM originOf?
  return origins.eraseDups

/-- Declare a template by a name in a scope. A structure that it is a member of may be given. -/
def addTemplate (target : Nat) (parameters : List Statement) (declaration : Statement)
    (owner : Option Nat) (access : Access) : Compile Unit := do
  let some (kind, name) := declaredBy declaration | throw (.invalid "template")
  let scope := (← get).scope
  let text := declaredName name
  match name with
  | .name _ .template _ patterns => do
      match ← templatesNamed name with
      | id :: _ =>
          changeTemplate id fun found => { found with
            specializations := found.specializations ++
              [{ parameters, patterns, declaration, scope }] }
      | [] => throw (.undeclared text)
  | _ => do
      match ← knownTemplate? text parameters declaration target with
      | some id =>
          changeTemplate id fun found => { found with
            parameters := withStandards parameters found.parameters
            declaration := if isDefinition declaration then declaration else found.declaration }
      | none => do
          let id := (← get).templates.size
          modify fun environment => { environment with
            templates := environment.templates.push
              { name := text, kind, parameters, declaration, scope, owner, access } }
          let isConstructor ← match owner, name with
            | some record, .name _ .plain _ _ => do
                pure (kind == .function && text == (← Compile.record record).name)
            | _, _ => pure false
          let isConversion := match name with
            | .name _ .conversion _ _ => true
            | _ => false
          match owner with
          | some record =>
              if isConstructor then
                changeRecord record fun found => { found with
                  constructors := found.constructors ++ [.template id] }
              else if isConversion then
                changeRecord record fun found => { found with
                  conversions := found.conversions ++ [.template id] }
              else declareIn target text (.template id)
          | none => declareIn target text (.template id)

/-! ## Functions -/

/-- Add a function. -/
def addFunction (entry : FunctionEntry) : Compile Nat := do
  let id := (← get).functions.size
  modify fun environment => { environment with functions := environment.functions.push entry }
  return id

/-- The kind of a function that is a member of a structure. -/
def memberKind (owner : RecordEntry) (name : Expr) : FunctionKind :=
  match name with
  | .name _ .destructor _ _ => .destructor
  | .name _ .conversion _ _ => .conversion
  | .name _ .operator _ _ => .plain
  | other => if other.lastName == owner.name then .constructor else .plain

/-- The type of a function as it is declared. -/
def functionType (name : Expr) (written : TypeExpr) : Compile ValueType := do
  match name, written with
  | .name _ .conversion _ [.type target], .function _ _ _ isConst =>
      return .function (← type target) [] false isConst
  | _, _ => type written

/-- The parameters of a function as they are written. -/
def writtenParameters : TypeExpr → List Statement
  | .function _ parameters _ _ => parameters
  | _ => []

/-- Whether a function is a member that needs no object, by its name. -/
def isAlwaysStatic (name : Octets) : Bool :=
  ["operator new", "operator new[]", "operator delete", "operator delete[]"].contains name

/-- The function that a template makes of arguments. -/
def makeFunction (found : TemplateEntry) (id inner : Nat) (given : List TemplateArgument)
    (declaration : Statement) : Compile Entity := do
  match mainDeclaration declaration with
  | .function name written initializers body specifiers => inScope inner do
      let made ← functionType name written
      let text := declaredName name
      let kind ← match found.owner with
        | some owner => do pure (memberKind (← record owner) name)
        | none => pure .plain
      let symbol ← functionSymbol found.scope text kind made given
      let depth ← match found.owner with
        | some owner => do pure (← record owner).depth
        | none => pure 0
      let function ← addFunction
        { name := text, kind, symbol := symbol ++ ".t" ++ toString id, type := made, scope := inner
          owner := found.owner, access := found.access, specifiers
          isStatic := specifiers.isStatic || isAlwaysStatic text
          parameters := writtenParameters written, initializers, body
          hasBody := !body.isEmpty
          binding := if depth == 0 then .weak else .internal
          origin := some (id, given), depth }
      return .function function
  | _ => throw (.invalid "template")

/-! ## What templates make -/

/-- The word that a structure is declared with. -/
def recordKey (declaration : Statement) : RecordKey :=
  match mainDeclaration declaration with
  | .record key .. => key
  | .variable_ _ (.tagged "union" _) .. => .union
  | .variable_ _ (.tagged "class" _) .. => .classKey
  | _ => .struct

/-- The structure that a template makes of arguments. -/
def makeRecord (found : TemplateEntry) (id : Nat) (given : List TemplateArgument) :
    Compile Entity := do
  let number := (← get).records.size
  let members ← addScope { kind := .record number, parent := some found.scope, name := found.name }
  let depth ← match found.owner with
    | some owner => do pure (← record owner).depth
    | none => pure 0
  modify fun environment => { environment with
    records := environment.records.push
      { name := found.name, key := recordKey found.declaration, scope := members
        origin := some (id, given), depth } }
  declareIn members found.name (.type (.record number))
  return .type (.record number)

/-- The variable that a template makes of arguments. -/
def makeVariable (found : TemplateEntry) (inner : Nat) (given : List TemplateArgument)
    (declaration : Statement) : Compile Entity := do
  match mainDeclaration declaration with
  | .variable_ name written width initial specifiers => inScope inner do
      let declared ← type written
      let made ← if isInferred declared then do
          match initial with
          | .initial _ [single] => pure (inferFrom declared (← expression single).type.decayed)
          | _ => mismatch "auto"
        else pure declared
      let made := if specifiers.isConstexpr then made.toConst else made
      let symbol := "_Z" ++ (← scopedSymbol found.scope (partName found.name)) ++ "I" ++
        (← mangleArguments mangleDepth given) ++ "E"
      let number := (← get).variables_.size
      modify fun environment => { environment with
        variables_ := environment.variables_.push
          { name := found.name, type := made, place := [.symbol symbol 0], symbol
            pending := some (.variable_ name written width initial
              { specifiers with isInline := true }, inner) } }
      return .variable_ number
  | _ => throw (.invalid "template")

/-- Remember what a template made of arguments. -/
def remember (id : Nat) (given : List TemplateArgument) (entity : Entity) : Compile Unit :=
  changeTemplate id fun found => { found with instances := (given, entity) :: found.instances }

/-- What a template makes of arguments. -/
def instantiateTemplate (id : Nat) (arguments : List TemplateArgument) : Compile Entity := do
  let found ← template id
  let key := flattened arguments
  let known? := if found.kind == .function then none else found.instances.lookup key
  match known? with
  | some entity => return entity
  | none =>
      match found.kind with
      | .alias => do
          let (inner, _) ← boundScope found.scope found.parameters key
          match mainDeclaration found.declaration with
          | .alias _ written => return .type (← inScope inner (type written))
          | _ => throw (.invalid found.name)
      | .record => do
          let made ← makeRecord found id arguments
          remember id key made
          return made
      | .function => do
          let (inner, all) ← boundScope found.scope found.parameters arguments
          match found.instances.lookup all with
          | some entity => return entity
          | none => do
              let made ← makeFunction found id inner all found.declaration
              remember id all made
              return made
      | .variable_ => do
          let (parameters, declaration, scope, given) ← definitionFor found arguments
          let (inner, _) ← boundScope scope parameters given
          let made ← makeVariable found inner arguments declaration
          remember id key made
          return made

end QueryFoundry.Native.Compile
