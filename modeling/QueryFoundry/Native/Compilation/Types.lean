import QueryFoundry.Native.Compilation.Lookup

/-!
# Types as they are written

The types that the words and marks of a declaration stand for.
-/

namespace QueryFoundry.Native.Compile

open Text (Octets)

/-- A type as the type of a parameter: arrays and functions are passed as pointers. -/
def parameterType (type : ValueType) : ValueType :=
  match type with
  | .array element _ => .pointer element
  | .function result parameters isVariadic isConst =>
      .pointer (.function result parameters isVariadic isConst)
  | .const inner =>
      match inner with
      | .array element _ => .pointer element.toConst
      | plain => plain
  | plain => plain

/-- A reference to a type. A reference to a reference is the former, unless both are to something
that is moved. -/
def referenceTo (type : ValueType) : ValueType :=
  match type with
  | .reference target | .movedReference target => .reference target
  | target => .reference target

/-- A reference to something of a type that is moved. -/
def movedReferenceTo (type : ValueType) : ValueType :=
  match type with
  | .reference target => .reference target
  | .movedReference target => .movedReference target
  | target => .movedReference target

/-- The types of the parameters of a function. -/
def parameterTypes (parameters : List Statement) : Compile (List ValueType) := do
  let found ← parameters.mapM fun parameter => do
    match parameter with
    | .variable_ _ (.expansion pattern) _ _ _ =>
        let types ← forPack pattern.mentioned (type pattern)
        return types.map parameterType
    | .variable_ _ (.array element _) _ _ _ => return [.pointer (← type element)]
    | .variable_ _ written _ _ _ => return [parameterType (← type written)]
    | _ => return []
  return found.flatten

/-- Declare a structure that is mentioned before it is defined. -/
def declareTag (key : Octets) (name : Octets) (scope : Nat) : Compile ValueType := do
  let environment ← get
  if key == "enum" then throw (.undeclared name)
  let id := environment.records.size
  let members ← addScope { kind := .record id, parent := some scope, name }
  let recordKey : RecordKey := match key with
    | "union" => .union
    | "class" => .classKey
    | _ => .struct
  modify fun environment => { environment with
    records := environment.records.push
      { name, key := recordKey, scope := members, depth := environment.context.depth } }
  let found : ValueType := .record id
  changeScope scope fun here => { here with tags := here.tags.insert name found }
  if ← isCpp then
    declareIn scope name (.type found)
    declareIn members name (.type found)
  return found

/-- The scope that a structure belongs to that is mentioned before it is defined. -/
def tagScope : Compile Nat := do
  let isPlace (kind : ScopeKind) : Bool := kind == .namespace || kind == .block
  return (← enclosing? isPlace scopeDepth (← get).scope).getD 0

/-- The structure or enumeration behind a keyword. -/
def taggedType (key : Octets) (name : Expr) : Compile ValueType := do
  match name with
  | .name .absent .plain text _ =>
      match ← lookupTag? text scopeDepth (← get).scope with
      | some found => return found
      | none =>
          let found ← if ← isCpp then namedType? name else pure none
          match found with
          | some type => return type
          | none => declareTag key text (← tagScope)
  | qualified =>
      match ← namedType? qualified with
      | some found => return found
      | none => throw (.undeclared qualified.lastName)

/-- The type of an expression, as the name or the value that it is. -/
def expressionType (written : Expr) (isDeclared : Bool) : Compile ValueType := do
  let operand ← expression written
  let declared? : Option ValueType ← match isDeclared, written with
    | true, .name .. => do
        let (entities, _) ← resolve written
        match entities with
        | [.variable_ id] => pure (some (← variable_ id).type)
        | _ => pure none
    | true, .member _ _ _ => pure (some operand.type)
    | _, _ => pure none
  match declared?, isDeclared, operand.category with
  | some type, _, _ => return type
  | none, true, .place => return referenceTo operand.type
  | none, true, .moved => return movedReferenceTo operand.type
  | none, _, _ =>
      match operand.subject with
      | .functions _ [.function id] _ => return (← functionEntry id).type
      | _ => return operand.type

/-- The length of an array, if it is known. -/
def arrayLength (written : Expr) : Compile (Option Nat) := do
  if written.isAbsent then return none
  let operand ← expression written
  let length ← evaluate operand
  if length < 0 then throw (.invalid "array length")
  return some length.toNat

/-- Declare the parameters of a function for a type that is found out from them; they have no place
yet. -/
def declareForTypes (parameters : List Statement) : Compile Unit := do
  let add (name : Octets) (found : ValueType) : Compile Entity := do
    let id := (← get).variables_.size
    modify fun environment => { environment with
      variables_ := environment.variables_.push { name, type := found, place := [.push 0] } }
    return .variable_ id
  for parameter in parameters do
    match parameter with
    | .variable_ name (.expansion pattern) _ _ _ =>
        let types ← forPack pattern.mentioned (type pattern)
        let entities ← types.mapM (add name.lastName)
        declare name.lastName (.pack entities)
    | .variable_ name written _ _ _ =>
        let found ← type written
        declare name.lastName (← add name.lastName (parameterType found))
    | _ => pure ()

/-- The type that is written. -/
def typeOf (written : TypeExpr) : Compile ValueType := do
  match written with
  | .plain found => return found
  | .named name =>
      match ← namedType? name with
      | some found => return found
      | none => throw (.undeclared name.lastName)
  | .tagged key name => taggedType key name
  | .pointer target => do
      let inner ← type target
      if inner.isReference then throw (.invalid "pointer to reference")
      return .pointer inner
  | .reference target => do
      let inner ← type target
      if inner.plain == .void then throw (.invalid "reference to void")
      return referenceTo inner
  | .movedReference target => do
      let inner ← type target
      if inner.plain == .void then throw (.invalid "reference to void")
      return movedReferenceTo inner
  | .array element length => do
      let inner ← type element
      if inner.isReference || inner.plain == .void then throw (.invalid "array")
      return .array inner (← arrayLength length)
  | .function result parameters isVariadic isConst => do
      let returned ← match ← attempt? (type result) with
        | some found => pure found
        | none => inNewScope .template do
            declareForTypes parameters
            type result
      if returned.isArray || returned.isFunction then throw (.invalid "result")
      return .function (if returned.isRecord then returned else returned.plain)
        (← parameterTypes parameters) isVariadic isConst
  | .memberPointer owner target => do
      let inner ← type target
      match ← namedType? owner with
      | some (.record id) => return .member id inner
      | _ => throw (.undeclared owner.lastName)
  | .const inner => return (← type inner).toConst
  | .automatic => return .automatic
  | .ofExpression operand isDeclared => expressionType operand isDeclared
  | .expansion _ => throw (.invalid "expansion")

/-- Put a type in the place of the one that is to be found out. -/
def inferFrom (pattern found : ValueType) : ValueType :=
  match pattern with
  | .automatic => found
  | .const inner => (inferFrom inner found).toConst
  | .pointer inner => .pointer (inferFrom inner found)
  | .reference inner => referenceTo (inferFrom inner found)
  | .movedReference inner => movedReferenceTo (inferFrom inner found)
  | .array inner length => .array (inferFrom inner found) length
  | other => other

/-- Whether a type is to be found out. -/
def isInferred : ValueType → Bool
  | .automatic => true
  | .const inner | .pointer inner | .reference inner | .movedReference inner | .array inner _ =>
      isInferred inner
  | _ => false

end QueryFoundry.Native.Compile
