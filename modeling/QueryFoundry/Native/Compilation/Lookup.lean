import QueryFoundry.Native.Compilation.Layout
import QueryFoundry.Native.Mention

/-!
# What names stand for

Names are looked up from the inside out: in blocks, among the members of structures and of those
that they inherit from, and in namespaces. A pack stands for several things, one at a time.
-/

namespace QueryFoundry.Native.Compile

open Text (Octets)

/-- How deeply scopes may be nested. -/
def scopeDepth : Nat := 256

/-- Entities without repetitions. -/
def distinct (entities : List Entity) : List Entity :=
  (entities.foldl (fun kept entity =>
    if kept.contains entity then kept else entity :: kept) []).reverse

/-- What a name stands for among the members of a structure and of those that it inherits from. -/
def memberEntities (name : Octets) : Nat → Nat → Compile (List Entity)
  | 0, _ => throw .tooDeep
  | depth + 1, id => do
      let found ← record id
      let own := ((← scopeEntry found.scope).names[name]?).getD []
      if !own.isEmpty then return own
      let inherited ← found.bases.mapM fun base => memberEntities name depth base.record
      return distinct inherited.flatten

/-- What a name stands for among the members of a structure. -/
def members (id : Nat) (name : Octets) : Compile (List Entity) :=
  memberEntities name inheritanceDepth id

/-- What a name stands for in a scope and in the namespaces that are used there. -/
def entitiesIn (name : Octets) : Nat → Nat → Compile (List Entity)
  | 0, _ => return []
  | depth + 1, scope => do
      let found ← scopeEntry scope
      match found.kind with
      | .record id => members id name
      | _ =>
          let own := (found.names[name]?).getD []
          if found.used.isEmpty || (!own.isEmpty && found.kind == .block) then return own
          let more ← found.used.mapM (entitiesIn name depth)
          return distinct (own ++ more.flatten)

/-- What a name stands for in a scope. -/
def lookupIn (scope : Nat) (name : Octets) : Compile (List Entity) :=
  entitiesIn name 16 scope

/-- What a name stands for in a scope or in those around it. -/
def lookupFrom (name : Octets) : Nat → Nat → Compile (List Entity)
  | 0, _ => return []
  | depth + 1, scope => do
      let found ← lookupIn scope name
      if !found.isEmpty then return found
      match (← scopeEntry scope).parent with
      | some parent => lookupFrom name depth parent
      | none => return []

/-- What a name stands for in the present scope. -/
def lookup (name : Octets) : Compile (List Entity) := do
  lookupFrom name scopeDepth (← get).scope

/-- The structure or enumeration with a tag in a scope or in those around it. -/
def lookupTag? (name : Octets) : Nat → Nat → Compile (Option ValueType)
  | 0, _ => return none
  | depth + 1, scope => do
      let found ← scopeEntry scope
      match found.tags[name]? with
      | some type => return some type
      | none =>
          match found.parent with
          | some parent => lookupTag? name depth parent
          | none => return none

/-- The innermost scope around a scope that a kind fits. -/
def enclosing? (fits : ScopeKind → Bool) : Nat → Nat → Compile (Option Nat)
  | 0, _ => return none
  | depth + 1, scope => do
      let found ← scopeEntry scope
      if fits found.kind then return some scope
      match found.parent with
      | some parent => enclosing? fits depth parent
      | none => return none

/-- The namespace around the present scope. -/
def enclosingNamespace (scope : Nat) : Compile Nat := do
  return (← enclosing? (· == .namespace) scopeDepth scope).getD 0

/-- The structures whose scopes lie around the present scope, the innermost one first. -/
def enclosingRecords : Nat → Nat → Compile (List Nat)
  | 0, _ => return []
  | depth + 1, scope => do
      let found ← scopeEntry scope
      let outer ← match found.parent with
        | some parent => enclosingRecords depth parent
        | none => pure []
      match found.kind with
      | .record id => return id :: outer
      | _ => return outer

/-! ## Packs -/

/-- The packs that some names stand for. -/
def packsOf (names : List Octets) : Compile (List (Octets × List Entity)) := do
  let found ← names.eraseDups.mapM fun name => do
    match ← lookup name with
    | [.pack entities] => return some (name, entities)
    | _ => return none
  return found.filterMap id

/-- Do something once for each member of the packs that are mentioned. -/
def forPack {α : Type} (mentioned : List Octets) (action : Compile α) : Compile (List α) := do
  let packs ← packsOf mentioned
  match packs with
  | [] => throw (.invalid "expansion")
  | (_, entities) :: _ =>
      if packs.any fun pack => pack.2.length != entities.length then
        throw (.mismatch "pack")
      (List.range entities.length).mapM fun position =>
        inNewScope .template do
          for (name, members) in packs do
            if let some entity := members[position]? then declare name entity
          action

/-- Compile expressions; those that stand for several are compiled once for each. -/
def expandAll {α : Type} (action : Expr → Compile α) (items : List Expr) : Compile (List α) := do
  let found ← items.mapM fun item =>
    match item with
    | .expansion pattern => forPack pattern.mentioned (action pattern)
    | single => do return [← action single]
  return found.flatten

/-! ## Names with scopes -/

/-- The scope of the members of a type. -/
def scopeOfType (type : ValueType) : Compile Nat := do
  match type.plain with
  | .record id =>
      let found ← record id
      if !found.isComplete && !found.isBeingDefined then complete id
      return found.scope
  | .enumeration id => return (← enumeration id).scope
  | _ => throw (.noMember "::")

/-- The template that an instance comes from. -/
def originOf? (entity : Entity) : Compile (Option Nat) := do
  match entity with
  | .type (.record id) => return (← record id).origin.map Prod.fst
  | .template id => return some id
  | _ => return none

/-- What a name stands for with some template arguments. Structures, aliases and variables are made;
functions keep the arguments until they are called. -/
def withArguments (name : Octets) (entities : List Entity) (written : List Expr) :
    Compile (List Entity × Option (List TemplateArgument)) := do
  let origins ← entities.filterMapM originOf?
  match origins with
  | [] => throw (.invalid name)
  | first :: _ =>
      let found ← template first
      let given ← arguments first written
      if found.kind == .function then return (entities, some given)
      else return ([← instantiate first given], none)

mutual

/-- The scope that a part of a name is looked up in. -/
def scopeOfName : Nat → Expr → Compile Nat
  | 0, _ => throw .tooDeep
  | depth + 1, written => do
      match written with
      | .outermost => return 0
      | .type written => scopeOfType (← type written)
      | found =>
          let (entities, _) ← resolveWithin depth found
          let isScope : Entity → Bool
            | .namespace _ | .type _ | .template _ => true
            | _ => false
          match entities.find? isScope with
          | some (.namespace scope) => return scope
          | some (.type type) => scopeOfType type
          | _ => throw (.undeclared found.lastName)

/-- What a written name stands for, with the template arguments that it keeps. -/
def resolveWithin : Nat → Expr → Compile (List Entity × Option (List TemplateArgument))
  | 0, _ => throw .tooDeep
  | depth + 1, written => do
      match written with
      | .name scope kind text arguments =>
          let spelled := if kind == .operator then "operator " ++ text else text
          let entities ← match scope with
            | .absent => lookup spelled
            | outer => do lookupIn (← scopeOfName depth outer) spelled
          if kind == .template then withArguments text entities arguments
          else return (entities, none)
      | _ => throw (.invalid "name")

end

/-- What a written name stands for, with the template arguments that it keeps. -/
def resolve (written : Expr) : Compile (List Entity × Option (List TemplateArgument)) :=
  resolveWithin 64 written

/-- The type that a written name stands for, if it is a type. -/
def namedType? (written : Expr) : Compile (Option ValueType) := do
  let (entities, _) ← resolve written
  let types := entities.filterMap fun
    | .type type => some type
    | _ => none
  match types with
  | found :: _ => return some found
  | [] =>
      if written.scopeOf.isAbsent then
        match ← lookupTag? written.lastName scopeDepth (← get).scope with
        | some type => return some type
        | none => pure ()
      let templates := entities.filterMap fun
        | .template id => some id
        | _ => none
      match templates with
      | id :: _ =>
          let given ← attempt? do
            let given ← arguments id []
            instantiate id given
          match given with
          | some (.type type) => return some type
          | _ => return none
      | [] => return none

/-! ## Access -/

/-- Whether the present place may use a member of a structure. -/
def mayAccess (owner : Nat) (access : Access) : Compile Bool := do
  if access == .everyone then return true
  let here ← enclosingRecords scopeDepth (← get).scope
  if here.contains owner then return true
  let found ← record owner
  let isFriend ← here.anyM fun id => do
    return found.friends.contains (← record id).name
  if isFriend then return true
  let function := (← context).function
  if let some id := function then
    if found.friends.contains ("()" ++ (← functionEntry id).name) then return true
  if access == .heirs then here.anyM fun id => isDerived id owner
  else return false

/-- Give up if the present place may not use a member of a structure. -/
def checkAccess (owner : Nat) (access : Access) (name : Octets) : Compile Unit := do
  if !(← mayAccess owner access) then throw (.inaccessible name)

end QueryFoundry.Native.Compile
