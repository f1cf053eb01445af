import QueryFoundry.Native.Compilation.Conversion

/-!
# Templates

What the parameters of a template stand for: given arguments, arguments that follow from the types
of operands, and standard ones. Of several definitions for special arguments the most special one
that fits is taken.
-/

namespace QueryFoundry.Native.Compile

open Text (Octets)

/-! ## Parameters and arguments -/

/-- What the name of a parameter stands for. -/
def entityOf : TemplateArgument → Entity
  | .type type => .type type
  | .value value type => .constant value type
  | .symbol _ type => .type type
  | .template id => .template id
  | .pack arguments => .pack (memberEntities arguments)
where
  /-- What the members of a pack stand for. -/
  memberEntities : List TemplateArgument → List Entity
    | [] => []
    | first :: rest => entityOf first :: memberEntities rest

/-- The name of a parameter. -/
def parameterName : Statement → Octets
  | .typeParameter name .. | .templateParameter name .. => name
  | .variable_ name .. => name.lastName
  | _ => ""

/-- Whether a parameter takes any number of arguments. -/
def isPackParameter : Statement → Bool
  | .typeParameter _ isPack _ | .templateParameter _ isPack _ => isPack
  | .variable_ _ (.expansion _) .. => true
  | _ => false

/-- The arguments with those of packs in a row. -/
def flattened (arguments : List TemplateArgument) : List TemplateArgument :=
  arguments.flatMap fun
    | .pack inner => inner
    | single => [single]

/-- An argument as a parameter of a certain type takes it. -/
def adjusted (parameter : Statement) (argument : TemplateArgument) :
    Compile TemplateArgument := do
  match parameter, argument with
  | .typeParameter .., .type _ => return argument
  | .typeParameter .., .template id => do
      let found ← arguments id []
      match ← instantiate id found with
      | .type type => return .type type
      | _ => throw (.mismatch "template argument")
  | .templateParameter .., .template _ => return argument
  | .templateParameter .., .type (.record id) => do
      match (← record id).origin with
      | some (origin, _) => return .template origin
      | none => throw (.mismatch "template argument")
  | .variable_ _ written _ _ _, .value number _ => do
      let plain := match written with
        | .expansion inner => inner
        | other => other
      let wanted ← type plain
      if isInferred wanted then return argument
      let operand ← inForm (.ofInt number (.integer .long)) wanted
      match operand.constant with
      | some (.integer value) => return .value value wanted.plain
      | _ => return .value number wanted.plain
  | .variable_ .., .symbol .. => return argument
  | _, _ => throw (.mismatch "template argument")

/-- A constant argument from an expression. -/
def constantArgument (written : Expr) : Compile TemplateArgument := do
  let operand ← value (← expression written)
  return .value (← evaluate operand) operand.type.plain

/-- The standard argument of a parameter. -/
def standardArgument (parameter : Statement) : Compile TemplateArgument := do
  match parameter with
  | .typeParameter _ _ (.type written) => return .type (← type written)
  | .templateParameter _ _ standard =>
      match (← resolve standard).1 with
      | .template id :: _ => return .template id
      | _ => throw (.noMatch "template")
  | .variable_ _ _ _ standard _ =>
      if standard.isAbsent then throw (.noMatch "template") else constantArgument standard
  | _ => throw (.noMatch "template")

/-- Bind the parameters of a template to arguments, one after the other, in the present scope; the
arguments for all parameters are returned. Arguments that must not be guessed are missing. -/
def bindParameters : List Statement → List TemplateArgument → Compile (List TemplateArgument)
  | [], [] => pure []
  | [], _ => throw (.noMatch "template")
  | parameter :: rest, given => do
      let (argument, left) ← if isPackParameter parameter then
          match given with
          | .pack members :: others => do pure (.pack (← members.mapM (adjusted parameter)), others)
          | _ => do pure (.pack (← given.mapM (adjusted parameter)), [])
        else match given with
          | first :: others => do pure (← adjusted parameter first, others)
          | [] => do pure (← adjusted parameter (← standardArgument parameter), [])
      declare (parameterName parameter) (entityOf argument)
      return argument :: (← bindParameters rest left)

/-- A scope in which the parameters of a template are bound, and all arguments. -/
def boundScope (scope : Nat) (parameters : List Statement) (given : List TemplateArgument) :
    Compile (Nat × List TemplateArgument) := do
  let inner ← addScope { kind := .template, parent := some scope }
  let arguments ← inScope inner (bindParameters parameters given)
  return (inner, arguments)

/-- An argument of a template as it is written. -/
def writtenArgument (written : Expr) : Compile TemplateArgument := do
  match written with
  | .type (.named name) => do
      let (entities, _) ← resolve name
      match entities with
      | [.template id] => return .template id
      | [.constant number type] => return .value number type
      | _ => return .type (← type (.named name))
  | .type written => return .type (← type written)
  | .name _ .plain _ _ => do
      match (← resolve written).1 with
      | [.template id] =>
          if (← template id).kind == .record then return .template id
          else constantArgument written
      | [.type found] => return .type found
      | _ => constantArgument written
  | _ => constantArgument written

/-- All arguments of a template from what is written; those of a function may be incomplete. -/
def writtenArguments (id : Nat) (written : List Expr) : Compile (List TemplateArgument) := do
  let given ← expandAll writtenArgument written
  let found ← template id
  if found.kind == .function then return given
  else return (← boundScope found.scope found.parameters given).2

/-! ## Arguments that follow from types -/

/-- What parameters are found to stand for. -/
abbrev Found := List (Octets × TemplateArgument)

/-- Whether two arguments are the same; numbers may have different types. -/
def isSameArgument : TemplateArgument → TemplateArgument → Bool
  | .value first _, .value second _ => first == second
  | first, second => first == second

/-- Let a parameter stand for an argument; it cannot stand for two different ones. -/
def assign (name : Octets) (argument : TemplateArgument) (found : Found) : Option Found :=
  match found.lookup name with
  | none => some ((name, argument) :: found)
  | some known => if isSameArgument known argument then some found else none

/-- A search for arguments. -/
abbrev Search := Compile (Option Found)

/-- The names of the parameters whose arguments are looked for. -/
def isParameter (parameters : List Statement) (name : Octets) : Bool :=
  parameters.any fun parameter => parameterName parameter == name

/-- Collect what the parameters stand for in each of several matches, as packs. -/
def packed (before : Found) (matches_ : List Found) (names : List Octets) : Found :=
  names.foldl (fun found name =>
    let members := matches_.filterMap (·.lookup name)
    if members.length == matches_.length then
      (name, .pack members) :: found.filter (·.1 != name)
    else found) before

/-- How deeply types are compared. -/
def searchDepth : Nat := 64

/-- Arguments of which nothing is known, for the parameters of a template. -/
def unknownArguments (parameters : List Statement) : Compile (List TemplateArgument) := do
  let found ← parameters.mapM fun parameter => do
    let number ← fresh
    match parameter with
    | .typeParameter .. => return TemplateArgument.type (.unknown number)
    | .variable_ .. => return .value (1000000000 + number) .int
    | _ => return .template 0
  return found

mutual

/-- Find arguments for which a type in which parameters stand as unknown ones is a given one; the
parameters are named by the numbers of the unknown types. -/
def matchType (names : List (Nat × Octets)) : Nat → ValueType → ValueType → Found → Search
  | 0, _, _, _ => throw .tooDeep
  | depth + 1, pattern, actual, found => do
      match pattern, actual with
      | .unknown number, _ =>
          match names.lookup number with
          | some name => return assign name (.type actual) found
          | none => return if pattern == actual then some found else none
      | .pointer inner, .pointer target | .reference inner, .reference target
      | .movedReference inner, .movedReference target | .const inner, .const target =>
          matchType names depth inner target found
      | .array inner first, .array target second =>
          if first == second then matchType names depth inner target found else return none
      | .function inner patterns _ _, .function target inputs _ _ => do
          if patterns.length != inputs.length then return none
          match ← matchType names depth inner target found with
          | some more =>
              matchArguments names depth (patterns.map .type) (inputs.map .type) more
          | none => return none
      | .record first, .record second => do
          if first == second then return some found
          match (← record first).origin, (← record second).origin with
          | some (origin, patterns), some (other, inputs) =>
              if origin == other then
                matchArguments names depth (flattened patterns) (flattened inputs) found
              else return none
          | _, _ => return none
      | _, _ => return if pattern == actual then some found else none

/-- Find arguments for which arguments in which parameters stand as unknown ones are given ones. -/
def matchArguments (names : List (Nat × Octets)) :
    Nat → List TemplateArgument → List TemplateArgument → Found → Search
  | 0, _, _, _ => throw .tooDeep
  | _, [], [], found => pure (some found)
  | depth + 1, first :: rest, second :: others, found => do
      let matched ← match first, second with
        | .type pattern, .type actual => matchType names depth pattern actual found
        | .value number _, argument =>
            match names.lookup (number.toNat - 1000000000) with
            | some name => pure (assign name argument found)
            | none => pure (if isSameArgument first second then some found else none)
        | _, _ => pure (if isSameArgument first second then some found else none)
      match matched with
      | some more => matchArguments names depth rest others more
      | none => return none
  | _, _, _, _ => pure none

end

/-- The plain name that an argument of a template consists of, if it does. -/
def plainArgument? : Expr → Option Octets
  | .type (.named (.name .absent .plain text _)) | .name .absent .plain text _ => some text
  | _ => none

/-- An argument of a template as an expression. -/
def argumentExpr? : TemplateArgument → Option Expr
  | .type type => some (.type (.plain type))
  | .value number type => if number < 0 then none else some (.integer number.toNat type)
  | _ => none

/-- The argument of the type that another name stands for, with what is written for the parameters of
that name in their places. -/
def aliasArgument? (found : TemplateEntry) (written : List Expr) (argument : Expr) :
    Compile (Option (List Expr)) := do
  let names := found.parameters.map parameterName
  let placeOf (text : Octets) : Option (Nat × Bool) := do
    let index ← names.findIdx? (· == text)
    return (index, isPackParameter (← found.parameters[index]?))
  let place? := match argument with
    | .expansion inner => (plainArgument? inner).bind placeOf
    | single => (plainArgument? single).bind placeOf
  match place?, argument with
  | some (index, true), .expansion _ => return some (written.drop index)
  | some (index, false), _ => return written[index]?.map ([·])
  | _, _ =>
      if argument.mentioned.any names.contains then return none
      let given ← inScope found.scope (writtenArgument argument)
      return (argumentExpr? given).map ([·])

/-- The template and the arguments that another name of its instances stands for, if each of its
parameters just stands for one of the arguments. -/
def aliasTarget? (found : TemplateEntry) (written : List Expr) :
    Compile (Option (List Nat × List Expr)) := do
  match found.declaration with
  | .alias _ (.named (.name scope .template text arguments)) => do
      let templates := (← inScope found.scope (resolve (.name scope .plain text []))).1
      let origins ← templates.filterMapM originOf?
      let rows ← arguments.mapM (aliasArgument? found written)
      if rows.all Option.isSome then return some (origins, (rows.filterMap id).flatten)
      else return none
  | _ => return none

/-- Find arguments for which another name of a type stands for a given one. Where that name means
nothing yet, nothing is found. -/
def searchAlias (parameters : List Statement) (depth : Nat) (written : Expr) (actual : ValueType)
    (found : Found) : Search := do
  let open_ := parameters.filter fun parameter => !isPackParameter parameter
  if open_.length != parameters.length then return some found
  let unknown ← unknownArguments open_
  let numbers := unknown.filterMap fun
    | .type (.unknown number) => some number
    | .value number _ => some (number.toNat - 1000000000)
    | _ => none
  if numbers.length != open_.length then return some found
  let pattern? ← attempt? do
    let (inner, _) ← boundScope (← get).scope open_ unknown
    inScope inner (type (.named written))
  match pattern? with
  | none => return some found
  | some pattern =>
      let names := numbers.zip (open_.map parameterName)
      matchType names depth pattern actual.plain found

mutual

/-- Find arguments for which a type as it is written is a given one. -/
def searchType (parameters : List Statement) :
    Nat → TypeExpr → ValueType → Found → Search
  | 0, _, _, _ => throw .tooDeep
  | depth + 1, pattern, actual, found => do
      match pattern with
      | .named (.name .absent .plain text _) =>
          if isParameter parameters text then return assign text (.type actual) found
          else return some found
      | .named (.name scope .template text written) =>
          searchInstance parameters depth scope text written actual found
      | .const inner => searchType parameters depth inner actual.plain found
      | .pointer inner =>
          match actual.plain with
          | .pointer target => searchType parameters depth inner target found
          | _ => return none
      | .reference inner =>
          match actual with
          | .reference target => searchType parameters depth inner target found
          | _ => return none
      | .movedReference inner =>
          match actual with
          | .movedReference target => searchType parameters depth inner target found
          | _ => return none
      | .array inner length =>
          match actual with
          | .array element size => do
              match ← searchType parameters depth inner element found with
              | none => return none
              | some more =>
                  match length, size with
                  | .name .absent .plain text _, some count =>
                      if isParameter parameters text then
                        return assign text (.value count .size) more
                      else return some more
                  | _, _ => return some more
          | _ => return none
      | .function result inputs _ _ =>
          match actual with
          | .function result' inputs' _ _ => do
              match ← searchType parameters depth result result' found with
              | none => return none
              | some more => searchInputs parameters depth inputs inputs' more
          | _ => return none
      | .memberPointer owner inner =>
          match actual.plain with
          | .member id target => do
              match ← searchType parameters depth (.named owner) (.record id) found with
              | none => return none
              | some more => searchType parameters depth inner target more
          | _ => return none
      | _ => return some found

/-- Find arguments for which the types of parameters as they are written are given ones. -/
def searchInputs (parameters : List Statement) :
    Nat → List Statement → List ValueType → Found → Search
  | 0, _, _, _ => throw .tooDeep
  | _, [], _, found => pure (some found)
  | depth + 1, .variable_ _ (.expansion pattern) _ _ _ :: _, actual, found =>
      searchPack parameters depth pattern actual [] found
  | depth + 1, .variable_ _ pattern _ _ _ :: rest, first :: others, found => do
      match ← searchType parameters depth pattern first found with
      | none => return none
      | some more => searchInputs parameters depth rest others more
  | _, _, _, _ => pure none

/-- Find packs for which a pattern stands for given types. -/
def searchPack (parameters : List Statement) :
    Nat → TypeExpr → List ValueType → List Found → Found → Search
  | 0, _, _, _, _ => throw .tooDeep
  | _, pattern, [], done, found =>
      pure (some (packed found done.reverse
        (pattern.mentioned.eraseDups.filter (isParameter parameters))))
  | depth + 1, pattern, first :: rest, done, found => do
      match ← searchType parameters depth pattern first [] with
      | none => return none
      | some single => searchPack parameters depth pattern rest (single :: done) found

/-- Find arguments for which the instance of a template is a given type, or inherited by it. -/
def searchInstance (parameters : List Statement) :
    Nat → Expr → Octets → List Expr → ValueType → Found → Search
  | 0, _, _, _, _, _ => throw .tooDeep
  | depth + 1, scope, text, written, actual, found => do
      if scope.isAbsent && isParameter parameters text then
        match actual.plain with
        | .record id =>
            match (← record id).origin with
            | some (origin, given) =>
                match assign text (.template origin) found with
                | some more => searchArguments parameters depth written (flattened given) more
                | none => return none
            | none => return none
        | _ => return none
      else
        let templates := (← resolve (.name scope .plain text [])).1
        let alias? ← match templates with
          | [.template id] => do
              let entry ← template id
              pure (if entry.kind == .alias then some entry else none)
          | _ => pure none
        match alias? with
        | some entry =>
            match ← aliasTarget? entry written with
            | some (origins, arguments) =>
                searchOrigins parameters depth origins arguments actual found
            | none =>
                searchAlias parameters depth (.name scope .template text written) actual found
        | none => do
            let origins ← templates.filterMapM originOf?
            searchOrigins parameters depth origins written actual found

/-- Find arguments for which an instance of some templates is a given type, or inherited by it. -/
def searchOrigins (parameters : List Statement) :
    Nat → List Nat → List Expr → ValueType → Found → Search
  | 0, _, _, _, _ => throw .tooDeep
  | depth + 1, origins, written, actual, found => do
      match actual.plain with
      | .record id =>
          let direct ← match (← record id).origin with
            | some (origin, given) =>
                if origins.contains origin then
                  searchArguments parameters depth written (flattened given) found
                else pure none
            | none => pure none
          match direct with
          | some more => return some more
          | none =>
              let complete ← completeRecord id
              searchBases parameters depth origins written complete.bases found
      | _ => return none

/-- Find arguments for which the instance of a template is among inherited structures. -/
def searchBases (parameters : List Statement) :
    Nat → List Nat → List Expr → List Base → Found → Search
  | 0, _, _, _, _ => throw .tooDeep
  | _, _, _, [], _ => pure none
  | depth + 1, origins, written, base :: rest, found => do
      match ← searchOrigins parameters depth origins written (.record base.record) found with
      | some more => return some more
      | none => searchBases parameters depth origins written rest found

/-- Find arguments for which the arguments of a template as they are written are given ones. -/
def searchArguments (parameters : List Statement) :
    Nat → List Expr → List TemplateArgument → Found → Search
  | 0, _, _, _ => throw .tooDeep
  | _, [], [], found => pure (some found)
  | depth + 1, .expansion pattern :: _, actual, found =>
      searchArgumentPack parameters depth pattern actual [] found
  | depth + 1, pattern :: rest, first :: others, found => do
      match ← searchArgument parameters depth pattern first found with
      | none => return none
      | some more => searchArguments parameters depth rest others more
  | _, _, _, _ => pure none

/-- Find packs for which a pattern stands for given arguments. -/
def searchArgumentPack (parameters : List Statement) :
    Nat → Expr → List TemplateArgument → List Found → Found → Search
  | 0, _, _, _, _ => throw .tooDeep
  | _, pattern, [], done, found =>
      pure (some (packed found done.reverse
        (pattern.mentioned.eraseDups.filter (isParameter parameters))))
  | depth + 1, pattern, first :: rest, done, found => do
      match ← searchArgument parameters depth pattern first [] with
      | none => return none
      | some single =>
          searchArgumentPack parameters depth pattern rest (single :: done) found

/-- Find arguments for which an argument as it is written is a given one. -/
def searchArgument (parameters : List Statement) :
    Nat → Expr → TemplateArgument → Found → Search
  | 0, _, _, _ => throw .tooDeep
  | depth + 1, pattern, actual, found => do
      match pattern, actual with
      | .type written, .type type => do
          let isOpen := written.mentioned.any (isParameter parameters)
          if isOpen then
            match written, type with
            | .const _, .const _ => searchType parameters depth written type found
            | .const _, _ => return none
            | _, _ => searchType parameters depth written type found
          else if (← Compile.type written) == type then return some found
          else return none
      | .type (.named (.name .absent .plain text _)), argument
      | .name .absent .plain text _, argument =>
          if isParameter parameters text then return assign text argument found
          else
            let isSame := (← writtenArgument pattern) == argument
            return if isSame then some found else none
      | written, .value number _ =>
          if written.mentioned.any (isParameter parameters) then return some found
          match ← constantArgument written with
          | .value known _ => return if known == number then some found else none
          | _ => return none
      | _, _ => return none

end

/-- The arguments for the parameters of a template, in order, as far as they were found; packs that
were not found are empty. -/
def inOrder (parameters : List Statement) (found : Found) : Compile (List TemplateArgument) := do
  let row ← parameters.mapM fun parameter =>
    match found.lookup (parameterName parameter) with
    | some argument => return some argument
    | none => return if isPackParameter parameter then some (.pack []) else none
  let known := row.takeWhile Option.isSome
  if (row.drop known.length).any Option.isSome then
    -- Standard arguments in the middle are found in the order of the parameters.
    let rec fill : List Statement → List (Option TemplateArgument) → Compile (List TemplateArgument)
      | parameter :: rest, none :: others => do
          let argument ← adjusted parameter (← standardArgument parameter)
          declare (parameterName parameter) (entityOf argument)
          return argument :: (← fill rest others)
      | parameter :: rest, some argument :: others => do
          declare (parameterName parameter) (entityOf argument)
          return argument :: (← fill rest others)
      | _, others => return others.filterMap id
    inNewScope .template (fill parameters row)
  else return known.filterMap id

/-- The arguments that a definition for special arguments takes, if it fits. -/
def fitting? (found : Specialization) (actual : List TemplateArgument) :
    Compile (Option (List TemplateArgument)) := do
  let result ← attempt? do
    inScope found.scope do
      match ← searchArguments found.parameters searchDepth found.patterns (flattened actual) [] with
      | none => throw (.noMatch "specialization")
      | some bound =>
          let given ← inOrder found.parameters bound
          let (inner, _) ← boundScope found.scope found.parameters given
          let again ← inScope inner (expandAll writtenArgument found.patterns)
          let first := flattened again
          let second := flattened actual
          let isSame := first.length == second.length &&
            (first.zip second).all fun (one, other) => isSameArgument one other
          if isSame then return given else throw (.noMatch "specialization")
  return result

/-- Whether one definition for special arguments is at least as special as another one. -/
def isAsSpecial (first second : Specialization) : Compile Bool := do
  let result ← hypothetically? do
    let unknown ← unknownArguments first.parameters
    let (inner, _) ← boundScope first.scope first.parameters unknown
    let patterns ← inScope inner (expandAll writtenArgument first.patterns)
    match ← inScope second.scope
        (searchArguments second.parameters searchDepth second.patterns (flattened patterns) []) with
    | some _ => return true
    | none => return false
  return result == some true

/-- Whether a template has a definition of its own for some arguments. -/
def isSpecialized (found : TemplateEntry) (actual : List TemplateArgument) : Compile Bool :=
  found.specializations.anyM fun special => do
    return (← fitting? special actual).isSome

/-- The definition that a template has for some arguments, with the arguments of that definition. -/
def definitionFor (found : TemplateEntry) (actual : List TemplateArgument) :
    Compile (List Statement × Statement × Nat × List TemplateArgument) := do
  let candidates ← found.specializations.filterMapM fun special => do
    return (← fitting? special actual).map (special, ·)
  match candidates with
  | [] => return (found.parameters, found.declaration, found.scope, flattened actual)
  | [(special, given)] => return (special.parameters, special.declaration, special.scope, given)
  | _ =>
      let best? ← candidates.findM? fun (special, _) =>
        candidates.allM fun (other, _) => isAsSpecial special other
      match best? with
      | some (special, given) =>
          return (special.parameters, special.declaration, special.scope, given)
      | none => throw (.ambiguous found.name)

/-! ## Functions -/

/-- The type and the parameters of the function that a template makes. -/
def functionPattern : Statement → Option (TypeExpr × List Statement)
  | .function _ (.function result parameters _ _) _ _ _ => some (result, parameters)
  | .group members => members.findSome? fun
      | .function _ (.function result parameters _ _) _ _ _ => some (result, parameters)
      | _ => none
  | .template _ (.function _ (.function result parameters _ _) _ _ _) => some (result, parameters)
  | _ => none

/-- The type that a parameter that is passed by value is compared with. -/
def argumentType (operand : Operand) : Compile ValueType := do
  match operand.subject with
  | .functions name found arguments => do
      let id ← singleFunction name found arguments
      return (← functionEntry id).type
  | .plain => return operand.type
  | _ => throw (.mismatch "argument")

/-- Find arguments for which a parameter of a function takes an operand. Nothing is looked for where
the arguments that were given, whose names are `fixed`, decide the type of the parameter. -/
def searchOperand (parameters : List Statement) (fixed : List Octets) (pattern : TypeExpr)
    (operand : Operand) (found : Found) : Search := do
  let isOpen := pattern.mentioned.any fun name =>
    isParameter parameters name && !fixed.contains name
  if !isOpen then return some found
  match operand.subject with
  | .list items =>
      match pattern with
      | .named (.name _ .template "initializer_list" [.type element])
      | .const (.named (.name _ .template "initializer_list" [.type element])) => do
          let operands ← expandAll expression items
          operands.foldlM (fun known operand => do
            match known with
            | none => return none
            | some more =>
                searchType parameters searchDepth element (← argumentType operand).decayed more)
            (some found)
      | _ => return some found
  | _ =>
      let actual? ← attempt? (argumentType operand)
      match actual? with
      | none => return some found
      | some actual =>
          match pattern with
          | .movedReference (.named (.name .absent .plain text _)) =>
              if isParameter parameters text then
                let type := if operand.category == .place then referenceTo actual else actual
                return assign text (.type type) found
              else return some found
          | .reference (.const inner) | .movedReference (.const inner) =>
              searchType parameters searchDepth inner actual.plain found
          | .reference inner | .movedReference inner =>
              searchType parameters searchDepth inner actual found
          | .const inner => searchType parameters searchDepth inner actual.decayed found
          | plain => searchType parameters searchDepth plain actual.decayed found

/-- What the parameters in a pattern stand for at one place of their packs. -/
def foundAt (names : List Octets) (found : Found) (place : Nat) : Found :=
  names.filterMap fun name =>
    match found.lookup name with
    | some (.pack members) => members[place]?.map (name, ·)
    | _ => none

/-- Find arguments for which the parameters of a function take operands. -/
def searchOperands (parameters : List Statement) (fixed : List Octets) :
    List Statement → List Operand → Found → Search
  | .variable_ _ (.expansion pattern) _ _ _ :: rest, operands, found => do
      let count := operands.length - rest.length
      let names := pattern.mentioned.eraseDups.filter (isParameter parameters)
      let matches_ ← (operands.take count).zipIdx.mapM fun (operand, place) =>
        let known := foundAt names found place
        searchOperand parameters (known.map Prod.fst) pattern operand known
      if matches_.any Option.isNone then return none
      let collected := packed found (matches_.filterMap id) names
      searchOperands parameters fixed rest (operands.drop count) collected
  | .variable_ _ pattern _ _ _ :: rest, operand :: others, found => do
      match ← searchOperand parameters fixed pattern operand found with
      | none => return none
      | some more => searchOperands parameters fixed rest others more
  | _, _, found => pure (some found)

/-- What the parameters of a template stand for by the arguments that were given. -/
def givenArguments : List Statement → List TemplateArgument → Found
  | parameter :: rest, given =>
      if isPackParameter parameter then
        if given.isEmpty then [] else [(parameterName parameter, .pack given)]
      else
        match given with
        | first :: others => (parameterName parameter, first) :: givenArguments rest others
        | [] => []
  | [], _ => []

/-- The arguments of a function template for a call, if they can be found. -/
def searchCall? (id : Nat) (given : List TemplateArgument) (operands : List Operand) :
    Compile (Option (List TemplateArgument)) :=
  attempt? do
    let found ← template id
    let some (_, inputs) := functionPattern found.declaration | throw (.noMatch found.name)
    let known := givenArguments found.parameters given
    inScope found.scope do
      match ← searchOperands found.parameters (known.map Prod.fst) inputs operands known with
      | none => throw (.noMatch found.name)
      | some bound =>
          let row ← inOrder found.parameters bound
          return (← boundScope found.scope found.parameters row).2

/-- Whether one function template is at least as special as another one. -/
def isFunctionAsSpecial (first second : Nat) : Compile Bool := do
  let result ← hypothetically? do
    let one ← template first
    let other ← template second
    let some (_, inputs) := functionPattern one.declaration | throw (.noMatch "")
    let some (_, patterns) := functionPattern other.declaration | throw (.noMatch "")
    let unknown ← unknownArguments one.parameters
    let (inner, _) ← boundScope one.scope one.parameters unknown
    let types ← inScope inner (parameterTypes inputs)
    let isExpanded := inputs.any fun
      | .variable_ _ (.expansion _) .. => true
      | _ => false
    let isOtherExpanded := patterns.any fun
      | .variable_ _ (.expansion _) .. => true
      | _ => false
    let plainPatterns := patterns.map fun
      | .variable_ name (.reference type) width initial specifiers =>
          Statement.variable_ name type width initial specifiers
      | .variable_ name (.movedReference type) width initial specifiers =>
          .variable_ name type width initial specifiers
      | plain => plain
    if isExpanded && !isOtherExpanded then return false
    match ← inScope other.scope (searchInputs other.parameters searchDepth plainPatterns
        (types.map ValueType.referred) []) with
    | some _ => return isOtherExpanded || plainPatterns.length == types.length
    | none => return false
  return result == some true

end QueryFoundry.Native.Compile
