import QueryFoundry.Native.Reading.Statements

/-!
# Reading declarations

Variables, functions, structures, templates and the scopes that they are declared in. The members of
a structure are read twice: a survey finds out their names, so that all of them are known in the
bodies of its functions.
-/

namespace QueryFoundry.Native.Read

open Text (Octets)

/-- Whether a type is a function. -/
def isFunctionType : TypeExpr → Bool
  | .function .. => true
  | _ => false

/-- The meaning of a type that is declared here. -/
def typeMeaning (scope : Option Nat) : Read Meaning := do
  return if ← isTemplate then .typeTemplate scope else .type scope

/-- Let the name of a variable or a function be known. A name with a scope has been declared before,
and the name of a constructor remains that of its type. -/
def declareValue (found : Expr) : Read Unit := do
  match found with
  | .name .absent .plain text _ =>
      let reader ← get
      let scope ← declaringScope
      if (reader.scopes[scope]?).any fun here => here.owner == some text then pure ()
      else declare text (if ← isTemplate then .valueTemplate else .value)
  | _ => pure ()

/-- Read the words that may follow a declared name. -/
def labels : Nat → Specifiers → Read Specifiers
  | 0, specifiers => pure specifiers
  | fuel + 1, specifiers => do
      if (← takesWord "__asm__") || (← takesWord "asm") then
        expectMark "("
        let written ← groupTokens
        let text := match Literal.text written with
          | .text codes _ => String.ofList (codes.map Char.ofNat)
          | _ => ""
        labels fuel { specifiers with label := some text }
      else
        let found ← attributes attributeLimit
        if found.isEmpty then return specifiers
        else labels fuel { specifiers with attributes := specifiers.attributes ++ found }

/-- Join what the words in front of a declaration and those behind it say. -/
def joinSpecifiers (front behind : Specifiers) : Specifiers :=
  { front with
    isOverride := behind.isOverride
    isFinal := behind.isFinal
    isNoexcept := behind.isNoexcept
    subjectMark := behind.subjectMark }

/-- Read the initial value of a member or a base of a structure. -/
def memberInitializer (grammar : Grammar) : Read Expr := do
  let (found, _) ← scopedName grammar
  let isSurvey := (← get).isSurvey
  let value ← if isSurvey then do
      if !((← takesMark "(") || (← takesMark "\x7b")) then fail "("
      skipGroup (← partLimit) 0
      pure .absent
    else if ← takesMark "(" then do pure (.initial .arguments (← callArguments grammar))
    else bracedList grammar
  let isPack ← takesMark "..."
  let item : Expr := .assign none found value
  return if isPack then .expansion item else item

/-- Read the body of a function, with the initial values of the members in front of it. -/
def functionBody (grammar : Grammar) (scopes : List Nat) : Read (List Expr × Statement) :=
  inScopes scopes do
    let isGuarded ← takesWord "try"
    let initializers ← if ← takesMark ":" then
        separated (memberInitializer grammar) (← partLimit)
      else pure []
    if (← get).isSurvey then
      expectMark "\x7b"
      skipGroup (← partLimit) 0
      return (initializers, .block [])
    let body ← inside grammar.block
    if isGuarded then
      return (initializers, .attempt body (← handlers grammar (← partLimit)))
    else return (initializers, body)

/-- What is left to be read of a function behind its name. -/
inductive FunctionEnd where
  | body
  | form (form : BodyForm)
  | none
deriving DecidableEq, Repr

/-- Read the mark that tells how the declaration of a function ends. -/
def functionEnd : Read FunctionEnd := do
  if (← seesMark "\x7b") || (← seesMark ":") || (← seesWord "try") then return .body
  else if ← seesMark "=" then
    match ← peekBehind? 1 with
    | some token =>
        let form? : Option BodyForm :=
          if token.isWord "default" then some .defaulted
          else if token.isWord "delete" then some .deleted
          else if token.spelling == "0" then some .pure
          else Option.none
        match form? with
        | some form =>
            advance
            advance
            return .form form
        | Option.none => return .none
    | Option.none => return .none
  else return .none

/-- Read one of the declared names behind the words of a declaration; a function with a body ends
the declaration. -/
def declaredName (grammar : Grammar) (isMember : Bool) (words : Specified) (type : TypeExpr) :
    Read (Statement × Bool) := do
  let isField := isMember && ((← seesMark ":") || (← seesMark ";"))
  let declared ← if isField then pure {} else
    declarator grammar true (← partLimit) .required
  let complete := declared.wrap type
  let specifiers ← labels attributeLimit (joinSpecifiers words.specifiers declared.suffix)
  let isFunction := isFunctionType complete && !specifiers.isTypedef
  if specifiers.isTypedef then
    let text := declared.name.lastName
    declare text (.type (← typeScope? complete))
    return (.alias text complete, false)
  if !specifiers.isFriend || isFunction then declareValue declared.name
  if isFunction then
    match ← functionEnd with
    | .body =>
        let (initializers, body) ← functionBody grammar declared.scopes
        return (.function declared.name complete initializers body specifiers, true)
    | .form form =>
        return (.function declared.name complete [] .empty { specifiers with body := form }, false)
    | .none => return (.function declared.name complete [] .empty specifiers, false)
  let width ← if isMember && (← takesMark ":") then grammar.assignment else pure .absent
  let owners := declared.scopes.take 1
  let value ← inScopes owners (initialBehind grammar)
  return (.variable_ declared.name complete width value specifiers, false)

/-- Read the declared names of a declaration. -/
def declaredNames (grammar : Grammar) (isMember : Bool) (words : Specified) (type : TypeExpr) :
    Nat → Read (List Statement)
  | 0 => fail ";"
  | fuel + 1 => do
      let (first, isBody) ← declaredName grammar isMember words type
      if isBody then
        let _ ← if isMember then takesMark ";" else pure false
        return [first]
      else if ← takesMark "," then
        return first :: (← declaredNames grammar isMember words type fuel)
      else
        expectMark ";"
        return [first]

/-- Whether the type of a declaration is a structure without a name. -/
def isUnnamed : TypeExpr → Bool
  | .tagged _ (.name _ _ text _) => text.startsWith "<"
  | .const type => isUnnamed type
  | _ => false

/-- Read a declaration that starts with the words of a type. -/
def simpleDeclaration (grammar : Grammar) (isMember : Bool) : Read Statement :=
  withHoisted do
    let words ← specified grammar
    if ← takesMark ";" then
      match words.typeExpr? with
      | some type =>
          if !(← get).hoisted.isEmpty && !(isMember && isUnnamed type) then return .empty
          else return .variable_ .absent type .absent .absent words.specifiers
      | none => return .empty
    let isBinding := (← seesMark "[") || (((← seesMark "&") || (← seesMark "&&")) &&
      ((← peekBehind? 1).any fun token => token.isMark "["))
    if isBinding then
      let some plain := words.typeExpr? | fail "declaration"
      let type ← if ← takesMark "&" then pure (.reference plain)
        else if ← takesMark "&&" then pure (.movedReference plain)
        else pure plain
      expectMark "["
      let names ← separated name (← partLimit)
      expectMark "]"
      let value ← initialBehind grammar
      expectMark ";"
      for text in names do declare text .value
      return .bindings names type value
    let type ← match words.typeExpr? with
      | some type => pure type
      | none =>
          if ← isCpp then
            let isSpecial ← ahead? do
              let _ ← attributes attributeLimit
              let (found, _) ← scopedName grammar
              match found with
              | .name _ .destructor .. | .name _ .conversion .. => pure ()
              | _ => if !(← isConstructorName found) then fail "declaration"
            if isSpecial.isNone then fail "declaration"
            pure (.plain .void)
          else if words.isGiven || (← peekName?).isSome then pure (.plain .int)
          else fail "declaration"
    match ← declaredNames grammar isMember words type (← partLimit) with
    | [single] => return single
    | several => return .group several

/-! ## Types -/

/-- Read the items of an enumeration up to the closing brace. -/
def enumerators (grammar : Grammar) (isScoped : Bool) (scope : Nat) : Nat → Read (List Expr)
  | 0 => fail "\x7d"
  | fuel + 1 => do
      if ← takesMark "\x7d" then return []
      let text ← name
      let _ ← attributes attributeLimit
      let value ← if ← takesMark "=" then grammar.assignment else pure .absent
      changeScope scope fun here => { here with names := here.names.insert text .value }
      if !isScoped then declare text .value
      let item : Expr := .enumerator text value
      if ← takesMark "," then return item :: (← enumerators grammar isScoped scope fuel)
      else
        expectMark "\x7d"
        return [item]

/-- The scope of the members of a structure that is declared here by its name: the one that it has
already, or a new one. -/
def memberScope (text : Octets) (isSpecial : Bool) : Read Nat := do
  let reader ← get
  let here ← declaringScope
  let known := (reader.scopes[here]?).bind (·.names[text]?)
  match known, isSpecial with
  | some (.type (some scope)), false | some (.typeTemplate (some scope)), false => return scope
  | _, _ => addScope {}

/-- Read an enumeration behind its keyword. -/
def enumeration (grammar : Grammar) : Read TypeExpr := do
  let isScoped ← if (← isCpp) && ((← seesWord "class") || (← seesWord "struct")) then do
      advance
      pure true
    else pure false
  let _ ← attributes attributeLimit
  let found ← match ← peekName? with
    | some _ => do
        let (found, _) ← scopedName grammar
        pure found
    | none => pure (.plainName (← unnamed))
  let text := found.lastName
  let isDefinition := (← seesMark "\x7b") || ((← isCpp) && (← seesMark ":"))
  let type : TypeExpr := .tagged "enum" found
  if !isDefinition then return type
  let underlying ← if ← takesMark ":" then do
      let words ← specified grammar
      match words.typeExpr? with
      | some underlying => pure underlying
      | none => fail "type"
    else pure .automatic
  let scope ← memberScope text false
  if ← isCpp then
    match found with
    | .name .absent .. => declare text (.type (some scope))
    | _ => pure ()
  if ← takesMark "\x7b" then
    let items ← inside (enumerators grammar isScoped scope (← partLimit))
    hoist (.enumeration found isScoped false underlying items)
  else hoist (.enumeration found isScoped true underlying [])
  return type

/-- Read the words that tell how a structure is inherited. -/
def baseWords : Nat → Option Access → Bool → Read (Option Access × Bool)
  | 0, access, isVirtual => pure (access, isVirtual)
  | fuel + 1, access, isVirtual => do
      if ← takesWord "virtual" then baseWords fuel access true
      else if ← takesWord "public" then baseWords fuel (some .everyone) isVirtual
      else if ← takesWord "protected" then baseWords fuel (some .heirs) isVirtual
      else if ← takesWord "private" then baseWords fuel (some .owner) isVirtual
      else return (access, isVirtual)

/-- Read a structure that another one inherits from. -/
def baseOf (grammar : Grammar) (standard : Access) : Read Expr := do
  let (access, isVirtual) ← baseWords attributeLimit none false
  let _ ← takesWord "typename"
  let (found, _) ← scopedName grammar
  let base : Expr := .base (access.getD standard) isVirtual (.named found)
  if ← takesMark "..." then return .expansion base else return base

/-- The scopes of the members of inherited structures. -/
def baseScopes (bases : List Expr) : Read (List Nat) := do
  let scopes ← bases.mapM fun base =>
    match base with
    | .base _ _ type => typeScope? type
    | _ => pure none
  return scopes.filterMap id

/-- Read the members of a structure up to the closing brace. -/
def members (grammar : Grammar) : Nat → Read (List Statement)
  | 0 => fail "\x7d"
  | fuel + 1 => do
      if ← takesMark "\x7d" then return []
      let first ← grammar.member
      return first :: (← members grammar fuel)

/-- Read the members of a structure, after a survey of their names. -/
def surveyedMembers (grammar : Grammar) (scope : Nat) : Read (List Statement) :=
  inScope scope do
    let before ← get
    if before.language == .cpp && !before.isSurvey then
      set { before with isSurvey := true }
      let _ ← attempt? (members grammar (← partLimit))
      modify fun reader => { reader with
        tokens := before.tokens, isSurvey := false, hoisted := before.hoisted
        unnamed := before.unnamed }
    members grammar (← partLimit)

/-- Read a structure behind its keyword. -/
def record (grammar : Grammar) (key : RecordKey) (word : Octets) : Read TypeExpr := do
  let found ← attributes attributeLimit
  let isCpp ← isCpp
  let named ← if (← peekName?).isSome || (isCpp && (← seesMark "::")) then do
      pure (scopedName grammar)
    else pure do return (.plainName (← unnamed), none)
  let (title, _) ← named
  let text := title.lastName
  let isFinal ← if isCpp then takesWord "final" else pure false
  let isDefinition := (← seesMark "\x7b") || (isCpp && (← seesMark ":"))
  let type : TypeExpr := .tagged word title
  let isSpecial := match title with
    | .name _ .template .. => true
    | _ => false
  if !isDefinition then
    let isDeclaration := (← seesMark ";") && isCpp && !isSpecial
    match title with
    | .name .absent .. =>
        if isDeclaration || (isCpp && (← meaning? text).isNone) then
          declare text (← typeMeaning (some (← memberScope text isSpecial)))
    | _ => pure ()
    return type
  let scope ← match title with
    | .name .absent .. => memberScope text isSpecial
    | _ => do
        match ← scopeOf? title nameDepth with
        | some scope => if isSpecial then addScope {} else pure scope
        | none => addScope {}
  changeScope scope fun here => { here with owner := some text }
  if isSpecial then
    -- What only some instances of a template have is looked up in all of them.
    if let some general := ← scopeOf? title nameDepth then
      changeScope general fun here => { here with others := here.others ++ [scope] }
  if isCpp && !isSpecial then
    match title with
    | .name .absent .. => declare text (← typeMeaning (some scope))
    | _ => pure ()
  let bases ← if isCpp && (← takesMark ":") then
      separated (baseOf grammar (if key == .classKey then .owner else .everyone)) (← partLimit)
    else pure []
  let inherited ← baseScopes bases
  changeScope scope fun here => { here with
    others := here.others ++ (inherited.filter fun id => id != scope && !here.others.contains id) }
  expectMark "\x7b"
  let outer := (← get).hoisted
  let body ← inside (surveyedMembers grammar scope)
  let more ← attributes attributeLimit
  modify fun reader => { reader with hoisted := outer }
  if isCpp && text.startsWith "<" then
    let here := ((← get).scopes[scope]?).getD {}
    let reader ← get
    let around := (reader.scopes[← declaringScope]?).getD {}
    if key == .union || around.owner.isSome then
      let addTo (names : Std.HashMap Octets Meaning) : Std.HashMap Octets Meaning :=
        here.names.fold (fun found text meaning =>
          if found.contains text then found else found.insert text meaning) names
      changeScope (← declaringScope) fun outer => { outer with names := addTo outer.names }
  hoist (.record key title bases body { attributes := found ++ more, isFinal })
  return type

/-- Read a structure or an enumeration, which may be defined there. -/
def definedType (grammar : Grammar) : Read TypeExpr := do
  if ← takesWord "enum" then enumeration grammar
  else if ← takesWord "struct" then record grammar .struct "struct"
  else if ← takesWord "union" then record grammar .union "union"
  else
    expectWord "class"
    record grammar .classKey "class"

/-! ## Templates -/

/-- Read a parameter of a template. -/
def templateParameter (grammar : Grammar)
    (parameterList : Read (List Statement)) : Read Statement := do
  let isTypeWord := (← seesWord "typename") || (← seesWord "class")
  let isPlainType := isTypeWord && ((← peekBehind? 1).any fun token =>
    token.isMark "," || token.isMark ">" || token.isMark "=" || token.isMark "..." ||
      token.isMark ">>") || (isTypeWord && ((← peekBehind? 2).any fun token =>
    token.isMark "," || token.isMark ">" || token.isMark "=" || token.isMark ">>"))
  if isPlainType then
    advance
    let isPack ← takesMark "..."
    let text ← match ← peekName? with
      | some _ => name
      | none => pure ""
    declareHere text (.type none)
    let standard ← if ← takesMark "=" then do pure (.type (← insideAngles grammar.typeName))
      else pure .absent
    return .typeParameter text isPack standard
  else if ← takesWord "template" then
    expectMark "<"
    let _ ← inNewScope parameterList
    if !((← takesWord "class") || (← takesWord "typename")) then fail "class"
    let isPack ← takesMark "..."
    let text ← match ← peekName? with
      | some _ => name
      | none => pure ""
    declareHere text (.typeTemplate none)
    let standard ← if ← takesMark "=" then do
        let (found, _) ← scopedName grammar
        pure found
      else pure .absent
    return .templateParameter text isPack standard
  else
    let words ← specified grammar
    let some type := words.typeExpr? | fail "template parameter"
    let declared ← declarator grammar false (← partLimit) .optional
    declareHere declared.name.lastName .value
    let complete := declared.wrap type
    let standard ← if ← takesMark "=" then insideAngles grammar.assignment else pure .absent
    return .variable_ declared.name (if declared.isPack then .expansion complete else complete)
      .absent standard words.specifiers

/-- Read the parameters of a template up to the closing mark. -/
def templateParameters (grammar : Grammar) : Nat → Read (List Statement)
  | 0 => fail ">"
  | fuel + 1 => do
      if ← seesGreater then
        expectGreater
        return []
      let first ← insideAngles (templateParameter grammar (templateParameters grammar fuel))
      if ← takesMark "," then return first :: (← templateParameters grammar fuel)
      else
        expectGreater
        return [first]

/-- Read a template, behind its keyword. -/
def template (grammar : Grammar) (inner : Read Statement) : Read Statement := do
  if ← takesMark "<" then
    let scope ← addScope { isTemplate := true }
    inScope scope do
      let parameters ← templateParameters grammar (← partLimit)
      let declaration ← inner
      return .template parameters declaration
  else return .instantiate (← inner)

/-! ## Scopes -/

/-- The declaration of something that is linked as another language does. -/
def linkAs (language : Octets) : Nat → Statement → Statement
  | 0, statement => statement
  | depth + 1, statement =>
      match statement with
      | .group declarations => .group (declarations.map (linkAs language depth))
      | .variable_ found type width value specifiers =>
          .variable_ found type width value { specifiers with linkage := some language }
      | .function found type initializers body specifiers =>
          .function found type initializers body { specifiers with linkage := some language }
      | .namespace text isInline declarations =>
          .namespace text isInline (declarations.map (linkAs language depth))
      | other => other

/-- How deeply declarations may be grouped. -/
def groupDepth : Nat := 32

/-- Read declarations up to the closing brace. -/
def declarations (grammar : Grammar) : Nat → Read (List Statement)
  | 0 => fail "\x7d"
  | fuel + 1 => do
      if ← takesMark "\x7d" then return []
      let first ← grammar.declaration
      return first :: (← declarations grammar fuel)

/-- The scope of a namespace that is declared here: the one that it has already, or a new one. -/
def namespaceScope (text : Octets) : Read Nat := do
  let here ← declaringScope
  let known := ((← get).scopes[here]?).bind (·.names[text]?)
  match known with
  | some (.namespace scope) => return scope
  | _ =>
      let scope ← addScope {}
      declare text (.namespace scope)
      return scope

/-- Read a namespace, behind its keyword. -/
def namespaceBehind (grammar : Grammar) (isInline : Bool) : Nat → Read Statement
  | 0 => fail "namespace"
  | fuel + 1 => do
      let _ ← attributes attributeLimit
      let text ← match ← peekName? with
        | some _ => name
        | none => pure ""
      let _ ← attributes attributeLimit
      if ← takesMark "=" then
        let (target, meaning) ← scopedName grammar
        expectMark ";"
        declare text (meaning.getD .value)
        return .namespaceAlias text target
      let outer ← declaringScope
      let scope ← namespaceScope text
      if text.isEmpty || isInline then
        changeScope outer fun here =>
          if here.others.contains scope then here else { here with others := scope :: here.others }
      if ← takesMark "::" then
        let isInner ← takesWord "inline"
        let inner ← inScope scope (namespaceBehind grammar isInner fuel)
        return .namespace text isInline [inner]
      expectMark "\x7b"
      let body ← inScope scope (inside (declarations grammar (← partLimit)))
      return .namespace text isInline body

/-- Read a declaration that makes names known, behind its keyword. -/
def useBehind (grammar : Grammar) : Read Statement := do
  if ← takesWord "namespace" then
    let (target, _) ← scopedName grammar
    expectMark ";"
    if let some scope := ← scopeOf? target nameDepth then
      changeScope (← declaringScope) fun here => { here with others := here.others ++ [scope] }
    return .useNamespace target
  else
    let isAlias := (← peekName?).isSome && ((← peekBehind? 1).any fun token =>
      token.isMark "=" || token.isWord "__attribute__")
    if isAlias then
      let text ← name
      let _ ← attributes attributeLimit
      expectMark "="
      let type ← grammar.typeName
      expectMark ";"
      declare text (← typeMeaning (← typeScope? type))
      return .alias text type
    else
      let items ← separated (do
        let isTypeName ← takesWord "typename"
        let (target, meaning) ← scopedName grammar
        let _ ← takesMark "..."
        let isInherited := match target with
          | .name (.name _ _ owner _) _ text _ => owner == text
          | _ => false
        if !isInherited then
          declare target.lastName (if isTypeName then .type none else meaning.getD .value)
        return Statement.use target) (← partLimit)
      expectMark ";"
      return .group items

/-- Read an assertion, behind its keyword. -/
def assertion (grammar : Grammar) : Read Statement := do
  expectMark "("
  let condition ← inside grammar.assignment
  if ← takesMark "," then
    let _ ← inside grammar.assignment
  expectMark ")"
  expectMark ";"
  return .assertion condition

/-- Read a declaration inside or outside of functions. -/
def declaration (grammar : Grammar) : Read Statement := do
  let isCpp ← isCpp
  if ← takesMark ";" then return .empty
  else if (← takesWord "_Static_assert") || (isCpp && (← takesWord "static_assert")) then
    assertion grammar
  else if (← seesWord "__asm__") || (← seesWord "asm") then
    advance
    expectMark "("
    skipGroup (← partLimit) 0
    expectMark ";"
    return .empty
  else if !isCpp then simpleDeclaration grammar false
  else if ← takesWord "namespace" then namespaceBehind grammar false nameDepth
  else if (← seesWord "inline") && ((← peekBehind? 1).any fun token => token.isWord "namespace") then
    advance
    advance
    namespaceBehind grammar true nameDepth
  else if ← takesWord "using" then useBehind grammar
  else if (← seesWord "extern") && ((← peekBehind? 1).any fun token => token.isWord "template") then
    advance
    advance
    let _ ← simpleDeclaration grammar false
    return .empty
  else if ← takesWord "template" then template grammar grammar.declaration
  else if (← seesWord "extern") && ((← peekBehind? 1).any fun token => token.kind == .text) then
    advance
    let language := match Literal.text (← textTokens 1) with
      | .text codes _ => String.ofList (codes.map Char.ofNat)
      | _ => ""
    if ← takesMark "\x7b" then
      let found ← inside (declarations grammar (← partLimit))
      return .group (found.map (linkAs language groupDepth))
    else
      let found ← grammar.declaration
      match linkAs language groupDepth found with
      | .variable_ title type width value specifiers =>
          return .variable_ title type width value
            { specifiers with isExtern := value.isAbsent }
      | linked => return linked
  else simpleDeclaration grammar false

/-- Read a declaration inside of a structure. -/
def member (grammar : Grammar) : Read Statement := do
  let level (word : Octets) : Read Bool := do
    if (← seesWord word) && ((← peekBehind? 1).any fun token => token.isMark ":") then
      advance
      advance
      return true
    else return false
  if ← takesMark ";" then return .empty
  else if (← takesWord "_Static_assert") || (← takesWord "static_assert") then assertion grammar
  else if !(← isCpp) then simpleDeclaration grammar true
  else if ← level "public" then return .access .everyone
  else if ← level "protected" then return .access .heirs
  else if ← level "private" then return .access .owner
  else if ← takesWord "using" then useBehind grammar
  else if ← takesWord "template" then template grammar grammar.member
  else simpleDeclaration grammar true

/-! ## Sources -/

/-- The readers of the parts of a source, with a bound on how deeply they occur in each other. -/
def grammar : Nat → Grammar
  | 0 =>
      { typeName := fail "end", shortTypeName := fail "end"
        expression := fail "end", assignment := fail "end"
        initial := fail "end", statement := fail "end", block := fail "end"
        declaration := fail "end", member := fail "end", definedType := fail "end" }
  | depth + 1 =>
      { typeName := fun reader => typeName (grammar depth) reader
        shortTypeName := fun reader => shortTypeName (grammar depth) reader
        expression := fun reader => expression (grammar depth) reader
        assignment := fun reader => assignment (grammar depth) reader
        initial := fun reader => initial (grammar depth) reader
        statement := fun reader => statement (grammar depth) reader
        block := fun reader => block (grammar depth) reader
        declaration := fun reader => declaration (grammar depth) reader
        member := fun reader => member (grammar depth) reader
        definedType := fun reader => definedType (grammar depth) reader }

/-- How deeply the parts of a source may occur in each other. -/
def grammarDepth : Nat := 2000

/-- Read all declarations of a source. -/
def source : Nat → Read (List Statement)
  | 0 => fail "end"
  | fuel + 1 => do
      match ← peek? with
      | none => return []
      | some _ =>
          let first ← declaration (grammar grammarDepth)
          return first :: (← source fuel)

end QueryFoundry.Native.Read

namespace QueryFoundry.Native

/-- Read the declarations of a source from its tokens. -/
def readSource (language : Language) (tokens : List Token) :
    Except ReadingError (List Statement) :=
  let limit := tokens.length + 1
  (Read.source limit).run' { language, tokens, limit }

end QueryFoundry.Native
