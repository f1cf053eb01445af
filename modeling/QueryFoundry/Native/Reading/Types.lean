import QueryFoundry.Native.Reading.Reader

/-!
# Reading names and types

Names with the scopes that they are looked up in, the words in front of a declaration, and the marks
around a declared name, which tell its type from the inside out.
-/

namespace QueryFoundry.Native.Read

open Text (Octets)

/-! ## Names -/

/-- Whether a mark comes next that may close the arguments of a template. -/
def seesGreater : Read Bool := do
  return (← peek?).any fun token => token.kind == .mark && token.spelling.startsWith ">"

/-- Read an argument of a template: a type or an expression. -/
def templateArgument (grammar : Grammar) : Read Expr := do
  let asType : Read TypeExpr := do
    let type ← grammar.typeName
    if (← seesMark ",") || (← seesGreater) || (← seesMark "...") || (← seesMark ")") then return type
    else fail "template argument"
  match ← attempt? asType with
  | some (.expansion pattern) => return .expansion (.type pattern)
  | some type => if ← takesMark "..." then return .expansion (.type type) else return .type type
  | none =>
      let argument ← grammar.assignment
      if ← takesMark "..." then return .expansion argument else return argument

/-- Read the arguments of a template between angle brackets. -/
def templateArguments (grammar : Grammar) : Read (List Expr) := do
  expectMark "<"
  insideAngles do
    if ← seesGreater then
      expectGreater
      return []
    else
      let arguments ← separated (templateArgument grammar) (← partLimit)
      expectGreater
      return arguments

/-- The operators that may be given a meaning and that consist of one mark. -/
def overloadable : List Octets :=
  ["+", "-", "*", "/", "%", "^", "&", "|", "~", "!", "=", "<", ">", "+=", "-=", "*=", "/=", "%=",
    "^=", "&=", "|=", "<<", ">>", ">>=", "<<=", "==", "!=", "<=", ">=", "&&", "||", "++", "--", ",",
    "->*", "->"]

/-- Read the name of an operator behind the word for it. -/
def operatorName (grammar : Grammar) (scope : Expr) : Read Expr := do
  match ← peek? with
  | none => fail "operator"
  | some token =>
      let named (text : Octets) : Expr := .name scope .operator text []
      if token.kind == .mark && overloadable.contains token.spelling then
        advance
        return named token.spelling
      else if ← takesMark "(" then
        expectMark ")"
        return named "()"
      else if ← takesMark "[" then
        expectMark "]"
        return named "[]"
      else if token.isWord "new" || token.isWord "delete" then
        advance
        if ← takesMark "[" then
          expectMark "]"
          return named (token.spelling ++ "[]")
        else return named token.spelling
      else if token.kind == .text then
        advance
        if token.spelling == "\"\"" then return named ("\"\"" ++ (← name))
        else return named token.spelling
      else
        let type ← grammar.shortTypeName
        return .name scope .conversion "" [.type type]

/-- Where the next part of a name is looked up. -/
inductive Lookup where
  /-- In the present scopes. -/
  | present
  | scope (id : Nat)
  /-- The scope depends on the arguments of a template. -/
  | unknown
deriving DecidableEq, Repr, Inhabited

/-- What a part of a name means. -/
def lookUp (place : Lookup) (text : Octets) : Read (Option Meaning) :=
  match place with
  | .present => meaning? text
  | .scope id => memberMeaning? id text
  | .unknown => pure none

/-- Where the parts behind a name are looked up. -/
def lookupBehind : Option Meaning → Lookup
  | some (.type (some scope)) | some (.typeTemplate (some scope)) | some (.namespace scope) =>
      .scope scope
  | _ => .unknown

/-- Whether the marks of a name go on with another part. -/
def seesNextPart : Read Bool := do
  if !(← isCpp) || !(← seesMark "::") then return false
  match ← peekBehind? 1 with
  | some token =>
      return isName .cpp token || token.isWord "template" || token.isWord "operator" ||
        token.isMark "~"
  | none => return false

/-- Read the parts of a name behind the scope that was read so far, with what the name means. -/
def nameParts (grammar : Grammar) :
    Nat → Expr → Lookup → Read (Expr × Option Meaning)
  | 0, _, _ => fail "name"
  | fuel + 1, scope, place => do
      let isForced ← takesWord "template"
      if ← takesMark "~" then
        let text ← name
        if ← seesMark "<" then
          let _ ← attempt? (templateArguments grammar)
        return (.name scope .destructor text [], some .value)
      else if ← takesWord "operator" then
        return (← operatorName grammar scope, some .value)
      else
        let text ← name
        let meaning ← lookUp place text
        let isTemplate := match meaning with
          | some (.typeTemplate _) | some .valueTemplate => true
          | _ => isForced
        let arguments ← if isTemplate && (← seesMark "<") then attempt? (templateArguments grammar)
          else pure none
        let found : Expr := match arguments with
          | some given => .name scope .template text given
          | none => .name scope .plain text []
        if ← seesNextPart then
          expectMark "::"
          nameParts grammar fuel found (lookupBehind meaning)
        else
          let result := match meaning, arguments with
            | some (.typeTemplate members), some _ => some (.type members)
            | _, _ => meaning
          return (found, result)

/-- Read a name with its scopes, and what it means. -/
def scopedName (grammar : Grammar) : Read (Expr × Option Meaning) := do
  let limit ← partLimit
  if (← isCpp) && (← seesMark "::") then
    advance
    nameParts grammar limit .outermost (.scope 0)
  else if (← isCpp) && (← seesWord "decltype") then
    advance
    expectMark "("
    let operand ← inside grammar.expression
    expectMark ")"
    expectMark "::"
    nameParts grammar limit (.type (.ofExpression operand true)) .unknown
  else nameParts grammar limit .absent .present

/-- The scope of the members of what a name means. -/
def scopeOf? (found : Expr) : Nat → Read (Option Nat)
  | 0 => pure none
  | fuel + 1 => do
      match found with
      | .outermost => return some 0
      | .name scope _ text _ =>
          let meaning ← match scope with
            | .absent => meaning? text
            | _ => do
                match ← scopeOf? scope fuel with
                | some id => memberMeaning? id text
                | none => pure none
          match lookupBehind meaning with
          | .scope id => return some id
          | _ => return none
      | _ => return none

/-- How deeply names may be scoped. -/
def nameDepth : Nat := 64

/-- The scope of the members of a type. -/
def typeScope? : TypeExpr → Read (Option Nat)
  | .named found | .tagged _ found => scopeOf? found nameDepth
  | .const type => typeScope? type
  | _ => pure none

/-- Whether a name means a type. -/
def isType : Option Meaning → Bool
  | some (.type _) | some (.typeTemplate _) => true
  | _ => false

/-! ## Attributes -/

/-- The number that a token tells, if it is one. -/
def numberOf? (tokens : List Token) : Option Nat :=
  tokens.findSome? fun token =>
    if token.kind == .number then token.spelling.toNat? else none

/-- The text that a token tells, if it is one. -/
def textOf? (tokens : List Token) : Option Octets :=
  tokens.findSome? fun token =>
    if token.kind == .text then some (String.ofList ((token.spelling.toList.drop 1).dropLast))
    else none

/-- The attribute with a name and the tokens of its arguments. -/
def attributeOf (written : Octets) (arguments : List Token) : Attribute :=
  let plain := if written.startsWith "__" && written.endsWith "__" then
      String.ofList (((written.toList.drop 2).reverse.drop 2).reverse)
    else written
  match plain with
  | "constructor" => .constructor ((numberOf? arguments).getD 65535)
  | "destructor" => .destructor ((numberOf? arguments).getD 65535)
  | "weak" => .weak
  | "visibility" => .visibility ((textOf? arguments).getD "default")
  | "alias" => .alias ((textOf? arguments).getD "")
  | "packed" => .packed
  | "aligned" => .aligned ((numberOf? arguments).getD 16)
  | "cleanup" => .cleanup ((arguments.head?.map (·.spelling)).getD "")
  | name => .other name

/-- Read the tokens up to the parenthesis that closes what was opened. -/
def groupTokens : Read (List Token) := do
  let before := (← get).tokens
  skipGroup before.length 0
  let after := (← get).tokens
  return before.take (before.length - after.length - 1)

/-- Read attributes between their parentheses. -/
def attributeList (close : Octets) : Nat → Read (List Attribute)
  | 0 => fail close
  | fuel + 1 => do
      if ← takesMark close then return []
      else if ← takesMark "," then attributeList close fuel
      else
        match ← peek? with
        | some token =>
            if token.kind != .word then fail "attribute"
            advance
            let written ← if ← takesMark "::" then
                match ← peek? with
                | some inner => do
                    advance
                    pure inner.spelling
                | none => fail "attribute"
              else pure token.spelling
            let arguments ← if ← takesMark "(" then groupTokens else pure []
            return attributeOf written arguments :: (← attributeList close fuel)
        | none => fail "attribute"

/-- Read the attributes that come next. -/
def attributes : Nat → Read (List Attribute)
  | 0 => pure []
  | fuel + 1 => do
      if ← takesWord "__attribute__" then
        expectMark "("
        expectMark "("
        let found ← attributeList ")" (← partLimit)
        expectMark ")"
        return found ++ (← attributes fuel)
      else if (← isCpp) && (← seesMark "[") &&
          ((← peekBehind? 1).any fun token => token.isMark "[") then
        advance
        advance
        let found ← attributeList "]" (← partLimit)
        expectMark "]"
        return found ++ (← attributes fuel)
      else if (← takesWord "alignas") || (← takesWord "_Alignas") then
        expectMark "("
        let size := numberOf? (← groupTokens)
        return (size.map Attribute.aligned).toList ++ (← attributes fuel)
      else return []

/-- The greatest number of groups of attributes. -/
def attributeLimit : Nat := 64

/-! ## The words of a declaration -/

/-- The number type that some words name together, in any order. -/
def basicType? (words : List Octets) : Option ValueType :=
  let count (word : Octets) : Nat := (words.filter (· == word)).length
  let has (word : Octets) : Bool := words.contains word
  let integer (usual positive : IntegerKind) : Option ValueType :=
    some (.integer (if has "unsigned" then positive else usual))
  if words.isEmpty || (has "signed" && has "unsigned") then none
  else if has "void" then if words.length == 1 then some .void else none
  else if has "bool" then if words.length == 1 then some .bool else none
  else if has "wchar_t" then some (.integer .wideChar)
  else if has "char16_t" then some (.integer .char16)
  else if has "char32_t" then some (.integer .char32)
  else if has "float" then if words.length == 1 then some .float else none
  else if has "double" then
    if words.length == 1 then some .double
    else if words.length == 2 && has "long" then some .longDouble else none
  else if has "char" then
    if has "long" || has "short" || has "int" then none
    else if has "signed" then some (.integer .signedChar) else integer .char .unsignedChar
  else if has "short" then if has "long" then none else integer .short .unsignedShort
  else
    match count "long" with
    | 0 => integer .int .unsigned
    | 1 => integer .long .unsignedLong
    | 2 => integer .longLong .unsignedLongLong
    | _ => none

/-- The words that name numbers, with their usual spelling. -/
def basicWord? (isCpp : Bool) : Octets → Option Octets
  | "void" => some "void"
  | "char" => some "char"
  | "short" => some "short"
  | "int" => some "int"
  | "long" => some "long"
  | "float" => some "float"
  | "double" => some "double"
  | "signed" | "__signed__" => some "signed"
  | "unsigned" => some "unsigned"
  | "_Bool" => some "bool"
  | "bool" => if isCpp then some "bool" else none
  | "wchar_t" => if isCpp then some "wchar_t" else none
  | "char16_t" => if isCpp then some "char16_t" else none
  | "char32_t" => if isCpp then some "char32_t" else none
  | _ => none

/-- What the words in front of a declaration say. -/
structure Specified where
  specifiers : Specifiers := {}
  /-- The words of a number type so far. -/
  words : List Octets := []
  type : Option TypeExpr := none
  isConst : Bool := false
  /-- Whether any word was there. -/
  isGiven : Bool := false

/-- Whether no type has been named so far. -/
def Specified.lacksType (specified : Specified) : Bool :=
  specified.words.isEmpty && specified.type.isNone

/-- The type that was named. -/
def Specified.typeExpr? (specified : Specified) : Option TypeExpr :=
  let plain := match specified.type with
    | some type => some type
    | none => (basicType? specified.words).map .plain
  plain.map fun type => if specified.isConst then .const type else type

/-- The words that say something about a declaration but not its type. -/
def specifierWord? (isCpp : Bool) (word : Octets) (specifiers : Specifiers) : Option Specifiers :=
  match word with
  | "typedef" => some { specifiers with isTypedef := true }
  | "static" => some { specifiers with isStatic := true }
  | "extern" => some { specifiers with isExtern := true }
  | "inline" | "__inline" | "__inline__" => some { specifiers with isInline := true }
  | "register" | "volatile" | "__volatile__" | "restrict" | "__restrict" | "__restrict__"
  | "__extension__" | "_Noreturn" | "_Atomic" | "__thread" | "_Thread_local" => some specifiers
  | "thread_local" => if isCpp then some specifiers else none
  | "virtual" => if isCpp then some { specifiers with isVirtual := true } else none
  | "explicit" => if isCpp then some { specifiers with isExplicit := true } else none
  | "friend" => if isCpp then some { specifiers with isFriend := true } else none
  | "constexpr" => if isCpp then some { specifiers with isConstexpr := true } else none
  | "mutable" => if isCpp then some { specifiers with isMutable := true } else none
  | _ => none

/-- Whether a name that is a type stands for the constructor of that type here: it is the name of
the structure around it, or of its scope, and arguments follow. -/
def isConstructorName (found : Expr) : Read Bool := do
  if !(← seesMark "(") then return false
  match found with
  | .name .absent .plain text _ =>
      let reader ← get
      let isOwner (id : Nat) : Bool := (reader.scopes[id]?).any fun scope =>
        scope.owner == some text
      let outer := reader.present.find? fun id =>
        (reader.scopes[id]?).any fun scope => !scope.isTemplate
      return outer.any isOwner
  | .name (.name _ _ owner _) .plain text _ => return owner == text
  | _ => return false

/-- The type that the next words name, if they name one. -/
def namedType? (grammar : Grammar) : Read (Option TypeExpr) := do
  match ← peek? with
  | none => return none
  | some token =>
      let isCpp ← isCpp
      if token.isWord "typename" && isCpp then
        advance
        let (found, _) ← scopedName grammar
        return some (.named found)
      else if token.isWord "decltype" && isCpp then
        advance
        expectMark "("
        if ← takesWord "auto" then
          expectMark ")"
          return some .automatic
        let operand ← inside grammar.expression
        expectMark ")"
        return some (.ofExpression operand true)
      else if token.isWord "__underlying_type" && isCpp then
        let question ← name
        expectMark "("
        let type ← inside grammar.typeName
        expectMark ")"
        return some (.ofExpression (.call (.plainName question) [.type type]) true)
      else if token.isWord "typeof" || token.isWord "__typeof__" then
        advance
        expectMark "("
        let type ← match ← attempt? (do
            let type ← inside grammar.typeName
            expectMark ")"
            pure type) with
          | some type => pure type
          | none => do
              let operand ← inside grammar.expression
              expectMark ")"
              pure (.ofExpression operand false)
        return some type
      else if token.isWord "auto" && isCpp then
        advance
        return some .automatic
      else if ["struct", "union", "enum"].any token.isWord || (isCpp && token.isWord "class") then
        return some (← grammar.definedType)
      else if isName (← get).language token || (isCpp && token.isMark "::") then
        let asType : Read TypeExpr := do
          let (found, meaning) ← scopedName grammar
          if !isType meaning || (← isConstructorName found) then fail "type"
          return .named found
        attempt? asType
      else return none

/-- Read the words in front of a declaration. -/
def specifierWords (grammar : Grammar) : Nat → Specified → Read Specified
  | 0, specified => pure specified
  | fuel + 1, specified => do
      match ← peek? with
      | none => return specified
      | some token =>
          let isCpp ← isCpp
          let goOn (next : Specified) : Read Specified :=
            specifierWords grammar fuel { next with isGiven := true }
          if token.kind != .word then
            if token.isMark "[" || token.isMark "::" then
              let found ← attributes attributeLimit
              if !found.isEmpty then
                return ← goOn { specified with specifiers := { specified.specifiers with
                  attributes := specified.specifiers.attributes ++ found } }
              else if token.isMark "::" && specified.lacksType then
                match ← namedType? grammar with
                | some type => return ← goOn { specified with type := some type }
                | none => return specified
              else return specified
            else return specified
          match specifierWord? isCpp token.spelling specified.specifiers with
          | some specifiers =>
              advance
              goOn { specified with specifiers }
          | none =>
              if token.isWord "const" || token.isWord "__const" then
                advance
                goOn { specified with isConst := true }
              else if token.isWord "__attribute__" || token.isWord "alignas" ||
                  token.isWord "_Alignas" then
                let found ← attributes attributeLimit
                goOn { specified with specifiers := { specified.specifiers with
                  attributes := specified.specifiers.attributes ++ found } }
              else if token.isWord "auto" && !isCpp then
                advance
                goOn specified
              else
                match basicWord? isCpp token.spelling with
                | some word =>
                    if specified.type.isSome then return specified
                    advance
                    goOn { specified with words := word :: specified.words }
                | none =>
                    if !specified.lacksType then return specified
                    match ← namedType? grammar with
                    | some type => goOn { specified with type := some type }
                    | none => return specified

/-- Read the words in front of a declaration. -/
def specified (grammar : Grammar) : Read Specified := do
  specifierWords grammar (← partLimit) {}

/-! ## Declared names -/

/-- A declared name, and what the marks around it make of a type. -/
structure Declarator where
  name : Expr := .absent
  wrap : TypeExpr → TypeExpr := id
  /-- Whether the marks say that there is one for each argument of a pack. -/
  isPack : Bool := false
  /-- The scopes that the parameters and the body of a function are read in. -/
  scopes : List Nat := []
  /-- What the words behind the parameters say. -/
  suffix : Specifiers := {}
  /-- Whether the marks next to the name are those of a function. -/
  isFunction : Bool := false
deriving Inhabited

/-- Which names a declarator may have. -/
inductive NameRule where
  | required
  | optional
  | forbidden
deriving DecidableEq, Repr, Inhabited

/-- Pass over words that promise something about a pointer, and tell whether its value must not be
changed. -/
def pointerWords : Nat → Bool → Read Bool
  | 0, isConst => pure isConst
  | fuel + 1, isConst => do
      if (← takesWord "const") || (← takesWord "__const") then pointerWords fuel true
      else if (← takesWord "volatile") || (← takesWord "__volatile__") ||
          (← takesWord "restrict") || (← takesWord "__restrict") || (← takesWord "__restrict__") ||
          (← takesWord "_Atomic") then
        pointerWords fuel isConst
      else
        let found ← attributes attributeLimit
        if found.isEmpty then return isConst else pointerWords fuel isConst

/-- Read in several scopes, the outermost one first. -/
def inScopes {α : Type} (scopes : List Nat) (action : Read α) : Read α :=
  scopes.foldr inScope action

/-- Whether a declaration of a parameter can start here. -/
def startsType (grammar : Grammar) : Read Bool := do
  let found ← ahead? do
    let words ← specified grammar
    if words.lacksType then fail "type"
  return found.isSome

/-- Read a list of parameters behind its opening parenthesis, and whether more arguments may
follow. -/
def parameters (grammar : Grammar)
    (declarator : NameRule → Read Declarator) : Nat → Read (List Statement × Bool)
  | 0 => fail ")"
  | fuel + 1 => do
      if ← takesMark "..." then
        expectMark ")"
        return ([], true)
      let words ← specified grammar
      let some type := words.typeExpr? | fail "parameter"
      let declared ← declarator .optional
      let complete := declared.wrap type
      declareHere declared.name.lastName .value
      let isPack ← if declared.isPack then pure true
        else if (← seesMark "...") && ((← peekBehind? 1).any fun token => token.isMark ")") &&
            (← isInsideTemplate) then takesMark "..."
        else pure false
      let initial ← if ← takesMark "=" then grammar.initial else pure .absent
      let parameter : Statement :=
        .variable_ declared.name (if isPack then .expansion complete else complete) .absent initial
          words.specifiers
      if ← takesMark ")" then return ([parameter], false)
      else if ← seesMark "..." then
        let (rest, isVariadic) ← parameters grammar declarator fuel
        return (parameter :: rest, isVariadic)
      else
        expectMark ","
        let (rest, isVariadic) ← parameters grammar declarator fuel
        return (parameter :: rest, isVariadic)

/-- Read all parameters behind an opening parenthesis. -/
def allParameters (grammar : Grammar) (declarator : NameRule → Read Declarator) :
    Read (List Statement × Bool) := do
  if ← takesMark ")" then return ([], !(← isCpp))
  else if (← seesWord "void") && ((← peekBehind? 1).any fun token => token.isMark ")") then
    advance
    advance
    return ([], false)
  else parameters grammar declarator (← partLimit)

/-- Read the words behind the parameters of a function. -/
def functionWords (grammar : Grammar) : Nat → Bool → Specifiers →
    Read (Bool × Specifiers)
  | 0, isConst, specifiers => pure (isConst, specifiers)
  | fuel + 1, isConst, specifiers => do
      if !(← isCpp) then return (isConst, specifiers)
      else if ← takesWord "const" then functionWords grammar fuel true specifiers
      else if ← takesWord "volatile" then functionWords grammar fuel isConst specifiers
      else if ← takesMark "&" then
        functionWords grammar fuel isConst { specifiers with subjectMark := "&" }
      else if ← takesMark "&&" then
        functionWords grammar fuel isConst { specifiers with subjectMark := "&&" }
      else if ← takesWord "noexcept" then
        let holds ← if ← takesMark "(" then do
            let condition ← inside grammar.expression
            expectMark ")"
            pure (match condition with
              | .boolean value => value
              | _ => false)
          else pure true
        functionWords grammar fuel isConst { specifiers with isNoexcept := holds }
      else if ← takesWord "throw" then
        expectMark "("
        let listed ← groupTokens
        functionWords grammar fuel isConst { specifiers with isNoexcept := listed.isEmpty }
      else if ← takesWord "override" then
        functionWords grammar fuel isConst { specifiers with isOverride := true }
      else if ← takesWord "final" then
        functionWords grammar fuel isConst { specifiers with isFinal := true }
      else return (isConst, specifiers)

/-- What comes behind the parameters of a function and not behind the arguments of an initial
value. -/
def followsParameters : Read Bool := do
  match ← peek? with
  | none => return true
  | some token =>
      return ["\x7b", ";", ",", "=", ":", ")", "->", "&", "&&", "[", "..."].any token.isMark ||
        ["const", "noexcept", "override", "final", "__attribute__", "__asm__", "asm", "try",
          "throw", "volatile"].any token.isWord

/-- Read the parameters and the words behind them; the scope of the parameters is returned too. -/
def functionSuffix (grammar : Grammar) (declarator : NameRule → Read Declarator) :
    Read ((TypeExpr → TypeExpr) × Specifiers × Nat) := do
  expectMark "("
  let scope ← addScope {}
  inScope scope do
    let (found, isVariadic) ← inside (allParameters grammar declarator)
    let (isConst, suffix) ← functionWords grammar attributeLimit false {}
    let result ← if (← isCpp) && (← takesMark "->") then some <$> grammar.typeName else pure none
    let (isConst, suffix) ← functionWords grammar attributeLimit isConst suffix
    let wrap (type : TypeExpr) : TypeExpr :=
      .function (result.getD type) found isVariadic isConst
    return (wrap, suffix, scope)

/-- Read the brackets of an array. -/
def arraySuffix (grammar : Grammar) : Read (TypeExpr → TypeExpr) := do
  expectMark "["
  let _ ← takesWord "static"
  let _ ← takesWord "const"
  let _ ← takesWord "restrict"
  if ← takesMark "]" then return fun type => .array type .absent
  else
    let length ← inside grammar.expression
    expectMark "]"
    return fun type => .array type length

/-- Read the marks behind a declared name. -/
def suffixes (grammar : Grammar) (declarator : NameRule → Read Declarator)
    (mayInitialize : Bool) : Nat → Declarator → Read Declarator
  | 0, declared => pure declared
  | fuel + 1, declared => do
      if (← seesMark "[") && !((← peekBehind? 1).any fun token => token.isMark "[") then
        let wrap ← arraySuffix grammar
        suffixes grammar declarator mayInitialize fuel
          { declared with wrap := fun type => declared.wrap (wrap type) }
      else if ← seesMark "(" then
        let asFunction : Read ((TypeExpr → TypeExpr) × Specifiers × Nat) := do
          let found ← functionSuffix grammar declarator
          if mayInitialize && !(← followsParameters) then fail "function"
          return found
        match ← if mayInitialize then attempt? asFunction else some <$> asFunction with
        | none => return declared
        | some (wrap, suffix, scope) =>
            suffixes grammar declarator mayInitialize fuel
              { declared with
                wrap := fun type => declared.wrap (wrap type)
                suffix := if declared.isFunction then declared.suffix else suffix
                scopes := if declared.isFunction then declared.scopes
                  else declared.scopes ++ [scope]
                isFunction := true }
      else return declared

/-- Whether a parenthesis opens a group around a declared name. -/
def opensGroup (grammar : Grammar) (rule : NameRule) : Read Bool := do
  if !(← seesMark "(") then return false
  match ← peekBehind? 1 with
  | none => return false
  | some token =>
      if ["*", "&", "&&", "^", "("].any token.isMark then
        return rule != .forbidden || !token.isMark "("
      else if token.isWord "__attribute__" then return true
      else if rule != .forbidden && (isName (← get).language token || token.isMark "::") then
        let isTypeName ← ahead? do
          advance
          let found ← namedType? grammar
          if found.isNone then fail "type"
        if isTypeName.isSome && rule == .optional then return false
        let isMemberPointer ← ahead? do
          advance
          let _ ← scopedName grammar
          expectMark "::"
        return isTypeName.isNone || isMemberPointer.isSome || rule == .required
      else
        let isMemberPointer ← ahead? do
          advance
          let _ ← scopedName grammar
          expectMark "::"
          expectMark "*"
        return isMemberPointer.isSome

/-- Read a declared name with the marks around it. -/
def declarator (grammar : Grammar) (mayInitialize : Bool) : Nat → NameRule → Read Declarator
  | 0, _ => fail "declarator"
  | fuel + 1, rule => do
      let _ ← attributes attributeLimit
      let isCpp ← isCpp
      let behind (wrap : TypeExpr → TypeExpr) : Read Declarator := do
        let inner ← declarator grammar mayInitialize fuel rule
        return { inner with
          wrap := fun type => inner.wrap (wrap type)
          isFunction := inner.isFunction }
      if ← takesMark "*" then
        let isConst ← pointerWords attributeLimit false
        behind fun type => if isConst then .const (.pointer type) else .pointer type
      else if isCpp && (← takesMark "&") then behind .reference
      else if isCpp && (← takesMark "&&") then behind .movedReference
      else
        let ownerOfMember ← if !isCpp then pure none else attempt? do
          let (owner, _) ← scopedName grammar
          expectMark "::"
          expectMark "*"
          pure owner
        if let some owner := ownerOfMember then
          let isConst ← pointerWords attributeLimit false
          return ← behind fun type =>
            if isConst then .const (.memberPointer owner type) else .memberPointer owner type
        let isPack ← if isCpp && (← seesMark "...") &&
            !((← peekBehind? 1).any fun token => token.isMark ")" && rule != .forbidden)
          then takesMark "..." else pure false
        let inner : Declarator ← if ← opensGroup grammar rule then do
            advance
            let inner ← declarator grammar mayInitialize fuel rule
            expectMark ")"
            pure inner
          else if rule != .forbidden && ((← peekName?).isSome || (isCpp &&
              ((← seesMark "::") || (← seesMark "~") || (← seesWord "operator")))) then do
            let (found, _) ← scopedName grammar
            let owner ← match found.scopeOf with
              | .absent => pure none
              | scope => scopeOf? scope nameDepth
            pure { name := found, scopes := owner.toList }
          else if rule == .required then fail "name"
          else pure {}
        let _ ← attributes attributeLimit
        let complete ← inScopes inner.scopes
          (suffixes grammar (declarator grammar false fuel)
            (mayInitialize && !inner.name.isAbsent) (← partLimit) inner)
        return { complete with isPack := complete.isPack || isPack }

/-- Read a type without a name. -/
def typeName (grammar : Grammar) : Read TypeExpr := do
  let words ← specified grammar
  let some type := words.typeExpr? | fail "type"
  let declared ← declarator grammar false (← partLimit) .forbidden
  let complete := declared.wrap type
  return if declared.isPack then .expansion complete else complete

/-- Read a type in which only pointers and references follow the words, as behind the word for a new
object or for a conversion. -/
def shortTypeName (grammar : Grammar) : Read TypeExpr := do
  let words ← specified grammar
  let some type := words.typeExpr? | fail "type"
  marksBehind (← partLimit) type
where
  /-- The type behind the marks that follow. -/
  marksBehind : Nat → TypeExpr → Read TypeExpr
    | 0, type => pure type
    | fuel + 1, type => do
        if ← takesMark "*" then
          let isConst ← pointerWords attributeLimit false
          marksBehind fuel (if isConst then .const (.pointer type) else .pointer type)
        else if (← isCpp) && (← takesMark "&") then marksBehind fuel (.reference type)
        else if (← isCpp) && (← takesMark "&&") then marksBehind fuel (.movedReference type)
        else return type

end QueryFoundry.Native.Read
