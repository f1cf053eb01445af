import QueryFoundry.Native.Literal
import QueryFoundry.Native.Reading.Types

/-!
# Reading expressions

Expressions from the inside out: operands, what may stand behind them, the operators in front of
them and those between them.
-/

namespace QueryFoundry.Native.Read

open Text (Octets)

/-- Read an expression that may be followed by dots, which stand for one for each argument of a
pack. -/
def expandable (item : Read Expr) : Read Expr := do
  let found ← item
  if ← takesMark "..." then return .expansion found else return found

/-- Read the arguments of a call behind the opening parenthesis. -/
def callArguments (grammar : Grammar) : Read (List Expr) :=
  inside (enclosed (expandable grammar.initial) ")")

/-! ## Values between braces -/

/-- Read the designators in front of a value, and make the item for that value. -/
def designators (grammar : Grammar) : Nat → Read (Expr → Expr)
  | 0 => pure id
  | fuel + 1 => do
      if (← seesMark ".") then
        advance
        let field ← name
        let inner ← designators grammar fuel
        return fun value => .fieldItem field (inner value)
      else if ← takesMark "[" then
        let first ← inside grammar.assignment
        let last ← if ← takesMark "..." then inside grammar.assignment else pure .absent
        expectMark "]"
        let inner ← designators grammar fuel
        return fun value => .positionItem first last (inner value)
      else return id

/-- Read an item of values between braces. -/
def listItem (grammar : Grammar) : Read Expr := do
  let isOldField := (← peekName?).isSome &&
    ((← peekBehind? 1).any fun token => token.isMark ":")
  if isOldField then
    let field ← name
    expectMark ":"
    return .fieldItem field (← grammar.initial)
  let isDesignated := (← seesMark ".") ||
    ((← seesMark "[") && !(← isCpp))
  if isDesignated then
    let make ← designators grammar attributeLimit
    if ← seesMark "\x7b" then return make (← grammar.initial)
    else
      let _ ← takesMark "="
      return make (← grammar.initial)
  else expandable grammar.initial

/-- Read items up to the closing brace; a comma may stand behind the last one. -/
def listItems (grammar : Grammar) : Nat → Read (List Expr)
  | 0 => fail "\x7d"
  | fuel + 1 => do
      if ← takesMark "\x7d" then return []
      let item ← listItem grammar
      if ← takesMark "," then return item :: (← listItems grammar fuel)
      else
        expectMark "\x7d"
        return [item]

/-- Read values between braces. -/
def bracedList (grammar : Grammar) : Read Expr := do
  expectMark "\x7b"
  return .initial .braces (← inside (listItems grammar (← partLimit)))

/-- Read an initial value: an expression or values between braces. -/
def initial (grammar : Grammar) : Read Expr := do
  if ← seesMark "\x7b" then bracedList grammar else grammar.assignment

/-! ## Operands -/

/-- Put a type in place of each type that is to be found out. -/
def nameAutomatic (parameter : TypeExpr) : TypeExpr → TypeExpr
  | .automatic => parameter
  | .const type => .const (nameAutomatic parameter type)
  | .pointer type => .pointer (nameAutomatic parameter type)
  | .reference type => .reference (nameAutomatic parameter type)
  | .movedReference type => .movedReference (nameAutomatic parameter type)
  | .expansion type => .expansion (nameAutomatic parameter type)
  | type => type

/-- Whether a type is to be found out. -/
def isAutomatic : TypeExpr → Bool
  | .automatic => true
  | .const type | .pointer type | .reference type | .movedReference type | .expansion type =>
      isAutomatic type
  | _ => false

/-- Let a function whose parameters have types that are to be found out be a template. -/
def generalize (parameters : List Statement) :
    List Statement × List Statement :=
  go 0 parameters
where
  /-- The parameters of the template and those of the function. -/
  go : Nat → List Statement → List Statement × List Statement
    | _, [] => ([], [])
    | count, .variable_ found type width initial specifiers :: rest =>
        if isAutomatic type then
          let text := "<auto " ++ toString count ++ ">"
          let isPack := match type with
            | .expansion _ => true
            | _ => false
          let (names, others) := go (count + 1) rest
          (.typeParameter text isPack .absent :: names,
            .variable_ found (nameAutomatic (.named (.plainName text)) type) width initial
              specifiers :: others)
        else
          let (names, others) := go count rest
          (names, .variable_ found type width initial specifiers :: others)
    | count, other :: rest =>
        let (names, others) := go count rest
        (names, other :: others)

/-- Read something that a function without a name captures. -/
def captureItem (grammar : Grammar) : Read Expr := do
  if (← seesMark "=") then
    advance
    return .capture "" false .absent
  else if ← takesMark "*" then
    expectWord "this"
    return .capture "this" false .absent
  else if ← takesWord "this" then return .capture "this" true .absent
  else
    let isReference ← takesMark "&"
    if isReference && ((← seesMark ",") || (← seesMark "]")) then
      return .capture "" true .absent
    let text ← name
    let value ← if ← takesMark "=" then grammar.initial
      else if ← seesMark "\x7b" then bracedList grammar
      else pure .absent
    let _ ← takesMark "..."
    if !value.isAbsent then declareHere text .value
    return .capture text isReference value

/-- Read a function without a name. -/
def lambda (grammar : Grammar) : Read Expr := do
  expectMark "["
  inNewScope do
    let captures ← inside (enclosed (captureItem grammar) "]")
    let (found, isVariadic) ← if ← takesMark "(" then
        inside (allParameters grammar
          (declarator grammar false (← partLimit)))
      else pure ([], false)
    let isMutable ← takesWord "mutable"
    let _ ← takesWord "constexpr"
    let (_, suffix) ← functionWords grammar attributeLimit false {}
    let result ← if ← takesMark "->" then grammar.typeName else pure .automatic
    let body ← inside grammar.block
    let (general, plain) := generalize found
    let definition : Statement :=
      .function (.name .absent .operator "()" [])
        (.function result plain isVariadic (!isMutable)) [] body { suffix with isInline := true }
    return .lambda captures
      (if general.isEmpty then definition else .template general definition) isMutable

/-- Read what a new object is made from. -/
def creation (grammar : Grammar) : Read Expr := do
  let place ← if ← seesMark "(" then do
      let isType ← ahead? do
        advance
        let _ ← grammar.typeName
        expectMark ")"
      if isType.isSome then pure []
      else
        advance
        callArguments grammar
    else pure []
  let type ← if ← takesMark "(" then do
      let type ← inside grammar.typeName
      expectMark ")"
      pure type
    else do
      let plain ← grammar.shortTypeName
      let lengths ← arrayLengths (← partLimit)
      pure (lengths.foldr (fun length type => .array type length) plain)
  let value ← if ← takesMark "(" then do
      pure (.initial .arguments (← callArguments grammar))
    else if ← seesMark "\x7b" then bracedList grammar
    else pure .absent
  return .create place type value
where
  /-- The lengths between the brackets that follow. -/
  arrayLengths : Nat → Read (List Expr)
    | 0 => pure []
    | fuel + 1 => do
        if ← takesMark "[" then
          let length ← if ← seesMark "]" then pure .absent else inside grammar.expression
          expectMark "]"
          return length :: (← arrayLengths fuel)
        else return []

/-- Read a type or an expression between parentheses. -/
def typeOrExpression (grammar : Grammar) : Read Expr := do
  expectMark "("
  let asType : Read Expr := do
    let type ← inside grammar.typeName
    expectMark ")"
    return .type type
  match ← attempt? asType with
  | some found => return found
  | none =>
      let found ← inside grammar.expression
      expectMark ")"
      return found

/-- Read the arguments of a constructor behind the name of its type. -/
def construction (grammar : Grammar) (type : TypeExpr) : Read Expr := do
  if ← takesMark "(" then return .construct type .arguments (← callArguments grammar)
  else
    match ← bracedList grammar with
    | .initial _ items => return .construct type .braces items
    | _ => fail "arguments"

/-- Read the texts that stand beside each other. -/
def textTokens : Nat → Read (List Token)
  | 0 => pure []
  | fuel + 1 => do
      match ← peek? with
      | some token =>
          if token.kind == .text then
            advance
            return token :: (← textTokens fuel)
          else return []
      | none => return []

/-- Read an operand that starts with a parenthesis. -/
def parenthesized (grammar : Grammar) : Read Expr := do
  expectMark "("
  if ← seesMark "\x7b" then
    let body ← inside grammar.block
    expectMark ")"
    return .block body
  else if ← takesMark "..." then
    match ← peek? with
    | some token =>
        match BinaryOperator.ofSymbol? token.spelling with
        | some operator =>
            advance
            let pack ← inside grammar.assignment
            expectMark ")"
            return .fold operator .absent pack true
        | none => fail "operator"
    | none => fail "operator"
  else
    let found ← inside grammar.expression
    expectMark ")"
    return found

/-- Read the path to a member behind a type. -/
def memberPath (grammar : Grammar) : Nat → Expr → Read Expr
  | 0, path => pure path
  | fuel + 1, path => do
      if ← takesMark "." then
        memberPath grammar fuel (.member path false (.plainName (← name)))
      else if ← takesMark "[" then
        let position ← inside grammar.expression
        expectMark "]"
        memberPath grammar fuel (.index path position)
      else return path

/-- Read the cases of a choice by type. -/
def genericCase (grammar : Grammar) : Read Expr := do
  if ← takesWord "default" then
    expectMark ":"
    return .genericCase .automatic (← grammar.assignment)
  else
    let type ← grammar.typeName
    expectMark ":"
    return .genericCase type (← grammar.assignment)

/-- Read an operand that starts with a keyword. -/
def keywordOperand? (grammar : Grammar) (word : Octets) : Read (Option Expr) := do
  let isCpp ← isCpp
  let castTo (kind : CastKind) : Read (Option Expr) := do
    advance
    expectMark "<"
    let type ← insideAngles grammar.typeName
    expectGreater
    expectMark "("
    let operand ← inside grammar.expression
    expectMark ")"
    return some (.cast kind type operand)
  match word, isCpp with
  | "true", true => do
      advance
      return some (.boolean true)
  | "false", true => do
      advance
      return some (.boolean false)
  | "nullptr", true => do
      advance
      return some .nullPointer
  | "this", true => do
      advance
      return some .this
  | "static_cast", true => castTo .static
  | "dynamic_cast", true => castTo .dynamic
  | "const_cast", true => castTo .const
  | "reinterpret_cast", true => castTo .reinterpret
  | "typeid", true => do
      advance
      return some (.typeInfo (← typeOrExpression grammar))
  | "noexcept", true => do
      advance
      expectMark "("
      let operand ← inside grammar.expression
      expectMark ")"
      return some (.noexcept operand)
  | "_Generic", false => do
      advance
      expectMark "("
      let operand ← inside grammar.assignment
      expectMark ","
      let cases ← inside (separated (genericCase grammar) (← partLimit))
      expectMark ")"
      return some (.generic operand cases)
  | "__builtin_va_arg", _ => do
      advance
      expectMark "("
      let list ← inside grammar.assignment
      expectMark ","
      let type ← inside grammar.typeName
      expectMark ")"
      return some (.argument list type)
  | "__builtin_offsetof", _ => do
      advance
      expectMark "("
      let type ← inside grammar.typeName
      expectMark ","
      let path ← memberPath grammar (← partLimit) (.plainName (← name))
      expectMark ")"
      return some (.offset type path)
  | "__builtin_types_compatible_p", _ => do
      advance
      expectMark "("
      let left ← inside grammar.typeName
      expectMark ","
      let right ← inside grammar.typeName
      expectMark ")"
      return some (.sameType left right)
  | "__extension__", _ => do
      advance
      return some (← grammar.assignment)
  | _, _ => return none

/-- Read a name that is used as a value, or a type whose constructor is called. -/
def namedOperand (grammar : Grammar) : Read Expr := do
  let (found, meaning) ← scopedName grammar
  if isType meaning && ((← seesMark "(") || (← seesMark "\x7b")) then
    construction grammar (.named found)
  else
    match found, meaning with
    | .name .absent .plain text _, none =>
        if (← isCpp) && !(← get).isSurvey && (← isInsideTemplate) && !(← seesMark "(") &&
            !text.startsWith "__" then
          fail "declared name"
        else return found
    | _, _ => return found

/-- Whether a question about types comes next. -/
def seesTypeQuestion (token : Token) : Read Bool := do
  let isNamed := ["__is_", "__has_"].any (token.spelling.startsWith ·)
  if !isNamed || !(← isCpp) then return false
  if !((← peekBehind? 1).any fun behind => behind.isMark "(") then return false
  return (← meaning? token.spelling).isNone

/-- Read a question about types. -/
def typeQuestion (grammar : Grammar) : Read Expr := do
  let question ← name
  expectMark "("
  let types ← inside (separated (templateArgument grammar) (← partLimit))
  expectMark ")"
  return .call (.plainName question) types

/-- A call of the operator that gives a meaning to the letters behind a literal. -/
def literalCall (suffix : Octets) (arguments : List Expr) : Expr :=
  .call (.name .absent .operator ("\"\"" ++ suffix) []) arguments

/-- A number with letters behind it that have a meaning of their own. -/
def suffixedNumber? (spelling : Octets) : Option Expr :=
  let letters := spelling.toList
  let split (count : Nat) : Option Expr := do
    let suffix := letters.drop count
    guard (suffix.head?.any fun letter => letter.isAlpha || letter == '_')
    let argument ← match ← Literal.number? (String.ofList (letters.take count)) with
      | .integer value (.integer .int) | .integer value (.integer .long) =>
          some (Expr.integer value (.integer .unsignedLongLong))
      | .real value .double => some (.real value .longDouble)
      | _ => none
    return literalCall (String.ofList suffix) [argument]
  (List.range letters.length).reverse.findSome? split

/-- Read the letters behind a text that have a meaning of their own. -/
def suffixedText (found : Expr) : Read Expr := do
  match ← peek? with
  | some token =>
      let isSuffix := token.kind == .word && !token.isSpaced && !token.startsLine &&
        (token.spelling.startsWith "_" || ["s", "sv"].contains token.spelling)
      match found with
      | .text codes _ =>
          if isSuffix && (← isCpp) then
            advance
            return literalCall token.spelling [found, .integer codes.length .size]
          else return found
      | _ => return found
  | none => return found

/-- Read an operand without marks in front of it or behind it. -/
def primary (grammar : Grammar) : Read Expr := do
  match ← peek? with
  | none => fail "expression"
  | some token =>
      let language := (← get).language
      match token.kind with
      | .number =>
          advance
          match Literal.number? token.spelling, language with
          | some found, _ => return found
          | none, .cpp =>
              match suffixedNumber? token.spelling with
              | some found => return found
              | none => fail "number"
          | none, .c => fail "number"
      | .character =>
          advance
          return Literal.character language token
      | .text => suffixedText (Literal.text (← textTokens (← partLimit)))
      | .stray => fail "expression"
      | .mark =>
          if token.isMark "(" then parenthesized grammar
          else if token.isMark "[" && language == .cpp then lambda grammar
          else if token.isMark "::" && language == .cpp then namedOperand grammar
          else fail "expression"
      | .word =>
          if let some found := ← keywordOperand? grammar token.spelling then return found
          if token.isWord "decltype" then
            if let some found := ← attempt? (namedOperand grammar) then return found
          if ← seesTypeQuestion token then typeQuestion grammar
          else if isName language token || token.isWord "operator" then namedOperand grammar
          else if language == .cpp then
            let words ← if ["typename", "decltype"].any token.isWord then specified grammar
              else do
                match basicWord? true token.spelling with
                | some _ => do
                    advance
                    pure { words := [token.spelling] }
                | none => fail "expression"
            match words.typeExpr? with
            | some type =>
                if (← seesMark "(") || (← seesMark "\x7b") then construction grammar type
                else fail "("
            | none => fail "expression"
          else fail "expression"

/-! ## What stands behind operands -/

/-- Read the name of a member behind a point or an arrow. -/
def memberName (grammar : Grammar) : Read Expr := do
  let isForced ← takesWord "template"
  if ← takesMark "~" then
    let text ← name
    return .name .absent .destructor text []
  else if ← takesWord "operator" then operatorName grammar .absent
  else if (← seesMark "::") || ((← peekBehind? 1).any fun token => token.isMark "::") then
    return (← scopedName grammar).1
  else
    let text ← name
    if (← isCpp) && (← seesMark "<") then
      let given ← attempt? do
        let found ← templateArguments grammar
        if !isForced && !(← seesMark "(") then fail "("
        pure found
      match given with
      | some found => return .name .absent .template text found
      | none =>
          if ← seesMark "::" then return (← scopedName grammar).1
          else return .plainName text
    else return .plainName text

/-- Read what stands behind an operand. -/
def behindOperand (grammar : Grammar) : Nat → Expr → Read Expr
  | 0, operand => pure operand
  | fuel + 1, operand => do
      if ← takesMark "(" then
        behindOperand grammar fuel (.call operand (← callArguments grammar))
      else if ← takesMark "[" then
        let position ← if ← seesMark "\x7b" then bracedList grammar else inside grammar.expression
        expectMark "]"
        behindOperand grammar fuel (.index operand position)
      else if ← takesMark "." then
        behindOperand grammar fuel (.member operand false (← memberName grammar))
      else if ← takesMark "->" then
        behindOperand grammar fuel (.member operand true (← memberName grammar))
      else if ← takesMark "++" then behindOperand grammar fuel (.step true false operand)
      else if ← takesMark "--" then behindOperand grammar fuel (.step false false operand)
      else return operand

/-! ## Operators -/

/-- The operators that stand in front of an operand. -/
def unaryOperator? : Octets → Option UnaryOperator
  | "+" => some .plus
  | "-" => some .minus
  | "!" => some .not
  | "~" => some .complement
  | "*" => some .dereference
  | "&" => some .address
  | _ => none

/-- Read a type between parentheses and its operand, if a cast comes next. -/
def castOperand? (grammar : Grammar) (operand : Read Expr) : Read (Option Expr) := do
  if !(← seesMark "(") then return none
  let asCast : Read TypeExpr := do
    expectMark "("
    let type ← inside grammar.typeName
    expectMark ")"
    return type
  match ← ahead? asCast with
  | none => return none
  | some _ =>
      attempt? do
        let type ← asCast
        if ← seesMark "\x7b" then
          match ← bracedList grammar with
          | .initial _ items =>
              behindOperand grammar (← partLimit) (.construct type .braces items)
          | _ => fail "expression"
        else return .cast .written type (← operand)

/-- Read the size of a type or of a value. -/
def sizeOperand (grammar : Grammar) (isAlignment : Bool) (operand : Read Expr) : Read Expr := do
  if ← takesMark "..." then
    expectMark "("
    let text ← name
    expectMark ")"
    return .packSize text
  let asType ← if ← seesMark "(" then attempt? do
      advance
      let type ← inside grammar.typeName
      expectMark ")"
      if ← seesMark "\x7b" then fail "type"
      pure type
    else pure none
  match asType with
  | some type => return .size (.type type) isAlignment
  | none => return .size (← operand) isAlignment

/-- Read an operand with the operators in front of it. -/
def unary (grammar : Grammar) : Nat → Read Expr
  | 0 => fail "expression"
  | fuel + 1 => do
      match ← peek? with
      | none => fail "expression"
      | some token =>
          let operand := unary grammar fuel
          if token.kind == .mark then
            if let some operator := unaryOperator? token.spelling then
              advance
              return .unary operator (← operand)
            if token.isMark "++" || token.isMark "--" then
              advance
              return .step (token.spelling == "++") true (← operand)
            if token.isMark "&&" && !(← isCpp) then fail "expression"
            if let some found := ← castOperand? grammar operand then return found
            let following ← peekBehind? 1
            if token.isMark "::" && following.any fun next =>
                next.isWord "new" || next.isWord "delete" then
              advance
              return ← operand
            behindOperand grammar (← partLimit) (← primary grammar)
          else if token.isWord "sizeof" then
            advance
            sizeOperand grammar false operand
          else if ["alignof", "_Alignof", "__alignof__"].any token.isWord then
            advance
            sizeOperand grammar true operand
          else if token.isWord "new" && (← isCpp) then
            advance
            behindOperand grammar (← partLimit) (← creation grammar)
          else if token.isWord "delete" && (← isCpp) then
            advance
            let isArray ← if (← seesMark "[") &&
                ((← peekBehind? 1).any fun next => next.isMark "]") then do
                advance
                takesMark "]"
              else pure false
            return .delete isArray (← operand)
          else behindOperand grammar (← partLimit) (← primary grammar)

/-- The operator between two operands that comes next, if it may be read here. -/
def peekBinary? : Read (Option BinaryOperator) := do
  match ← peek? with
  | some token =>
      if token.kind != .mark then return none
      if (← get).closesAtGreater && (token.spelling == ">" || token.spelling == ">>") then
        return none
      match BinaryOperator.ofSymbol? token.spelling with
      | some .comma => return none
      | found => return found
  | none => return none

/-- Read the operators that bind at least as strongly as a level, behind an operand. -/
def binaryBehind (grammar : Grammar) : Nat → Nat → Expr → Read Expr
  | 0, _, left => pure left
  | fuel + 1, level, left => do
      match ← peekBinary? with
      | none => return left
      | some operator =>
          if operator.strength < level then return left
          advance
          if ← takesMark "..." then
            match ← peekBinary? with
            | some again =>
                advance
                if again != operator then fail "operator"
                let right ← unary grammar (← partLimit)
                return .fold operator right left false
            | none => return .fold operator .absent left false
          let operand ← unary grammar (← partLimit)
          let right ← binaryBehind grammar fuel (operator.strength + 1) operand
          binaryBehind grammar fuel level (.binary operator left right)

/-- The operator of an assignment that comes next. -/
def peekAssignment? : Read (Option (Option BinaryOperator)) := do
  match ← peek? with
  | some token =>
      if token.kind != .mark || !token.spelling.endsWith "=" then return none
      else if token.spelling == "=" then return some none
      else if ["==", "!=", "<=", ">="].contains token.spelling then return none
      else
        return (BinaryOperator.ofSymbol? (String.ofList token.spelling.toList.dropLast)).map some
  | none => return none

/-- Read an expression without commas. -/
def assignment (grammar : Grammar) : Read Expr := do
  if (← isCpp) && (← takesWord "throw") then
    if (← seesMark ";") || (← seesMark ")") || (← seesMark ":") || (← seesMark ",") then
      return .throw .absent
    else return .throw (← grammar.assignment)
  let limit ← partLimit
  let operand ← unary grammar limit
  let value ← binaryBehind grammar limit 1 operand
  if ← takesMark "?" then
    let whenTrue ← if ← seesMark ":" then pure .absent else inside grammar.expression
    expectMark ":"
    return .choice value whenTrue (← grammar.assignment)
  else
    match ← peekAssignment? with
    | none => return value
    | some operator =>
        advance
        return .assign operator value (← grammar.initial)

/-- Read an expression that may hold commas. -/
def expression (grammar : Grammar) : Read Expr := do
  let items ← separated grammar.assignment (← partLimit)
  match items with
  | [] => fail "expression"
  | first :: rest => return rest.foldl (fun left right => .binary .comma left right) first

end QueryFoundry.Native.Read
