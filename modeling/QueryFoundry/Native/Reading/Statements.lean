import QueryFoundry.Native.Reading.Expressions

/-!
# Reading statements

Statements and the blocks that they make. Where a statement may be a declaration, it is one.
-/

namespace QueryFoundry.Native.Read

open Text (Octets)

/-- Read statements up to the closing brace. -/
def statementsBehind (grammar : Grammar) : Nat → Read (List Statement)
  | 0 => fail "\x7d"
  | fuel + 1 => do
      if ← takesMark "\x7d" then return []
      let first ← grammar.statement
      return first :: (← statementsBehind grammar fuel)

/-- Read a block. The scope around it holds the parameters of a function or what a loop declares. -/
def block (grammar : Grammar) : Read Statement := do
  expectMark "\x7b"
  inNewScope do
    return .block (← statementsBehind grammar (← partLimit))

/-- Whether a declaration comes next, rather than an expression. -/
def startsDeclaration (grammar : Grammar) : Read Bool := do
  match ← peek? with
  | none => return false
  | some token =>
      if ["using", "namespace", "static_assert", "_Static_assert", "typedef", "template"].any
          token.isWord then
        return isName (← get).language token == false
      let found ← ahead? do
        let words ← specified grammar
        if !words.isGiven || (words.lacksType && !words.specifiers.isStatic) then fail "declaration"
      return found.isSome

/-- Read the value of an initial value behind a declared name. -/
def initialBehind (grammar : Grammar) : Read Expr := do
  if ← takesMark "=" then return .initial .assigned [← grammar.initial]
  else if (← isCpp) && (← takesMark "(") then
    return .initial .arguments (← callArguments grammar)
  else if (← isCpp) && (← seesMark "\x7b") then grammar.initial
  else return .absent

/-- Read a variable that is declared in a condition. -/
def conditionVariable (grammar : Grammar) : Read Statement := do
  let words ← specified grammar
  let some type := words.typeExpr? | fail "declaration"
  let declared ← declarator grammar true (← partLimit) .required
  if !((← seesMark "=") || (← seesMark "\x7b")) then fail "="
  let value ← initialBehind grammar
  declareHere declared.name.lastName .value
  return .variable_ declared.name (declared.wrap type) .absent value words.specifiers

/-- Read a condition: an expression or a variable. -/
def condition (grammar : Grammar) : Read Statement := do
  if ← isCpp then
    if ← startsType grammar then
      if let some found := ← attempt? (conditionVariable grammar) then return found
  return .expression (← grammar.expression)

/-- Read the parentheses behind a word for a choice: a declaration may stand in front of the
condition. -/
def head (grammar : Grammar) : Read (Option Statement × Statement) := do
  expectMark "("
  let withDeclaration ← attempt? do
    let first ← grammar.statement
    let second ← condition grammar
    expectMark ")"
    pure (some first, second)
  match withDeclaration with
  | some found => return found
  | none =>
      let found ← condition grammar
      expectMark ")"
      return (none, found)

/-- A statement behind the declaration that stands in front of its condition. -/
def behindDeclaration (first : Option Statement) (statement : Statement) : Statement :=
  match first with
  | some declaration => .block [declaration, statement]
  | none => .block [statement]

/-- Read a choice. -/
def branch (grammar : Grammar) : Read Statement := do
  expectWord "if"
  let isStatic ← takesWord "constexpr"
  inNewScope do
    let (first, found) ← inside (head grammar)
    let whenTrue ← grammar.statement
    let whenFalse ← if ← takesWord "else" then grammar.statement else pure .empty
    return behindDeclaration first (.branch isStatic found whenTrue whenFalse)

/-- Read the declaration of the item of a loop over a range, up to the colon. -/
def rangeItem (grammar : Grammar) : Read Statement := do
  let words ← specified grammar
  let some type := words.typeExpr? | fail "declaration"
  let isBinding := (← seesMark "[") || (((← seesMark "&") || (← seesMark "&&")) &&
    ((← peekBehind? 1).any fun token => token.isMark "["))
  if isBinding then
    let complete ← if ← takesMark "&" then pure (.reference type)
      else if ← takesMark "&&" then pure (.movedReference type)
      else pure type
    expectMark "["
    let names ← separated name (← partLimit)
    expectMark "]"
    expectMark ":"
    for text in names do declareHere text .value
    return .bindings names complete .absent
  else
    let declared ← declarator grammar false (← partLimit) .required
    expectMark ":"
    declareHere declared.name.lastName .value
    return .variable_ declared.name (declared.wrap type) .absent .absent words.specifiers

/-- Read a loop with its parentheses. -/
def forLoop (grammar : Grammar) : Read Statement := do
  expectWord "for"
  expectMark "("
  inNewScope do
    let item ← if ← isCpp then attempt? (inside (rangeItem grammar)) else pure none
    match item with
    | some found =>
        let range ← inside grammar.initial
        expectMark ")"
        return .forEach found range (← grammar.statement)
    | none =>
        let first ← inside grammar.statement
        let test ← if ← seesMark ";" then pure .empty else inside (condition grammar)
        expectMark ";"
        let step ← if ← seesMark ")" then pure .absent else inside grammar.expression
        expectMark ")"
        let body ← grammar.statement
        return .block [first, .loop test step body]

/-- Read the handlers behind a guarded block. -/
def handlers (grammar : Grammar) : Nat → Read (List Statement)
  | 0 => pure []
  | fuel + 1 => do
      if !(← takesWord "catch") then return []
      let found ← inNewScope do
        expectMark "("
        let parameter ← if ← takesMark "..." then pure Statement.empty else do
          let words ← specified grammar
          let some type := words.typeExpr? | fail "declaration"
          let declared ← declarator grammar false (← partLimit) .optional
          declareHere declared.name.lastName .value
          pure (.variable_ declared.name (declared.wrap type) .absent .absent words.specifiers)
        expectMark ")"
        return .handler parameter (← grammar.block)
      return found :: (← handlers grammar fuel)

/-- Read a statement that starts with a keyword. -/
def keywordStatement? (grammar : Grammar) (word : Octets) : Read (Option Statement) := do
  let ended (statement : Statement) : Read (Option Statement) := do
    expectMark ";"
    return some statement
  match word with
  | "if" => return some (← branch grammar)
  | "while" =>
      advance
      inNewScope do
        expectMark "("
        let test ← inside (condition grammar)
        expectMark ")"
        return some (.loop test .absent (← grammar.statement))
  | "do" =>
      advance
      let body ← grammar.statement
      expectWord "while"
      expectMark "("
      let test ← inside grammar.expression
      expectMark ")"
      ended (.repeat body test)
  | "for" => return some (← forLoop grammar)
  | "switch" =>
      advance
      inNewScope do
        let (first, found) ← inside (head grammar)
        return some (behindDeclaration first (.switch found (← grammar.statement)))
  | "case" =>
      advance
      let first ← grammar.assignment
      let last ← if ← takesMark "..." then grammar.assignment else pure .absent
      expectMark ":"
      if ← seesMark "\x7d" then return some (.case first last .empty)
      return some (.case first last (← grammar.statement))
  | "default" =>
      advance
      expectMark ":"
      if ← seesMark "\x7d" then return some (.otherwise .empty)
      return some (.otherwise (← grammar.statement))
  | "break" =>
      advance
      ended .leave
  | "continue" =>
      advance
      ended .again
  | "return" =>
      advance
      if ← takesMark ";" then return some (.finish .absent)
      let value ← if ← seesMark "\x7b" then bracedList grammar else grammar.expression
      ended (.finish value)
  | "goto" =>
      advance
      let text ← name
      ended (.jump text)
  | "asm" | "__asm__" =>
      advance
      let _ ← takesWord "volatile"
      let _ ← takesWord "__volatile__"
      expectMark "("
      skipGroup (← partLimit) 0
      ended .empty
  | "try" =>
      if !(← isCpp) then return none
      advance
      let body ← grammar.block
      return some (.attempt body (← handlers grammar (← partLimit)))
  | _ => return none

/-- Read a statement. -/
def statement (grammar : Grammar) : Read Statement := do
  match ← peek? with
  | none => fail "statement"
  | some token =>
      if token.isMark "\x7b" then grammar.block
      else if ← takesMark ";" then return .empty
      else
        let found ← attributes attributeLimit
        if !found.isEmpty && (← takesMark ";") then return .empty
        if token.kind == .word then
          if let some special := ← keywordStatement? grammar token.spelling then return special
          let isLabel := isName (← get).language token &&
            ((← peekBehind? 1).any fun next => next.isMark ":")
          if isLabel then
            advance
            advance
            let _ ← attributes attributeLimit
            if ← seesMark "\x7d" then return .label token.spelling .empty
            return .label token.spelling (← grammar.statement)
        if ← startsDeclaration grammar then
          if ← isCpp then
            match ← attempt? grammar.declaration with
            | some declaration => return declaration
            | none => pure ()
          else return ← grammar.declaration
        let value ← withHoisted do
          let value ← grammar.expression
          expectMark ";"
          return .expression value
        return value

end QueryFoundry.Native.Read
