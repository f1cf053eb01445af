import QueryFoundry.Native.Compilation.Expressions

/-!
# Statements

What the statements of a function do. Blocks are levels: objects that are made there are destroyed
where the block is left, by whichever way.
-/

namespace QueryFoundry.Native.Compile

open Text (Octets)

/-! ## Blocks -/

/-- Compile something in a scope and a level of its own. -/
def inBlock (action : Compile Code) : Compile Code :=
  inNewScope .block (wholeExpression action)

/-- Compile statements one after the other. -/
def statements (body : List Statement) : Compile Code := do
  let codes ← body.mapM statement
  return codes.flatten

/-- Change what is known of the function while something is compiled. -/
def withContext {α : Type} (change restore : Context → Context) (action : Compile α) :
    Compile α := do
  changeContext change
  let result ← action
  changeContext restore
  return result

/-- Leave everything inside of a level and go on at a label. -/
def goTo (target : Nat × Nat) : Code :=
  [.close (target.2 + 1), .jump target.1]

/-! ## Choices and loops -/

/-- The truth value of a condition. -/
def conditionCode (condition : Statement) : Compile Code := do
  match condition with
  | .empty => return [.push 1]
  | .expression written => wholeExpression do return (← truth (← expression written)).code
  | _ => throw (.invalid "condition")

/-- The name of a variable that is declared in a condition. -/
def conditionName? : Statement → Option Expr
  | .variable_ name .. => some name
  | _ => none

/-- A choice. -/
def branchStatement (isStatic : Bool) (condition whenTrue whenFalse : Statement) :
    Compile Code := do
  match conditionName? condition with
  | some name =>
      statement (.block [condition, .branch isStatic (.expression name) whenTrue whenFalse])
  | none =>
      match isStatic, condition with
      | true, .expression written => do
          let known ← evaluate (← truth (← expression written))
          inBlock (statement (if known != 0 then whenTrue else whenFalse))
      | _, _ => do
          let other ← newLabel
          let done ← newLabel
          let test ← conditionCode condition
          let first ← inBlock (statement whenTrue)
          let second ← inBlock (statement whenFalse)
          if second.isEmpty then
            return test ++ [Instruction.jumpIfZero other] ++ first ++ [Instruction.label other]
          else
            return test ++ [Instruction.jumpIfZero other] ++ first ++
              [Instruction.jump done, .label other] ++ second ++
              [Instruction.label done]

/-- The body of a loop. -/
def loopBody (body : Statement) (done again : Nat) : Compile Code := do
  let outer ← context
  withContext
    (fun context => { context with
      leaveTarget := some (done, outer.level), againTarget := some (again, outer.level) })
    (fun context => { context with
      leaveTarget := outer.leaveTarget, againTarget := outer.againTarget })
    (inBlock (statement body))

/-- A loop that starts with its condition. -/
def loopStatement (condition : Statement) (step : Expr) (body : Statement) : Compile Code := do
  match conditionName? condition with
  | some name =>
      statement (.loop .empty step
        (.block [condition, .branch false (.expression name) body .leave]))
  | none => do
      let test ← newLabel
      let again ← newLabel
      let done ← newLabel
      let tested ← match condition with
        | .empty => pure []
        | _ => do pure ((← conditionCode condition) ++ [Instruction.jumpIfZero done])
      let inner ← loopBody body done again
      let stepped ← if step.isAbsent then pure []
        else wholeExpression do discarded (← expression step)
      return [Instruction.label test] ++ tested ++ inner ++ [Instruction.label again] ++ stepped ++
        [Instruction.jump test, .label done]

/-- A loop that ends with its condition. -/
def repeatStatement (body : Statement) (condition : Expr) : Compile Code := do
  let start ← newLabel
  let again ← newLabel
  let done ← newLabel
  let inner ← loopBody body done again
  let test ← conditionCode (.expression condition)
  return [Instruction.label start] ++ inner ++ [Instruction.label again] ++ test ++
    [Instruction.jumpIfZero done, .jump start, .label done]

/-- What the first and the last item of a range are reached by. -/
def rangeEnds (range : Expr) (type : ValueType) : Compile (Expr × Expr) := do
  match type.plain with
  | .array _ (some length) => return (range, .binary .add range (.integer length .size))
  | .record id => do
      let _ ← completeRecord id
      let own ← members id "begin"
      if own.isEmpty then
        return (.call (.plainName "begin") [range], .call (.plainName "end") [range])
      else
        return (.call (.member range false (.plainName "begin")) [],
          .call (.member range false (.plainName "end")) [])
  | _ => mismatch "range"

/-- A loop over a range. -/
def forEachStatement (item : Statement) (range : Expr) (body : Statement) : Compile Code :=
  inBlock do
    let number := toString (← fresh)
    let named (text : Octets) : Expr := .plainName ("<" ++ text ++ " " ++ number ++ ">")
    let declared (name : Expr) (type : TypeExpr) (value : Expr) : Statement :=
      .variable_ name type .absent (.initial .assigned [value]) {}
    let all ← declaration (declared (named "range") (.movedReference .automatic) range)
    let found ← expression (named "range")
    let (first, last) ← rangeEnds (named "range") found.type
    let begin_ ← declaration (declared (named "begin") .automatic first)
    let end_ ← declaration (declared (named "end") .automatic last)
    let value : Expr := .initial .assigned [.unary .dereference (named "begin")]
    let single : Statement := match item with
      | .variable_ name type width _ specifiers => .variable_ name type width value specifiers
      | .bindings names type _ => .bindings names type value
      | other => other
    let loop ← loopStatement
      (.expression (.binary .different (named "begin") (named "end")))
      (.step true true (named "begin")) (.block [single, body])
    return all ++ begin_ ++ end_ ++ loop

/-! ## Switches -/

/-- The code that goes on at the label of a case if a value is one of its values. -/
def caseTest (slot : Nat) (form : NumberForm) (first last : UInt64) (label : Nat) :
    Compile Code := do
  let value : Code := [.frame slot, .load 8 false]
  if first == last then
    return value ++ [Instruction.push first, .binary .different .address, .jumpIfZero label]
  else
    let skip ← newLabel
    return value ++ [Instruction.push first, .binary .greaterEqual form, .jumpIfZero skip] ++
      value ++
      [Instruction.push last, .binary .greater form, .jumpIfZero label, .label skip]

/-- A choice among many cases. -/
def switchStatement (condition body : Statement) : Compile Code := do
  match condition with
  | .expression written => do
      let slot ← reserveWord
      let (before, written, promoted) ← inLevel do
        let operand ← scalarOf (← expression written) .int
        let found ← promote operand
        return ([Instruction.frame slot] ++ found.code ++
          [Instruction.store 8], operand.type.plain, found.type)
      if promoted.isReal then mismatch "switch"
      let type := if ← isScopedEnumeration written then written else promoted
      let done ← newLabel
      let outer ← context
      changeContext fun context => { context with
        cases := [], otherwise := none, switchType := some type
        leaveTarget := some (done, outer.level) }
      let inner ← inBlock (statement body)
      let after ← context
      changeContext fun context => { context with
        cases := outer.cases, otherwise := outer.otherwise, switchType := outer.switchType
        leaveTarget := outer.leaveTarget }
      let form ← formOf promoted
      let tests ← after.cases.reverse.mapM fun (first, last, label) =>
        caseTest slot form (wordOf first) (wordOf last) label
      return before ++ tests.flatten ++ [Instruction.jump (after.otherwise.getD done)] ++ inner ++
        [Instruction.label done]
  | _ =>
      match conditionName? condition with
      | some name => statement (.block [condition, .switch (.expression name) body])
      | none => throw (.invalid "switch")

/-- The value of a case, as the values of the switch are kept. -/
def caseValue (written : Expr) : Compile Int := do
  let some type := (← context).switchType | throw (.invalid "case")
  let operand ← expression written
  let made ← if operand.type.plain == type then value operand else convert operand type
  evaluate (← promote made)

/-- A case. -/
def caseStatement (first last : Expr) (next : Statement) : Compile Code := do
  let low ← caseValue first
  let high ← if last.isAbsent then pure low else caseValue last
  let known := (← context).cases
  if known.any fun (start, stop, _) => start ≤ high && low ≤ stop then
    throw (.redeclared "case")
  let label ← newLabel
  changeContext fun context => { context with cases := (low, high, label) :: context.cases }
  return .label label :: (← statement next)

/-- The case that is taken if no other one is. -/
def otherwiseStatement (next : Statement) : Compile Code := do
  let here ← context
  if here.switchType.isNone then throw (.invalid "default")
  if here.otherwise.isSome then throw (.redeclared "default")
  let label ← newLabel
  changeContext fun context => { context with otherwise := some label }
  return .label label :: (← statement next)

/-! ## Jumps -/

/-- The number of a label of the present function. -/
def labelNumber (name : Octets) : Compile Nat := do
  match (← context).labels.lookup name with
  | some number => return number
  | none =>
      let number ← newLabel
      changeContext fun context => { context with labels := (name, number) :: context.labels }
      return number

/-- A statement with a label. -/
def labelStatement (name : Octets) (next : Statement) : Compile Code := do
  let number ← labelNumber name
  if (← context).labelLevels.any fun entry => entry.1 == number then throw (.redeclared name)
  changeContext fun context => { context with
    labelLevels := (number, context.level) :: context.labelLevels }
  return .label number :: (← statement next)

/-! ## Results -/

/-- The type of the result of a function whose type is to be found out. -/
def inferredResult (pattern : ValueType) (operand : Operand) : ValueType :=
  match pattern with
  | .reference inner => referenceTo (inferFrom inner operand.type)
  | .movedReference inner =>
      if operand.category == .place then referenceTo operand.type
      else movedReferenceTo (inferFrom inner operand.type)
  | _ => inferFrom pattern operand.type.decayed

/-- Whether an expression is the name of a variable that ends with the present function. -/
def isOwnVariable (written : Expr) : Compile Bool := do
  match written with
  | .name .absent .plain text _ => do
      match ← lookup text with
      | [.variable_ id] =>
          let found ← variable_ id
          return found.depth == some (← context).depth && !found.type.isReference &&
            found.symbol.isEmpty
      | _ => return false
  | _ => return false

/-- The operand that a function returns: a variable that ends is not needed any more. -/
def returnedOperand (written : Expr) (operand : Operand) (target : ValueType) :
    Compile Operand := do
  if target.isRecord && operand.category == .place && (← isOwnVariable written) then
    let moved := { operand with category := .moved }
    match ← hypothetically? (convert moved target.plain) with
    | some _ => return moved
    | none => return operand
  else return operand

/-- End a function. -/
def endFunction (word : Code) : Compile Code := do
  match (← context).finishTarget with
  | some target => return goTo target
  | none => return word ++ [Instruction.finish]

/-- Let the type of the result of the present function be known. -/
def settleResult (result : ValueType) : Compile Unit := do
  changeContext fun context => { context with result, infersResult := false }
  if let some id := (← context).function then
    changeFunction id fun entry => { entry with
      type := match entry.type with
        | .function _ parameters isVariadic isConst =>
            .function result parameters isVariadic isConst
        | other => other }

/-- A statement that ends a function. -/
def finishStatement (written : Expr) : Compile Code := do
  let here ← context
  if written.isAbsent then
    if here.infersResult then settleResult .void
    else if here.result.plain != .void && (← isCpp) then mismatch "return"
    return ← endFunction [.push 0]
  let operand ← argumentOperand written
  if here.infersResult then
    let found ← match operand.subject with
      | .functions .. => value operand
      | _ => pure operand
    settleResult (inferredResult here.result found)
  let target := (← context).result
  if target.plain == .void then
    if operand.type.plain != .void && (← isCpp) then mismatch "return"
    return (← wholeExpression (discarded operand)) ++ (← endFunction [.push 0])
  if target.isReference then return (← convert operand target).code ++ [Instruction.finish]
  match target.plain with
  | .record _ => do
      let isNamed := match written with
        | .name .absent .plain text _ => text == here.namedResult
        | _ => false
      if isNamed then return [.push 0, .finish]
      let made ← convert (← returnedOperand written operand target) target.plain
      return here.resultPlace ++ made.code ++ [Instruction.push 0, .finish]
  | _ => return (← convert operand target.plain).code ++ [Instruction.finish]

/-! ## Exceptions -/

/-- The start of a handler: the variable that stands for what was caught. -/
def handlerParameter (parameter : Statement) (slot : Nat) : Compile Code := do
  match parameter with
  | .variable_ name written _ _ _ => do
      let found ← parameterType <$> type written
      let place : Code := [.frame slot, .load 8 false]
      let declared (type : ValueType) (place : Code) : Compile Unit := do
        let text := name.lastName
        if !text.isEmpty then
          let id := (← get).variables_.size
          let depth := (← context).depth
          modify fun environment => { environment with
            variables_ := environment.variables_.push
              { name := text, type, place, depth := some depth, isDefined := true } }
          declare text (.variable_ id)
      if found.isReference then
        declared found.referred place
        return []
      else
        let (size, alignment) ← storageOf found
        let own : Code := [.frame (← reserve size alignment)]
        let thrown : Operand := { type := found, category := .place, code := place }
        let store ← storeInto found own none thrown
        let destruction ← deferDestruction found own
        declared found own
        return store ++ destruction
  | _ => return []

/-- The type that a handler catches. -/
def handlerType? (parameter : Statement) : Compile (Option ValueType) := do
  match parameter with
  | .variable_ _ written _ _ _ => return some (← type written).referred.decayed
  | _ => return none

/-- A guarded block with its handlers. -/
def attemptStatement (body : Statement) (handlers : List Statement) : Compile Code := do
  let outer := (← context).level
  let level := outer + 1
  let done ← newLabel
  let entries ← handlers.mapM fun handler => do
    match handler with
    | .handler parameter inner => return (parameter, inner, ← handlerType? parameter, ← newLabel)
    | _ => throw (.invalid "handler")
  let types ← entries.reverse.filterMapM fun (_, _, type?, _) => do
    match type? with
    | some type => return some (Instruction.symbol (← describe type) 0)
    | none => return none
  let table := entries.map fun (_, _, type?, label) => (type?.isSome, label)
  let restore (context : Context) : Context := { context with level := outer }
  let guarded ← withContext (fun context => { context with level }) restore (statement body)
  let caught ← entries.mapM fun (parameter, inner, _, label) => do
    let slot ← reserveWord
    let code ← withContext (fun context => { context with level }) restore <| inBlock do
      return (← handlerParameter parameter slot) ++ (← statement inner)
    return [Instruction.label label, .frame slot, .swap, .store 8] ++ code ++
      [Instruction.close level, .jump done]
  return types ++ [Instruction.guard level table] ++ guarded ++
    [Instruction.close level, .jump done] ++
    caught.flatten ++ [Instruction.label done]

/-- What a statement does. -/
def statementOf (written : Statement) : Compile Code := do
  match written with
  | .empty => return []
  | .expression value => wholeExpression do discarded (← expression value)
  | .block body => inBlock (statements body)
  | .group members => statements members
  | .branch isStatic condition whenTrue whenFalse =>
      branchStatement isStatic condition whenTrue whenFalse
  | .loop condition step body => loopStatement condition step body
  | .repeat body condition => repeatStatement body condition
  | .forEach item range body => forEachStatement item range body
  | .switch condition body => switchStatement condition body
  | .case first last next => caseStatement first last next
  | .otherwise next => otherwiseStatement next
  | .leave =>
      match (← context).leaveTarget with
      | some target => return goTo target
      | none => throw (.invalid "break")
  | .again =>
      match (← context).againTarget with
      | some target => return goTo target
      | none => throw (.invalid "continue")
  | .finish value => finishStatement value
  | .jump name => do
      let number ← labelNumber name
      return [.leaveFor number, .jump number]
  | .label name next => labelStatement name next
  | .attempt body handlers => attemptStatement body handlers
  | other => declaration other

end QueryFoundry.Native.Compile
