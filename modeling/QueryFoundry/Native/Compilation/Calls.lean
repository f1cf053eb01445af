import QueryFoundry.Native.Compilation.Choice

/-!
# Calls

What is passed to a function and what comes back. Arguments are evaluated from the last one to the
first one. A structure is passed and returned by the address of its place.
-/

namespace QueryFoundry.Native.Compile

open Text (Octets)

/-! ## Parts of calls -/

/-- What pushes the address of the object that the present function works on. -/
def selfCode : Compile Code := do
  let context ← context
  if !context.selfPlace.isEmpty then return context.selfPlace
  return [.argument (if context.resultPlace.isEmpty then 0 else 1), .load 8 false]

/-- Whether some code can be put anywhere: nothing changes what it pushes. -/
def isStable : Code → Bool
  | [.frame _] | [.symbol _ _] | [.argument _, .load _ _] | [.frame _, .push _, .binary _ _]
  | [.argument _, .load _ _, .push _, .binary _ _] | [.argument _] | [.push _] => true
  | _ => false

/-- Keep the word that some code pushes in a place of its own, unless it can be pushed again as it
is: what is done once, and what pushes the word then. -/
def kept (code : Code) : Compile (Code × Code) := do
  if isStable code then return ([], code)
  else
    let place : Code := [.frame (← reserveWord)]
    return (place ++ code ++ [Instruction.store 8], place ++ [Instruction.load 8 false])

/-- What is passed for a converted argument. -/
def passed (operand : Operand) : Compile Code := do
  if operand.type.isRecord then return (← materialize operand).code
  else return operand.code

/-- An argument where nothing is known of the parameter. -/
def promotedArgument (operand : Operand) : Compile Operand := do
  let found ← value operand
  if found.type == .float then inForm found .double
  else if found.type.isArithmetic || found.type.isEnumeration then promote operand
  else return found

/-- The parameters of a function and whether there may be more. -/
def parametersOf : ValueType → List ValueType × Bool
  | .function _ parameters isVariadic _ => (parameters, isVariadic)
  | _ => ([], false)

/-- The result of a function. -/
def resultOf : ValueType → ValueType
  | .function result _ _ _ => result
  | _ => .void

/-- Arguments as the parameters take them. -/
def convertArguments (parameters : List ValueType) (operands : List Operand) :
    Compile (List Code) := do
  let named ← (operands.zip parameters).mapM fun (operand, parameter) => do
    passed (← convert operand parameter)
  let others ← (operands.drop parameters.length).mapM fun operand => do
    passed (← promotedArgument operand)
  return named ++ others

/-- What comes back from a call that some code makes, where a structure is made at the address on
top of the arguments. -/
def resultOperand (result : ValueType) (arguments : Code) (count : Nat) (callee : Code) :
    Compile Operand := do
  match result with
  | .void => return { type := .void, code := arguments ++ callee ++
    [Instruction.call count, .drop] }
  | .reference target =>
      return { type := target, category := .place, code := arguments ++ callee ++
        [Instruction.call count] }
  | .movedReference target =>
      return { type := target, category := .moved, code := arguments ++ callee ++
        [Instruction.call count] }
  | type =>
      if type.isRecord then
        let slot ← reserveWord
        return { type
                 code := [Instruction.frame slot, .swap, .store 8] ++ arguments ++
                   [Instruction.frame slot, .load 8 false] ++ callee ++
                   [Instruction.call (count + 1), .drop] }
      else if type.plain == .void then
        return { type := .void, code := arguments ++ callee ++ [Instruction.call count, .drop] }
      else return { type := type.plain, code := arguments ++ callee ++ [Instruction.call count] }

/-- What evaluates arguments, the last one first. -/
def argumentCode (arguments : List Code) : Code :=
  arguments.reverse.flatten

/-- The standard arguments that are missing in a call. -/
def standardArguments (entry : FunctionEntry) (given : Nat) : Compile (List Operand) := do
  let count := (parametersOf entry.type).1.length
  let initials := entry.parameters.map fun
    | .variable_ _ _ _ initial _ => initial
    | _ => .absent
  let missing := initials.drop (initials.length - (count - given))
  inScope entry.scope do
    missing.mapM fun written =>
      match written with
      | .initial .braces items =>
          return { type := .automatic, subject := .list items : Operand }
      | other => expression other

/-- The operation of the processor that a function stands for, by its name. -/
def serviceOf? (name : Octets) : Option Octets :=
  if name.startsWith "__service_" then some (String.ofList (name.toList.drop 10)) else none

/-- The position of a virtual function in the first table of a structure. -/
def virtualPosition? (owner : Nat) (name : Octets) (type : ValueType) : Compile (Option Nat) := do
  match (← completeRecord owner).tables.find? fun table => table.offset == 0 with
  | none => return none
  | some table =>
      let fits (entry : VirtualEntry) : Bool :=
        entry.name == name && (name.startsWith "~" ||
          (parametersOf entry.type == parametersOf type &&
            isConstFunction entry.type == isConstFunction type))
      let isExact (entry : VirtualEntry) : Bool :=
        fits entry && resultOf entry.type == resultOf type
      return (table.entries.findIdx? isExact).or (table.entries.findIdx? fits)
where
  /-- Whether a member function promises not to change its object. -/
  isConstFunction : ValueType → Bool
    | .function _ _ _ isConst => isConst
    | _ => false

/-- What pushes the object and the address of the virtual function at a position of its table. -/
def virtualCallee (object : Code) (position : Nat) : Compile (Code × Code) := do
  let slot ← reserveWord
  let find : Code := object ++
    [Instruction.duplicate, .load 8 false, .push (UInt64.ofNat (16 * position)),
    .binary .add .address, .frame slot, .swap, .store 8]
  let adjust : Code := [.frame slot, .load 8 false, .push 8, .binary .add .address, .load 8 false,
    .binary .add .address]
  return (find ++ adjust, [.frame slot, .load 8 false, .load 8 false])

/-- How the object of a call, or the first argument, is evaluated. -/
inductive ObjectOrder where
  /-- Before the other arguments. -/
  | first
  /-- Behind the other arguments. -/
  | last
deriving DecidableEq, Repr

/-- Call a function with arguments. -/
def callFunction (id : Nat) (object : Option (Code × ValueType)) (isExact : Bool)
    (operands : List Operand) (order : ObjectOrder) : Compile Operand := do
  let entry ← functionEntry id
  if let some owner := entry.owner then checkAccess owner entry.access entry.name
  let (parameters, _) := parametersOf entry.type
  let standard ← if operands.length < parameters.length then
      standardArguments entry operands.length
    else pure []
  let before ← match entry.type with
    | .function .automatic .. => do
        function id
        pure (← functionEntry id)
    | _ => pure entry
  let arguments ← convertArguments parameters (operands ++ standard)
  let result := resultOf before.type
  match serviceOf? entry.name with
  | some name =>
      let code := argumentCode arguments ++ [Instruction.service name arguments.length]
      if result == .void then return { type := .void, code := code ++ [Instruction.drop] }
      else return { type := result, code }
  | none =>
      match object with
      | none => do
          let (before, ordered) ← match order, arguments with
            | .first, first :: rest => do
                let (before, again) ← kept first
                pure (before, again :: rest)
            | _, _ => pure ([], arguments)
          let made ← resultOperand result (argumentCode ordered) ordered.length
            (← functionAddress id)
          return { made with code := before ++ made.code }
      | some (code, type) =>
          if entry.isStatic then
            let found ← resultOperand result (argumentCode arguments) arguments.length
              (← functionAddress id)
            if isStable code then return found
            else return { found with code := code ++ [Instruction.drop] ++ found.code }
          else
            let owner := entry.owner.getD 0
            let derived := type.recordId?.getD owner
            let position ← if entry.isVirtual && !isExact then
                virtualPosition? derived entry.name entry.type
              else pure none
            let (before, subject) ← match order with
              | .first => kept code
              | .last => pure ([], code)
            match position with
            | some position =>
                let (found, callee) ← virtualCallee subject position
                let made ← resultOperand result (argumentCode arguments ++ found)
                  (arguments.length + 1) callee
                return { made with code := before ++ made.code }
            | none =>
                let address ← toBase subject derived owner
                let made ← resultOperand result (argumentCode arguments ++ address)
                  (arguments.length + 1) (← functionAddress id)
                return { made with code := before ++ made.code }

/-- Call a function by its address. -/
def callPointer (callee : Operand) (operands : List Operand) : Compile Operand := do
  let pointer ← value callee
  match pointer.type.plain with
  | .pointer (.function result parameters isVariadic isConst) =>
      if operands.length < parameters.length ||
          (parameters.length < operands.length && !isVariadic) then
        throw (.noMatch "call")
      let _ := isConst
      let arguments ← convertArguments parameters operands
      let (before, address) ← kept pointer.code
      let made ← resultOperand result (argumentCode arguments) arguments.length address
      return { made with code := before ++ made.code }
  | _ => throw (.mismatch "function")

/-- Call a member function of an object by its name, if there is one. -/
def callMember? (object : Operand) (name : Octets) (operands : List Operand)
    (order : ObjectOrder) : Compile (Option Operand) := do
  match object.type.plain with
  | .record id => do
      let _ ← completeRecord id
      let found ← members id name
      if found.isEmpty then return none
      let chosen ← candidates found none (some (object.type, object.category)) operands fun _ => true
      if chosen.isEmpty then return none
      let function := (← best name chosen).function
      let place ← materialize object
      return some (← callFunction function (some (place.code, object.type)) false operands order)
  | _ => return none

/-! ## Conversions by functions -/

/-- The conversion functions of a structure and of those that it inherits from. -/
def conversionsOf : Nat → Nat → Compile (List Entity)
  | 0, _ => throw .tooDeep
  | depth + 1, id => do
      let found ← completeRecord id
      let inherited ← found.bases.mapM fun base => conversionsOf depth base.record
      return found.conversions ++ inherited.flatten

/-- The result of a conversion function as an operand of which only the type matters. -/
def resultSample (type : ValueType) : Operand :=
  match type with
  | .reference target => { type := target, category := .place }
  | .movedReference target => { type := target, category := .moved }
  | other => { type := other }

/-- Turn an object into a type by the best of its conversion functions. -/
def convertByFunction? (operand : Operand) (target : ValueType) (isWritten : Bool) :
    Compile (Option Operand) := do
  match operand.type.plain with
  | .record id =>
      let found ← conversionsOf inheritanceDepth id
      let ranked ← found.filterMapM fun entity => do
        let function? : Option Nat ← match entity with
          | .function id => pure (some id)
          | .template id => do
              let made ← attempt? do
                let entry ← template id
                let some (result, _) := functionPattern entry.declaration
                  | throw (.noMatch "conversion")
                match ← inScope entry.scope
                    (searchType entry.parameters searchDepth result target.plain []) with
                | some bound => instantiate id (← inOrder entry.parameters bound)
                | none => throw (.noMatch "conversion")
              match made with
              | some (.function made) => pure (some made)
              | _ => pure none
          | _ => pure none
        match function? with
        | none => return none
        | some function =>
            let entry ← functionEntry function
            if entry.specifiers.isExplicit && !isWritten then return none
            match ← objectRank? function (some (operand.type, operand.category)) with
            | none => return none
            | some first =>
                match ← rank? (resultSample (resultOf entry.type)) target with
                | some rank =>
                    return some ({ function, ranks := [first, rank] } : Candidate)
                | none => return none
      if ranked.isEmpty then return none
      let chosen ← best "conversion" ranked
      let place ← materialize operand
      return some (← callFunction chosen.function (some (place.code, operand.type)) false [] .last)
  | _ => return none

/-- Do something while no conversions by functions are made. -/
def whileConverting {α : Type} (action : Compile α) : Compile α := do
  let outer := (← get).isConverting
  modify fun environment => { environment with isConverting := true }
  let result ← action
  modify fun environment => { environment with isConverting := outer }
  return result

/-! ## Conversions -/

/-- Give up, because something has another type than is needed. -/
def mismatch {α : Type} (what : Octets) : Compile α := throw (.mismatch what)

/-- Turn a number or a pointer into a type that its rank allows. -/
def convertScalar (operand : Operand) (target : ValueType) : Compile Operand := do
  match ← scalarRank? operand target with
  | none => mismatch "conversion"
  | some _ =>
      let found ← value operand
      match found.type.plain, target.plain with
      | .pointer source, .pointer wanted =>
          let change := (← pointerChange? source wanted).getD []
          return { type := target.plain, code := found.code ++ change }
      | .function .., _ => return { found with type := target.plain }
      | .member _ _, .member _ _ =>
          if found.type.plain == target.plain then return found
          match found.type.plain, target.plain with
          | .member base _, .member derived _ =>
              let offset := (← baseOffset? derived base).getD 0
              return { type := target.plain
                       code := found.code ++
                         [Instruction.push (UInt64.ofNat offset), .binary .add .address] }
          | _, _ => return found
      | .nullPointer, .member _ (.function ..) => return { type := target.plain, code := [.push 0] }
      | _, .member _ (.function ..) => return { type := target.plain, code := [.push 0] }
      | .nullPointer, .member .. | .integer _, .member .. =>
          return { type := target.plain, code := [.push (wordOf (-1))] }
      | _, _ =>
          if found.type.isEnumeration && target.isEnumeration && (← isCpp) &&
              found.type.plain != target.plain then
            mismatch "enumeration"
          inForm found target

/-- The function of a set that has a type. -/
def functionOfType (found : List Entity) (wanted : ValueType) : Compile Nat := do
  let exact ← found.filterMapM fun entity => do
    match entity with
    | .function id => return if (← functionEntry id).type == wanted then some id else none
    | .template id => do
        let made ← attempt? do
          let entry ← template id
          let some (result, inputs) := functionPattern entry.declaration
            | throw (.noMatch entry.name)
          match ← inScope entry.scope (searchType entry.parameters searchDepth
              (.function result inputs false false) wanted []) with
          | some bound => instantiate id (← inOrder entry.parameters bound)
          | none => throw (.noMatch entry.name)
        match made with
        | some (.function made) =>
            return if (← functionEntry made).type == wanted then some made else none
        | _ => return none
    | _ => return none
  match exact with
  | first :: _ => return first
  | [] => mismatch "function"

/-- Turn an operand into a type that is no structure and no reference. -/
def convertToScalar (operand : Operand) (target : ValueType) : Compile Operand := do
  match operand.subject with
  | .list items =>
      match items with
      | [] => return { (← inForm (.ofInt 0 .int) target) with type := target.plain }
      | [single] => do
          let found ← expression single
          let made ← convert found target
          match found.constant, made.constant with
          | some (.integer before), some (.integer after) =>
              if before != after && target.plain != .bool && (← isCpp) then mismatch "narrowing"
              else return made
          | some (.real _), some (.integer _) =>
              if ← isCpp then mismatch "narrowing" else return made
          | _, _ => return made
      | _ => mismatch "list"
  | .functions name found given =>
      match target.plain with
      | .pointer (.function result parameters isVariadic isConst) =>
          match found, given with
          | [.function id], none =>
              convertScalar (← functionValue id) target
          | _, some _ => convertScalar (← functionValue (← singleFunction name found given)) target
          | _, none =>
              let id ← functionOfType found (.function result parameters isVariadic isConst)
              return { (← functionValue id) with type := target.plain }
      | _ => convertScalar (← value operand) target
  | .methods name .. => throw (.mismatch name)
  | .plain =>
      if operand.type.isRecord then
        match ← convertByFunction? operand target false with
        | some made => convert made target
        | none => mismatch "conversion"
      else convertScalar operand target

/-- Turn an operand into a structure. -/
def convertToRecord (operand : Operand) (target : ValueType) (id : Nat) : Compile Operand := do
  match operand.subject with
  | .list items => list target.plain items
  | _ =>
      match operand.subject, operand.type.plain with
      | .plain, .record source =>
          if source == id && operand.category == .value then return operand
          if ← isDerived source id then
            return ← construct target.plain .arguments [operand]
      | _, _ => pure ()
      if !(← isCpp) then mismatch "structure"
      let entry ← completeRecord id
      let byConstructor ← attempt? <| whileConverting do
        let chosen ← candidates entry.constructors none none [operand] fun constructor =>
          !constructor.specifiers.isExplicit
        let _ ← best entry.name chosen
        construct target.plain .assigned [operand]
      match byConstructor with
      | some made => return made
      | none =>
          match ← whileConverting (convertByFunction? operand target.plain false) with
          | some made =>
              if made.category == .value then return made
              else construct target.plain .arguments [made]
          | none => throw (.noMatch entry.name)

/-- Let a reference refer to an operand; the address is the value. -/
def bindReference (operand : Operand) (target inner : ValueType) (isMoved : Bool) :
    Compile Operand := do
  let address (code : Code) : Operand := { type := target, code }
  let byValue : Compile Operand := do
    if !isMoved && !inner.isConst then mismatch "reference"
    let made ← convert operand inner.plain
    return address (← materialize made).code
  match operand.subject with
  | .list items =>
      if !isMoved && !inner.isConst then mismatch "reference"
      if inner.isRecord || inner.isArray then
        return address (← materialize (← list inner.plain items)).code
      else byValue
  | .functions name found given =>
      match inner with
      | .function .. =>
          match found with
          | [.function id] => return address (← functionAddress id)
          | _ => return address (← functionAddress (← functionOfType found inner))
      | _ => do
          let function ← functionValue (← singleFunction name found given)
          if !isMoved && !inner.isConst then mismatch "reference"
          return address (← materialize (← convert function inner.plain)).code
  | .methods name .. => throw (.mismatch name)
  | .plain =>
      match ← directRank? operand inner with
      | some _ =>
          match operand.category, isMoved with
          | .place, true =>
              match inner with
              | .function .. => return address operand.code
              | _ => mismatch "reference"
          | .place, false =>
              if operand.bits.isSome then byValue
              else return address (← partAddress operand inner)
          | .moved, false =>
              if !inner.isConst then mismatch "reference"
              return address (← partAddress operand inner)
          | .moved, true => return address (← partAddress operand inner)
          | .value, _ =>
              if !isMoved && !inner.isConst then mismatch "reference"
              return address (← partAddress (← materialize operand) inner)
      | none =>
          if operand.type.isRecord && !inner.isRecord then
            match ← convertByFunction? operand target false with
            | some made => bindMade made
            | none => byValue
          else if isMoved && operand.category == .place && operand.type.plain == inner.plain then
            mismatch "reference"
          else byValue
where
  /-- Refer to the result of a conversion function. -/
  bindMade (made : Operand) : Compile Operand := do
    if made.category == .value then
      return { type := target, code := (← materialize (← convert made inner.plain)).code }
    else return { type := target, code := ← partAddress made inner }

/-- Turn an operand into a type by what is allowed without being written. -/
def convertTo (operand : Operand) (target : ValueType) : Compile Operand := do
  match target with
  | .reference inner => bindReference operand target inner false
  | .movedReference inner => bindReference operand target inner true
  | _ =>
      match target.plain with
      | .record id => convertToRecord operand target id
      | .void => return { operand with type := .void }
      | .array .. | .function .. => mismatch "array"
      | .unknown _ | .automatic => mismatch "unknown"
      | _ => convertToScalar operand target

/-- The truth value of an operand, as conditions ask for it. -/
def truth (operand : Operand) : Compile Operand := do
  if operand.type.isRecord then
    match ← convertByFunction? operand .bool true with
    | some made => convert made .bool
    | none => mismatch "condition"
  else
    match operand.subject with
    | .list _ | .methods .. => mismatch "condition"
    | _ =>
        let found ← value operand
        if found.type.plain == .void || (← isScopedEnumeration found.type) then mismatch "condition"
        else if found.type.isScalar then inForm found .bool
        else mismatch "condition"

end QueryFoundry.Native.Compile
