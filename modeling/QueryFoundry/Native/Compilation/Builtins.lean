import QueryFoundry.Native.Compilation.Allocation

/-!
# Built-in functions

Functions that need no declaration: those that reach the arguments of the present function, count
bits, check arithmetic and ask for properties of types.
-/

namespace QueryFoundry.Native.Compile

open Text (Octets)

/-- The name of a built-in function without the letters that mark it. -/
def builtinName? (name : Octets) : Option Octets :=
  if name.startsWith "__builtin_" then some (String.ofList (name.toList.drop 10)) else none

/-- The kind of the operand of a function on bits, by the letters at the end of its name. -/
def bitsKind (name : Octets) : IntegerKind :=
  if name.endsWith "l" then .unsignedLong else .unsigned

/-- A function on the bits of a number that the processor provides. -/
def bitFunction (service name : Octets) (operand : Operand) : Compile Operand := do
  let kind := bitsKind name
  let found ← convert operand (.integer kind)
  return { type := .int
           code := [Instruction.push (UInt64.ofNat (8 * kind.size))] ++ found.code ++
             [Instruction.service service 2] }

/-- Swap the bytes of a number of some bytes. -/
def swapBytes (kind : IntegerKind) (operand : Operand) : Compile Operand := do
  let found ← convert operand (.integer kind)
  return { type := .integer kind
           code := [Instruction.push (UInt64.ofNat kind.size)] ++ found.code ++
             [Instruction.service "swapBytes" 2] }

/-- Arithmetic that tells whether its result fits where it is stored. -/
def checkedArithmetic (operator : Nat) (operands : List Operand) : Compile Operand := do
  match operands with
  | [left, right, target] => do
      let first ← promote left
      let second ← promote right
      let pointer ← value target
      match pointer.type.plain with
      | .pointer aim => do
          let .integer kind := ← formOf aim | mismatch "overflow"
          let flag (isSet : Bool) : Instruction := .push (if isSet then 1 else 0)
          return { type := ← truthType
                   code := pointer.code ++
                     [Instruction.push (UInt64.ofNat kind.size), flag kind.isSigned] ++
                     second.code ++
                     [flag (← isSigned second.type)] ++ first.code ++
                     [flag (← isSigned first.type), .push (UInt64.ofNat operator),
                       .service "checked" 8] }
      | _ => mismatch "overflow"
  | _ => throw (.noMatch "overflow")

/-- The types of functions of the system that have built-in names, too. -/
def prototype? (name : Octets) : Option ValueType :=
  let text : ValueType := .pointer (.const .char)
  let memory : ValueType := .pointer .void
  let fixed : ValueType := .pointer (.const .void)
  let function (result : ValueType) (parameters : List ValueType) : Option ValueType :=
    some (.function result parameters false false)
  match name with
  | "memcpy" | "memmove" => function memory [memory, fixed, .size]
  | "memset" => function memory [memory, .int, .size]
  | "memcmp" => function .int [fixed, fixed, .size]
  | "strlen" => function .size [text]
  | "strcmp" => function .int [text, text]
  | "strncmp" => function .int [text, text, .size]
  | "strcpy" | "strcat" => function (.pointer .char) [.pointer .char, text]
  | "strchr" | "strrchr" => function (.pointer .char) [text, .int]
  | "abs" => function .int [.int]
  | "labs" => function .distance [.distance]
  | "malloc" => function memory [.size]
  | "calloc" => function memory [.size, .size]
  | "realloc" => function memory [memory, .size]
  | "free" => function .void [memory]
  | "exit" => function .void [.int]
  | "abort" => function .void []
  | "puts" => function .int [text]
  | "putchar" => function .int [.int]
  | "printf" => some (.function .int [text] true false)
  | "sprintf" => some (.function .int [.pointer .char, text] true false)
  | "snprintf" => some (.function .int [.pointer .char, .size, text] true false)
  | "fabs" | "sqrt" | "floor" | "ceil" => function .double [.double]
  | "pow" => function .double [.double, .double]
  | _ => none

/-- A function of the system, which may not have been declared. -/
def systemFunction (name : Octets) : Compile Entity := do
  match ← lookupIn 0 name with
  | found :: _ => return found
  | [] =>
      match prototype? name with
      | none => throw (.undeclared name)
      | some type =>
          let id := (← get).functions.size
          modify fun environment => { environment with
            functions := environment.functions.push { name, symbol := name, type, scope := 0 } }
          return .function id

/-- The functions on the bits of a number, with the operations of the processor. -/
def bitFunctions : List (Octets × Octets) :=
  let kinds := [("popcount", "countBits"), ("parity", "parity"), ("clz", "leadingZeros"),
    ("ctz", "trailingZeros"), ("ffs", "firstBit")]
  kinds.flatMap fun (name, service) =>
    [(name, service), (name ++ "l", service), (name ++ "ll", service)]

/-- The values of built-in functions without operands that matter. -/
def realConstants : List (Octets × ValueType × UInt64) :=
  [("huge_val", .double, 0x7FF0000000000000), ("inf", .double, 0x7FF0000000000000),
    ("huge_valf", .float, 0x7FF0000000000000), ("inff", .float, 0x7FF0000000000000),
    ("nan", .double, 0x7FF8000000000000), ("nanf", .float, 0x7FF8000000000000)]

/-- Call a built-in function on the list of arguments of the present function. -/
def callOnArguments? (name : Octets) (operands : List Operand) : Compile (Option Operand) := do
  match name, operands with
  | "va_start", list :: _ => do
      let pointer ← value list
      return some { type := .void
                    code := pointer.code ++
                      [Instruction.argument (← context).argumentCount, .store 8] }
  | "va_end", list :: _ => return some { type := .void, code := ← discarded (← value list) }
  | "va_copy", [target, source] => do
      let place ← value target
      let given ← value source
      return some { type := .void, code := place.code ++ given.code ++
        [Instruction.load 8 false, .store 8] }
  | _, _ => return none

/-- Call a built-in function that makes a value of one operand. -/
def callOnOperand? (name : Octets) (operand : Operand) : Compile (Option Operand) := do
  match bitFunctions.lookup name with
  | some service => return some (← bitFunction service name operand)
  | none =>
      match name with
      | "bswap16" => return some (← swapBytes .unsignedShort operand)
      | "bswap32" => return some (← swapBytes .unsigned operand)
      | "bswap64" => return some (← swapBytes .unsignedLong operand)
      | "constant_p" => return some (.ofInt (if operand.constant.isSome then 1 else 0) .int)
      | "alloca" => do
          let found ← convert operand .size
          return some { type := .pointer .void, code := found.code ++ [Instruction.reserve] }
      | "addressof" => return some (← addressOf operand)
      | "launder" => return some (← value operand)
      | _ => return none

/-- Call a built-in function. -/
def callBuiltin (name : Octets) (operands : List Operand) : Compile Operand := do
  if let some made := ← callOnArguments? name operands then return made
  if let some (type, bits) := realConstants.lookup name then
    return ← settled { type, constant := some (.real bits) }
  if let [operand] := operands then
    if let some made := ← callOnOperand? name operand then return made
  match name with
  | "expect" =>
      match operands with
      | first :: _ => convert first .distance
      | [] => throw (.noMatch name)
  | "unreachable" | "trap" => return { type := .void, code := [.trap] }
  | "add_overflow" => checkedArithmetic 0 operands
  | "sub_overflow" => checkedArithmetic 1 operands
  | "mul_overflow" => checkedArithmetic 2 operands
  | "is_constant_evaluated" => return .ofBool false
  | _ => do
      let function ← systemFunction name
      callOperand { type := .void, subject := .functions name [function] none } operands

/-! ## Properties of types -/

/-- Whether a class can be made from arguments of some types. -/
def isConstructible (target : ValueType) (given : List ValueType) : Compile Bool := do
  let operands := given.map fun type =>
    match type with
    | .reference inner => ({ type := inner, category := .place, code := [.push 0] } : Operand)
    | other => { type := other.referred, category := .moved, code := [.push 0] }
  let found ← hypothetically? do
    match target with
    | .reference _ | .movedReference _ =>
        match operands with
        | [single] => let _ ← convert single target
        | _ => mismatch "reference"
    | .void => mismatch "void"
    | _ => let _ ← construct target .arguments operands
  return found.isSome

/-- Whether a value of one type turns into another one without being asked. -/
def turnsInto (source target : ValueType) : Compile Bool := do
  let operand : Operand := match source with
    | .reference inner => { type := inner, category := .place, code := [.push 0] }
    | other => { type := other.referred, category := .moved, code := [.push 0] }
  if target.plain == .void then return source.plain == .void
  return (← hypothetically? (convert operand target)).isSome

/-- The structure that a type is. -/
def recordOf? (type : ValueType) : Compile (Option RecordEntry) := do
  match type.recordId? with
  | some id => return some (← completeRecord id)
  | none => return none

/-- The properties that only structures have. -/
def recordProperties : List (Octets × (RecordEntry → Bool)) :=
  [("__is_class", fun found => found.key != .union),
    ("__is_union", fun found => found.key == .union),
    ("__is_abstract", fun found => found.isAbstract),
    ("__is_final", fun found => found.isFinal),
    ("__is_polymorphic", fun found => !found.tables.isEmpty),
    ("__is_empty", fun found =>
      found.fields.isEmpty && found.tables.isEmpty && found.key != .union),
    ("__has_virtual_destructor", fun found =>
      found.tables.any fun table => table.entries.any fun entry => entry.name == "~")]

/-- The properties that say that values of a type are copied as bytes. -/
def plainProperties : List Octets :=
  ["__is_trivially_copyable", "__is_trivial", "__is_pod", "__is_literal_type",
    "__is_standard_layout"]

/-- The properties that say that values of a type need not be destroyed. -/
def lightProperties : List Octets := ["__has_trivial_destructor", "__is_trivially_destructible"]

/-- The properties of single types that are no structures alone. -/
def singleProperty (name : Octets) (type : ValueType) : Compile Bool := do
  let element? ← recordOf? (elementType type)
  if plainProperties.contains name then
    match element? with
    | some found =>
        let isMade := name == "__is_trivially_copyable" || found.isPlainToMake
        return found.isPlainToCopy && found.destructor.isNone && isMade
    | none => return !type.isReference
  else if lightProperties.contains name then return element?.all fun found => found.destructor.isNone
  else
    match name with
    | "__is_enum" => return type.isEnumeration
    | "__is_scoped_enum" => isScopedEnumeration type
    | "__is_function" => return type.isFunction
    | "__is_aggregate" => return type.isArray || element?.any fun found => found.isAggregate
    | _ => throw (.noMatch name)

/-- The properties of single types that are no structures alone. -/
def singleProperties : List Octets :=
  plainProperties ++ lightProperties ++
    ["__is_enum", "__is_scoped_enum", "__is_function", "__is_aggregate"]

/-- The properties of several types. -/
def jointProperties : List Octets :=
  ["__is_same", "__is_base_of", "__is_constructible", "__is_convertible"]

/-- Whether several types have a property. -/
def jointProperty (name : Octets) (first : ValueType) (rest : List ValueType) : Compile Bool := do
  match rest with
  | [second] =>
      if name == "__is_same" then return first == second
      else if name == "__is_convertible" then turnsInto first second
      else if name == "__is_base_of" then
        match first.recordId?, second.recordId? with
        | some base, some derived => isDerived derived base
        | _, _ => return false
      else isConstructible first rest
  | _ =>
      if name == "__is_constructible" then isConstructible first rest
      else throw (.noMatch name)

/-- Whether types have a property. -/
def typeProperty (name : Octets) (types : List ValueType) : Compile Bool := do
  match types with
  | [] => throw (.noMatch name)
  | first :: rest =>
      match recordProperties.lookup name with
      | some test => return (← recordOf? first).any test
      | none =>
          if singleProperties.contains name then singleProperty name first
          else jointProperty name first rest

/-- The names of properties of types. -/
def propertyNames : List Octets :=
  recordProperties.map Prod.fst ++ singleProperties ++ jointProperties

/-- A type that is written where an expression could stand. -/
def typeArgument (written : Expr) : Compile ValueType := do
  match written with
  | .type written => type written
  | name =>
      match ← namedType? name with
      | some found => return found
      | none => throw (.undeclared name.lastName)

/-- An operand of the type that the values of an enumeration are kept as, of which only the type
matters. -/
def underlyingSample (written : List Expr) : Compile Operand := do
  match ← expandAll typeArgument written with
  | [found] => return { type := ← underlying found, code := [.push 0] }
  | _ => throw (.noMatch "__underlying_type")

/-- Ask for a property of types. -/
def propertyOperand (name : Octets) (written : List Expr) : Compile Operand := do
  let types ← expandAll typeArgument written
  return .ofBool (← typeProperty name types)

end QueryFoundry.Native.Compile
