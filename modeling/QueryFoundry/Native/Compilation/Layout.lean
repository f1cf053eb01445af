import QueryFoundry.Native.Compilation.Environment

/-!
# Sizes and names of types

How much room values take, how structures contain each other, and the names that types and functions
are linked by.
-/

namespace QueryFoundry.Native.Compile

open Text (Octets)

/-- How deeply types may be nested. -/
def typeDepth : Nat := 64

/-- The size of the values of a type and the number that their addresses are multiples of. -/
def layoutWithin : Nat → ValueType → Compile (Nat × Nat)
  | 0, _ => throw .tooDeep
  | depth + 1, type => do
      match type with
      | .void | .function .. => return (1, 1)
      | .bool => return (1, 1)
      | .nullPointer | .pointer _ => return (8, 8)
      | .integer kind => return (kind.size, kind.size)
      | .float => return (4, 4)
      | .double => return (8, 8)
      | .longDouble => return (16, 16)
      | .reference target | .movedReference target => layoutWithin depth target
      | .const inner => layoutWithin depth inner
      | .array element (some length) => do
          let (size, alignment) ← layoutWithin depth element
          return (size * length, alignment)
      | .array element none => do
          let (_, alignment) ← layoutWithin depth element
          return (0, alignment)
      | .record id => do
          let found ← completeRecord id
          if !found.isComplete then throw (.incomplete found.name)
          return (found.size, found.alignment)
      | .enumeration id => layoutWithin depth (← enumeration id).underlying
      | .member _ (.function ..) => return (16, 8)
      | .member .. => return (8, 8)
      | .automatic | .unknown _ => throw (.incomplete "auto")

/-- The size of the values of a type. -/
def sizeOf (type : ValueType) : Compile Nat := do
  return (← layoutWithin typeDepth type).1

/-- The number that the addresses of values of a type are multiples of. -/
def alignmentOf (type : ValueType) : Compile Nat := do
  return (← layoutWithin typeDepth type).2

/-- The room that a variable of a type takes: a reference is kept as an address. -/
def storageOf (type : ValueType) : Compile (Nat × Nat) :=
  if type.isReference then pure (8, 8) else layoutWithin typeDepth type

/-- The type of whole numbers that an enumeration is kept as; another type is itself. -/
def underlying (type : ValueType) : Compile ValueType := do
  match type.plain with
  | .enumeration id => return (← enumeration id).underlying
  | other => return other

/-- How a value of a type is kept in a word. -/
def formOf (type : ValueType) : Compile NumberForm := do
  match ← underlying type with
  | .bool => return .bool
  | .integer kind => return .integer kind
  | .float => return .float
  | .double | .longDouble => return .double
  | .pointer _ | .nullPointer | .function .. | .member .. | .array .. => return .address
  | .reference _ | .movedReference _ => return .address
  | _ => throw (.mismatch "scalar")

/-- The number of bytes of a value that is kept in a word. -/
def wordSize (type : ValueType) : Compile Nat := do
  match ← formOf type with
  | .bool => return 1
  | .integer kind => return kind.size
  | .float => return 4
  | .double => return 8

/-- Whether a value of a type can be negative. -/
def isSigned (type : ValueType) : Compile Bool := do
  match ← formOf type with
  | .integer kind => return kind.isSigned
  | _ => return false

/-- The instruction that loads a value of a type. -/
def loadOf (type : ValueType) : Compile Instruction := do
  return .load (← wordSize type) (← isSigned type)

/-- The instruction that stores a value of a type. -/
def storeOf (type : ValueType) : Compile Instruction := do
  return .store (← wordSize type)

/-! ## Inheritance -/

/-- How deeply structures may inherit from each other. -/
def inheritanceDepth : Nat := 32

/-- Where a structure contains another one that it inherits from: the offset, and the structures
that are passed through. Shared parts lie at a place that depends on the whole object. -/
def basePaths (derived target : Nat) : Nat → Compile (List (List Base))
  | 0 => throw .tooDeep
  | depth + 1 => do
      if derived == target then return [[]]
      let found ← record derived
      let paths ← found.bases.mapM fun base => do
        return (← basePaths base.record target depth).map (base :: ·)
      return paths.flatten

/-- Whether one structure inherits from another one, or is the same one. -/
def isDerived (derived target : Nat) : Compile Bool := do
  if derived == target then return true
  if !(← record derived).isComplete && (← record derived).pending.isSome then complete derived
  return !(← basePaths derived target inheritanceDepth).isEmpty

/-- Reach a part of an object from the code that pushes the address of the object. -/
def throughBases (code : Code) : Nat → List Base → Compile Code
  | _, [] => pure code
  | owner, base :: rest => do
      if base.isVirtual then
        let shared := (← record owner).shared
        let position := (shared.findIdx? fun entry => entry.1 == base.record).getD 0
        let found := code ++
          [Instruction.duplicate, .load 8 false, .push (UInt64.ofNat (24 + 8 * position)),
          .binary .subtract .address, .load 8 false, .binary .add .address]
        throughBases found base.record rest
      else if base.offset == 0 then throughBases code base.record rest
      else
        throughBases (code ++ [Instruction.push (UInt64.ofNat base.offset), .binary .add .address])
          base.record rest

/-- Reach a part of an object whose structure inherits from that of the part. -/
def toBase (code : Code) (derived target : Nat) : Compile Code := do
  if derived == target then return code
  let paths ← basePaths derived target inheritanceDepth
  let isShared (path : List Base) : Bool := path.any (·.isVirtual)
  match paths with
  | [] => throw (.mismatch "base")
  | [path] => throughBases code derived path
  | path :: _ =>
      if paths.all isShared then throughBases code derived path
      else throw (.ambiguous (← record target).name)

/-- The fixed distance to a part of an object, if it is the same in all objects. -/
def baseOffset? (derived target : Nat) : Compile (Option Nat) := do
  match ← basePaths derived target inheritanceDepth with
  | [path] =>
      if path.any (·.isVirtual) then return none
      else return some (path.foldl (fun sum base => sum + base.offset) 0)
  | _ => return none

/-! ## Names for the linker -/

/-- The letter of a plain type. -/
def letterOf : ValueType → Octets
  | .void => "v"
  | .bool => "b"
  | .nullPointer => "Dn"
  | .float => "f"
  | .double => "d"
  | .longDouble => "e"
  | .integer .char => "c"
  | .integer .signedChar => "a"
  | .integer .unsignedChar => "h"
  | .integer .short => "s"
  | .integer .unsignedShort => "t"
  | .integer .int => "i"
  | .integer .unsigned => "j"
  | .integer .long => "l"
  | .integer .unsignedLong => "m"
  | .integer .longLong => "x"
  | .integer .unsignedLongLong => "y"
  | .integer .wideChar => "w"
  | .integer .char16 => "Ds"
  | .integer .char32 => "Di"
  | _ => "?"

/-- A name behind its length. -/
def counted (name : Octets) : Octets :=
  toString name.length ++ name

/-- A name as a part of a longer one: unnamed things keep their number. -/
def partName (name : Octets) : Octets :=
  if name.startsWith "<" then counted ("." ++ String.ofList (name.toList.filter Char.isAlphanum))
  else counted name

/-- How operators are written in the names for the linker. -/
def operatorCode (symbol : Octets) (isUnary : Bool) : Octets :=
  match symbol with
  | "new" => "nw"
  | "new[]" => "na"
  | "delete" => "dl"
  | "delete[]" => "da"
  | "~" => "co"
  | "+" => if isUnary then "ps" else "pl"
  | "-" => if isUnary then "ng" else "mi"
  | "*" => if isUnary then "de" else "ml"
  | "/" => "dv"
  | "%" => "rm"
  | "&" => if isUnary then "ad" else "an"
  | "|" => "or"
  | "^" => "eo"
  | "=" => "aS"
  | "+=" => "pL"
  | "-=" => "mI"
  | "*=" => "mL"
  | "/=" => "dV"
  | "%=" => "rM"
  | "&=" => "aN"
  | "|=" => "oR"
  | "^=" => "eO"
  | "<<" => "ls"
  | ">>" => "rs"
  | "<<=" => "lS"
  | ">>=" => "rS"
  | "==" => "eq"
  | "!=" => "ne"
  | "<" => "lt"
  | ">" => "gt"
  | "<=" => "le"
  | ">=" => "ge"
  | "!" => "nt"
  | "&&" => "aa"
  | "||" => "oo"
  | "++" => "pp"
  | "--" => "mm"
  | "," => "cm"
  | "->*" => "pm"
  | "->" => "pt"
  | "()" => "cl"
  | "[]" => "ix"
  | other => "li" ++ counted other

mutual

/-- The name of a type for the linker. -/
def mangleType : Nat → ValueType → Compile Octets
  | 0, _ => pure "?"
  | depth + 1, type => do
      match type with
      | .pointer target => return "P" ++ (← mangleType depth target)
      | .reference target => return "R" ++ (← mangleType depth target)
      | .movedReference target => return "O" ++ (← mangleType depth target)
      | .const inner => return "K" ++ (← mangleType depth inner)
      | .array element length =>
          return "A" ++ toString (length.getD 0) ++ "_" ++ (← mangleType depth element)
      | .function result parameters isVariadic isConst => do
          let found ← mangleTypes depth parameters
          return (if isConst then "KF" else "F") ++ (← mangleType depth result) ++
            (if found.isEmpty then "v" else found) ++ (if isVariadic then "zE" else "E")
      | .record id => do
          let found ← record id
          mangleScoped depth found.scope
      | .enumeration id => mangleScoped depth (← enumeration id).scope
      | .member owner target =>
          return "M" ++ (← mangleType depth (.record owner)) ++ (← mangleType depth target)
      | other => return letterOf other

/-- The names of types for the linker. -/
def mangleTypes : Nat → List ValueType → Compile Octets
  | 0, _ => pure "?"
  | _, [] => pure ""
  | depth + 1, type :: rest => do
      return (← mangleType depth type) ++ (← mangleTypes depth rest)

/-- The arguments of a template in a name for the linker. -/
def mangleArgument : Nat → TemplateArgument → Compile Octets
  | 0, _ => pure "?"
  | depth + 1, argument => do
      match argument with
      | .type type => mangleType depth type
      | .value value type =>
          let digits := toString value.natAbs
          return "L" ++ (← mangleType depth type) ++ (if value < 0 then "n" else "") ++ digits ++ "E"
      | .symbol name _ => return "L" ++ counted name ++ "E"
      | .template id => return counted (← template id).name
      | .pack arguments => return "J" ++ (← mangleArguments depth arguments) ++ "E"

/-- The arguments of a template in a name for the linker. -/
def mangleArguments : Nat → List TemplateArgument → Compile Octets
  | 0, _ => pure "?"
  | _, [] => pure ""
  | depth + 1, argument :: rest => do
      return (← mangleArgument depth argument) ++ (← mangleArguments depth rest)

/-- The parts of the name of a scope. -/
def scopeParts : Nat → Nat → Compile (List Octets)
  | 0, _ => pure []
  | depth + 1, scope => do
      let found ← scopeEntry scope
      let outer ← match found.parent with
        | some parent => scopeParts depth parent
        | none => pure []
      match found.kind with
      | .record id => do
          let origin := (← record id).origin
          let suffix ← match origin with
            | some (_, arguments) => do
                pure ("I" ++ (← mangleArguments depth arguments) ++ "E")
            | none => pure ""
          return outer ++ [partName found.name ++ suffix]
      | .namespace =>
          if found.name.isEmpty then return outer else return outer ++ [partName found.name]
      | _ => return outer

/-- The name of a type that has a scope. -/
def mangleScoped : Nat → Nat → Compile Octets
  | 0, _ => pure "?"
  | depth + 1, scope => do
      match ← scopeParts depth scope with
      | [single] => return single
      | parts => return "N" ++ String.join parts ++ "E"

end

/-- A bound on how deeply the parts of names are nested. -/
def mangleDepth : Nat := 256

/-- The name of a type for the linker. -/
def typeSymbol (type : ValueType) : Compile Octets := mangleType mangleDepth type

/-- The name of something in a scope for the linker. -/
def scopedSymbol (scope : Nat) (name : Octets) : Compile Octets := do
  match ← scopeParts mangleDepth scope with
  | [] => return name
  | parts => return "N" ++ String.join parts ++ name ++ "E"

/-- The name of a function for the linker. -/
def functionSymbol (scope : Nat) (name : Octets) (kind : FunctionKind) (type : ValueType)
    (arguments : List TemplateArgument) : Compile Octets := do
  let (result, parameters, isVariadic, isConst) := match type with
    | .function result parameters isVariadic isConst => (result, parameters, isVariadic, isConst)
    | other => (other, [], false, false)
  let own ← match kind with
    | .constructor => pure "C1"
    | .destructor => pure "D1"
    | .conversion => do pure ("cv" ++ (← typeSymbol result))
    | .plain =>
        if name.startsWith "operator " then
          pure (operatorCode (String.ofList (name.toList.drop 9)) parameters.isEmpty)
        else pure (partName name)
  let given ← if arguments.isEmpty then pure "" else do
    pure ("I" ++ (← mangleArguments mangleDepth arguments) ++ "E")
  let found ← mangleTypes mangleDepth parameters
  let parts ← scopeParts mangleDepth scope
  let path := if parts.isEmpty then own ++ given
    else "N" ++ (if isConst then "K" else "") ++ String.join parts ++ own ++ given ++ "E"
  return "_Z" ++ path ++ (if found.isEmpty then "v" else found) ++ (if isVariadic then "z" else "")

end QueryFoundry.Native.Compile
