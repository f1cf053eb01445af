import QueryFoundry.Native.Compilation.Construction

/-!
# Initial values

How a place is given its first value. Values between braces are handed out to the parts of what they
belong to; parts may be named, and braces around the values of a part may be left out.
-/

namespace QueryFoundry.Native.Compile

open Text (Octets)

/-- An item between braces, with the scope that it is read in. -/
structure Item where
  scope : Nat
  value : Expr
deriving Inhabited

/-- The items between braces, with one for each member of a pack. -/
def itemsOf (written : List Expr) : Compile (List Item) := do
  let found ← written.mapM fun item =>
    match item with
    | .expansion pattern => forPack pattern.mentioned do
        return { scope := (← get).scope, value := pattern : Item }
    | single => do return [{ scope := (← get).scope, value := single : Item }]
  return found.flatten

/-- A part of a structure that is given a value. -/
structure Part where
  name : Octets := ""
  type : ValueType
  offset : Nat
  bits : Option (Nat × Nat) := none
  initial : Expr := .absent
deriving Inhabited

/-- The parts of a structure in the order in which they are given values. -/
def partsOf (id : Nat) : Compile (List Part) := do
  let found ← completeRecord id
  let bases := found.bases.map fun base =>
    { type := .record base.record, offset := base.offset : Part }
  let fields := found.fields.toList.filter fun field => field.name != "" || field.type.isRecord
  return bases ++ fields.map fun field =>
    { name := field.name, type := field.type, offset := field.offset, bits := field.bits
      initial := field.initial }

/-- The position of the part with a name, which may lie in a part without one. -/
def partPosition? (parts : List Part) (name : Octets) : Compile (Option Nat) := do
  let isNamed (part : Part) : Compile Bool := do
    match part.type.recordId? with
    | some id =>
        if part.name != "" then return part.name == name
        else return !(← members id name).isEmpty
    | none => return part.name == name
  let fits ← parts.mapM isNamed
  return fits.findIdx? (· == true)

/-- The number of bytes of each character of a text for which an array of some elements is given the
text, if that is possible. -/
def textSize? (element text : ValueType) : Option Nat :=
  match element.integerKind?, text.integerKind? with
  | some kind, some other =>
      if other == .char then if kind.size == 1 then some 1 else none
      else if kind.size == other.size then some kind.size
      else none
  | _, _ => none

/-- Put a text into an array, with zeros behind it. -/
def fillText (size : Nat) (length : Option Nat) (place : Code) (codes : List Nat) :
    Compile Code := do
  let count := length.getD (codes.length + 1)
  if count < codes.length + 1 && (← isCpp) then mismatch "text"
  let bytes := (codes.take count).flatMap fun code => (wordBytes code).take size
  let cleared := place ++ [Instruction.clear (size * count)]
  if bytes.isEmpty then return cleared
  return cleared ++ place ++ [Instruction.symbol (← textSymbol bytes) 0, .copy bytes.length]

/-- Give a place the value of an operand. -/
def storeInto (target : ValueType) (place : Code) (bits : Option (Nat × Nat))
    (operand : Operand) : Compile Code := do
  if target.isReference then
    return place ++ (← convert operand target).code ++ [Instruction.store 8]
  match target.plain with
  | .record _ => return place ++ (← convert operand target.plain).code
  | .array .. =>
      match operand.type.plain, operand.category with
      | .array .., .value => return place ++ operand.code
      | _, _ => mismatch "array"
  | _ =>
      let made ← convert operand target.plain
      match bits with
      | none => return place ++ made.code ++ [← storeOf target]
      | some (first, count) =>
          let size ← wordSize target
          return place ++ [Instruction.duplicate, .load size false] ++ made.code ++
            [Instruction.putBits first count, .store size]

/-- What is passed for an argument as it is written. -/
def argumentOperand (written : Expr) : Compile Operand := do
  match written with
  | .initial .braces items => return { type := .automatic, subject := .list items }
  | other => expression other

/-- The type of the elements of a sequence of values between braces. -/
def sequenceElement? (id : Nat) : Compile (Option ValueType) := do
  let found ← record id
  match found.name, found.origin with
  | "initializer_list", some (_, .type element :: _) => return some element
  | _, _ => return none

/-- Whether a constructor takes values between braces as one sequence. -/
def takesSequence (entity : Entity) : Compile Bool := do
  let isSequence (type : ValueType) : Compile Bool := do
    match type.referred.recordId? with
    | some id => return (← sequenceElement? id).isSome
    | none => return false
  match entity with
  | .function id =>
      let entry ← functionEntry id
      match parametersOf entry.type with
      | (first :: rest, _) =>
          if rest.length ≤ standardCount entry then isSequence first else return false
      | _ => return false
  | .template id =>
      match functionPattern (← template id).declaration with
      | some (_, .variable_ _ (.named (.name _ _ "initializer_list" _)) _ _ _ :: _) => return true
      | _ => return false
  | _ => return false

/-- Whether the values between braces are handed out to the parts of a structure. -/
def isHandedOut (id : Nat) (written : List Expr) : Compile Bool := do
  if !(← isCpp) then return true
  let found ← completeRecord id
  if !found.isAggregate then return false
  match written with
  | [.initial ..] | [.fieldItem ..] | [.positionItem ..] => return true
  | [single] =>
      let type? ← hypothetically? do return (← expandAll expression [single]).map (·.type)
      match type? with
      | some [type] =>
          match type.recordId? with
          | some source => return !(← isDerived source id)
          | none => return true
      | _ => return true
  | _ => return true

/-- Whether an item can be the value of a whole structure. -/
def isWholeValue (item : Item) (target : ValueType) : Compile Bool := do
  let found ← hypothetically? do
    inScope item.scope do convert (← expression item.value) target.plain
  return found.isSome

/-- Give the parts that are left without a value the one that they have by themselves. -/
def fillMissing (id : Nat) (place : Code) (parts : List Part) : Compile Code := do
  let scope := (← record id).scope
  let code ← parts.mapM fun part => do
    let target := shifted place part.offset
    if !part.initial.isAbsent then
      withSelf (.record id) place (inScope scope (initial part.type target part.initial))
    else if part.type.isReference then mismatch "reference"
    else
      match elementType part.type with
      | .record _ => return target ++ (← makeDefault part.type true)
      | _ => return []
  return code.flatten

mutual

/-- Give a place the values between braces. -/
def fillBraces : Nat → ValueType → Code → List Expr → Compile Code
  | 0, _, _, _ => throw .tooDeep
  | depth + 1, target, place, written => do
      match target.plain with
      | .array element length => do
          match written with
          | [.text codes text] =>
              if let some size := textSize? element text then
                return ← fillText size length place codes
          | _ => pure ()
          let (code, _, count) ← fillElements depth element length place 0 0 true true
            (← itemsOf written)
          let size ← sizeOf element
          let total := length.getD count
          let rest ← match elementType element with
            | .record _ =>
                if ← isCpp then
                  (List.range (total - count)).mapM fun index => do
                    return shifted place (size * (count + index)) ++ (← makeDefault element true)
                else pure []
            | _ => pure []
          return place ++ [Instruction.clear (size * total)] ++ code ++ rest.flatten
      | .record id => do
          if ← isHandedOut id written then
            let (code, _) ← fillParts depth id place true (← itemsOf written)
            return place ++ [Instruction.clear (← sizeOf target)] ++ code
          else return place ++ (← makeFromList depth id written).code
      | _ => do
          match ← itemsOf written with
          | [] => return place ++ [Instruction.clear (← sizeOf target)]
          | [single] => fillValue depth target place none single
          | first :: _ =>
              if ← isCpp then mismatch "list" else fillValue depth target place none first

/-- Give a place the value of an item. -/
def fillValue : Nat → ValueType → Code → Option (Nat × Nat) → Item → Compile Code
  | 0, _, _, _, _ => throw .tooDeep
  | depth + 1, target, place, bits, item => inScope item.scope do
      match item.value with
      | .initial .braces written =>
          if target.isReference || bits.isSome then
            storeInto target place bits { type := .automatic, subject := .list written }
          else
            match target.plain, written with
            | .record _, _ | .array .., _ => fillBraces depth target place written
            | _, [_] | _, [] =>
                storeInto target place bits { type := .automatic, subject := .list written }
            | _, _ => fillBraces depth target place written
      | .initial _ [single] => fillValue depth target place bits { item with value := single }
      | .text codes text =>
          match target.plain with
          | .array element length =>
              match textSize? element text with
              | some size => fillText size length place codes
              | none => mismatch "text"
          | _ => do storeInto target place bits (← expression item.value)
      | .construct written .braces items =>
          let made ← type written
          match made.plain, target.plain with
          | .array .., .array .. => fillBraces depth target place items
          | _, _ => do storeInto target place bits (← expression item.value)
      | other => do storeInto target place bits (← expression other)

/-- Give a part its value from the first of some items, or from several of them if it has parts
itself. The items that are left are returned. -/
def fillOne : Nat → ValueType → Code → Option (Nat × Nat) → List Item →
    Compile (Code × List Item)
  | 0, _, _, _, _ => throw .tooDeep
  | _, _, _, _, [] => return ([], [])
  | depth + 1, target, place, bits, first :: rest => do
      let whole : Compile (Code × List Item) := do
        return (← fillValue depth target place bits first, rest)
      match first.value, target.plain with
      | .initial .., _ => whole
      | .text _ text, .array element length =>
          if (textSize? element text).isSome then whole
          else
            let (code, left, _) ← fillElements depth element length place 0 0 false true
              (first :: rest)
            return (code, left)
      | .construct .., .array .. => whole
      | _, .array element length =>
          let (code, left, _) ← fillElements depth element length place 0 0 false true
            (first :: rest)
          return (code, left)
      | .fieldItem .., .record id => fillParts depth id place false (first :: rest)
      | _, .record id => do
          if ← isWholeValue first target then whole
          else if (← completeRecord id).isAggregate then
            fillParts depth id place false (first :: rest)
          else whole
      | _, _ => whole

/-- Give the elements of an array from a position on their values. The number of elements is
returned that have one. -/
def fillElements : Nat → ValueType → Option Nat → Code → Nat → Nat → Bool → Bool → List Item →
    Compile (Code × List Item × Nat)
  | 0, _, _, _, _, _, _, _, _ => throw .tooDeep
  | _, _, _, _, _, count, _, _, [] => return ([], [], count)
  | depth + 1, element, length, place, position, count, isOuter, isFirst, item :: rest => do
      let size ← sizeOf element
      match item.value with
      | .positionItem first last inner => do
          if !isOuter && !isFirst then return ([], item :: rest, count)
          let start := (← inScope item.scope do evaluate (← expression first)).toNat
          let stop ← if last.isAbsent then pure start else do
            pure (← inScope item.scope do evaluate (← expression last)).toNat
          if length.any (· ≤ stop) then mismatch "position"
          let filled ← (List.range (stop + 1 - start)).mapM fun index =>
            fillOne depth element (shifted place (size * (start + index))) none
              ({ item with value := inner } :: rest)
          let left := (filled.getLast?.map Prod.snd).getD rest
          let (more, behind, top) ← fillElements depth element length place (stop + 1)
            (max count (stop + 1)) isOuter false left
          return ((filled.map Prod.fst).flatten ++ more, behind, top)
      | .fieldItem .. =>
          if isOuter then mismatch "member" else return ([], item :: rest, count)
      | _ => do
          if length.any (· ≤ position) then
            if !isOuter then return ([], item :: rest, count)
            if ← isCpp then mismatch "list"
            return ([], [], count)
          let (code, left) ← fillOne depth element (shifted place (size * position)) none
            (item :: rest)
          let (more, behind, top) ← fillElements depth element length place (position + 1)
            (max count (position + 1)) isOuter false left
          return (code ++ more, behind, top)

/-- Give the parts of a structure their values. -/
def fillParts : Nat → Nat → Code → Bool → List Item → Compile (Code × List Item)
  | 0, _, _, _, _ => throw .tooDeep
  | depth + 1, id, place, isOuter, items => do
      let parts ← partsOf id
      let isUnion := (← record id).key == .union
      let (code, left, done) ← fillFields depth parts isUnion place 0 isOuter true items
      let missing := (parts.zipIdx.filter fun (_, index) => !done.contains index).map Prod.fst
      let isLeft := (← isCpp) && !(isUnion && !done.isEmpty)
      let rest ← if isLeft then
          fillMissing id place (if isUnion then missing.filter (!·.initial.isAbsent) else missing)
        else pure []
      return (code ++ rest, left)

/-- Give the parts of a structure from a position on their values. The positions of the parts that
have one are returned. -/
def fillFields : Nat → List Part → Bool → Code → Nat → Bool → Bool → List Item →
    Compile (Code × List Item × List Nat)
  | 0, _, _, _, _, _, _, _ => throw .tooDeep
  | _, _, _, _, _, _, _, [] => return ([], [], [])
  | depth + 1, parts, isUnion, place, position, isOuter, isFirst, item :: rest => do
      let go (index : Nat) (items : List Item) : Compile (Code × List Item × List Nat) := do
        match parts[index]? with
        | none =>
            if !isOuter then return ([], item :: rest, [])
            if ← isCpp then mismatch "list"
            return ([], [], [])
        | some part =>
            let (code, left) ← fillOne depth part.type (shifted place part.offset) part.bits items
            let following := if isUnion then parts.length else index + 1
            let (more, behind, done) ← fillFields depth parts isUnion place following isOuter false
              left
            return (code ++ more, behind, index :: done)
      match item.value with
      | .fieldItem name inner => do
          match ← partPosition? parts name with
          | none => if isOuter || isFirst then throw (.noMember name) else return ([], item :: rest, [])
          | some index =>
              if !isOuter && !isFirst then return ([], item :: rest, [])
              let isHidden := (parts[index]?).any fun part => part.name == ""
              go index (if isHidden then item :: rest else { item with value := inner } :: rest)
      | .positionItem .. =>
          if isOuter then mismatch "position" else return ([], item :: rest, [])
      | _ => go position (item :: rest)

/-- Make a structure that is no row of parts from values between braces. -/
def makeFromList : Nat → Nat → List Expr → Compile Operand
  | 0, _, _ => throw .tooDeep
  | depth + 1, id, written => do
      let found ← completeRecord id
      let target : ValueType := .record id
      match ← sequenceElement? id with
      | some element => do
          let items ← itemsOf written
          let size ← sizeOf element
          let slot ← reserve (size * items.length) (← alignmentOf element)
          let filled ← items.zipIdx.mapM fun (item, index) =>
            fillValue depth element [.frame (slot + size * index)] none item
          let destruction ← deferDestruction (.array element (some items.length)) [.frame slot]
          return { type := target
                   code := filled.flatten ++ destruction ++
                     [Instruction.duplicate, .frame slot, .store 8, .push 8, .binary .add .address,
                       .push (UInt64.ofNat items.length), .store 8] }
      | none => do
          let isEmpty := (← itemsOf written).isEmpty
          let empty ← if isEmpty then
              candidates found.constructors none none [] fun _ => true
            else pure []
          if !empty.isEmpty then return ← construct target .arguments []
          if found.isAbstract then throw (.invalid found.name)
          let sequences ← found.constructors.filterM takesSequence
          let listed : Operand := { type := .automatic, subject := .list written }
          let taking ← candidates sequences none none [listed] fun _ => true
          if !taking.isEmpty then
            let chosen ← best found.name taking
            return { type := target, code := ← constructBy chosen.function [listed] true }
          let operands ← expandAll argumentOperand written
          construct target .arguments operands

end

/-- How deeply values between braces may be nested, and how many of them there may be. -/
def fillDepth : Nat := 100000

/-- Make a value of a type from what is written between braces. -/
def listOperand (target : ValueType) (written : List Expr) : Compile Operand := do
  let filled : Compile Operand := do
    let (take, place) ← takeAddress
    return { type := target.plain
             code := take ++ (← fillBraces fillDepth target.plain place written) }
  match target.plain with
  | .record id => if ← isHandedOut id written then filled else makeFromList fillDepth id written
  | .array .. => filled
  | _ => convert { type := .automatic, subject := .list written } target

/-- The number of elements of an array that is given some initial value. -/
def listedLength (element : ValueType) (written : Expr) : Compile (Option Nat) := do
  let ofText (codes : List Nat) (text : ValueType) : Option Nat :=
    (textSize? element text).map fun _ => codes.length + 1
  let ofItems (items : List Expr) : Compile (Option Nat) := do
    match items with
    | [.text codes text] =>
        if let some length := ofText codes text then return some length
    | _ => pure ()
    match ← hypothetically? do
        fillElements fillDepth element none [.push 0] 0 0 true true (← itemsOf items) with
    | some (_, _, count) => return some count
    | none => mismatch "list"
  match written with
  | .initial .assigned [.text codes text] => return ofText codes text
  | .initial .assigned [.initial .braces items] | .initial .braces items => ofItems items
  | .initial .assigned [.construct _ .braces items] => ofItems items
  | _ => return none

/-- Give a place the initial value that is written for it. -/
def setInitial (target : ValueType) (place : Code) (written : Expr) : Compile Code := do
  match written with
  | .absent => do
      if target.isReference then mismatch "reference"
      if !(← isCpp) then return []
      if target.isConst && target.isScalar then mismatch "const"
      match ← makeDefault target false with
      | [.drop] => return []
      | code => return place ++ code
  | .initial .arguments items => do
      let operands ← expandAll argumentOperand items
      if target.isReference then
        match operands with
        | [single] => storeInto target place none single
        | _ => mismatch "reference"
      else
        match target.plain, operands with
        | .record _, _ => return place ++ (← construct target.plain .arguments operands).code
        | _, [] => return place ++ (← makeDefault target true)
        | .array .., _ => mismatch "array"
        | _, [single] =>
            if single.type.isRecord then
              storeInto target place none (← cast .static single target.plain)
            else storeInto target place none single
        | _, _ => mismatch "arguments"
  | .initial .assigned [value] =>
      fillValue fillDepth target place none { scope := (← get).scope, value }
  | value => fillValue fillDepth target place none { scope := (← get).scope, value }

end QueryFoundry.Native.Compile
