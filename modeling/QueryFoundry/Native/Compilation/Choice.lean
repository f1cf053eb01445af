import QueryFoundry.Native.Compilation.Templates

/-!
# Choosing functions

Of several functions of one name the one is called whose parameters take the arguments best. Each
argument has a rank for each parameter: it may fit as it is, or after conversions of various kinds.
-/

namespace QueryFoundry.Native

open Text (Octets)

/-- How well an argument fits a parameter; less is better. -/
structure Rank where
  /-- The kind of conversion: none, promotion, conversion, one by a function, dots. -/
  level : Nat
  /-- How far the conversion goes. -/
  distance : Nat := 0
  /-- Whether the kind of reference is the less fitting one. -/
  binding : Nat := 0
  /-- How many promises not to change something are added. -/
  promise : Nat := 0
deriving DecidableEq, Repr, Inhabited

namespace Rank

/-- Whether one rank is better than another one. -/
def isBetter (first second : Rank) : Bool :=
  if first.level != second.level then first.level < second.level
  else if first.distance != second.distance then first.distance < second.distance
  else if first.binding != second.binding then first.binding < second.binding
  else first.promise < second.promise

end Rank

namespace Compile

/-- The number of steps from a structure to one that it inherits from. -/
def inheritanceSteps (derived base : Nat) : Compile Nat := do
  return ((← basePaths derived base inheritanceDepth).map List.length).foldl min 1000

/-- Whether an operand may stand for the pointer that points nowhere. -/
def isNull (operand : Operand) : Bool :=
  operand.isZero || operand.type.plain == .nullPointer

/-- The number of promises that one type makes and the other one does not. -/
def promises : ValueType → ValueType → Nat
  | .const source, .const target => promises source target
  | source, .const target => 1 + promises source target
  | .const source, target => promises source target
  | .pointer source, .pointer target => promises source target
  | _, _ => 0

/-- The rank of the conversion of one pointer into another one. -/
def pointerRank? (source target : ValueType) : Compile (Option Rank) := do
  if qualifies source target then return some { level := 0, promise := promises source target }
  match ← hypothetically? (pointerChange? source target) with
  | some (some _) =>
      match source.plain, target.plain with
      | .record derived, .record base =>
          return some { level := 2, distance := ← inheritanceSteps derived base
                        promise := promises source target }
      | _, .void => return some { level := 2, distance := 900, promise := promises source target }
      | _, _ => return some { level := 0 }
  | _ => return none

/-- The rank of a conversion between numbers and pointers. -/
def scalarRank? (operand : Operand) (target : ValueType) : Compile (Option Rank) := do
  let source := operand.type.decayed
  let wanted := target.plain
  if source == wanted then return some { level := 0 }
  match source, wanted with
  | .pointer given, .pointer taken => pointerRank? given taken
  | .nullPointer, .pointer _ | .nullPointer, .member .. => return some { level := 2 }
  | .pointer _, .bool | .member .., .bool => return some { level := 2, distance := 990 }
  | .nullPointer, .bool => return none
  | .member derived given, .member base taken =>
      if given == taken && (← isDerived base derived) then return some { level := 2 }
      else return none
  | _, .pointer _ | _, .nullPointer | _, .member .. =>
      if isNull operand then return some { level := 2 }
      else if (← isCpp) then return none
      else return some { level := 2, distance := 995 }
  | .pointer _, _ =>
      if ← isCpp then return none else return some { level := 2, distance := 995 }
  | _, .enumeration _ =>
      if ← isCpp then return none else return some { level := 2 }
  | _, _ =>
      if !(← isNumber source) || !target.isArithmetic then return none
      let raised ← promoted source
      if raised == wanted && raised != source then return some { level := 1 }
      if source == .float && wanted == .double then return some { level := 1 }
      return some { level := 2 }

/-- Whether an object can be made from an operand by a function. -/
def isConvertible (operand : Operand) (target : ValueType) : Compile Bool := do
  if (← get).isConverting then return false
  let result ← hypothetically? do
    modify fun environment => { environment with isConverting := true }
    convert operand target
  return result.isSome

/-- The rank of making a value of a type from an operand. -/
def valueRank? (operand : Operand) (target : ValueType) : Compile (Option Rank) := do
  match operand.subject with
  | .list items =>
      let scalar? := !target.isRecord
      match items, scalar? with
      | [single], true =>
          let inner ← expression single
          scalarRank? inner target
      | _, _ =>
          match ← hypothetically? (list target items) with
          | some _ =>
              let isSequence ← match target.recordId? with
                | some id => do pure ((← record id).name == "initializer_list")
                | none => pure false
              return some { level := if isSequence then 0 else 3 }
          | none => return none
  | .methods .. => return none
  | .functions name found given =>
      match target.plain with
      | .pointer (.function result parameters isVariadic isConst) =>
          let wanted : ValueType := .function result parameters isVariadic isConst
          let fits (entity : Entity) : Compile Bool := do
            match entity with
            | .function id => return (← functionEntry id).type == wanted
            | .template _ => return true
            | _ => return false
          return if ← found.anyM fits then some { level := 0 } else none
      | .record _ =>
          if found.length == 1 then
            let function ← hypothetically? (functionValue (← singleFunction name found given))
            match function with
            | some value => return if ← isConvertible value target then some { level := 3 } else none
            | none => return none
          else return none
      | .bool => return some { level := 2, distance := 990 }
      | _ => return none
  | .plain =>
      match operand.type.plain, target.plain with
      | .record source, .record wanted =>
          if source == wanted then return some { level := 0 }
          else if ← isDerived source wanted then
            return some { level := 2, distance := ← inheritanceSteps source wanted }
          else return if ← isConvertible operand target then some { level := 3 } else none
      | .record _, _ | _, .record _ =>
          return if ← isConvertible operand target then some { level := 3 } else none
      | .void, _ => return none
      | _, _ => scalarRank? operand target

/-- The rank of a reference to an operand as it is. -/
def directRank? (operand : Operand) (target : ValueType) : Compile (Option Rank) := do
  match operand.subject with
  | .plain =>
      if operand.type.isConst && !target.isConst then return none
      if !(← isCompatible target operand.type) then return none
      let promise := promises operand.type target
      match operand.type.plain, target.plain with
      | .record derived, .record base =>
          if derived == base then return some { level := 0, promise }
          else return some { level := 2, distance := ← inheritanceSteps derived base, promise }
      | _, _ => return some { level := 0, promise }
  | .functions _ [.function id] _ =>
      return if (← functionEntry id).type == target then some { level := 0 } else none
  | _ => return none

/-- How well an operand fits a parameter of a type. -/
def rank? (operand : Operand) (target : ValueType) : Compile (Option Rank) := do
  let byValue (inner : ValueType) (binding : Nat) : Compile (Option Rank) := do
    return (← valueRank? operand inner.plain).map fun found => { found with binding }
  match target with
  | .reference inner =>
      let direct ← directRank? operand inner
      match direct, operand.category, inner.isConst with
      | some found, .place, _ =>
          if operand.bits.isSome && !inner.isConst then return none else return some found
      | some found, _, true => return some { found with binding := 1 }
      | some found, _, false =>
          match operand.subject with
          | .functions .. => return some found
          | _ => return none
      | none, _, true => byValue inner 1
      | none, _, false =>
          if operand.type.isRecord && !inner.isRecord && (← isConvertible operand target) then
            return some { level := 3 }
          else return none
  | .movedReference inner =>
      let direct ← directRank? operand inner
      match direct, operand.category with
      | some found, .place =>
          match operand.subject, inner with
          | .plain, .function .. => return some found
          | .plain, _ => return none
          | _, _ => return some found
      | some found, _ => return some found
      | none, .place =>
          if operand.type.plain == inner.plain then return none else byValue inner 0
      | none, _ => byValue inner 0
  | inner => valueRank? operand inner

/-! ## Candidates -/

/-- A function that could be called. -/
structure Candidate where
  function : Nat
  /-- The template that the function comes from. -/
  template : Option Nat := none
  ranks : List Rank
deriving Inhabited

/-- The parameters of a function that have standard arguments. -/
def standardCount (entry : FunctionEntry) : Nat :=
  let isStandard : Statement → Bool
    | .variable_ _ _ _ initial _ => !initial.isAbsent
    | _ => false
  (entry.parameters.reverse.takeWhile isStandard).length

/-- How well operands fit the parameters of a function, if it can be called with them. -/
def ranks? (id : Nat) (operands : List Operand) : Compile (Option (List Rank)) := do
  let entry ← functionEntry id
  match entry.type with
  | .function _ parameters isVariadic _ =>
      if operands.length < parameters.length - standardCount entry then return none
      if parameters.length < operands.length && !isVariadic then return none
      let found ← (operands.zip parameters).mapM fun (operand, parameter) =>
        rank? operand parameter
      if found.any Option.isNone then return none
      let extra := List.replicate (operands.length - parameters.length) { level := 4 : Rank }
      return some (found.filterMap (fun rank => rank) ++ extra)
  | _ => return none

/-- How well an object fits a member function. -/
def objectRank? (id : Nat) (object : Option (ValueType × Category)) :
    Compile (Option Rank) := do
  let entry ← functionEntry id
  match object, entry.type with
  | some (type, category), .function _ _ _ isConst =>
      if entry.isStatic || entry.kind == .constructor then return some { level := 0 }
      else if type.isConst && !isConst then return none
      else if entry.specifiers.subjectMark == "&" && category != .place && !isConst then return none
      else if entry.specifiers.subjectMark == "&&" && category == .place then return none
      else
        let isLess := entry.specifiers.subjectMark == "&" && category != .place
        return some { level := 0, binding := if isLess then 1 else 0
                      promise := if isConst && !type.isConst then 1 else 0 }
  | _, _ => return some { level := 0 }

/-- The functions among some entities that can be called with operands. -/
def candidates (found : List Entity) (given : Option (List TemplateArgument))
    (object : Option (ValueType × Category)) (operands : List Operand)
    (isAllowed : FunctionEntry → Bool) : Compile (List Candidate) := do
  let results ← found.mapM fun entity => do
    let function? : Option (Nat × Option Nat) ← match entity with
      | .function id => pure (if given.isSome then none else some (id, none))
      | .template id => do
          match ← searchCall? id (given.getD []) operands with
          | some arguments => do
              match ← attempt? (instantiate id arguments) with
              | some (.function made) => pure (some (made, some id))
              | _ => pure none
          | none => pure none
      | _ => pure none
    match function? with
    | none => return none
    | some (id, template) =>
        if !isAllowed (← functionEntry id) then return none
        match ← ranks? id operands, ← objectRank? id object with
        | some ranks, some first => return some { function := id, template, ranks := first :: ranks }
        | _, _ => return none
  return results.filterMap id

/-- Whether one candidate is to be preferred to another one. -/
def isPreferred (first second : Candidate) : Compile Bool := do
  let pairs := first.ranks.zip second.ranks
  if pairs.any fun (one, other) => other.isBetter one then return false
  if pairs.any fun (one, other) => one.isBetter other then return true
  match first.template, second.template with
  | none, some _ => return true
  | some one, some other =>
      return (← isFunctionAsSpecial one other) && !(← isFunctionAsSpecial other one)
  | _, _ => return false

/-- The best of some candidates. -/
def best (name : Octets) (found : List Candidate) : Compile Candidate := do
  match found with
  | [] => throw (.noMatch name)
  | [single] => return single
  | _ =>
      let isBest (candidate : Candidate) : Compile Bool :=
        found.allM fun other => do
          if other.function == candidate.function then return true
          else isPreferred candidate other
      match ← found.findM? isBest with
      | some candidate => return candidate
      | none => throw (.ambiguous name)

/-- The function among some entities that takes operands best. -/
def choose (name : Octets) (found : List Entity) (given : Option (List TemplateArgument))
    (object : Option (ValueType × Category)) (operands : List Operand) : Compile Nat := do
  return (← best name (← candidates found given object operands fun _ => true)).function

end Compile

end QueryFoundry.Native
