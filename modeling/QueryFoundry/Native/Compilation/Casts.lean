import QueryFoundry.Native.Compilation.Descriptions

/-!
# Casts

Conversions that have to be written: numbers and pointers into each other, and from a part of an
object back to the whole.
-/

namespace QueryFoundry.Native.Compile

open Text (Octets)

/-- The code that turns the address of a part into that of the structure that inherits it. -/
def toDerived (base derived : Nat) : Compile Code := do
  match ← baseOffset? derived base with
  | some 0 => return []
  | some offset => return [.push (UInt64.ofNat offset), .binary .subtract .address]
  | none => mismatch "base"

/-- The function that is called where a reference cannot be turned into the wanted type. -/
def refusal : Compile Code := do
  match ← lookupFrom "__throw_bad_cast" 4 0 with
  | [.function id] => return (← functionAddress id) ++ [Instruction.call 0, .drop]
  | _ => return [.trap]

/-- Turn a pointer or a reference by what its object is when the program runs. -/
def dynamicCast (operand : Operand) (target : ValueType) : Compile Operand := do
  match target with
  | .reference inner | .movedReference inner =>
      match operand.type.plain, inner.plain with
      | .record source, .record wanted =>
          if ← isDerived source wanted then return ← convert operand target
          let place ← materialize operand
          let done ← newLabel
          let code := place.code ++ [Instruction.symbol (← describe inner) 0, .swap,
            .service "dynamicCast" 2, .duplicate, .unary .not .address, .jumpIfZero done] ++
            (← refusal) ++ [Instruction.label done]
          return { type := inner, category := .place, code }
      | _, _ => mismatch "cast"
  | _ =>
      let found ← value operand
      match found.type.plain, target.plain with
      | .pointer source, .pointer wanted =>
          match source.plain, wanted.plain with
          | .record derived, .record base =>
              if ← isDerived derived base then return ← convert found target
              if !(← isPolymorphic derived) then mismatch "cast"
              return { type := target.plain
                       code := found.code ++
                         [Instruction.symbol (← describe wanted) 0, .swap,
                         .service "dynamicCast" 2] }
          | .record _, .void =>
              return { type := target.plain, code := found.code ++
                [Instruction.service "wholeObject" 1] }
          | _, _ => mismatch "cast"
      | _, _ => mismatch "cast"

/-- Turn a place into another type as it is. -/
def reinterpretPlace (operand : Operand) (inner : ValueType) : Compile Operand := do
  if operand.category == .value then mismatch "cast"
  return { operand with type := inner, constant := none }

/-- Turn numbers and pointers into each other as words. -/
def reinterpretScalar (operand : Operand) (target : ValueType) : Compile Operand := do
  let found ← value operand
  let wanted := target.plain
  match found.type.plain, wanted with
  | .pointer _, .pointer _ | .nullPointer, .pointer _ => return { found with type := wanted }
  | .member .., .member .. => return { found with type := wanted }
  | _, .record _ | .record _, _ | .void, _ => mismatch "cast"
  | _, _ =>
      if found.type.isReal && (wanted.isPointer) then mismatch "cast"
      if found.type.isPointer && wanted.isReal then mismatch "cast"
      if found.type.isScalar && wanted.isScalar then inForm found wanted
      else mismatch "cast"

/-- Turn an operand into a type by what is allowed when it is written. -/
def staticCast (operand : Operand) (target : ValueType) : Compile Operand := do
  match target with
  | .reference inner =>
      match operand.subject, operand.type.plain, inner.plain with
      | .plain, .record source, .record wanted =>
          if source != wanted && !(← isDerived source wanted) && (← isDerived wanted source) then
            if operand.category == .value then mismatch "cast"
            let change ← toDerived source wanted
            return { type := inner, category := .place, code := operand.code ++ change }
          let bound ← convert operand target
          return { type := inner, category := .place, code := bound.code }
      | _, _, _ => do
          let bound ← convert operand target
          return { type := inner, category := .place, code := bound.code }
  | .movedReference inner =>
      match operand.subject, operand.category with
      | .plain, .value => do
          let bound ← convert operand target
          return { type := inner, category := .moved, code := bound.code }
      | .plain, _ => do
          match operand.type.plain, inner.plain with
          | .record source, .record wanted =>
              if source != wanted && !(← isDerived source wanted) && (← isDerived wanted source) then
                let change ← toDerived source wanted
                return { type := inner, category := .moved, code := operand.code ++ change }
          | _, _ => pure ()
          let moved := { operand with category := .moved, constant := none }
          let bound ← convert moved target
          return { type := inner, category := .moved, code := bound.code }
      | _, _ => do
          let bound ← convert operand target
          return { type := inner, category := .moved, code := bound.code }
  | _ =>
      match target.plain with
      | .void =>
          match operand.subject with
          | .plain =>
              if operand.type.isRecord && operand.category == .value then
                let made ← materialize operand
                return { type := .void, code := made.code ++ [Instruction.drop] }
              else if operand.type.plain == .void then return { operand with type := .void }
              else if operand.category == .value && operand.constant.isSome then return .nothing
              else return { type := .void, code := operand.code ++ [Instruction.drop] }
          | _ => return .nothing
      | .record _ =>
          match operand.subject with
          | .list items => list target.plain items
          | _ => construct target.plain .arguments [operand]
      | .bool =>
          match operand.subject with
          | .plain => truth operand
          | _ => convert operand target
      | wanted =>
          match operand.subject with
          | .plain =>
              if operand.type.isRecord then
                match ← convertByFunction? operand wanted true with
                | some made => convert made wanted
                | none => mismatch "cast"
              else
                let found ← value operand
                match found.type.plain, wanted with
                | .pointer source, .pointer aim =>
                    match source.plain, aim.plain with
                    | .record base, .record derived =>
                        if base != derived && !(← isDerived base derived) &&
                            (← isDerived derived base) then
                          let change ← toDerived base derived
                          let label ← newLabel
                          return { type := wanted
                                   code := if change.isEmpty then found.code
                                     else found.code ++ shiftPointer label change }
                        else convert found wanted
                    | .void, _ => return { found with type := wanted }
                    | _, _ => convert found wanted
                | source, _ =>
                    if (source.isArithmetic || source.isEnumeration) &&
                        (wanted.isArithmetic || wanted.isEnumeration) then
                      inForm found wanted
                    else convert found wanted
          | _ => convert operand wanted

/-- Turn an operand into a type as it is written. -/
def castTo (kind : CastKind) (operand : Operand) (target : ValueType) : Compile Operand := do
  match kind with
  | .static => staticCast operand target
  | .dynamic => dynamicCast operand target
  | .const | .reinterpret =>
      match target with
      | .reference inner => reinterpretPlace operand inner
      | .movedReference inner =>
          return { (← reinterpretPlace operand inner) with category := .moved }
      | _ =>
          match operand.subject with
          | .plain => reinterpretScalar operand target
          | _ => convert operand target
  | .written =>
      match ← attempt? (staticCast operand target) with
      | some made => return made
      | none =>
          match target with
          | .reference inner => reinterpretPlace operand inner
          | .movedReference inner =>
              return { (← reinterpretPlace operand inner) with category := .moved }
          | _ => reinterpretScalar operand target

end QueryFoundry.Native.Compile
