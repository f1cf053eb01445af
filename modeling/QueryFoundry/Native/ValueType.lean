import QueryFoundry.Text.Octets

/-!
# Types of native values

What a value of native code can be, and the sizes of the numbers. Structures and enumerations are
referred to by their place in a table.
-/

namespace QueryFoundry.Native

/-- The kinds of whole numbers, in the order of their rank. -/
inductive IntegerKind where
  | char
  | signedChar
  | unsignedChar
  | short
  | unsignedShort
  | wideChar
  | char16
  | char32
  | int
  | unsigned
  | long
  | unsignedLong
  | longLong
  | unsignedLongLong
deriving DecidableEq, Repr, Inhabited

namespace IntegerKind

/-- The number of bytes of a number. -/
def size : IntegerKind → Nat
  | char | signedChar | unsignedChar => 1
  | short | unsignedShort | char16 => 2
  | wideChar | char32 | int | unsigned => 4
  | long | unsignedLong | longLong | unsignedLongLong => 8

/-- Whether a number can be negative. -/
def isSigned : IntegerKind → Bool
  | char | signedChar | short | wideChar | int | long | longLong => true
  | unsignedChar | unsignedShort | char16 | char32 | unsigned | unsignedLong
  | unsignedLongLong => false

/-- Numbers of a greater rank take over those of a lower one. -/
def rank : IntegerKind → Nat
  | char | signedChar | unsignedChar => 1
  | short | unsignedShort | char16 => 2
  | wideChar | char32 | int | unsigned => 3
  | long | unsignedLong => 4
  | longLong | unsignedLongLong => 5

/-- The kind of the same rank without negative numbers. -/
def toUnsigned : IntegerKind → IntegerKind
  | char | signedChar | unsignedChar => unsignedChar
  | short | unsignedShort | char16 => unsignedShort
  | wideChar | char32 | int | unsigned => unsigned
  | long | unsignedLong => unsignedLong
  | longLong | unsignedLongLong => unsignedLongLong

/-- The kind that calculations are done in. -/
def promoted (kind : IntegerKind) : IntegerKind :=
  if kind.rank < 3 || kind == wideChar then int
  else if kind == char32 then unsigned
  else kind

/-- The kind that two promoted kinds have in common. -/
def common (left right : IntegerKind) : IntegerKind :=
  if left == right then left
  else
    let (greater, lesser) := if left.rank < right.rank || (left.rank == right.rank &&
        left.isSigned) then (right, left) else (left, right)
    if !greater.isSigned || lesser.isSigned || lesser.size < greater.size then greater
    else greater.toUnsigned

/-- The number of a kind that has the low bits of a value. -/
def wrap (kind : IntegerKind) (value : Int) : Int :=
  let modulus : Int := Nat.pow 2 (8 * kind.size)
  let reduced := value.emod modulus
  if kind.isSigned && modulus ≤ 2 * reduced then reduced - modulus else reduced

end IntegerKind

/-- What a value can be. -/
inductive ValueType where
  | void
  | bool
  /-- The type of the pointer that points nowhere. -/
  | nullPointer
  | integer (kind : IntegerKind)
  | float
  | double
  | longDouble
  | pointer (target : ValueType)
  | reference (target : ValueType)
  /-- A reference to something that nobody else needs any more. -/
  | movedReference (target : ValueType)
  | array (element : ValueType) (length : Option Nat)
  | function (result : ValueType) (parameters : List ValueType) (isVariadic isConst : Bool)
  | record (id : Nat)
  | enumeration (id : Nat)
  /-- A pointer to a member of a structure. -/
  | member (record : Nat) (target : ValueType)
  | const (type : ValueType)
  /-- A type that is found out later. -/
  | automatic
  /-- A type of which nothing is known but that it is no other one. -/
  | unknown (number : Nat)
deriving BEq, Repr, Inhabited

namespace ValueType

/-- The type without a promise not to change it. -/
def plain : ValueType → ValueType
  | const type => type
  | type => type

/-- Whether values of the type must not be changed. -/
def isConst : ValueType → Bool
  | const _ => true
  | array element _ => element.isConst
  | _ => false

/-- The type with the promise not to change its values. -/
def toConst : ValueType → ValueType
  | const type => const type
  | array element length => array element.toConst length
  | reference target => reference target
  | movedReference target => movedReference target
  | function result parameters isVariadic isConst => function result parameters isVariadic isConst
  | type => const type

/-- Whether the type is a reference. -/
def isReference : ValueType → Bool
  | reference _ | movedReference _ => true
  | _ => false

/-- What a reference refers to; another type is itself. -/
def referred : ValueType → ValueType
  | reference target | movedReference target => target
  | type => type

/-- Whether the type is a number. -/
def isArithmetic (type : ValueType) : Bool :=
  match type.plain with
  | bool | integer _ | float | double | longDouble => true
  | _ => false

/-- Whether the type is a number with a fraction. -/
def isReal (type : ValueType) : Bool :=
  match type.plain with
  | float | double | longDouble => true
  | _ => false

/-- Whether the type is a truth value or a whole number. -/
def isIntegral (type : ValueType) : Bool :=
  match type.plain with
  | bool | integer _ => true
  | _ => false

/-- Whether the type is a pointer. -/
def isPointer (type : ValueType) : Bool :=
  match type.plain with
  | pointer _ => true
  | _ => false

/-- Whether the type is a structure. -/
def isRecord (type : ValueType) : Bool :=
  match type.plain with
  | record _ => true
  | _ => false

/-- The place of a structure in the table. -/
def recordId? (type : ValueType) : Option Nat :=
  match type.plain with
  | record id => some id
  | _ => none

/-- Whether the type is an enumeration. -/
def isEnumeration (type : ValueType) : Bool :=
  match type.plain with
  | enumeration _ => true
  | _ => false

/-- Whether the type is a function. -/
def isFunction : ValueType → Bool
  | function .. => true
  | _ => false

/-- Whether the type is an array. -/
def isArray : ValueType → Bool
  | array .. => true
  | _ => false

/-- Whether a value of the type fits into a register. -/
def isScalar (type : ValueType) : Bool :=
  match type.plain with
  | void | record _ | array .. | function .. | reference _ | movedReference _ | automatic
  | unknown _ => false
  | _ => true

/-- The type as the type of a value: what an array or a function is turned into where a value is
needed. -/
def decayed : ValueType → ValueType
  | array element _ => pointer element
  | function result parameters isVariadic isConst =>
      pointer (function result parameters isVariadic isConst)
  | type => type.plain

/-- The kind of whole number that the type is. -/
def integerKind? (type : ValueType) : Option IntegerKind :=
  match type.plain with
  | integer kind => some kind
  | _ => none

/-- The type `int`. -/
abbrev int : ValueType := integer .int

/-- The type of sizes. -/
abbrev size : ValueType := integer .unsignedLong

/-- The type of distances between pointers. -/
abbrev distance : ValueType := integer .long

/-- The type of characters. -/
abbrev char : ValueType := integer .char

end ValueType

end QueryFoundry.Native
