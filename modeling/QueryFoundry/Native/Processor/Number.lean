import QueryFoundry.Decimal.Binary64
import QueryFoundry.Native.Instruction

/-!
# Numbers in words

Arithmetic on words that hold numbers. Whole numbers are kept extended to a whole word, with their
sign if their kind has one. At the end stand questions about the bits of a number, and arithmetic
that tells whether its result fits.
-/

namespace QueryFoundry.Native

namespace IntegerKind

/-- The word of a number of a kind that has the low bits of a word. -/
def extend (kind : IntegerKind) (word : UInt64) : UInt64 :=
  let spare : UInt64 := UInt64.ofNat (64 - 8 * kind.size)
  if kind.isSigned then ((word <<< spare).toInt64 >>> spare.toInt64).toUInt64
  else (word <<< spare) >>> spare

/-- The number that a word holds. -/
def toInt (kind : IntegerKind) (word : UInt64) : Int :=
  if kind.isSigned then word.toInt64.toInt else word.toNat

end IntegerKind

/-- The word of a number. -/
def wordOf (value : Int) : UInt64 :=
  UInt64.ofInt value

/-- The word of a truth value. -/
def wordOfBool (value : Bool) : UInt64 :=
  if value then 1 else 0

namespace NumberForm

/-- Apply an operator to two whole numbers; a division by zero has no result. -/
def integerBinary (operator : BinaryOperator) (kind : IntegerKind) (left right : UInt64) :
    Option UInt64 :=
  let wrap (word : UInt64) : Option UInt64 := some (kind.extend word)
  let bits : UInt64 := UInt64.ofNat (8 * kind.size)
  let less (first second : UInt64) : Bool :=
    if kind.isSigned then first.toInt64 < second.toInt64 else first < second
  match operator with
  | .add => wrap (left + right)
  | .subtract => wrap (left - right)
  | .multiply => wrap (left * right)
  | .divide =>
      if right == 0 then none
      else if kind.isSigned then wrap (left.toInt64 / right.toInt64).toUInt64
      else wrap (left / right)
  | .remainder =>
      if right == 0 then none
      else if kind.isSigned then wrap (left.toInt64 % right.toInt64).toUInt64
      else wrap (left % right)
  | .shiftLeft => wrap (left <<< (right % bits))
  | .shiftRight =>
      if kind.isSigned then wrap (left.toInt64 >>> (right % bits).toInt64).toUInt64
      else wrap (left >>> (right % bits))
  | .bitAnd => some (left &&& right)
  | .bitXor => some (left ^^^ right)
  | .bitOr => some (left ||| right)
  | .less => some (wordOfBool (less left right))
  | .greater => some (wordOfBool (less right left))
  | .lessEqual => some (wordOfBool (!less right left))
  | .greaterEqual => some (wordOfBool (!less left right))
  | .equal => some (wordOfBool (left == right))
  | .different => some (wordOfBool (left != right))
  | _ => none

/-- Apply an operator to two numbers with fractions. -/
def doubleBinary (operator : BinaryOperator) (left right : Float) : Option UInt64 :=
  match operator with
  | .add => some (left + right).toBits
  | .subtract => some (left - right).toBits
  | .multiply => some (left * right).toBits
  | .divide => some (left / right).toBits
  | .less => some (wordOfBool (left < right))
  | .greater => some (wordOfBool (right < left))
  | .lessEqual => some (wordOfBool (left ≤ right))
  | .greaterEqual => some (wordOfBool (right ≤ left))
  | .equal => some (wordOfBool (left == right))
  | .different => some (wordOfBool (left != right))
  | _ => none

/-- Apply an operator to two numbers with short fractions. -/
def floatBinary (operator : BinaryOperator) (left right : Float32) : Option UInt64 :=
  match operator with
  | .add => some (left + right).toBits.toUInt64
  | .subtract => some (left - right).toBits.toUInt64
  | .multiply => some (left * right).toBits.toUInt64
  | .divide => some (left / right).toBits.toUInt64
  | .less => some (wordOfBool (left < right))
  | .greater => some (wordOfBool (right < left))
  | .lessEqual => some (wordOfBool (left ≤ right))
  | .greaterEqual => some (wordOfBool (right ≤ left))
  | .equal => some (wordOfBool (left == right))
  | .different => some (wordOfBool (left != right))
  | _ => none

/-- Apply an operator to two words of a form. -/
def binary (operator : BinaryOperator) (form : NumberForm) (left right : UInt64) :
    Option UInt64 :=
  match form with
  | .bool => integerBinary operator .int left right
  | .integer kind => integerBinary operator kind left right
  | .double => doubleBinary operator (Float.ofBits left) (Float.ofBits right)
  | .float =>
      floatBinary operator (Float32.ofBits left.toUInt32) (Float32.ofBits right.toUInt32)

/-- Apply an operator to a word of a form. -/
def unary (operator : UnaryOperator) (form : NumberForm) (word : UInt64) : Option UInt64 :=
  match operator, form with
  | .minus, .integer kind => some (kind.extend (0 - word))
  | .minus, .double => some (-(Float.ofBits word)).toBits
  | .minus, .float => some (-(Float32.ofBits word.toUInt32)).toBits.toUInt64
  | .complement, .integer kind => some (kind.extend (~~~ word))
  | .not, .double => some (wordOfBool (Float.ofBits word == 0))
  | .not, .float => some (wordOfBool (Float32.ofBits word.toUInt32 == 0))
  | .not, _ => some (wordOfBool (word == 0))
  | .plus, _ => some word
  | _, _ => none

/-- The whole number that is left of a number when its fraction is dropped. -/
def truncate (number : Binary64) : Int :=
  match number with
  | .finite negative magnitude =>
      let (numerator, denominator) := magnitude.ratio
      let whole : Int := numerator / denominator
      if negative then -whole else whole
  | _ => -9223372036854775808

/-- Turn a number with a fraction into another form. -/
def ofDouble (value : Float) (target : NumberForm) : UInt64 :=
  match target with
  | .bool => wordOfBool (value != 0)
  | .double => value.toBits
  | .float => value.toFloat32.toBits.toUInt64
  | .integer kind => kind.extend (wordOf (truncate (Binary64.ofBits value.toBits)))

/-- Turn a word of one form into a word of another one. -/
def convert (source target : NumberForm) (word : UInt64) : UInt64 :=
  match source with
  | .double => ofDouble (Float.ofBits word) target
  | .float =>
      if target == .float then word else ofDouble (Float32.ofBits word.toUInt32).toFloat target
  | .bool | .integer _ =>
      let isSigned := match source with
        | .integer kind => kind.isSigned
        | _ => false
      match target with
      | .bool => wordOfBool (word != 0)
      | .integer kind => kind.extend word
      | .double =>
          if isSigned then word.toInt64.toFloat.toBits else word.toFloat.toBits
      | .float =>
          if isSigned then word.toInt64.toFloat32.toBits.toUInt64
          else word.toFloat32.toBits.toUInt64

/-- Take some bits out of a word. -/
def takeBits (first count : Nat) (isSigned : Bool) (word : UInt64) : UInt64 :=
  let spare : UInt64 := UInt64.ofNat (64 - count)
  let raised := (word >>> UInt64.ofNat first) <<< spare
  if isSigned then (raised.toInt64 >>> spare.toInt64).toUInt64 else raised >>> spare

/-- Put a word into some bits of another one. -/
def putBits (first count : Nat) (word value : UInt64) : UInt64 :=
  let mask : UInt64 := (((0 : UInt64) - 1) >>> UInt64.ofNat (64 - count)) <<< UInt64.ofNat first
  (word &&& ~~~ mask) ||| ((value <<< UInt64.ofNat first) &&& mask)

end NumberForm

namespace Bits

/-- Whether a bit of a word is set. -/
def isSet (word : UInt64) (position : Nat) : Bool :=
  (word >>> UInt64.ofNat position) &&& 1 == 1

/-- The number of bits that are set among the lowest ones. -/
def count (word : UInt64) (width : Nat) : Nat :=
  (List.range width).countP fun position => isSet word position

/-- The number of zeros below the lowest bit that is set. -/
def trailingZeros (word : UInt64) (width : Nat) : Nat :=
  ((List.range width).find? fun position => isSet word position).getD width

/-- The number of zeros above the highest bit that is set. -/
def leadingZeros (word : UInt64) (width : Nat) : Nat :=
  ((List.range width).find? fun distance => isSet word (width - 1 - distance)).getD width

/-- The place of the lowest bit that is set, counted from one; zero where there is none. -/
def first (word : UInt64) (width : Nat) : Nat :=
  if word == 0 then 0 else trailingZeros word width + 1

/-- A word with its lowest bytes in the opposite order. -/
def swapBytes (word : UInt64) : Nat → UInt64
  | 0 => 0
  | count + 1 =>
      ((word &&& 255) <<< UInt64.ofNat (8 * count)) ||| swapBytes (word >>> 8) count

/-- The kind of whole number of some bytes. -/
def kindOfSize (bytes : Nat) (isSigned : Bool) : IntegerKind :=
  let kind : IntegerKind := match bytes with
    | 1 => .signedChar
    | 2 => .short
    | 4 => .int
    | _ => .long
  if isSigned then kind else kind.toUnsigned

/-- What addition, subtraction or multiplication of two numbers comes to. -/
def arithmetic (operator : Nat) (left right : Int) : Int :=
  match operator with
  | 0 => left + right
  | 1 => left - right
  | _ => left * right

/-- The number that a word holds, with or without a sign. -/
def numberOf (isSigned : UInt64) (word : UInt64) : Int :=
  if isSigned == 0 then (word.toNat : Int) else word.toInt64.toInt

end Bits

end QueryFoundry.Native
