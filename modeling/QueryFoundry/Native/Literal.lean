import QueryFoundry.Decimal.Binary64
import QueryFoundry.Native.Condition
import QueryFoundry.Native.Syntax

/-!
# Literals

The values of numbers, characters and texts as they are written.
-/

namespace QueryFoundry.Native.Literal

open Text (Octets)

/-- The type of a whole number: of those that its letters allow, the first one that it fits into. -/
def integerType (value : Nat) (isDecimal : Bool) (suffix : List Char) : ValueType :=
  let isUnsigned := suffix.any fun letter => letter == 'u' || letter == 'U'
  let longs := (suffix.filter fun letter => letter == 'l' || letter == 'L').length
  let fits (kind : IntegerKind) : Bool := kind.wrap value == value
  let candidates : List IntegerKind := match longs with
    | 0 => [.int, .unsigned, .long, .unsignedLong]
    | 1 => [.long, .unsignedLong]
    | _ => [.longLong, .unsignedLongLong]
  let allowed := candidates.filter fun kind =>
    if isUnsigned then !kind.isSigned else kind.isSigned || !isDecimal
  .integer ((allowed.find? fits).getD (if isUnsigned || !isDecimal then .unsignedLong else .long))

/-- The digits of a number in some base, with the number of them behind the point. -/
def readDigits (base : Nat) (written : List Char) : Nat × Nat × List Char :=
  let isDigit (character : Char) : Bool := (Text.hexValue? character).any (· < base)
  let whole := written.takeWhile isDigit
  let rest := written.drop whole.length
  let (places, after) := match rest with
    | '.' :: more =>
        let places := more.takeWhile isDigit
        (places, more.drop places.length)
    | _ => ([], rest)
  (Token.digitsValue base ((whole ++ places).filterMap Text.hexValue?), places.length, after)

/-- Read an exponent behind its letter. -/
def readExponent (written : List Char) : Option (Int × List Char) :=
  let (isNegative, digits) := match written with
    | '-' :: rest => (true, rest)
    | '+' :: rest => (false, rest)
    | rest => (false, rest)
  let found := digits.takeWhile Char.isDigit
  if found.isEmpty then none
  else
    let value : Int := Token.digitsValue 10 (found.filterMap Text.hexValue?)
    some (if isNegative then -value else value, digits.drop found.length)

/-- The type of a number with a fraction, by the letter behind it. -/
def realType? : List Char → Option ValueType
  | [] => some .double
  | ['f'] | ['F'] => some .float
  | ['l'] | ['L'] => some .longDouble
  | _ => none

/-- Read a number with a fraction. -/
def real? (spelling : List Char) : Option Expr := do
  match spelling with
  | '0' :: letter :: rest =>
      if letter == 'x' || letter == 'X' then
        let (digits, places, after) := readDigits 16 rest
        match after with
        | mark :: more =>
            guard (mark == 'p' || mark == 'P')
            let (exponent, suffix) ← readExponent more
            let scale := exponent - 4 * places
            let value := if 0 ≤ scale then
                Binary64.ofRatio false (digits * Nat.pow 2 scale.toNat) 1
              else Binary64.ofRatio false digits (Nat.pow 2 (-scale).toNat)
            return .real value.toBits (← realType? suffix)
        | [] => none
      else decimal spelling
  | _ => decimal spelling
where
  /-- A number with decimal digits. -/
  decimal (written : List Char) : Option Expr := do
    let (digits, places, after) := readDigits 10 written
    let (exponent, suffix) ← match after with
      | mark :: more => if mark == 'e' || mark == 'E' then readExponent more else some (0, after)
      | [] => some (0, [])
    let value := Binary64.ofDecimal false digits (exponent - places)
    return .real value.toBits (← realType? suffix)

/-- The value of a number as it is written. -/
def number? (spelling : Octets) : Option Expr :=
  match Condition.Number.read? spelling with
  | some (value, suffix) =>
      let isDecimal := !spelling.startsWith "0" || value == 0
      some (.integer value (integerType value isDecimal suffix))
  | none => real? (spelling.toList.filter (· != '\''))

/-- The bytes that a character is encoded as. -/
def encode (point : Nat) : List Nat :=
  (Text.toOctets (String.ofList [Char.ofNat point])).toList.map Char.toNat

/-- The codes of the pieces of a text in which each character is a byte. -/
def byteCodes (units : List Token.Unit) : List Nat :=
  units.flatMap fun
    | .byte value => [value]
    | .number value => [value % 256]
    | .point value => encode value

/-- The codes of the pieces of a text in which each character is a number of its own. -/
def wideCodes (isHalf : Bool) (units : List Token.Unit) : List Nat :=
  let point (value : Nat) : List Nat :=
    if isHalf && 0x10000 ≤ value then
      [0xD800 + (value - 0x10000) / 0x400, 0xDC00 + (value - 0x10000) % 0x400]
    else [value]
  go point (units.length + 1) units
where
  /-- Bytes that encode a character together are taken together. -/
  go (point : Nat → List Nat) : Nat → List Token.Unit → List Nat
    | 0, _ | _, [] => []
    | fuel + 1, .byte value :: rest =>
        let isByte : Token.Unit → Bool
          | .byte _ => true
          | _ => false
        let bytes := .byte value :: rest.takeWhile isByte
        let text := Text.ofOctets (String.ofList (bytes.map fun
          | .byte code => Char.ofNat code
          | _ => '?'))
        text.toList.flatMap (fun character => point character.toNat) ++
          go point fuel (rest.drop (bytes.length - 1))
    | fuel + 1, .number value :: rest => value :: go point fuel rest
    | fuel + 1, .point value :: rest => point value ++ go point fuel rest

/-- The type of a character behind the letters in front of its quote. -/
def elementType (encoding : Octets) : ValueType :=
  match encoding with
  | "L" => .integer .wideChar
  | "u" => .integer .char16
  | "U" => .integer .char32
  | _ => .char

/-- The codes of the pieces of a text. -/
def codes (encoding : Octets) (units : List Token.Unit) : List Nat :=
  match encoding with
  | "L" | "U" => wideCodes false units
  | "u" => wideCodes true units
  | _ => byteCodes units

/-- The text that neighbouring quoted texts make together. -/
def text (tokens : List Token) : Expr :=
  let parts := tokens.map Token.units
  let encoding := (parts.find? fun part => part.1 != "" && part.1 != "u8").map Prod.fst
  let chosen := encoding.getD ""
  .text (parts.flatMap fun part => codes chosen part.2) (elementType chosen)

/-- The value of characters between quotes. In C they are numbers of type `int`. -/
def character (language : Language) (token : Token) : Expr :=
  let (encoding, units) := token.units
  let found := codes encoding units
  let value := Token.digitsValue 256 found
  let isPlain := encoding == "" || encoding == "u8"
  let type : ValueType :=
    if isPlain then if language == .c || 1 < found.length then .int else .char
    else elementType encoding
  if isPlain && found.length == 1 && 0x80 ≤ value then
    .cast .written (.plain type) (.unary .minus (.integer (256 - value) .int))
  else .integer value type

end QueryFoundry.Native.Literal
