import QueryFoundry.Native.Macro

/-!
# Conditions

The numbers that conditions of a source depend on: expressions of numbers, in which every name that
is left stands for zero.
-/

namespace QueryFoundry.Native.Condition

open Text (Octets)

/-- A number of a condition. -/
structure Number where
  value : Int
  isUnsigned : Bool := false
deriving DecidableEq, Repr, Inhabited

namespace Number

/-- The number that is left of a value in 64 bits. -/
def wrap (value : Int) (isUnsigned : Bool) : Number :=
  let modulus : Int := 18446744073709551616
  let reduced := value.emod modulus
  { value := if isUnsigned || reduced < 9223372036854775808 then reduced else reduced - modulus
    isUnsigned }

/-- A truth value. -/
def ofBool (value : Bool) : Number := ⟨if value then 1 else 0, false⟩

/-- Whether a number counts as true. -/
def isTrue (number : Number) : Bool := number.value != 0

/-- The letters behind the digits of a whole number. -/
def suffixLetters : List Char := ['u', 'U', 'l', 'L', 'z', 'Z']

/-- The value of a whole number as it is written, and the letters behind it. -/
def read? (spelling : Octets) : Option (Nat × List Char) :=
  let plain := spelling.toList.filter (· != '\'')
  let value (base : Nat) (digits : List Char) : Option (Nat × List Char) :=
    let isDigit (character : Char) : Bool :=
      (Text.hexValue? character).any (· < base) && !(suffixLetters.contains character)
    let written := digits.takeWhile isDigit
    let suffix := digits.drop written.length
    if written.isEmpty || !suffix.all suffixLetters.contains then none
    else some (Token.digitsValue base (written.filterMap Text.hexValue?), suffix)
  match plain with
  | '0' :: 'x' :: digits | '0' :: 'X' :: digits => value 16 digits
  | '0' :: 'b' :: digits | '0' :: 'B' :: digits => value 2 digits
  | '0' :: digits =>
      match value 8 ('0' :: digits) with
      | some result => some result
      | none => none
  | digits => value 10 digits

end Number

/-- The value of characters between single quotes. -/
def characterValue (token : Token) : Int :=
  let (encoding, units) := token.units
  let codes : List Nat := units.map fun
    | .byte value | .number value | .point value => value
  match codes with
  | [code] => if encoding == "" && 0x80 ≤ code && code < 0x100 then code - 256 else code
  | _ => Token.digitsValue 256 codes

/-- The operators between two numbers, with how strongly they bind. -/
def precedence? : Octets → Option Nat
  | "||" => some 1
  | "&&" => some 2
  | "|" => some 3
  | "^" => some 4
  | "&" => some 5
  | "==" | "!=" => some 6
  | "<" | ">" | "<=" | ">=" => some 7
  | "<<" | ">>" => some 8
  | "+" | "-" => some 9
  | "*" | "/" | "%" => some 10
  | _ => none

/-- Apply an operator to two numbers; there is no result of a division by zero. -/
def apply (operator : Octets) (left right : Number) : Option Number :=
  let isUnsigned := left.isUnsigned || right.isUnsigned
  let first := (Number.wrap left.value isUnsigned).value
  let second := (Number.wrap right.value isUnsigned).value
  let number (value : Int) : Option Number := some (Number.wrap value isUnsigned)
  let truth (value : Bool) : Option Number := some (.ofBool value)
  let bits (operation : Nat → Nat → Nat) : Option Number :=
    number (operation (Number.wrap left.value true).value.toNat
      (Number.wrap right.value true).value.toNat)
  let shift (leftwards : Bool) (count : Int) : Option Number :=
    let factor : Int := Nat.pow 2 (min count.natAbs 64)
    some (Number.wrap (if leftwards == (0 ≤ count) then left.value * factor
      else Int.fdiv left.value factor) left.isUnsigned)
  match operator with
  | "|" => bits Nat.lor
  | "^" => bits Nat.xor
  | "&" => bits Nat.land
  | "==" => truth (first == second)
  | "!=" => truth (first != second)
  | "<" => truth (first < second)
  | ">" => truth (second < first)
  | "<=" => truth (first ≤ second)
  | ">=" => truth (second ≤ first)
  | "<<" => shift true right.value
  | ">>" => shift false right.value
  | "+" => number (first + second)
  | "-" => number (first - second)
  | "*" => number (first * second)
  | "/" => if second == 0 then none else number (Int.tdiv first second)
  | "%" => if second == 0 then none else number (Int.tmod first second)
  | _ => none

/-- Combine two operands, either of which may have no value; it is not asked for where the other one
decides. -/
def combine (operator : Octets) (left right : Option Number) : Option Number :=
  match operator with
  | "||" => do
      if (← left).isTrue then return .ofBool true
      return .ofBool (← right).isTrue
  | "&&" => do
      if !(← left).isTrue then return .ofBool false
      return .ofBool (← right).isTrue
  | _ => do apply operator (← left) (← right)

/-- What was read of a condition and what follows; there is no value where that would be asked for
in vain. -/
abbrev Reading := Option (Option Number × List Token)

mutual

/-- Read an operand. -/
def readOperand : Nat → List Token → Reading
  | 0, _ => none
  | _, [] => none
  | fuel + 1, token :: rest =>
      let change (operation : Number → Number) : Reading := do
        let (value, after) ← readOperand fuel rest
        return (value.map operation, after)
      match token.kind with
      | .number => do
          let (value, suffix) ← Number.read? token.spelling
          let isUnsigned := suffix.any (fun letter => letter == 'u' || letter == 'U') ||
            9223372036854775808 ≤ value
          return (some (Number.wrap value isUnsigned), rest)
      | .character => some (some ⟨characterValue token, false⟩, rest)
      | .word => some (some ⟨if token.spelling == "true" then 1 else 0, false⟩, rest)
      | .mark =>
          match token.spelling with
          | "(" => do
              let (value, after) ← readChoice fuel rest
              match after with
              | close :: behind => if close.isMark ")" then some (value, behind) else none
              | [] => none
          | "-" => change fun number => Number.wrap (-number.value) number.isUnsigned
          | "+" => change id
          | "~" => change fun number => Number.wrap (-number.value - 1) number.isUnsigned
          | "!" => change fun number => .ofBool (!number.isTrue)
          | _ => none
      | _ => none

/-- Read the operators that bind at least as strongly as a level, behind an operand. -/
def readOperators : Nat → Nat → Option Number → List Token → Reading
  | 0, _, _, _ => none
  | _, _, left, [] => some (left, [])
  | fuel + 1, level, left, token :: rest =>
      match precedence? token.spelling with
      | none => some (left, token :: rest)
      | some strength =>
          if token.kind != .mark || strength < level then some (left, token :: rest)
          else do
            let (operand, afterOperand) ← readOperand fuel rest
            let (right, after) ← readOperators fuel (strength + 1) operand afterOperand
            readOperators fuel level (combine token.spelling left right) after

/-- Read an expression, which may be a choice between two others. -/
def readChoice : Nat → List Token → Reading
  | 0, _ => none
  | fuel + 1, tokens => do
      let (operand, afterOperand) ← readOperand fuel tokens
      let (value, after) ← readOperators fuel 1 operand afterOperand
      match after with
      | [] => some (value, [])
      | mark :: rest =>
          if !mark.isMark "?" then some (value, after)
          else
            let (whenTrue, afterTrue) ← readChoice fuel rest
            match afterTrue with
            | [] => none
            | colon :: others =>
                if !colon.isMark ":" then none
                else
                  let (whenFalse, behind) ← readChoice fuel others
                  some (value.bind fun number =>
                    if number.isTrue then whenTrue else whenFalse, behind)

end

/-- The value of a condition without macros, if it has one. -/
def holds? (tokens : List Token) : Option Bool := do
  let (value, rest) ← readChoice (4 * tokens.length + 8) tokens
  guard rest.isEmpty
  return (← value).isTrue

end QueryFoundry.Native.Condition
