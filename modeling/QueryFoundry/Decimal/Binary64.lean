/-!
# Binary floating point numbers

The finite numbers of the format `binary64`, held as a significand and a power of two, and the
rounding of a ratio to the nearest of them. All arithmetic is exact arithmetic on natural numbers.
-/

namespace QueryFoundry

/-- Divide and round to the nearest whole number; a half goes to the even neighbour. -/
def roundQuotient (numerator denominator : Nat) : Nat :=
  let quotient := numerator / denominator
  let twiceRest := 2 * (numerator % denominator)
  if twiceRest < denominator then quotient
  else if denominator < twiceRest then quotient + 1
  else if quotient % 2 = 0 then quotient
  else quotient + 1

namespace Binary64

/-- The least power of two that a significand is scaled by. -/
def leastExponent : Int := -1074

/-- The greatest power of two that a significand is scaled by. -/
def greatestExponent : Int := 971

/-- The least significand of a number whose exponent is not the least one. -/
def leastNormal : Nat := 4503599627370496

/-- A finite number that is not negative: a significand times a power of two. -/
structure Magnitude where
  significand : Nat
  exponent : Int
deriving DecidableEq, Repr

namespace Magnitude

/-- The magnitude zero. -/
def zero : Magnitude := ⟨0, leastExponent⟩

/-- A magnitude as a ratio of natural numbers. -/
def ratio (magnitude : Magnitude) : Nat × Nat :=
  if magnitude.exponent < 0 then (magnitude.significand, Nat.pow 2 (-magnitude.exponent).toNat)
  else (magnitude.significand * Nat.pow 2 magnitude.exponent.toNat, 1)

/-- The whole number nearest to a ratio divided by a power of two. -/
def scaledQuotient (numerator denominator : Nat) (exponent : Int) : Nat :=
  if exponent < 0 then roundQuotient (numerator * Nat.pow 2 (-exponent).toNat) denominator
  else roundQuotient numerator (denominator * Nat.pow 2 exponent.toNat)

/-- The greatest power of two that is at most a positive ratio. -/
def binaryExponent (numerator denominator : Nat) : Int :=
  let guess := (numerator.log2 : Int) - (denominator.log2 : Int)
  let reached :=
    if guess < 0 then denominator ≤ numerator * Nat.pow 2 (-guess).toNat
    else denominator * Nat.pow 2 guess.toNat ≤ numerator
  if reached then guess else guess - 1

/-- The magnitude nearest to a ratio, an exact half going to the even significand; there is none
when the ratio rounds beyond the greatest one. -/
def ofRatio? (numerator denominator : Nat) : Option Magnitude :=
  if numerator = 0 then some zero
  else
    let exponent := max leastExponent (binaryExponent numerator denominator - 52)
    let significand := scaledQuotient numerator denominator exponent
    let carried :=
      if significand = 2 * leastNormal then Magnitude.mk leastNormal (exponent + 1)
      else Magnitude.mk significand exponent
    if greatestExponent < carried.exponent then none else some carried

end Magnitude

end Binary64

/-- A number of the format `binary64`. -/
inductive Binary64 where
  | finite (negative : Bool) (magnitude : Binary64.Magnitude)
  | infinite (negative : Bool)
  | notANumber
deriving DecidableEq, Repr

namespace Binary64

/-- The number nearest to a signed ratio; one that is too great becomes infinite. -/
def ofRatio (negative : Bool) (numerator denominator : Nat) : Binary64 :=
  match Magnitude.ofRatio? numerator denominator with
  | some magnitude => finite negative magnitude
  | none => infinite negative

/-- The number nearest to `digits · 10 ^ exponent`. Exponents far outside of the format are settled
without the power being computed. -/
def ofDecimal (negative : Bool) (digits : Nat) (exponent : Int) : Binary64 :=
  let length : Int := (Nat.toDigits 10 digits).length
  if digits = 0 then finite negative .zero
  else if 400 < exponent + length then infinite negative
  else if exponent + length < -400 then finite negative .zero
  else if exponent < 0 then ofRatio negative digits (Nat.pow 10 (-exponent).toNat)
  else ofRatio negative (digits * Nat.pow 10 exponent.toNat) 1

/-- The number of patterns of the bits of a significand. -/
def significandPatterns : Nat := 4503599627370496

/-- The pattern of the exponent of what is no finite number. -/
def specialExponent : Nat := 2047

/-- The bits of a number: its sign, its exponent and its significand. -/
def toBits (number : Binary64) : UInt64 :=
  let assemble (negative : Bool) (exponent significand : Nat) : UInt64 :=
    UInt64.ofNat ((if negative then 9223372036854775808 else 0) +
      exponent * significandPatterns + significand)
  match number with
  | finite negative magnitude =>
      if magnitude.significand < leastNormal then assemble negative 0 magnitude.significand
      else assemble negative (magnitude.exponent + 1075).toNat (magnitude.significand - leastNormal)
  | infinite negative => assemble negative specialExponent 0
  | notANumber => assemble false specialExponent 2251799813685248

/-- The number with some bits. -/
def ofBits (bits : UInt64) : Binary64 :=
  let pattern := bits.toNat
  let negative := 9223372036854775808 ≤ pattern
  let exponent := pattern / significandPatterns % (specialExponent + 1)
  let significand := pattern % significandPatterns
  if exponent = specialExponent then
    if significand = 0 then infinite negative else notANumber
  else if exponent = 0 then finite negative ⟨significand, leastExponent⟩
  else finite negative ⟨significand + leastNormal, exponent - 1075⟩

end Binary64

end QueryFoundry
