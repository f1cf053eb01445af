import QueryFoundry.Decimal.Binary64

/-!
# Decimal texts of binary numbers

The fewest decimal digits that read back as a given binary number, written without an exponent, and
the text with a fixed number of decimal places. Both work on exact ratios.
-/

namespace QueryFoundry.Binary64.Magnitude

/-- The greatest power of ten that is at most a positive ratio. -/
def decimalExponent (numerator denominator : Nat) : Int :=
  if denominator ≤ numerator then
    ((Nat.toDigits 10 (numerator / denominator)).length : Int) - 1
  else
    let length := (Nat.toDigits 10 (denominator / numerator)).length
    if denominator ≤ numerator * Nat.pow 10 (length - 1) then 1 - (length : Int)
    else -(length : Int)

/-- The numerator and denominator of a ratio divided by a power of ten. -/
def shiftedRatio (numerator denominator : Nat) (exponent : Int) : Nat × Nat :=
  if exponent < 0 then (numerator * Nat.pow 10 (-exponent).toNat, denominator)
  else (numerator, denominator * Nat.pow 10 exponent.toNat)

/-- The reals that round to a magnitude lie between two ratios over four times its denominator;
these are the two numerators. A power of two has its lower neighbour at half the distance. -/
def interval (magnitude : Magnitude) : Nat × Nat :=
  let step := (⟨1, magnitude.exponent⟩ : Magnitude).ratio.1
  let below :=
    if magnitude.significand = leastNormal ∧ leastExponent < magnitude.exponent then step
    else 2 * step
  (4 * magnitude.ratio.1 - below, 4 * magnitude.ratio.1 + 2 * step)

/-- Whether `digits · 10 ^ exponent` rounds to the magnitude. The ends of the interval do so when
the significand is even. -/
def roundsTo (magnitude : Magnitude) (digits : Nat) (exponent : Int) : Bool :=
  let denominator := 4 * magnitude.ratio.2
  let (left, right) :=
    if exponent < 0 then (digits * denominator, Nat.pow 10 (-exponent).toNat)
    else (digits * Nat.pow 10 exponent.toNat * denominator, 1)
  let (lower, upper) := magnitude.interval
  if magnitude.significand % 2 = 0 then lower * right ≤ left && left ≤ upper * right
  else lower * right < left && left < upper * right

/-- The point of the decimal grid with step `10 ^ exponent` that lies nearest to the magnitude among
its two neighbours that round to it; of two equally near ones it is the greater. -/
def nearestOnGrid? (magnitude : Magnitude) (exponent : Int) : Option Nat :=
  let (numerator, denominator) := shiftedRatio magnitude.ratio.1 magnitude.ratio.2 exponent
  let lower := numerator / denominator
  let lowerIsNearer := 2 * (numerator % denominator) < denominator
  match roundsTo magnitude lower exponent, roundsTo magnitude (lower + 1) exponent with
  | true, true => some (if lowerIsNearer then lower else lower + 1)
  | true, false => some lower
  | false, true => some (lower + 1)
  | false, false => none

/-- Search the decimal grids from the coarsest to the finest for one with a point that rounds to the
magnitude. -/
def searchGrids (magnitude : Magnitude) : Nat → Int → Nat × Int
  | 0, exponent =>
      let (numerator, denominator) := shiftedRatio magnitude.ratio.1 magnitude.ratio.2 exponent
      (roundQuotient numerator denominator, exponent)
  | remaining + 1, exponent =>
      match nearestOnGrid? magnitude exponent with
      | some digits => (digits, exponent)
      | none => searchGrids magnitude remaining (exponent - 1)

/-- The fewest digits that read back as the magnitude, with the power of ten of the last one.
Seventeen digits are always enough. -/
def shortest (magnitude : Magnitude) : Nat × Int :=
  if magnitude.significand = 0 then (0, 0)
  else
    searchGrids magnitude 16 (decimalExponent magnitude.ratio.1 magnitude.ratio.2)

end Magnitude

end QueryFoundry.Binary64

namespace QueryFoundry.Decimal

/-- Write `digits · 10 ^ exponent` without an exponent. -/
def positional (digits : Nat) (exponent : Int) : String :=
  let characters := Nat.toDigits 10 digits
  if digits = 0 then "0"
  else if 0 ≤ exponent then String.ofList (characters ++ List.replicate exponent.toNat '0')
  else
    let places := (-exponent).toNat
    let padded := List.replicate (places + 1 - characters.length) '0' ++ characters
    String.ofList (padded.take (padded.length - places) ++ '.' ::
      padded.drop (padded.length - places))

/-- Write a magnitude with a fixed number of decimal places; a half goes to the even neighbour. -/
def fixedPlaces (places : Nat) (magnitude : Binary64.Magnitude) : String :=
  let scaled := roundQuotient (magnitude.ratio.1 * Nat.pow 10 places) magnitude.ratio.2
  let characters := Nat.toDigits 10 scaled
  let padded := List.replicate (places + 1 - characters.length) '0' ++ characters
  String.ofList (padded.take (padded.length - places) ++ '.' ::
    padded.drop (padded.length - places))

/-- Write `digits · 10 ^ exponent` with one digit before the point and a signed power of ten of at
least two digits. -/
def scientific (digits : Nat) (exponent : Int) : String :=
  let characters := Nat.toDigits 10 digits
  let power := exponent + ((characters.length : Int) - 1)
  let powerDigits := Nat.toDigits 10 power.natAbs
  String.ofList (characters.take 1 ++ (if characters.length = 1 then [] else ['.']) ++
    characters.drop 1 ++ 'e' :: (if power < 0 then '-' else '+') ::
    (List.replicate (2 - powerDigits.length) '0' ++ powerDigits))

end QueryFoundry.Decimal

namespace QueryFoundry.Binary64

/-- The fewest digits that read back, without an exponent; a whole number has no point. -/
def Magnitude.display (magnitude : Magnitude) : String :=
  Decimal.positional magnitude.shortest.1 magnitude.shortest.2

/-- The fewest digits that read back, without an exponent and always with a point. -/
def displayWithPoint : Binary64 → String
  | .finite negative magnitude =>
      let text := magnitude.display
      (if negative then "-" else "") ++ text ++ (if text.toList.contains '.' then "" else ".0")
  | .infinite negative => if negative then "-inf" else "inf"
  | .notANumber => "NaN"

/-- The fewest digits that read back. From `1e-5` to below `1e16` they stand with a point and
without an exponent, else with an exponent. -/
def displayWithExponent : Binary64 → String
  | .finite negative magnitude =>
      let (digits, exponent) := magnitude.shortest
      let power := exponent + ((Nat.toDigits 10 digits).length : Int) - 1
      if digits = 0 || (-5 ≤ power && power < 16) then
        displayWithPoint (.finite negative magnitude)
      else (if negative then "-" else "") ++ Decimal.scientific digits exponent
  | value => value.displayWithPoint

end QueryFoundry.Binary64
