import QueryFoundry.Native.Processor.Memory
import QueryFoundry.Native.Processor.Number
import QueryFoundry.Sandbox.Printf

/-!
# Formatted output of native code

What a format with directives makes of values that lie in memory one behind the other, a word each.
-/

namespace QueryFoundry.Native.Formatted

open Text (Octets)
open Sandbox.Printf (Layout readFlags decimalValue layoutNumber layoutFraction pad shellRules)

/-- A directive: its layout, where stars stand, the letters for its size, and its letter. -/
structure Directive where
  layout : Layout
  hasStarWidth : Bool
  hasStarPrecision : Bool
  size : List Char
  letter : Char

/-- The letters that may tell the size of a value. -/
def sizeLetters : List Char := ['h', 'l', 'q', 'L', 'j', 'z', 't']

/-- Read a directive behind its percent sign, and what follows it. -/
def readDirective? (text : List Char) : Option (Directive × List Char) :=
  let (flags, behindFlags) := readFlags shellRules {} text
  let (hasStarWidth, width, behindWidth) := match behindFlags with
    | '*' :: rest => (true, 0, rest)
    | _ =>
        let digits := behindFlags.takeWhile Char.isDigit
        (false, decimalValue digits, behindFlags.drop digits.length)
  let (hasStarPrecision, precision, behind) := match behindWidth with
    | '.' :: '*' :: rest => (true, none, rest)
    | '.' :: rest =>
        let digits := rest.takeWhile Char.isDigit
        (false, some (decimalValue digits), rest.drop digits.length)
    | _ => (false, none, behindWidth)
  let size := behind.takeWhile sizeLetters.contains
  match behind.drop size.length with
  | [] => none
  | letter :: rest =>
      some (⟨{ flags with width, precision }, hasStarWidth, hasStarPrecision, size, letter⟩, rest)

/-- What has been written so far. -/
structure Written where
  memory : Memory
  /-- The address of the next value. -/
  next : UInt64
  /-- The characters, the last one first. -/
  output : List Char := []

/-- The next value. -/
def Written.take (written : Written) : Option (UInt64 × Written) := do
  let value ← written.memory.load? written.next 8
  return (value, { written with next := written.next + 8 })

/-- Write characters. -/
def Written.add (written : Written) (characters : List Char) : Written :=
  { written with output := characters.reverse ++ written.output }

/-- The kind of whole number that the letters for a size tell. -/
def kindOf (isSigned : Bool) (size : List Char) : IntegerKind :=
  let kind : IntegerKind := match size with
    | ['h', 'h'] => .signedChar
    | ['h'] => .short
    | [] => .int
    | _ => .long
  if isSigned then kind else kind.toUnsigned

/-- The sign in front of a number that is not negative. -/
def positiveSign (layout : Layout) : List Char :=
  if layout.plus then ['+'] else if layout.space then [' '] else []

/-- Lay out a whole number in a base that has no sign. -/
def unsignedText (layout : Layout) (letter : Char) (value : Nat) : List Char :=
  match letter with
  | 'x' =>
      layoutNumber layout (if layout.alternate && value != 0 then ['0', 'x'] else [])
        (Nat.toDigits 16 value)
  | 'X' =>
      layoutNumber layout (if layout.alternate && value != 0 then ['0', 'X'] else [])
        ((Nat.toDigits 16 value).map Char.toUpper)
  | 'o' =>
      let digits := Nat.toDigits 8 value
      layoutNumber layout [] (if layout.alternate && value != 0 then '0' :: digits else digits)
  | _ => layoutNumber layout [] (Nat.toDigits 10 value)

/-- Lay out a number with a fraction by its bits. A value that is no number has a sign, too. -/
def realText (layout : Layout) (letter : Char) (bits : UInt64) : List Char :=
  let isNegative := bits >>> 63 == 1
  match Binary64.ofBits bits with
  | .notANumber =>
      let word := if letter.isUpper then "NAN" else "nan"
      pad layout ((if isNegative then ['-'] else positiveSign layout) ++ word.toList)
  | number => layoutFraction shellRules layout letter number

/-- The characters of a text in memory, up to a zero or a number of them. -/
def textAt? (memory : Memory) (address : UInt64) (limit : Option Nat) : Option (List Char) :=
  if address == 0 then some (("(null)".toList).take (limit.getD 6))
  else
    match limit with
    | some 0 => some []
    | _ => (memory.text? address).map fun text =>
        match limit with
        | some count => text.toList.take count
        | none => text.toList

/-- Carry out a directive whose layout is settled. -/
def convert (directive : Directive) (layout : Layout) (written : Written) : Option Written := do
  match directive.letter with
  | 'd' | 'i' => do
      let (word, rest) ← written.take
      let kind := kindOf true directive.size
      let value := kind.toInt (kind.extend word)
      let sign := if value < 0 then ['-'] else positiveSign layout
      return rest.add (layoutNumber layout sign (Nat.toDigits 10 value.natAbs))
  | 'u' | 'x' | 'X' | 'o' => do
      let (word, rest) ← written.take
      let value := ((kindOf false directive.size).extend word).toNat
      return rest.add (unsignedText layout directive.letter value)
  | 'a' | 'A' | 'e' | 'E' | 'f' | 'F' | 'g' | 'G' => do
      let (word, rest) ← written.take
      return rest.add (realText layout directive.letter word)
  | 'c' => do
      let (word, rest) ← written.take
      return rest.add (pad layout [Char.ofNat (word.toNat % 256)])
  | 's' => do
      let (address, rest) ← written.take
      return rest.add (pad layout (← textAt? rest.memory address layout.precision))
  | 'p' => do
      let (address, rest) ← written.take
      let text := if address == 0 then "(nil)".toList
        else '0' :: 'x' :: Nat.toDigits 16 address.toNat
      return rest.add (pad layout text)
  | 'n' => do
      let (address, rest) ← written.take
      let count := UInt64.ofNat rest.output.length
      let memory ← rest.memory.store? address count (kindOf true directive.size).size
      return { rest with memory }
  | 'm' => return written.add "Success".toList
  | _ => none

/-- Carry out a directive. A star takes its number from the values. -/
def apply (directive : Directive) (written : Written) : Option Written := do
  let star (isStar : Bool) (written : Written) : Option (Option Int × Written) :=
    if isStar then do
      let (word, rest) ← written.take
      return (some (IntegerKind.int.toInt (IntegerKind.int.extend word)), rest)
    else return (none, written)
  let (width, first) ← star directive.hasStarWidth written
  let (precision, second) ← star directive.hasStarPrecision first
  let known := directive.layout
  convert directive { known with
    left := known.left || width.any (· < 0)
    width := (width.map Int.natAbs).getD known.width
    precision := match precision with
      | some value => if value < 0 then none else some value.toNat
      | none => known.precision } second

/-- Write what a format stands for. -/
def writeAll : Nat → List Char → Written → Option Written
  | 0, _, written | _, [], written => some written
  | fuel + 1, '%' :: '%' :: rest, written => writeAll fuel rest (written.add ['%'])
  | fuel + 1, '%' :: rest, written =>
      match readDirective? rest with
      | none => some written
      | some (directive, behind) => do writeAll fuel behind (← apply directive written)
  | fuel + 1, character :: rest, written => writeAll fuel rest (written.add [character])

/-- What a format makes of the values at an address. -/
def format? (memory : Memory) (format : Octets) (values : UInt64) :
    Option (List Char × Memory) := do
  let text := format.toList
  let written ← writeAll (text.length + 1) text { memory, next := values }
  return (written.output.reverse, written.memory)

end QueryFoundry.Native.Formatted
