import QueryFoundry.Json
import QueryFoundry.Text.Octets

/-!
# Reading JSON texts

A reader for JSON values. Numbers without a fraction and an exponent are whole when they fit into 64
bits; all others are binary fractions. The depth of nesting is bounded by the length of the text.
-/

namespace QueryFoundry.Json

/-- A character that may stand between the parts of a value. -/
def isBlank (character : Char) : Bool :=
  character == ' ' || character == '\t' || character == '\n' || character == '\r'

/-- Drop the blanks in front of a text. -/
def skipBlanks (characters : List Char) : List Char :=
  characters.dropWhile isBlank

/-- The number that four hexadecimal digits denote. -/
def hexUnit? : List Char → Option (Nat × List Char)
  | first :: second :: third :: fourth :: rest => do
      let digits ← [first, second, third, fourth].mapM Text.hexValue?
      return (digits.foldl (fun value digit => value * 16 + digit) 0, rest)
  | _ => none

/-- Read what follows the letter `u` of an escape: a code unit, or the two units of a surrogate
pair. -/
def escapedUnit? (characters : List Char) : Option (Char × List Char) := do
  let (unit, rest) ← hexUnit? characters
  if 0xD800 ≤ unit ∧ unit < 0xDC00 then
    match rest with
    | '\\' :: 'u' :: later =>
        let (low, behind) ← hexUnit? later
        if 0xDC00 ≤ low ∧ low < 0xE000 then
          some (Char.ofNat (0x10000 + (unit - 0xD800) * 1024 + (low - 0xDC00)), behind)
        else none
    | _ => none
  else if 0xDC00 ≤ unit ∧ unit < 0xE000 then none
  else some (Char.ofNat unit, rest)

/-- The character that a short escape stands for. -/
def shortEscape? : Char → Option Char
  | '"' => some '"'
  | '\\' => some '\\'
  | '/' => some '/'
  | 'b' => some '\x08'
  | 'f' => some '\x0c'
  | 'n' => some '\n'
  | 'r' => some '\r'
  | 't' => some '\t'
  | _ => none

/-- Read a string behind its opening quote. `read` holds what was read, last character first. -/
def readString : Nat → List Char → List Char → Option (String × List Char)
  | 0, _, _ => none
  | _ + 1, _, [] => none
  | _ + 1, read, '"' :: rest => some (String.ofList read.reverse, rest)
  | fuel + 1, read, '\\' :: 'u' :: rest =>
      match escapedUnit? rest with
      | some (character, later) => readString fuel (character :: read) later
      | none => none
  | fuel + 1, read, '\\' :: escape :: rest =>
      match shortEscape? escape with
      | some character => readString fuel (character :: read) rest
      | none => none
  | fuel + 1, read, character :: rest =>
      if character.toNat < 0x20 ∨ character = '\\' then none
      else readString fuel (character :: read) rest

/-- The number that a list of decimal digits denotes. -/
def digitsValue (digits : List Char) : Nat :=
  digits.foldl (fun value digit => value * 10 + (digit.toNat - '0'.toNat)) 0

/-- Split off the decimal digits in front of a text. -/
def spanDigits (characters : List Char) : List Char × List Char :=
  characters.span Char.isDigit

/-- Read the exponent of a number, if there is one. -/
def readExponent? (characters : List Char) : Option (Option Int × List Char) :=
  match characters with
  | mark :: rest =>
      if mark = 'e' ∨ mark = 'E' then
        let (negative, later) := match rest with
          | '-' :: later => (true, later)
          | '+' :: later => (false, later)
          | _ => (false, rest)
        let (digits, behind) := spanDigits later
        if digits.isEmpty then none
        else
          let value : Int := digitsValue digits
          some (some (if negative then -value else value), behind)
      else some (none, characters)
  | [] => some (none, characters)

/-- Read the fraction of a number, if there is one. -/
def readFraction? (characters : List Char) : Option (Option (List Char) × List Char) :=
  match characters with
  | '.' :: rest =>
      let (digits, later) := spanDigits rest
      if digits.isEmpty then none else some (some digits, later)
  | _ => some (none, characters)

/-- A whole number, if it has a place among the signed or the unsigned numbers of 64 bits and is not
a negative zero. -/
def wholeOfDigits? (negative : Bool) (value : Nat) : Option Int :=
  if negative then (if 0 < value ∧ value ≤ UInt64.size / 2 then some (-(value : Int)) else none)
  else if value < UInt64.size then some value else none

/-- Read a number behind its sign. -/
def readNumber? (negative : Bool) (characters : List Char) : Option (Json × List Char) := do
  let (digits, rest) := spanDigits characters
  if digits.isEmpty ∨ (digits.head? = some '0' ∧ 1 < digits.length) then none
  else
    let (places?, later) ← readFraction? rest
    let (power?, behind) ← readExponent? later
    let number (places : List Char) (power : Int) : Json :=
      .fraction (.ofDecimal negative (digitsValue (digits ++ places)) (power - places.length))
    match places?, power? with
    | none, none =>
        match wholeOfDigits? negative (digitsValue digits) with
        | some value => some (.whole value, behind)
        | none => some (number [] 0, behind)
    | places, power => some (number (places.getD []) (power.getD 0), behind)

/-- Drop a word in front of a text. -/
def dropWord? (word characters : List Char) : Option (List Char) :=
  if word.isPrefixOf characters then some (characters.drop word.length) else none

/-- Put a member into a list of members: a key that is there already keeps its place and takes the
new value. -/
def putMember (members : List (String × Json)) (key : String) (value : Json) :
    List (String × Json) :=
  if members.any (·.1 == key) then
    members.map fun member => if member.1 == key then (key, value) else member
  else members ++ [(key, value)]

mutual

/-- Read a value. -/
def readValue : Nat → List Char → Option (Json × List Char)
  | 0, _ => none
  | fuel + 1, characters =>
      match skipBlanks characters with
      | '"' :: rest => (readString (rest.length + 1) [] rest).map fun (read, later) =>
          (.text read, later)
      | '[' :: rest =>
          match skipBlanks rest with
          | ']' :: later => some (.array [], later)
          | _ => readItems fuel [] rest
      | '\x7b' :: rest =>
          match skipBlanks rest with
          | '\x7d' :: later => some (.object [], later)
          | _ => readMembers fuel [] rest
      | '-' :: rest => readNumber? true rest
      | 'n' :: rest => (dropWord? ['u', 'l', 'l'] rest).map (Json.null, ·)
      | 't' :: rest => (dropWord? ['r', 'u', 'e'] rest).map (Json.bool true, ·)
      | 'f' :: rest => (dropWord? ['a', 'l', 's', 'e'] rest).map (Json.bool false, ·)
      | rest => readNumber? false rest

/-- Read the items of an array, one or more. -/
def readItems : Nat → List Json → List Char → Option (Json × List Char)
  | 0, _, _ => none
  | fuel + 1, items, characters =>
      match readValue fuel characters with
      | none => none
      | some (item, rest) =>
          match skipBlanks rest with
          | ',' :: later => readItems fuel (item :: items) later
          | ']' :: later => some (.array (item :: items).reverse, later)
          | _ => none

/-- Read the members of an object, one or more. -/
def readMembers : Nat → List (String × Json) → List Char → Option (Json × List Char)
  | 0, _, _ => none
  | fuel + 1, members, characters =>
      match skipBlanks characters with
      | '"' :: rest =>
          match readString (rest.length + 1) [] rest with
          | none => none
          | some (key, behindKey) =>
              match skipBlanks behindKey with
              | ':' :: behindColon =>
                  match readValue fuel behindColon with
                  | none => none
                  | some (value, behind) =>
                      match skipBlanks behind with
                      | ',' :: later => readMembers fuel (putMember members key value) later
                      | '\x7d' :: later => some (.object (putMember members key value), later)
                      | _ => none
              | _ => none
      | _ => none

end

/-- Read a whole text as one value. -/
def parse? (text : String) : Option Json :=
  let characters := text.toList
  match readValue (characters.length + 1) characters with
  | some (value, rest) => if (skipBlanks rest).isEmpty then some value else none
  | none => none

end QueryFoundry.Json
