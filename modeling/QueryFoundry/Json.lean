import QueryFoundry.Decimal.Shortest
import QueryFoundry.Text.Quoted

/-!
# JSON values and their texts

A JSON value, its text on one line and its text over several lines with two blanks for each level.
Members keep the order in which they are listed.
-/

namespace QueryFoundry

/-- A JSON value. A number is whole or a binary fraction. -/
inductive Json where
  | null
  | bool (value : Bool)
  | whole (value : Int)
  | fraction (value : Binary64)
  | text (value : String)
  | array (items : List Json)
  | object (members : List (String × Json))
deriving Repr, Inhabited

namespace Json

/-- The four lower-case hexadecimal digits of a small number. -/
def fourHexDigits (number : Nat) : List Char :=
  [number / 4096, number / 256, number / 16, number].map fun value => Nat.digitChar (value % 16)

/-- A character as it stands inside a JSON string: quotes, backslashes and control characters are
escaped, those with a short escape by it. -/
def escapeCharacter (character : Char) : List Char :=
  if character = '"' then ['\\', '"']
  else if character = '\\' then ['\\', '\\']
  else if character = '\n' then ['\\', 'n']
  else if character = '\r' then ['\\', 'r']
  else if character = '\t' then ['\\', 't']
  else if character = '\x08' then ['\\', 'b']
  else if character = '\x0c' then ['\\', 'f']
  else if character.toNat < 0x20 then ['\\', 'u'] ++ fourHexDigits character.toNat
  else [character]

/-- A text as a JSON string. -/
def quoteChars (text : String) : List Char :=
  '"' :: (text.toList.flatMap escapeCharacter ++ ['"'])

/-- The text of a JSON string. -/
def quote (text : String) : String :=
  String.ofList (quoteChars text)

/-- The characters of a value that is no array and no object. -/
def scalarChars : Json → List Char
  | null => ['n', 'u', 'l', 'l']
  | bool true => ['t', 'r', 'u', 'e']
  | bool false => ['f', 'a', 'l', 's', 'e']
  | whole value => (toString value).toList
  | fraction value => value.displayWithExponent.toList
  | text value => quoteChars value
  | array _ | object _ => []

mutual

/-- The characters of a value on one line, without blanks. -/
def compactChars : Json → List Char
  | array items => '[' :: (compactItems true items ++ [']'])
  | object members => '\x7b' :: (compactMembers true members ++ ['\x7d'])
  | value => scalarChars value

/-- The items of an array, a comma in front of each but the first. -/
def compactItems : Bool → List Json → List Char
  | _, [] => []
  | isFirst, item :: rest =>
      (if isFirst then [] else [',']) ++ compactChars item ++ compactItems false rest

/-- The members of an object, a comma in front of each but the first. -/
def compactMembers : Bool → List (String × Json) → List Char
  | _, [] => []
  | isFirst, (key, value) :: rest =>
      (if isFirst then [] else [',']) ++ quoteChars key ++ ':' ::
        (compactChars value ++ compactMembers false rest)

end

/-- The text of a value on one line, without blanks. -/
def compact (value : Json) : String :=
  String.ofList (compactChars value)

/-- A new line that is indented by two blanks for each level. -/
def newLine (level : Nat) : List Char :=
  '\n' :: List.replicate (2 * level) ' '

mutual

/-- The characters of a value over several lines. An empty array or object stays on one line. -/
def prettyChars (level : Nat) : Json → List Char
  | array [] => ['[', ']']
  | array (item :: rest) =>
      '[' :: (prettyItems (level + 1) true (item :: rest) ++ newLine level ++ [']'])
  | object [] => ['\x7b', '\x7d']
  | object (member :: rest) =>
      '\x7b' :: (prettyMembers (level + 1) true (member :: rest) ++ newLine level ++ ['\x7d'])
  | value => scalarChars value

/-- The items of an array, each on a line of its own. -/
def prettyItems (level : Nat) : Bool → List Json → List Char
  | _, [] => []
  | isFirst, item :: rest =>
      (if isFirst then [] else [',']) ++ newLine level ++ prettyChars level item ++
        prettyItems level false rest

/-- The members of an object, each on a line of its own. -/
def prettyMembers (level : Nat) : Bool → List (String × Json) → List Char
  | _, [] => []
  | isFirst, (key, value) :: rest =>
      (if isFirst then [] else [',']) ++ newLine level ++ quoteChars key ++ ':' :: ' ' ::
        (prettyChars level value ++ prettyMembers level false rest)

end

/-- The text of a value over several lines. -/
def pretty (value : Json) : String :=
  String.ofList (prettyChars 0 value)

/-- The value of the first member with a given key. -/
def get? (key : String) : Json → Option Json
  | object members => members.lookup key
  | _ => none

/-- The text of a string value. -/
def asText? : Json → Option String
  | text value => some value
  | _ => none

/-- The value of a whole number. -/
def asWhole? : Json → Option Int
  | whole value => some value
  | _ => none

/-- The items of an array. -/
def asArray? : Json → Option (List Json)
  | array items => some items
  | _ => none

/-- What kind of thing a value is, in words, with the value itself where it is short. -/
def describe : Json → String
  | null => "null"
  | bool value => "boolean `" ++ toString value ++ "`"
  | whole value => "integer `" ++ toString value ++ "`"
  | fraction value => "floating point `" ++ value.displayWithExponent ++ "`"
  | text value => "string " ++ Text.quote value
  | array _ => "sequence"
  | object _ => "map"

end Json

end QueryFoundry
