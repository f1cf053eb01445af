import QueryFoundry.Text.Octets
import QueryFoundry.Toml.Node

/-!
# Reading TOML values

Readers for keys and values. A reader works on the rest of the text and its distance in bytes from
the start, so that each value gets the stretch that it was written in. Whatever does not follow the
grammar has no value.
-/

namespace QueryFoundry.Toml

/-- A place in a text: the bytes in front of it and the characters behind it. -/
structure Cursor where
  offset : Nat
  rest : List Char
deriving Repr, Inhabited

/-- A reader of something at a place in a text. -/
abbrev Reader (α : Type) := StateT Cursor Option α

namespace Reader

/-- The next character, which stays there. -/
def peek? : Reader (Option Char) := do
  return (← get).rest.head?

/-- Whether a word comes next. -/
def sees (word : String) : Reader Bool := do
  return word.toList.isPrefixOf (← get).rest

/-- The distance from the start. -/
def offset : Reader Nat := do
  return (← get).offset

/-- The next character. -/
def next : Reader Char := fun cursor =>
  match cursor.rest with
  | [] => none
  | character :: rest => some (character, ⟨cursor.offset + character.utf8Size, rest⟩)

/-- The next character, which must have a property. -/
def satisfy (property : Char → Bool) : Reader Char := do
  let character ← next
  if property character then return character else failure

/-- The characters up to the first one without a property. -/
def takeWhile (property : Char → Bool) : Reader (List Char) := fun cursor =>
  let (taken, rest) := cursor.rest.span property
  some (taken, ⟨taken.foldl (fun offset character => offset + character.utf8Size) cursor.offset,
    rest⟩)

/-- A word that must come next. -/
def expect (word : String) : Reader Unit := do
  if ← sees word then
    let _ ← word.toList.mapM fun _ => next
    return
  else failure

/-- Read something if its reader accepts what comes next. -/
def optional? {α : Type} (reader : Reader α) : Reader (Option α) :=
  (some <$> reader) <|> pure none

/-- Read something together with the stretch that it was written in. -/
def spanned {α : Type} (reader : Reader α) : Reader (α × Span) := do
  let start ← offset
  let value ← reader
  return (value, ⟨start, ← offset⟩)

end Reader

open Reader

/-- A blank inside a line. -/
def isLineBlank (character : Char) : Bool :=
  character == ' ' || character == '\t'

/-- A character that may stand in a comment: anything but the controls other than the tab. -/
def isCommentCharacter (character : Char) : Bool :=
  character == '\t' || (0x20 ≤ character.toNat && character != '\x7f')

/-- Skip the blanks inside a line. -/
def skipLineBlanks : Reader Unit := do
  let _ ← takeWhile isLineBlank

/-- The end of a line: a line feed, with or without a carriage return in front of it. -/
def lineFeed : Reader Unit :=
  expect "\n" <|> expect "\r\n"

/-- Skip a comment, if there is one. -/
def skipComment : Reader Unit := do
  if (← peek?) == some '#' then
    let _ ← takeWhile isCommentCharacter

/-- The end of a line or of the text. -/
def endOfLine : Reader Unit := do
  if (← peek?).isNone then return else lineFeed

/-- The rest of a line behind its content: blanks, perhaps a comment, and the end. -/
def lineTail : Reader Unit := do
  skipLineBlanks
  skipComment
  endOfLine

/-- Skip blanks, comments and line ends between the values of an array. -/
def skipBetweenValues : Nat → Reader Unit
  | 0 => failure
  | fuel + 1 => do
      skipLineBlanks
      match ← peek? with
      | some '#' =>
          skipComment
          lineFeed
          skipBetweenValues fuel
      | some '\n' | some '\r' =>
          lineFeed
          skipBetweenValues fuel
      | _ => return

/-- A character that stands for itself between double quotes. -/
def isBasicCharacter (character : Char) : Bool :=
  isCommentCharacter character && character != '"' && character != '\\'

/-- A character that may stand between single quotes. -/
def isLiteralCharacter (character : Char) : Bool :=
  isCommentCharacter character && character != '\''

/-- A number of hexadecimal digits that are the code point of a character. -/
def codePoint (length : Nat) : Reader Char := do
  let digits ← (List.range length).mapM fun _ => satisfy fun character =>
    (Text.hexValue? character).isSome
  let value := digits.foldl (fun value digit => value * 16 + (Text.hexValue? digit).getD 0) 0
  if value < 0xD800 ∨ (0xE000 ≤ value ∧ value < 0x110000) then return Char.ofNat value
  else failure

/-- What follows the backslash of an escape. -/
def escaped : Reader Char := do
  match ← next with
  | 'b' => return '\x08'
  | 't' => return '\t'
  | 'n' => return '\n'
  | 'f' => return '\x0c'
  | 'r' => return '\r'
  | '"' => return '"'
  | '\\' => return '\\'
  | 'u' => codePoint 4
  | 'U' => codePoint 8
  | _ => failure

/-- The content of a basic string up to its closing quote. -/
def basicContent : Nat → List Char → Reader String
  | 0, _ => failure
  | fuel + 1, read => do
      match ← next with
      | '"' => return String.ofList read.reverse
      | '\\' => basicContent fuel ((← escaped) :: read)
      | character =>
          if isBasicCharacter character then basicContent fuel (character :: read) else failure

/-- The content of a literal string up to its closing quote. -/
def literalContent : Reader String := do
  let content ← takeWhile isLiteralCharacter
  expect "'"
  return String.ofList content

/-- Skip all blanks and line ends. -/
def skipLines : Nat → Reader Unit
  | 0 => failure
  | fuel + 1 => do
      skipLineBlanks
      match ← peek? with
      | some '\n' =>
          lineFeed
          skipLines fuel
      | some '\r' =>
          if ← sees "\r\n" then
            lineFeed
            skipLines fuel
          else return
      | _ => return

/-- Skip a line end behind a backslash and all blanks after it, if a line end follows the backslash
and its blanks. -/
def skipContinuation (fuel : Nat) : Reader Unit := do
  skipLineBlanks
  lineFeed
  skipLines fuel

/-- The content of a string of several lines up to its three closing quotes. Up to two more quotes
in front of these belong to the content. In a basic string a backslash starts an escape. -/
def multilineContent (quote : Char) (isBasic : Bool) : Nat → List Char → Reader String
  | 0, _ => failure
  | fuel + 1, read => do
      match ← peek? with
      | none => failure
      | some character =>
          if character = quote then
            let quotes ← takeWhile (· == quote)
            if quotes.length < 3 then multilineContent quote isBasic fuel (quotes ++ read)
            else if quotes.length ≤ 5 then
              return String.ofList ((quotes.drop 3) ++ read).reverse
            else failure
          else if character = '\n' ∨ character = '\r' then
            lineFeed
            multilineContent quote isBasic fuel ('\n' :: read)
          else if isBasic ∧ character = '\\' then
            let _ ← next
            match ← optional? (skipContinuation fuel) with
            | some _ => multilineContent quote isBasic fuel read
            | none => multilineContent quote isBasic fuel ((← escaped) :: read)
          else if isCommentCharacter character then
            let _ ← next
            multilineContent quote isBasic fuel (character :: read)
          else failure

/-- A string on one line. -/
def singleLineText : Reader String := do
  let fuel := (← get).rest.length + 1
  match ← next with
  | '"' => basicContent fuel []
  | '\'' => literalContent
  | _ => failure

/-- A string of one of the four kinds. -/
def quotedText : Reader String := do
  let fuel := (← get).rest.length + 1
  if ← sees "\"\"\"" then
    expect "\"\"\""
    let _ ← optional? lineFeed
    multilineContent '"' true fuel []
  else if ← sees "'''" then
    expect "'''"
    let _ ← optional? lineFeed
    multilineContent '\'' false fuel []
  else singleLineText

/-- A character of a key without quotes. -/
def isBareCharacter (character : Char) : Bool :=
  character.isAlphanum || character == '_' || character == '-'

/-- One part of a key. -/
def simpleKey : Reader Key := do
  let (content, span) ← spanned do
    match ← peek? with
    | some '"' | some '\'' => singleLineText
    | _ =>
        let characters ← takeWhile isBareCharacter
        if characters.isEmpty then failure else return String.ofList characters
  return ⟨content, span⟩

/-- The greatest number of levels that values and keys may be nested to. -/
def nestingLimit : Nat := 80

/-- The parts of a key that follow the first one. -/
def keyTail : Nat → List Key → Reader (List Key)
  | 0, _ => failure
  | fuel + 1, read => do
      skipLineBlanks
      if (← peek?) == some '.' then
        let _ ← next
        skipLineBlanks
        keyTail fuel (read ++ [← simpleKey])
      else return read

/-- A key: one or more parts with points between them. -/
def dottedKey : Reader (List Key) := do
  skipLineBlanks
  let first ← simpleKey
  let keys ← keyTail ((← get).rest.length + 1) [first]
  if keys.length < nestingLimit then return keys else failure

/-- Digits of a base with single underscores between them; the first one may be any. -/
def digitsTail (isDigit : Char → Bool) : Nat → List Char → Reader (List Char)
  | 0, _ => failure
  | fuel + 1, read => do
      match ← peek? with
      | some '_' =>
          let _ ← next
          let digit ← satisfy isDigit
          digitsTail isDigit fuel (digit :: read)
      | some character =>
          if isDigit character then
            let _ ← next
            digitsTail isDigit fuel (character :: read)
          else return read.reverse
      | none => return read.reverse

/-- One or more digits of a base with single underscores between them. -/
def digits (isDigit : Char → Bool) : Reader (List Char) := do
  let first ← satisfy isDigit
  digitsTail isDigit ((← get).rest.length + 1) [first]

/-- Decimal digits that do not start with a zero, or a zero alone. -/
def decimalDigits : Reader (List Char) := do
  if (← peek?) == some '0' then return [← next]
  else digits Char.isDigit

/-- The number that some digits denote. -/
def digitsValue (base : Nat) (characters : List Char) : Nat :=
  characters.foldl (fun value digit => value * base + (Text.hexValue? digit).getD 0) 0

/-- Whether a sign says that a number is negative; it may be missing. -/
def sign : Reader Bool := do
  match ← peek? with
  | some '-' =>
      let _ ← next
      return true
  | some '+' =>
      let _ ← next
      return false
  | _ => return false

/-- A number, if it has a place among the signed numbers of 64 bits. -/
def signed64 (negative : Bool) (value : Nat) : Reader Int :=
  if negative then (if value ≤ UInt64.size / 2 then return -(value : Int) else failure)
  else if value < UInt64.size / 2 then return (value : Int) else failure

/-- A whole number, decimal or with the mark of another base. -/
def integer : Reader Int := do
  let based (mark : String) (base : Nat) (isDigit : Char → Bool) : Reader Int := do
    expect mark
    signed64 false (digitsValue base (← digits isDigit))
  if ← sees "0x" then based "0x" 16 fun character => (Text.hexValue? character).isSome
  else if ← sees "0o" then based "0o" 8 fun character => '0' ≤ character && character ≤ '7'
  else if ← sees "0b" then based "0b" 2 fun character => character == '0' || character == '1'
  else do
    let negative ← sign
    signed64 negative (digitsValue 10 (← decimalDigits))

/-- The exponent of a number. -/
def exponent : Reader Int := do
  let _ ← satisfy fun character => character == 'e' || character == 'E'
  let negative ← sign
  let value : Int := digitsValue 10 (← digits Char.isDigit)
  return if negative then -value else value

/-- A number with a fraction or an exponent. One that is too great is refused. -/
def decimalFloat : Reader Binary64 := do
  let negative ← sign
  let whole ← decimalDigits
  let places ← optional? do
    expect "."
    digits Char.isDigit
  let power ← if places.isSome then optional? exponent else some <$> exponent
  let value := Binary64.ofDecimal negative (digitsValue 10 (whole ++ places.getD []))
    (power.getD 0 - (places.getD []).length)
  if value = .infinite false then failure else return value

/-- An infinity or the number that is none. -/
def specialFloat : Reader Binary64 := do
  let negative ← sign
  if ← sees "inf" then
    expect "inf"
    return .infinite negative
  else
    expect "nan"
    return .notANumber

/-- A fixed number of decimal digits whose value lies between two bounds. -/
def boundedDigits (length least greatest : Nat) : Reader Nat := do
  let characters ← (List.range length).mapM fun _ => satisfy Char.isDigit
  let value := digitsValue 10 characters
  if least ≤ value ∧ value ≤ greatest then return value else failure

/-- The days of a month. -/
def monthLength (year month : Nat) : Nat :=
  if month = 2 then
    if year % 4 = 0 ∧ (year % 100 ≠ 0 ∨ year % 400 = 0) then 29 else 28
  else if month = 4 ∨ month = 6 ∨ month = 9 ∨ month = 11 then 30
  else 31

/-- A date. -/
def date : Reader Unit := do
  let year ← boundedDigits 4 0 9999
  expect "-"
  let month ← boundedDigits 2 1 12
  expect "-"
  let _ ← boundedDigits 2 1 (monthLength year month)

/-- A time of day; the second may be a leap second. -/
def timeOfDay : Reader Unit := do
  let _ ← boundedDigits 2 0 23
  expect ":"
  let _ ← boundedDigits 2 0 59
  expect ":"
  let _ ← boundedDigits 2 0 60
  if (← peek?) == some '.' then
    let _ ← next
    let _ ← satisfy Char.isDigit
    let _ ← takeWhile Char.isDigit

/-- The distance of a time from the universal one. -/
def timeOffset : Reader Unit := do
  match ← next with
  | 'Z' | 'z' => return
  | '+' | '-' =>
      let _ ← boundedDigits 2 0 23
      expect ":"
      let _ ← boundedDigits 2 0 59
  | _ => failure

/-- A date, a time of day or both. -/
def datetime : Reader Unit :=
  (do
    date
    let _ ← optional? do
      let _ ← satisfy fun character => character == 'T' || character == 't' || character == ' '
      timeOfDay
      let _ ← optional? timeOffset)
  <|> timeOfDay

/-- A value that holds no other values. -/
def scalar : Reader Node := do
  let place (toNode : Span → Node) (reader : Reader Unit) : Reader Node := do
    let (_, span) ← spanned reader
    return toNode span
  match ← peek? with
  | some '"' | some '\'' =>
      let (value, span) ← spanned quotedText
      return .text span value
  | some 't' => place (.boolean · true) (expect "true")
  | some 'f' => place (.boolean · false) (expect "false")
  | _ =>
      (place .datetime datetime) <|>
      (do
        let (value, span) ← spanned (decimalFloat <|> specialFloat)
        return .float span value) <|>
      (do
        let (value, span) ← spanned integer
        return .integer span value)

/-- Find or make the table that a path of keys leads to, and act on it. Below a dotted key only
tables that such keys made may be reached, and no value may be entered. -/
def Table.actAt {α : Type} (dotted : Bool) (action : StateT Table Option α) :
    List Key → StateT Table Option α
  | [] => action
  | key :: path => fun table =>
      match table.get? key.text with
      | none => do
          let fresh := Table.empty (if dotted then .dotted else .implied)
          let (result, child) ← actAt dotted action path fresh
          return (result, table.push key child.toNode)
      | some (.table form span entries) =>
          if form = .inline ∨ (dotted ∧ form = .header) then none
          else do
            let (result, child) ← actAt dotted action path ⟨form, span, entries⟩
            return (result, table.replace key.text child.toNode)
      | some (.tables span items) =>
          match items.getLast? with
          | some (.table form itemSpan entries) => do
              let (result, child) ← actAt dotted action path ⟨form, itemSpan, entries⟩
              return (result,
                table.replace key.text (.tables span (items.dropLast ++ [child.toNode])))
          | _ => none
      | some _ => none

/-- Put a value under a dotted key. The key must be new, and the table that the value goes to must
have been made by dotted keys exactly when there is a point in the key. -/
def Table.putDotted (path : List Key) (key : Key) (node : Node) : StateT Table Option Unit :=
  Table.actAt true (do
    let target ← get
    if (target.form == .dotted) == path.isEmpty || (target.get? key.text).isSome then failure
    else set (target.push key node)) path

/-- The keys in front of the last one, and the last one. -/
def splitKey (keys : List Key) : Option (List Key × Key) :=
  keys.getLast?.map fun key => (keys.dropLast, key)

mutual

/-- A value, at a level of nesting. -/
def value : Nat → Nat → Reader Node
  | 0, _ => failure
  | fuel + 1, level => do
      match ← peek? with
      | some '[' =>
          if level + 1 < nestingLimit then
            let (items, span) ← spanned do
              expect "["
              skipBetweenValues (fuel + 1)
              if (← peek?) == some ']' then
                let _ ← next
                return []
              else arrayItems fuel (level + 1) []
            return .array span items
          else failure
      | some '\x7b' =>
          if level + 1 < nestingLimit then
            let (table, span) ← spanned do
              expect "\x7b"
              skipLineBlanks
              if (← peek?) == some '\x7d' then
                let _ ← next
                return Table.empty .inline
              else inlineEntries fuel (level + 1) (Table.empty .inline)
            return .table .inline (some span) table.entries
          else failure
      | _ => scalar

/-- The items of an array, one or more, and its closing bracket. -/
def arrayItems : Nat → Nat → List Node → Reader (List Node)
  | 0, _, _ => failure
  | fuel + 1, level, read => do
      skipBetweenValues (fuel + 1)
      let item ← value fuel level
      skipBetweenValues (fuel + 1)
      match ← next with
      | ']' => return (item :: read).reverse
      | ',' =>
          skipBetweenValues (fuel + 1)
          if (← peek?) == some ']' then
            let _ ← next
            return (item :: read).reverse
          else arrayItems fuel level (item :: read)
      | _ => failure

/-- The entries of an inline table, one or more, and its closing brace. -/
def inlineEntries : Nat → Nat → Table → Reader Table
  | 0, _, _ => failure
  | fuel + 1, level, table => do
      let keys ← dottedKey
      expect "="
      skipLineBlanks
      let node ← value fuel level
      skipLineBlanks
      match splitKey keys with
      | none => failure
      | some (path, key) =>
          match Table.putDotted path key node table with
          | none => failure
          | some (_, extended) =>
              match ← next with
              | '\x7d' => return extended
              | ',' => inlineEntries fuel level extended
              | _ => failure

end

end QueryFoundry.Toml
