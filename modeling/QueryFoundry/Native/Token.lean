import QueryFoundry.Text.Octets

/-!
# Tokens of native sources

The words, numbers, texts and marks that a C or C++ source is made of. A list of tokens can be
written as a text and read again.
-/

namespace QueryFoundry.Native

open Text (Octets)

/-- The language of a source. -/
inductive Language where
  | c
  | cpp
deriving DecidableEq, Repr, Inhabited

/-- The kinds of tokens. -/
inductive TokenKind where
  /-- A name or a keyword. -/
  | word
  | number
  /-- A text between double quotes. -/
  | text
  /-- Characters between single quotes. -/
  | character
  /-- An operator or a separator. -/
  | mark
  /-- A character that no token starts with. -/
  | stray
deriving DecidableEq, Repr, Inhabited

/-- The smallest pieces of a source. -/
structure Token where
  kind : TokenKind
  /-- The token as it is written. -/
  spelling : Octets
  /-- The line that the token stands on. -/
  line : Nat := 0
  /-- Whether something blank stands in front of the token. -/
  isSpaced : Bool := false
  /-- Whether the token is the first one of its line. -/
  startsLine : Bool := false
  /-- The macros that the token came from, which it is not the name of again. -/
  hidden : List Octets := []
deriving DecidableEq, Repr, Inhabited

namespace Token

/-- Whether the token is a certain mark. -/
def isMark (token : Token) (symbol : Octets) : Bool :=
  token.kind == .mark && token.spelling == symbol

/-- Whether the token is a certain word. -/
def isWord (token : Token) (name : Octets) : Bool :=
  token.kind == .word && token.spelling == name

/-- A character that a name may start with; all bytes of other alphabets belong to these. -/
def startsWord (character : Char) : Bool :=
  character.isAlpha || character == '_' || character == '$' || 0x80 ≤ character.toNat

/-- A character that a name may go on with. -/
def continuesWord (character : Char) : Bool :=
  startsWord character || character.isDigit

/-- The marks, those of more characters first. -/
def marks : List Octets :=
  ["%:%:", "<<=", ">>=", "...", "->*", "<%", "%>", "<:", ":>", "%:", "==", "!=", "<=", ">=", "&&",
    "||", "++", "--", "->", "+=", "-=", "*=", "/=", "%=", "&=", "|=", "^=", "<<", ">>", "::", ".*",
    "##", "\x7b", "\x7d", "(", ")", "[", "]", ";", ",", ".", "&", "*", "+", "-", "~", "!", "/",
    "%", "<", ">", "^", "|", "?", ":", "=", "#"]

/-- The marks with their characters. -/
def markCharacters : List (List Char × Octets) := marks.map fun mark => (mark.toList, mark)

/-- The mark that another spelling of it stands for. -/
def plainMark : Octets → Octets
  | "<%" => "\x7b"
  | "%>" => "\x7d"
  | "<:" => "["
  | ":>" => "]"
  | "%:" => "#"
  | "%:%:" => "##"
  | mark => mark

/-- The marks that are written as words in C++. -/
def wordMark? : Octets → Option Octets
  | "and" => some "&&"
  | "or" => some "||"
  | "not" => some "!"
  | "xor" => some "^"
  | "bitand" => some "&"
  | "bitor" => some "|"
  | "compl" => some "~"
  | "and_eq" => some "&="
  | "or_eq" => some "|="
  | "xor_eq" => some "^="
  | "not_eq" => some "!="
  | _ => none

/-- The letters in front of a quote that tell how its characters are encoded. -/
def encodings : List (List Char) := [[], ['L'], ['u', '8'], ['u'], ['U']]

/-- The characters of a number. A sign belongs to it behind the letter of an exponent, and a quote
that stands between two digits. -/
def numberChars : Char → List Char → List Char
  | _, [] => []
  | before, character :: rest =>
      if continuesWord character || character == '.' then
        character :: numberChars character rest
      else if (character == '+' || character == '-') &&
          (['e', 'E', 'p', 'P'].contains before) then
        character :: numberChars character rest
      else if character == '\'' && rest.head?.any continuesWord then
        character :: numberChars character rest
      else []

/-- Whether a number comes next. -/
def startsNumber : List Char → Bool
  | '.' :: second :: _ => second.isDigit
  | first :: _ => first.isDigit
  | [] => false

/-- The length of a quoted text with its closing quote, if that stands on the same line. -/
def quotedLength? (close : Char) : Nat → List Char → Option Nat
  | _, [] => none
  | count, '\\' :: _ :: rest => quotedLength? close (count + 2) rest
  | count, character :: rest =>
      if character == close then some (count + 1)
      else if character == '\n' then none
      else quotedLength? close (count + 1) rest

/-- The inside of a raw text up to the given end, reversed, and what follows. -/
def rawInside? (close : List Char) : List Char → List Char → Option (List Char × List Char)
  | _, [] => none
  | inside, character :: rest =>
      if close.isPrefixOf (character :: rest) then
        some (inside.reverse, (character :: rest).drop close.length)
      else rawInside? close (character :: inside) rest

/-- How a byte is written inside quotes. -/
def escaped (character : Char) : List Char :=
  if character == '"' || character == '\\' || character == '\'' || character == '?' ||
      character.toNat < 0x20 || 0x7f ≤ character.toNat then
    let digits := Nat.toDigits 8 character.toNat
    '\\' :: List.replicate (3 - digits.length) '0' ++ digits
  else [character]

/-- Read a raw text behind its opening quote; it is spelled like any other text. -/
def rawText? (encoding rest : List Char) : Option (Octets × List Char) := do
  let delimiter := rest.takeWhile fun character => character != '(' && character != '\n'
  guard ((rest.drop delimiter.length).head? == some '(')
  let (inside, after) ← rawInside? (')' :: delimiter ++ ['"']) []
    (rest.drop (delimiter.length + 1))
  return (String.ofList (encoding ++ ['"'] ++ inside.flatMap escaped ++ ['"']), after)

/-- Read something quoted, with the letters in front of it. -/
def quoted? (source : List Char) : Option (TokenKind × Octets × List Char) :=
  encodings.findSome? fun encoding =>
    if encoding.isPrefixOf source then
      match source.drop encoding.length with
      | '"' :: rest => (quotedLength? '"' 0 rest).map fun length =>
          (.text, String.ofList (source.take (encoding.length + 1 + length)), rest.drop length)
      | '\'' :: rest => (quotedLength? '\'' 0 rest).map fun length =>
          (.character, String.ofList (source.take (encoding.length + 1 + length)),
            rest.drop length)
      | 'R' :: '"' :: rest => (rawText? encoding rest).map fun (spelling, after) =>
          (.text, spelling, after)
      | _ => none
    else none

/-- Whether something quoted may start with a character. -/
def mayQuote (character : Char) : Bool :=
  character == '"' || character == '\'' || character == 'u' || character == 'L' ||
    character == 'U' || character == 'R'

/-- Read the first token of a text that starts with one; what follows it is returned too. -/
def first (language : Language) (character : Char) (rest : List Char) :
    TokenKind × Octets × List Char :=
  let source := character :: rest
  match if mayQuote character then quoted? source else none with
  | some found => found
  | none =>
      if startsWord character then
        let name := source.takeWhile continuesWord
        let after := source.drop name.length
        let word := String.ofList name
        match if language == .cpp then wordMark? word else none with
        | some mark => (.mark, mark, after)
        | none => (.word, word, after)
      else if startsNumber source then
        let digits := character :: numberChars character rest
        (.number, String.ofList digits, source.drop digits.length)
      else if ['<', ':', ':'].isPrefixOf source &&
          !(['<', ':', ':', ':'].isPrefixOf source || ['<', ':', ':', '>'].isPrefixOf source) then
        (.mark, "<", rest)
      else
        match markCharacters.find? fun mark => mark.1.isPrefixOf source with
        | some (_, mark) => (.mark, plainMark mark, source.drop mark.length)
        | none => (.stray, String.ofList [character], rest)

/-- Stands for a line end that was joined away, behind the line that it belonged to. -/
def joinedLine : Char := Char.ofNat 0x100

/-- Join the lines that end in a backslash; what is left out counts behind the joined line. -/
def joinLines : Nat → List Char → List Char → List Char
  | _, joined, [] => joined.reverse
  | count, joined, '\\' :: '\n' :: rest => joinLines (count + 1) joined rest
  | count, joined, '\n' :: rest =>
      joinLines 0 (List.replicate count joinedLine ++ '\n' :: joined) rest
  | count, joined, character :: rest => joinLines count (character :: joined) rest

/-- Where in a source the next token stands. -/
structure Position where
  line : Nat := 1
  isSpaced : Bool := false
  startsLine : Bool := true

/-- The position behind a character that stands between tokens. -/
def Position.after (position : Position) (character : Char) : Position :=
  if character == '\n' then { line := position.line + 1, isSpaced := true, startsLine := true }
  else if character == joinedLine then { position with line := position.line + 1 }
  else { position with isSpaced := true }

/-- A character that stands between tokens. -/
def isBlank (character : Char) : Bool :=
  [' ', '\t', '\n', '\r', '\x0b', '\x0c', joinedLine].contains character

/-- Pass over a comment behind its start. -/
def skipComment : Position → List Char → Position × List Char
  | position, [] => (position, [])
  | position, '*' :: '/' :: rest => ({ position with isSpaced := true }, rest)
  | position, character :: rest =>
      if character == '\n' || character == joinedLine then
        skipComment { position with line := position.line + 1 } rest
      else skipComment position rest

/-- Read all tokens, the last one first; a bound on their number is given. -/
def scanFrom (language : Language) : Nat → Position → List Token → List Char → List Token
  | 0, _, tokens, _ => tokens
  | _, _, tokens, [] => tokens
  | fuel + 1, position, tokens, '/' :: '/' :: rest =>
      scanFrom language fuel { position with isSpaced := true } tokens
        (rest.dropWhile (· != '\n'))
  | fuel + 1, position, tokens, '/' :: '*' :: rest =>
      let (behind, after) := skipComment position rest
      scanFrom language fuel behind tokens after
  | fuel + 1, position, tokens, character :: rest =>
      if isBlank character then scanFrom language fuel (position.after character) tokens rest
      else
        let (kind, spelling, after) := first language character rest
        let token : Token :=
          { kind, spelling, line := position.line, isSpaced := position.isSpaced,
            startsLine := position.startsLine }
        scanFrom language fuel { line := position.line, startsLine := false } (token :: tokens) after

/-- Read the tokens of a text. -/
def scan (language : Language) (source : Octets) : List Token :=
  (scanFrom language (source.length + 1) {} [] (joinLines 0 [] source.toList)).reverse

/-- Write a list of tokens. -/
def writeAll (tokens : List Token) : Octets :=
  " ".intercalate (tokens.map spelling)

/-- The value of a digit of base eight. -/
def octalValue? (character : Char) : Option Nat :=
  if '0' ≤ character && character ≤ '7' then some (character.toNat - '0'.toNat) else none

/-- The value of digits in a base. -/
def digitsValue (base : Nat) (digits : List Nat) : Nat :=
  digits.foldl (fun value digit => value * base + digit) 0

/-- What a letter behind a backslash stands for. -/
def simpleEscape? : Char → Option Nat
  | 'n' => some 10
  | 't' => some 9
  | 'r' => some 13
  | 'a' => some 7
  | 'b' => some 8
  | 'f' => some 12
  | 'v' => some 11
  | 'e' => some 27
  | '\\' => some 92
  | '\'' => some 39
  | '"' => some 34
  | '?' => some 63
  | _ => none

/-- A piece of a quoted text. -/
inductive Unit where
  /-- A byte of the source. -/
  | byte (value : Nat)
  /-- The number that an escape tells. -/
  | number (value : Nat)
  /-- A character that is written by its number in the table of all characters. -/
  | point (value : Nat)
deriving DecidableEq, Repr

/-- What a backslash stands for, and how many characters follow it. -/
def escape (rest : List Char) : Unit × Nat :=
  let hexadecimal (digits : List Char) : Nat := digitsValue 16 (digits.filterMap Text.hexValue?)
  match rest with
  | [] => (.byte 92, 0)
  | 'x' :: more =>
      let digits := more.takeWhile fun character => (Text.hexValue? character).isSome
      (.number (hexadecimal digits), digits.length + 1)
  | 'u' :: more => (.point (hexadecimal (more.take 4)), 5)
  | 'U' :: more => (.point (hexadecimal (more.take 8)), 9)
  | character :: _ =>
      match octalValue? character with
      | some _ =>
          let digits := (rest.take 3).takeWhile fun digit => (octalValue? digit).isSome
          (.number (digitsValue 8 (digits.filterMap octalValue?)), digits.length)
      | none => (.number ((simpleEscape? character).getD character.toNat), 1)

/-- The pieces of the inside of quotes; the count tells what is still to be passed over. -/
def unitsFrom : Nat → List Char → List Unit
  | _, [] => []
  | skip + 1, _ :: rest => unitsFrom skip rest
  | 0, '\\' :: rest =>
      let (unit, length) := escape rest
      unit :: unitsFrom length rest
  | 0, character :: rest => .byte character.toNat :: unitsFrom 0 rest

/-- The letters in front of the quotes, and the pieces between them. -/
def units (token : Token) : Octets × List Unit :=
  let encoding := token.spelling.toList.takeWhile fun character =>
    character != '"' && character != '\''
  let inside := (token.spelling.toList.drop (encoding.length + 1)).dropLast
  (String.ofList encoding, unitsFrom 0 inside)

end Token

end QueryFoundry.Native
