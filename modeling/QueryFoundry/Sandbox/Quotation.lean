import QueryFoundry.Text.Octets

/-!
# Quotation in messages

How programs show names and texts in their messages: so that a shell would read them back, or with
backslashes in front of what cannot be seen.
-/

namespace QueryFoundry.Sandbox.Quotation

open Text (Octets)

/-- Whether a character can be seen. -/
def isVisible (character : Char) : Bool :=
  ' ' ≤ character && character ≤ '~'

/-- The letter that stands for a control character behind a backslash. -/
def controlLetter? (character : Char) : Option Char :=
  [('\x07', 'a'), ('\x08', 'b'), ('\t', 't'), ('\n', 'n'), ('\x0b', 'v'), ('\x0c', 'f'),
    ('\r', 'r')].lookup character

/-- What stands for a character that cannot be seen: a letter or three octal digits. -/
def escape (character : Char) : List Char :=
  match controlLetter? character with
  | some letter => ['\\', letter]
  | none =>
      let digits := Nat.toDigits 8 character.toNat
      '\\' :: List.replicate (3 - digits.length) '0' ++ digits

/-- A text between single quotes, with backslashes in front of what is special there. -/
def withBackslashes (text : Octets) : Octets :=
  String.ofList ('\'' :: (text.toList.flatMap fun character =>
    if character == '\'' || character == '\\' then ['\\', character]
    else if isVisible character then [character]
    else escape character) ++ ['\''])

/-- Whether a character means itself in any notation, but for where it stands. -/
def isPlain (character : Char) : Bool :=
  character.isAlphanum || ['%', '+', ',', '-', '.', '/', ':', ']', '_', '@'].contains character

/-- Whether a name can be written without quotes. Colons may count as special. -/
def needsNoQuotes (withColons : Bool) (text : Octets) : Bool :=
  match text.toList with
  | [] => false
  | first :: rest =>
      let isFine (character : Char) : Bool :=
        !(withColons && character == ':') && isPlain character || ['\x7b', '\x7d'].contains character
      (isFine first && (isPlain first || !rest.isEmpty)) &&
        rest.all fun character => isFine character || ['#', '~'].contains character

/-- Whether a text can stand between double quotes. -/
def fitsDoubleQuotes (text : List Char) : Bool :=
  let isFine (character : Char) : Bool := isPlain character || [' ', '\''].contains character
  match text with
  | [] => true
  | first :: rest => (isFine first || ['#', '~'].contains first) && rest.all isFine

/-- The inside of a text between single quotes, and the last of them. The flag tells whether a part
with backslashes is open. -/
def shellPieces : Bool → List Char → List Char
  | _, [] => ['\'']
  | isOpen, character :: rest =>
      if character == '\'' then ['\'', '\\', '\'', '\''] ++ shellPieces false rest
      else if isVisible character then
        (if isOpen then ['\'', '\''] else []) ++ character :: shellPieces false rest
      else
        (if isOpen then [] else ['\'', '$', '\'']) ++ escape character ++ shellPieces true rest

/-- A name between quotes, as a shell would read it. A name with single quotes whose last character
cannot be seen starts with an empty part more. -/
def forShell (text : Octets) : Octets :=
  let characters := text.toList
  let hasQuotes := characters.contains '\''
  if hasQuotes && fitsDoubleQuotes characters then "\"" ++ text ++ "\""
  else
    let isOpen := hasQuotes && characters.getLast?.any fun character => !isVisible character
    String.ofList ('\'' :: shellPieces isOpen characters)

/-- A name as a shell would read it, between quotes where that is needed. -/
def forShellIfNeeded (withColons : Bool) (text : Octets) : Octets :=
  if needsNoQuotes withColons text then text else forShell text

end QueryFoundry.Sandbox.Quotation
