/-!
# Blank characters

The characters with the Unicode property `White_Space`, and the text that is left when they are
dropped from both ends.
-/

namespace QueryFoundry.Text

/-- The ranges of code points with the property `White_Space`, both ends included. -/
def blankRanges : List (Nat × Nat) :=
  [(0x9, 0xD), (0x20, 0x20), (0x85, 0x85), (0xA0, 0xA0), (0x1680, 0x1680), (0x2000, 0x200A),
    (0x2028, 0x2029), (0x202F, 0x202F), (0x205F, 0x205F), (0x3000, 0x3000)]

/-- A character is blank when Unicode gives it the property `White_Space`. -/
def isBlank (character : Char) : Bool :=
  blankRanges.any fun range => range.1 ≤ character.toNat && character.toNat ≤ range.2

/-- Drop the blank characters at both ends of a list of characters. -/
def trimChars (characters : List Char) : List Char :=
  ((characters.dropWhile isBlank).reverse.dropWhile isBlank).reverse

/-- Drop the blank characters at both ends of a text. -/
def trim (text : String) : String :=
  String.ofList (trimChars text.toList)

end QueryFoundry.Text
