import QueryFoundry.Text.Printable

/-!
# Quoted texts

A text between double quotes in which nothing is hidden: the quote, the backslash and the usual
controls are escaped by a backslash, and other characters that would not show are written by their
code point.
-/

namespace QueryFoundry.Text

/-- A character as it stands between double quotes. -/
def quoteCharacter (character : Char) : List Char :=
  match character with
  | '\x00' => ['\\', '0']
  | '\t' => ['\\', 't']
  | '\n' => ['\\', 'n']
  | '\r' => ['\\', 'r']
  | '"' => ['\\', '"']
  | '\\' => ['\\', '\\']
  | _ =>
      if isPrintable character then [character]
      else ['\\', 'u', '\x7b'] ++ Nat.toDigits 16 character.toNat ++ ['\x7d']

/-- A text between double quotes, with its quotes, backslashes and hidden characters escaped. -/
def quote (text : String) : String :=
  String.ofList ('"' :: (text.toList.flatMap quoteCharacter ++ ['"']))

end QueryFoundry.Text
