/-!
# Replacing a word in a text

Occurrences are taken from left to right and do not overlap; what is put in is not searched again.
-/

namespace QueryFoundry.Text

/-- Replace each occurrence of `word`; `skip` counts the characters of the occurrence last found
that are still to be passed over. -/
def replaceFrom (word substitute : List Char) : Nat → List Char → List Char
  | _, [] => []
  | skip + 1, _ :: rest => replaceFrom word substitute skip rest
  | 0, character :: rest =>
      if word.isPrefixOf (character :: rest) && !word.isEmpty then
        substitute ++ replaceFrom word substitute (word.length - 1) rest
      else
        character :: replaceFrom word substitute 0 rest

/-- Replace each occurrence of a nonempty word, from left to right and without overlap. -/
def replaceWord (text word substitute : String) : String :=
  String.ofList (replaceFrom word.toList substitute.toList 0 text.toList)

end QueryFoundry.Text
