import QueryFoundry.Toml.Node

/-!
# Pointing at a place in a document

A message about a stretch of a text shows the line that the stretch starts on, with carets under the
part of the stretch that lies on this line.
-/

namespace QueryFoundry.Toml

/-- A place where a stretch starts: the number of its line, the column in it and the line, all
counted from zero. -/
structure Place where
  line : Nat
  column : Nat
  content : List Char
deriving Repr

/-- Find the place of the character at a distance in bytes. `content` is the current line without
what lies in front of it; the line is read to its end when the distance is used up. -/
def placeAt : Nat → Nat → List Char → List Char → Nat → Place
  | line, column, read, [], _ => ⟨line, column, read.reverse⟩
  | line, column, read, character :: rest, distance =>
      if distance = 0 then
        ⟨line, column, read.reverse ++ (character :: rest).takeWhile (· != '\n')⟩
      else if character = '\n' then placeAt (line + 1) 0 [] rest (distance - 1)
      else placeAt line (column + 1) (character :: read) rest (distance - character.utf8Size)

/-- The number of bytes of some characters. -/
def byteLength (characters : List Char) : Nat :=
  characters.foldl (fun length character => length + character.utf8Size) 0

/-- The number of carets under a stretch: its bytes, as far as the line goes, but at least one. -/
def caretCount (place : Place) (span : Span) : Nat :=
  max 1 (min (span.stop - span.start) (byteLength place.content - place.column))

/-- The message about a stretch of a text. -/
def renderSnippet (text : String) (span : Span) (reason : String) : String :=
  let place := placeAt 0 0 [] text.toList span.start
  let number := toString (place.line + 1)
  let margin := String.ofList (List.replicate (number.length + 1) ' ') ++ "|"
  "TOML parse error at line " ++ number ++ ", column " ++ toString (place.column + 1) ++ "\n" ++
    margin ++ "\n" ++
    number ++ " | " ++ String.ofList place.content ++ "\n" ++
    margin ++ String.ofList (List.replicate (place.column + 1) ' ') ++
    String.ofList (List.replicate (caretCount place span) '^') ++ "\n" ++
    reason ++ "\n"

end QueryFoundry.Toml
