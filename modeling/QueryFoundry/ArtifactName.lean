/-!
# Artifact names

One name is shared by a generated file, its build target and its loadable module. Any text is
accepted as a name; a plain identifier is the kind that every tool downstream understands.
-/

namespace QueryFoundry

/-- The name shared by a generated file, its build target and its loadable module. -/
structure ArtifactName where
  text : String
deriving DecidableEq, Repr

namespace ArtifactName

/-- A character that may start an identifier: an underscore or an ASCII letter. -/
def startsIdentifier (character : Char) : Bool :=
  character == '_' || character.isAlpha

/-- A character that may continue an identifier: an underscore, an ASCII letter or a digit. -/
def continuesIdentifier (character : Char) : Bool :=
  character == '_' || character.isAlphanum

/-- A name is a plain identifier when it is nonempty, starts with a letter or an underscore and
goes on with letters, digits and underscores, all of them ASCII. -/
def isIdentifier (name : ArtifactName) : Bool :=
  match name.text.toList with
  | [] => false
  | first :: rest => startsIdentifier first && rest.all continuesIdentifier

instance : ToString ArtifactName := ⟨ArtifactName.text⟩

end ArtifactName

end QueryFoundry
