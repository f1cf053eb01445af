import QueryFoundry.Text.Octets

/-!
# Shell scripts as trees

The commands of the command language that the tools of the in-memory machine are scripted in, and
the words that they are made of.
-/

namespace QueryFoundry.Sandbox.Shell

open Text (Octets)

/-- How a redirection treats its target. -/
inductive RedirectionKind where
  | input
  | output
  /-- As `output`, even where files are not to be overwritten. -/
  | overwrite
  | append
  | readWrite
  /-- The target is the number of another descriptor, or a dash to close this one. -/
  | duplicate
deriving DecidableEq, Repr

mutual

/-- A part of a word. A quoted part is neither split nor matched against file names. -/
inductive Piece where
  | text (quoted : Bool) (content : Octets)
  /-- A quotation mark. A word with one is not dropped when it is empty. -/
  | mark
  | parameter (quoted : Bool) (name : Octets) (use : ParameterUse)
  | substitution (quoted : Bool) (body : Option Command)
  | arithmetic (quoted : Bool) (expression : List Piece)

/-- What is done with the value of a parameter. -/
inductive ParameterUse where
  | plain
  | length
  /-- Put a word in its place, depending on whether the parameter is set; with a colon an empty
  value counts as none. -/
  | replace (colon : Bool) (kind : Char) (word : List Piece)
  /-- Cut off the part at one end that matches a pattern. -/
  | trim (atEnd longest : Bool) (pattern : List Piece)
  /-- Nothing that is known, which is told when it is to be done. -/
  | unknown

/-- Where a descriptor of a command leads to. -/
inductive Redirection where
  | mk (descriptor : Nat) (kind : RedirectionKind) (target : List Piece)
  /-- To a text that is part of the script and is kept under a number. -/
  | here (descriptor document : Nat)

/-- A command. -/
inductive Command where
  | simple (line : Nat) (assignments : List (Octets × List Piece)) (words : List (List Piece))
      (redirections : List Redirection)
  | pipeline (background : Bool) (stages : List Command)
  | negation (body : Command)
  /-- The right command runs if the left one succeeds, or if it fails. -/
  | connected (ifSuccess : Bool) (left right : Command)
  | sequence (left right : Command)
  /-- A copy of the shell runs the command; it may not be waited for. -/
  | subshell (line : Nat) (background : Bool) (body : Option Command)
      (redirections : List Redirection)
  | branch (condition body otherwise : Option Command)
  | loop (untilSuccess : Bool) (condition body : Option Command)
  | each (line : Nat) (name : Octets) (words : List (List Piece)) (body : Option Command)
  | choose (line : Nat) (subject : List Piece)
      (clauses : List (List (List Piece) × Option Command))
  | define (name : Octets) (body : Option Command)
  | redirected (line : Nat) (body : Option Command) (redirections : List Redirection)

end

instance : Inhabited Piece := ⟨.mark⟩

instance : Inhabited Command := ⟨.simple 1 [] [] []⟩

/-- A word: its parts without anything between them. -/
abbrev Word := List Piece

/-- A character that may start a name. -/
def startsName (character : Char) : Bool :=
  character == '_' || character.isAlpha

/-- A character that may continue a name. -/
def continuesName (character : Char) : Bool :=
  character == '_' || character.isAlphanum

/-- Whether a text is the name of a variable. -/
def isName (text : Octets) : Bool :=
  match text.toList with
  | [] => false
  | first :: rest => startsName first && rest.all continuesName

/-- The name in front of a text. -/
def nameLength (text : List Char) : Nat :=
  match text with
  | [] => 0
  | first :: _ => if startsName first then (text.takeWhile continuesName).length else 0

/-- The text of a word that has no quotes and nothing to be put in. -/
def Word.bare? : Word → Option Octets
  | [] => some ""
  | [.text false content] => some content
  | _ => none

/-- The name and the value of a word that assigns a value to a variable. -/
def Word.assignment? : Word → Option (Octets × Word)
  | .text false content :: rest =>
      let characters := content.toList
      let length := nameLength characters
      match characters.drop length with
      | '=' :: value =>
          if length = 0 then none
          else
            let name := String.ofList (characters.take length)
            some (name, if value.isEmpty then rest else .text false (String.ofList value) :: rest)
      | _ => none
  | _ => none

/-- The commands of the shell whose assignments stay and whose mistakes end the shell. -/
def specialBuiltins : List Octets :=
  [":", ".", "break", "continue", "eval", "exec", "exit", "export", "local", "readonly", "return",
    "set", "shift", "times", "trap", "unset"]

end QueryFoundry.Sandbox.Shell
