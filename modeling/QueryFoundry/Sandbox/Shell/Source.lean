import QueryFoundry.Sandbox.Shell.Syntax

/-!
# Reading the characters of shell scripts

A script is read character by character. A word that is an alias is replaced by its text, which is
then read in its place, and a backslash at the end of a line joins the next line to it.
-/

namespace QueryFoundry.Sandbox.Shell

open Text (Octets)

/-- The text of an alias that is read in the place of its name. -/
structure Replacement where
  rest : List Char
  name : Octets
  endsWithBlank : Bool

/-- What is left of a script. -/
structure Source where
  rest : List Char
  /-- The texts that are read before the rest, the innermost one first. -/
  replacements : List Replacement := []
  /-- The characters that were read and put back. -/
  returned : List Char := []
  /-- The aliases whose texts ended with the character that was read last. -/
  finished : List Octets := []
  line : Nat := 1
deriving Inhabited

/-- What the reader of a script tells apart. -/
inductive Token where
  | endOfFile
  | newline
  | semicolon
  | ampersand
  | andIf
  | orIf
  | bar
  | openParenthesis
  | closeParenthesis
  | endOfClause
  | redirection
  | word
  /-- A word that has a meaning of its own at its place. -/
  | reserved (name : Octets)
deriving DecidableEq, Repr

/-- How messages name a token. -/
def Token.name : Token → Octets
  | endOfFile => "end of file"
  | newline => "newline"
  | semicolon => "\";\""
  | ampersand => "\"&\""
  | andIf => "\"&&\""
  | orIf => "\"||\""
  | bar => "\"|\""
  | openParenthesis => "\"(\""
  | closeParenthesis => "\")\""
  | endOfClause => "\";;\""
  | redirection => "redirection"
  | word => "word"
  | reserved name => "\"" ++ name ++ "\""

/-- The words that have a meaning of their own at the start of a command. -/
def reservedWords : List Octets :=
  ["!", "case", "do", "done", "elif", "else", "esac", "fi", "for", "if", "in", "then", "until",
    "while", "\x7b", "\x7d"]

/-- The reserved words that end a list of commands. -/
def closingWords : List Octets :=
  ["do", "done", "elif", "else", "esac", "fi", "then", "\x7d"]

/-- Whether a token ends a list of commands. -/
def Token.endsList : Token → Bool
  | endOfFile | closeParenthesis | endOfClause => true
  | reserved name => closingWords.contains name
  | _ => false

/-- What the next token is looked at for. -/
structure Attention where
  /-- Line ends are passed over. -/
  lineEnds : Bool := false
  reserved : Bool := false
  aliases : Bool := false
  /-- The word is the mark behind a text that is part of the script; nothing is put into it. -/
  delimiter : Bool := false

/-- A redirection as it was read last, without its target. -/
inductive RedirectionStart where
  | plain (descriptor : Nat) (kind : RedirectionKind)
  | here (descriptor : Nat) (stripTabs : Bool)

/-- A text that is part of the script and that starts behind the current line. -/
structure HereRequest where
  document : Nat
  delimiter : Octets
  stripTabs : Bool
  /-- Whether nothing is put into the text. -/
  literal : Bool

/-- The state of the reader of a script. -/
structure Reading where
  source : Source
  aliases : List (Octets × Octets) := []
  lastToken : Token := .newline
  /-- Whether the last token is to be read again. -/
  isReturned : Bool := false
  /-- The word that was read last, and whether it has quotes. -/
  word : Word := []
  isQuoted : Bool := false
  redirection : RedirectionStart := .plain 0 .input
  attention : Attention := {}
  requests : List HereRequest := []
  /-- The texts that are part of the script, under their numbers. -/
  documents : List (Nat × Word) := []
  nextDocument : Nat := 0
  /-- Whether the lines may be printed as they are read. -/
  isShown : Bool := false

/-- Why a script cannot be read, and in which line. -/
structure SyntaxError where
  line : Nat
  message : Octets

/-- A reader of a part of a script. -/
abbrev Parser (α : Type) := StateT Reading (Except SyntaxError) α

namespace Parser

/-- Give up with a message. -/
def fail {α : Type} (message : Octets) : Parser α := do
  throw ⟨(← get).source.line, "Syntax error: " ++ message⟩

/-- Complain about the token that was read last. -/
def unexpected {α : Type} : Parser α := do
  fail ((← get).lastToken.name ++ " unexpected")

/-- Complain about the token that was read last in the place of another one. -/
def unexpectedFor {α : Type} (expected : Token) : Parser α := do
  fail ((← get).lastToken.name ++ " unexpected (expecting " ++ expected.name ++ ")")

/-- Change what is left of the script. -/
def modifySource (change : Source → Source) : Parser Unit :=
  modify fun reading => { reading with source := change reading.source }

/-- The next character of the replacements, what is left of them then, and those that have ended. -/
def nextReplaced? : List Replacement → List Replacement →
    Option (Char × List Replacement) × List Replacement
  | [], ended => (none, ended)
  | replacement :: others, ended =>
      match replacement.rest with
      | character :: rest => (some (character, { replacement with rest } :: others), ended)
      | [] => nextReplaced? others (replacement :: ended)

/-- Read a character. A text that ends with a blank lets the word behind it be an alias, too. -/
def next? : Parser (Option Char) := do
  let reading ← get
  let source := reading.source
  match source.returned with
  | character :: returned =>
      set { reading with source := { source with returned, finished := [] } }
      return some character
  | [] =>
      let (found, ended) := nextReplaced? source.replacements []
      let finished := ended.map Replacement.name
      let attention := { reading.attention with
        aliases := reading.attention.aliases || ended.any Replacement.endsWithBlank }
      match found with
      | some (character, replacements) =>
          set { reading with attention, source := { source with replacements, finished } }
          return some character
      | none =>
          match source.rest with
          | [] =>
              set { reading with
                attention, source := { source with replacements := [], finished } }
              return none
          | character :: rest =>
              set { reading with
                attention, source := { source with replacements := [], finished, rest } }
              return some character

/-- Put a character back. -/
def putBack (character : Option Char) : Parser Unit :=
  match character with
  | none => pure ()
  | some character => modifySource fun source =>
      { source with returned := character :: source.returned }

/-- Count a line. -/
def countLine : Parser Unit :=
  modifySource fun source => { source with line := source.line + 1 }

/-- The greatest number of steps of a reader. -/
def stepLimit : Nat := 10000000

/-- Read a character, behind all joints of lines. -/
def nextJoined : Nat → Parser (Option Char)
  | 0 => pure none
  | fuel + 1 => do
      match ← next? with
      | some '\\' =>
          match ← next? with
          | some '\n' =>
              countLine
              nextJoined fuel
          | other =>
              putBack other
              return some '\\'
      | other => return other

/-- Read a character, behind all joints of lines. -/
def nextJoined? : Parser (Option Char) := nextJoined stepLimit

/-- Read characters with a property, behind joints of lines. The first one without it is returned,
too. -/
def takeJoined (property : Char → Bool) : Nat → Option Char → List Char →
    Parser (List Char × Option Char)
  | 0, character, taken => pure (taken.reverse, character)
  | fuel + 1, character, taken => do
      match character with
      | some found =>
          if property found then
            takeJoined property fuel (← nextJoined? ) (found :: taken)
          else return (taken.reverse, character)
      | none => return (taken.reverse, none)

/-- Pass over a comment up to the end of its line. -/
def skipComment : Nat → Parser Unit
  | 0 => pure ()
  | fuel + 1 => do
      match ← next? with
      | none => pure ()
      | some '\n' => putBack (some '\n')
      | some _ => skipComment fuel

/-- Let the last token be read again. -/
def returnToken : Parser Unit :=
  modify fun reading => { reading with isReturned := true }

/-- Say what the next token is to be looked at for. -/
def attend (attention : Attention) : Parser Unit :=
  modify fun reading => { reading with attention }

/-- Note that a token was read. -/
def found (token : Token) : Parser Token := do
  modify fun reading => { reading with lastToken := token }
  return token

end Parser

end QueryFoundry.Sandbox.Shell
