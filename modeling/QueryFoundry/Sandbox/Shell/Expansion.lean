import QueryFoundry.Sandbox.Shell.Arithmetic
import QueryFoundry.Sandbox.Shell.Builtins

/-!
# Expanding parameters

What the values of parameters become in words, where tildes stand for home directories, and how
parts of values are cut off.
-/

namespace QueryFoundry.Sandbox.Shell

open Text (Octets)

/-- Where a word stands that is expanded. -/
structure Scope where
  /-- Whether the word is split into fields. -/
  splits : Bool := false
  /-- Whether all around the word is quoted. -/
  quoted : Bool := false
  /-- Whether text that is written without quotes is split, too. -/
  splitsText : Bool := false
  /-- Whether a tilde at the start stands for a directory. -/
  tilde : Bool := true
  /-- Whether a tilde behind a colon does. -/
  colons : Bool := false

/-- The scope of a word that is put in place of a parameter. -/
def Scope.inner (scope : Scope) (quoted : Bool) : Scope :=
  { scope with quoted, splitsText := !quoted, tilde := true }

/-- The home directories of the users of the system. -/
def homeDirectories : List (Octets × Octets) :=
  [("root", "/root"), ("daemon", "/usr/sbin"), ("bin", "/bin"), ("sys", "/dev"),
    ("sync", "/bin"), ("games", "/usr/games"), ("man", "/var/cache/man"),
    ("lp", "/var/spool/lpd"), ("mail", "/var/mail"), ("news", "/var/spool/news"),
    ("uucp", "/var/spool/uucp"), ("proxy", "/bin"), ("www-data", "/var/www"),
    ("backup", "/var/backups"), ("list", "/var/list"), ("irc", "/run/ircd"),
    ("_apt", "/nonexistent"), ("nobody", "/nonexistent")]

/-- The directory that a tilde with a name stands for. -/
def homeOf? (name : Octets) : Shell (Option Octets) := do
  if name.isEmpty then valueOf? "HOME" else return homeDirectories.lookup name

/-- Cut a text at the tildes that may stand for directories. A piece is marked if it is the name
behind a tilde. `isLast` tells whether the text ends the word. -/
def splitTildes (colons isLast : Bool) : Nat → Bool → List Char → List (Bool × List Char)
  | 0, _, text => [(false, text)]
  | fuel + 1, mayStart, text =>
      let endsName (character : Char) : Bool :=
        character == '/' || (colons && character == ':')
      let plain (text : List Char) : List (Bool × List Char) :=
        if colons then
          let (before, behind) := text.span (· != ':')
          match behind with
          | colon :: rest => (false, before ++ [colon]) :: splitTildes colons isLast fuel true rest
          | [] => [(false, before)]
        else [(false, text)]
      match mayStart, text with
      | _, [] => []
      | true, '~' :: rest =>
          let (name, behind) := rest.span (!endsName ·)
          if isLast || !behind.isEmpty then (true, name) :: plain behind else plain text
      | _, _ => plain text

/-- The glyphs of a text that is written without quotes. -/
def expandText (scope : Scope) (atStart isLast : Bool) (text : Octets) : Shell Expansion := do
  let breaking := if scope.splitsText then Breaking.atSeparators else .never
  let parts := splitTildes scope.colons isLast (text.length + 1) (atStart && scope.tilde)
    text.toList
  parts.mapM fun (isTilde, characters) => do
    let part := String.ofList characters
    if isTilde then
      match ← homeOf? part with
      | some home => return ⟨.never, glyphsOf true home⟩
      | none => return ⟨breaking, glyphsOf false ("~" ++ part)⟩
    else return ⟨breaking, glyphsOf scope.quoted part⟩

/-- The text of all arguments of the shell, with what stands between them. -/
def argumentText (scope : Scope) (quoted isList : Bool) : Shell Octets := do
  let arguments := (← get).arguments
  let separators? ← valueOf? "IFS"
  let separator : Option Char :=
    if scope.splits && quoted && isList then some '\x00'
    else
      match separators? with
      | none => some ' '
      | some separators =>
          if scope.splits && !quoted then some '\x00' else separators.toList.head?
  return (String.ofList separator.toList).intercalate arguments

/-- The longest or shortest part at one end of a text that a pattern stands for is cut off. -/
def cutMatch (atEnd longest : Bool) (pattern : List Pattern.Item) (text : Octets) : Octets :=
  let characters := text.toList
  let lengths := List.range (characters.length + 1)
  let ordered := if longest then lengths.reverse else lengths
  let part (length : Nat) : List Char × List Char :=
    if atEnd then
      (characters.drop (characters.length - length), characters.take (characters.length - length))
    else (characters.take length, characters.drop length)
  match ordered.find? fun length => Pattern.matchesText pattern (part length).1 with
  | some length => String.ofList (part length).2
  | none => text

/-- Drop line feeds at the end of a text, and all zero bytes in it. -/
def trimOutput (text : Octets) : Octets :=
  String.ofList (((text.toList.filter (· != '\x00')).reverse.dropWhile (· == '\n')).reverse)

/-- What a text becomes that is put into a word. -/
def yielded (quoted : Bool) (text : Octets) : Expansion :=
  [⟨if quoted then .never else .atSeparators, glyphsOf quoted text⟩]

/-- What the value of a parameter becomes. -/
def yieldedValue (name : Octets) (quoted : Bool) (text : Octets) : Shell Expansion := do
  if quoted && name == "@" && !(← get).arguments.isEmpty then
    return [⟨.atBorders, glyphsOf true text⟩]
  else return yielded quoted text

/-- Evaluate an expression and give its values to variables. -/
def evaluateArithmetic (text : Octets) : Shell Octets := do
  let bindings := (← get).bindings
  match Arithmetic.evaluate (fun name => (bindings.lookup name).getD "") text with
  | .error .tooGreat =>
      let reply ← ask .processId
      let process : Int := match reply with
        | .numbers own _ => own
        | _ => 0
      let _ ← ask (.sendSignal process 8)
      return ""
  | .error problem => giveUp (problem.message text)
  | .ok (value, assigned) =>
      assigned.forM fun (name, number) => assign name (toString number)
      return toString value

end QueryFoundry.Sandbox.Shell
