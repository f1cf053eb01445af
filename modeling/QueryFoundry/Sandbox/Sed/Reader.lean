import QueryFoundry.Sandbox.Sed.Script

/-!
# Reading scripts that edit lines

A script comes in pieces, from arguments and from files. Messages tell the piece and the place up to
which it was read.
-/

namespace QueryFoundry.Sandbox.Sed

open Text (Octets)

/-- A group of commands that is not closed: the place of its first command and of its chunk. -/
structure OpenBlock where
  command : Nat
  expression : Nat
  file : Option (Octets × Nat)

/-- A text that goes on with the next line or the next chunk. -/
structure PendingText where
  command : Nat
  text : List Char

/-- The state of the reader of a script. -/
structure Reading where
  extended : Bool := false
  sandboxed : Bool := false
  /-- What is left of the chunk. -/
  rest : List Char := []
  /-- The number of characters that were read of the chunk. -/
  consumed : Nat := 0
  /-- The number of chunks that come from arguments. -/
  expression : Nat := 0
  /-- The file that the chunk comes from, and the line that is read. -/
  file : Option (Octets × Nat) := none
  isFirstChunk : Bool := true
  commands : Array Command := #[]
  blocks : List OpenBlock := []
  labels : List (Octets × Nat) := []
  pending : Option PendingText := none
  quiet : Bool := false
  /-- The files that are written. -/
  written : List Octets := []

/-- A reader of a part of a script. -/
abbrev Reader (α : Type) := StateT Reading (Except Problem) α

namespace Reader

/-- Give up with a message about the place that was reached. -/
def fail {α : Type} (message : Octets) : Reader α := do
  let reading ← get
  let place := match reading.file with
    | some (name, line) => "file " ++ name ++ " line " ++ toString line
    | none => "-e expression #" ++ toString reading.expression ++ ", char " ++
        toString reading.consumed
  throw { message := place ++ ": " ++ message, written := reading.written }

/-- Count lines up or down. -/
def countLine (character : Char) (change : Nat → Nat) (reading : Reading) : Reading :=
  if character == '\n' then
    { reading with file := reading.file.map fun (name, line) => (name, change line) }
  else reading

/-- Read a character. -/
def next? : Reader (Option Char) := do
  let reading ← get
  match reading.rest with
  | [] => return none
  | character :: rest =>
      set (countLine character (· + 1) { reading with rest, consumed := reading.consumed + 1 })
      return some character

/-- Put a character back. -/
def putBack (character : Option Char) : Reader Unit :=
  match character with
  | none => pure ()
  | some character => modify fun reading =>
      countLine character (· - 1)
        { reading with rest := character :: reading.rest, consumed := reading.consumed - 1 }

/-- Read characters as long as they have a property. -/
def takeWhile (property : Char → Bool) : Reader (List Char) := do
  let taken := (← get).rest.takeWhile property
  taken.forM fun _ => do let _ ← next?
  return taken

/-- Whether a character is blank within a line. -/
def isBlank (character : Char) : Bool :=
  character == ' ' || character == '\t'

/-- Whether a character is blank. -/
def isSpace (character : Char) : Bool :=
  character == ' ' || (9 ≤ character.toNat && character.toNat ≤ 13)

/-- Read the next character that is not blank. -/
def nextNonBlank? : Reader (Option Char) := do
  let _ ← takeWhile isBlank
  next?

/-- The number that starts with a digit; anything else is zero and is put back. -/
def number (first : Option Char) : Reader Nat := do
  match first with
  | some digit =>
      if digit.isDigit then
        let digits := digit :: (← takeWhile Char.isDigit)
        return digits.foldl (fun value digit => value * 10 + (digit.toNat - '0'.toNat)) 0
      else
        putBack first
        return 0
  | none => return 0

/-- Read the end of a command. -/
def endOfCommand : Reader Unit := do
  match ← nextNonBlank? with
  | none | some '\n' | some ';' => pure ()
  | some '#' => putBack (some '#')
  | some '\x7d' => putBack (some '\x7d')
  | some _ => fail "extra characters after command"

end Reader

open Reader (fail next? putBack nextNonBlank? number endOfCommand isBlank isSpace)

/-- How far the text between brackets has been read. -/
inductive BracketState where
  | outside
  /-- Nothing has been read but perhaps a caret. -/
  | opened (hasCaret : Bool)
  | inside
  /-- In a class such as `[:digit:]`, with its mark and whether that was read last. -/
  | inClass (mark : Char) (isMark : Bool)
deriving DecidableEq, Repr

/-- How far the text between brackets has been read behind another character. -/
def BracketState.after (state : BracketState) (character : Char) (next : Option Char) :
    BracketState :=
  match state with
  | outside => if character == '[' then opened false else outside
  | opened hasCaret =>
      if character == '^' && !hasCaret then opened true
      else if character == '[' && (next == some ':' || next == some '.' || next == some '=') then
        inClass (next.getD ':') false
      else inside
  | inside =>
      if character == ']' then outside
      else if character == '[' && (next == some ':' || next == some '.' || next == some '=') then
        inClass (next.getD ':') false
      else inside
  | inClass mark isMark =>
      if isMark && character == ']' then inside else inClass mark (character == mark)

/-- Read up to a delimiter that stands neither behind a backslash nor between brackets. A delimiter
behind a backslash loses that. -/
def untilDelimiter (delimiter : Char) (isRegex : Bool) : Nat → BracketState → List Char →
    Reader (Option (List Char))
  | 0, _, _ => pure none
  | fuel + 1, brackets, read => do
      let go (brackets : BracketState) (characters : List Char) : Reader (Option (List Char)) :=
        untilDelimiter delimiter isRegex fuel brackets (characters ++ read)
      match ← next? with
      | none => return none
      | some '\n' =>
          putBack (some '\n')
          return none
      | some character =>
          if brackets != .outside then
            let following := (← get).rest.head?
            if character == '\\' && following == some 'n' then
              let _ ← next?
              go .inside ['\n']
            else go (brackets.after character following) [character]
          else if character == delimiter then return some read.reverse
          else if character == '\\' then
            match ← next? with
            | none => return none
            | some 'n' =>
                if delimiter == 'n' && isRegex then go .outside ['n']
                else go .outside (if isRegex then ['\n'] else ['n', '\\'])
            | some '\n' => go .outside (if isRegex then ['\n'] else ['\n', '\\'])
            | some other =>
                if other == delimiter && (isRegex || other != '&') then go .outside [other]
                else go .outside [other, '\\']
          else
            let following := (← get).rest.head?
            go (if isRegex then brackets.after character following else .outside) [character]

/-- What a text is for in which escapes are replaced. -/
inductive TextKind where
  | plain
  | regex
  | replacement
deriving DecidableEq, Repr

/-- The value of a digit in a base. -/
def digitValue? (base : Nat) (character : Char) : Option Nat :=
  (Text.hexValue? character).filter (· < base)

/-- The character that some digits denote, and what follows them. -/
def numberedCharacter (base places : Nat) (letter : Char) (text : List Char) : Char × List Char :=
  let digits := (text.take places).takeWhile fun character => (digitValue? base character).isSome
  if digits.isEmpty then (letter, text)
  else
    let value := digits.foldl (fun value digit => value * base + (digitValue? base digit).getD 0) 0
    (Char.ofNat (value % 256), text.drop digits.length)

/-- Replace the escapes for single characters in a text. -/
def replaceEscapes (kind : TextKind) : Nat → List Char → List Char
  | 0, text => text
  | fuel + 1, text =>
      let go := replaceEscapes kind fuel
      let numbered (base places : Nat) (letter : Char) (rest : List Char) : List Char :=
        let (character, behind) := numberedCharacter base places letter rest
        let needsBackslash := character == '\\' || (character == '&' && kind == .replacement) ||
          (character == '\n' && kind == .replacement)
        (if needsBackslash then ['\\', character] else [character]) ++ go behind
      match text with
      | '\\' :: 'a' :: rest => '\x07' :: go rest
      | '\\' :: 'f' :: rest => '\x0c' :: go rest
      | '\\' :: '\n' :: rest => '\n' :: go rest
      | '\\' :: 'n' :: rest => '\n' :: go rest
      | '\\' :: 'r' :: rest => '\r' :: go rest
      | '\\' :: 't' :: rest => '\t' :: go rest
      | '\\' :: 'v' :: rest => '\x0b' :: go rest
      | '\\' :: 'd' :: rest => numbered 10 3 'd' rest
      | '\\' :: 'o' :: rest => numbered 8 3 'o' rest
      | '\\' :: 'x' :: rest => numbered 16 2 'x' rest
      | '\\' :: 'c' :: character :: rest =>
          Char.ofNat (character.toUpper.toNat ^^^ 64) :: go rest
      | '\\' :: other :: rest => '\\' :: other :: go rest
      | character :: rest => character :: go rest
      | [] => []

/-- Replace the escapes for single characters in a text. -/
def unescape (kind : TextKind) (text : List Char) : List Char :=
  replaceEscapes kind (text.length + 1) text

/-- Read a regular expression, which may be missing. -/
def readPattern (text : List Char) (ignoreCase hasLines : Bool) (groupsNeeded : Nat) :
    Reader Pattern := do
  if text.isEmpty then
    if ignoreCase || hasLines then fail "cannot specify modifiers on empty regexp"
    return { regex := none }
  else
    match Regex.parse (← get).extended ignoreCase (unescape .regex text) with
    | .error .bareClass =>
        throw { message := Regex.Problem.bareClass.message, code := 4, written := (← get).written }
    | .error problem => fail problem.message
    | .ok (regex, groups) =>
        if groups < groupsNeeded then
          fail ("invalid reference \\" ++ toString groupsNeeded ++ " on \x60s' command's RHS")
        return { regex := some regex, ignoreCase, hasLines }

/-- Read up to a delimiter. -/
def delimited (delimiter : Char) (isRegex : Bool) (problem : Octets) : Reader (List Char) := do
  let length := (← get).rest.length
  match ← untilDelimiter delimiter isRegex (length + 1) .outside [] with
  | some text => return text
  | none => fail problem

/-- Read the letters behind the pattern of an address. -/
def addressFlags : Nat → Bool → Bool → Reader (Bool × Bool)
  | 0, ignoreCase, hasLines => pure (ignoreCase, hasLines)
  | fuel + 1, ignoreCase, hasLines => do
      match ← nextNonBlank? with
      | some 'I' => addressFlags fuel true hasLines
      | some 'M' => addressFlags fuel ignoreCase true
      | other =>
          putBack other
          return (ignoreCase, hasLines)

/-- Read an address that starts with a character, if one does. -/
def readAddress? (first : Option Char) : Reader (Option Address) := do
  match first with
  | some '$' => return some .last
  | some '+' => return some (.following (← number (← nextNonBlank?)))
  | some '~' => return some (.multiple (← number (← nextNonBlank?)))
  | some character =>
      if character == '/' || character == '\\' then
        let problem := "unterminated address regex"
        let delimiter ← if character == '/' then pure (some '/') else next?
        let text ← match delimiter with
          | some mark => delimited mark true problem
          | none => fail problem
        let (ignoreCase, hasLines) ← addressFlags ((← get).rest.length + 1) false false
        return some (.matching (← readPattern text ignoreCase hasLines 0))
      else if character.isDigit then
        let line ← number first
        match ← nextNonBlank? with
        | some '~' =>
            let step ← number (← nextNonBlank?)
            return some (if step = 0 then .line line else .every line step)
        | other =>
            putBack other
            return some (.line line)
      else return none
  | none => return none

/-- The parts of the text that is put in the place of a match. -/
def replacementParts : List Char → List Char → Casing → Option Casing → List Part
  | [], text, casing, first =>
      if text.isEmpty then [] else [{ text := text.reverse, casing, first }]
  | '\\' :: operator :: rest, text, casing, first =>
      let part : Part := { text := text.reverse, casing, first }
      let go := replacementParts rest []
      match operator with
      | 'L' => part :: go .lower none
      | 'U' => part :: go .upper none
      | 'E' => part :: go .kept none
      | 'l' => part :: go casing (some .lower)
      | 'u' => part :: go casing (some .upper)
      | _ =>
          if operator.isDigit then
            { part with group := some (operator.toNat - '0'.toNat) } :: go casing none
          else { part with text := part.text ++ [operator] } :: go casing none
  | ['\\'], text, casing, first => [{ text := text.reverse ++ ['\\'], casing, first }]
  | '&' :: rest, text, casing, first =>
      { text := text.reverse, group := some 0, casing, first } ::
        replacementParts rest [] casing none
  | character :: rest, text, casing, first =>
      replacementParts rest (character :: text) casing first

/-- The name of a file up to the end of the line. -/
def fileName : Reader Octets := do
  let first ← nextNonBlank?
  putBack first
  let name ← Reader.takeWhile (· != '\n')
  let _ ← next?
  if name.isEmpty then fail "missing filename in r/R/w/W commands"
  return String.ofList name

/-- Where lines are written, as the name of a file tells. -/
def destination : Reader Destination := do
  let name ← fileName
  if name == "/dev/stdout" then return .standard
  else if name == "/dev/stderr" then return .errors
  else
    modify fun reading => { reading with
      written := if reading.written.contains name then reading.written
        else reading.written ++ [name] }
    return .file name

/-- Refuse what reaches out of the stream of lines, if that is not allowed. -/
def refuseInSandbox : Reader Unit := do
  if (← get).sandboxed then fail "e/r/w commands disabled in sandbox mode"

/-- The letters behind a substitution. -/
structure SubstitutionFlags where
  ignoreCase : Bool := false
  hasLines : Bool := false
  everywhere : Bool := false
  nth : Nat := 0
  printsBefore : Bool := false
  printsAfter : Bool := false
  evaluates : Bool := false
  destination : Option Destination := none

/-- Read the letters behind a substitution. -/
def substitutionFlags : Nat → SubstitutionFlags → Reader SubstitutionFlags
  | 0, flags => pure flags
  | fuel + 1, flags => do
      let go := substitutionFlags fuel
      match ← next? with
      | some 'i' | some 'I' => go { flags with ignoreCase := true }
      | some 'm' | some 'M' => go { flags with hasLines := true }
      | some 'e' => go { flags with evaluates := true }
      | some 'p' =>
          if flags.printsBefore || flags.printsAfter then
            fail "multiple \x60p' options to \x60s' command"
          go (if flags.evaluates then { flags with printsAfter := true }
            else { flags with printsBefore := true })
      | some 'g' =>
          if flags.everywhere then fail "multiple \x60g' options to \x60s' command"
          go { flags with everywhere := true }
      | some 'w' =>
          refuseInSandbox
          return { flags with destination := some (← destination) }
      | some '#' =>
          putBack (some '#')
          return flags
      | some '\x7d' =>
          putBack (some '\x7d')
          return flags
      | none | some '\n' | some ';' => return flags
      | some '\r' =>
          match ← next? with
          | some '\n' => return flags
          | _ => fail "unknown option to \x60s'"
      | some character =>
          if isBlank character then go flags
          else if character.isDigit then
            if flags.nth != 0 then fail "multiple number options to \x60s' command"
            let nth ← number (some character)
            if nth = 0 then fail "number option to \x60s' command may not be zero"
            go { flags with nth }
          else fail "unknown option to \x60s'"

/-- Read a substitution behind its letter. -/
def readSubstitution : Reader Substitution := do
  let problem := "unterminated \x60s' command"
  match ← next? with
  | none => fail problem
  | some delimiter =>
      if delimiter == '\n' || delimiter == '\\' && (← get).rest.isEmpty then
        putBack (some delimiter)
        fail problem
      let regex ← delimited delimiter true problem
      let text ← delimited delimiter false problem
      let parts := replacementParts (unescape .replacement text) [] .kept none
      let flags ← substitutionFlags ((← get).rest.length + 1) {}
      if flags.evaluates then refuseInSandbox
      let groupsNeeded := parts.foldl (fun most part => max most (part.group.getD 0)) 0
      let pattern ← readPattern regex flags.ignoreCase flags.hasLines groupsNeeded
      return { pattern, parts, everywhere := flags.everywhere, nth := flags.nth
               printsBefore := flags.printsBefore, printsAfter := flags.printsAfter
               evaluates := flags.evaluates, destination := flags.destination }

/-- The characters of a transliteration, without backslashes. -/
def withoutBackslashes : List Char → List Char
  | '\\' :: character :: rest => character :: withoutBackslashes rest
  | character :: rest => character :: withoutBackslashes rest
  | [] => []

/-- Read a transliteration behind its letter. -/
def readTransliteration : Reader (List (Char × Char)) := do
  let problem := "unterminated \x60y' command"
  match ← next? with
  | none => fail problem
  | some delimiter =>
      let sources ← delimited delimiter false problem
      let targets ← delimited delimiter false problem
      let first := withoutBackslashes (unescape .plain sources)
      let second := withoutBackslashes (unescape .plain targets)
      if first.length != second.length then
        fail "strings for \x60y' command are different lengths"
      endOfCommand
      return first.zip second

/-- Read a label. -/
def readLabel : Reader Octets := do
  let _ ← Reader.takeWhile isBlank
  let label ← Reader.takeWhile fun character =>
    !isSpace character && !([';', '\x7d', '#'].contains character)
  return String.ofList label

/-- Let the text of a command go on with what is left of the line. A line that ends with a backslash
is followed by another one. The flag tells whether the text is complete. -/
def readTextLine : Nat → List Char → Reader (List Char × Bool)
  | 0, text => pure (text, true)
  | fuel + 1, text => do
      match ← next? with
      | none => return ('\n' :: text, true)
      | some '\n' => return ('\n' :: text, true)
      | some '\\' =>
          match ← next? with
          | none => return ('\n' :: text, false)
          | some character => readTextLine fuel (character :: '\\' :: text)
      | some character => readTextLine fuel (character :: text)

/-- Put a text into the command that it belongs to. -/
def setText (command : Nat) (text : List Char) : Reader Unit :=
  modify fun reading => { reading with
    commands := reading.commands.modify command fun old => { old with
      action := match old.action with
        | .append _ => .append text
        | .insert _ => .insert text
        | .change _ => .change text
        | .execute _ => .execute text
        | other => other } }

/-- Read the text of a command, which may go on in the next chunk. -/
def readText (command : Nat) (soFar : List Char) : Reader Unit := do
  let (text, isComplete) ← readTextLine ((← get).rest.length + 1) soFar
  setText command (withoutBackslashes (unescape .plain text.reverse))
  modify fun reading => { reading with
    pending := if isComplete then none else some { command, text } }

/-- Read the text of a command behind its letter. The text starts in the same line or behind a
backslash in the next one. -/
def startText (command : Nat) : Reader Unit := do
  match ← nextNonBlank? with
  | none => fail "expected \\ after \x60a', \x60c' or \x60i'"
  | some '\\' =>
      match ← next? with
      | none => modify fun reading => { reading with pending := some { command, text := [] } }
      | some '\n' => readText command []
      | other =>
          putBack other
          readText command []
  | other =>
      putBack other
      readText command []

/-- Add a command. -/
def addCommand (command : Command) : Reader Nat := do
  let place := (← get).commands.size
  modify fun reading => { reading with commands := reading.commands.push command }
  return place

/-- Refuse a range of lines. -/
def refuseRange (stop : Option Address) : Reader Unit := do
  if stop.isSome then fail "command only uses one address"

/-- The number behind a command, if there is one. -/
def trailingNumber? : Reader (Option Nat) := do
  let first ← nextNonBlank?
  let found ← match first with
    | some digit =>
        if digit.isDigit then some <$> number first
        else
          putBack first
          pure none
    | none => pure none
  endOfCommand
  return found

/-- Whether a comment at the very start of a script asks for silence. -/
def asksForSilence : Reader Bool := do
  let reading ← get
  return reading.isFirstChunk && reading.rest.head? == some 'n' &&
    (if reading.file.isSome then reading.file.any (·.2 == 1) && reading.consumed == 1
      else reading.consumed == 1)

/-- Read the command that a letter stands for. -/
def readAction (start stop : Option Address) (negated : Bool) (letter : Char) : Reader Unit := do
  let add (action : Action) : Reader Unit := do
    let _ ← addCommand { start, stop, negated, action }
  let plain (action : Action) : Reader Unit := do
    endOfCommand
    add action
  let withText (action : Action) : Reader Unit := do
    startText (← addCommand { start, stop, negated, action })
  match letter with
  | '#' =>
      if start.isSome then fail "comments don't accept any addresses"
      if ← asksForSilence then modify fun reading => { reading with quiet := true }
      let _ ← Reader.takeWhile (· != '\n')
  | 'v' =>
      let version ← readLabel
      let parts := (version.splitOn ".").map fun part => part.toNat?.getD 0
      let major := parts.headD 0
      if 4 < major || (major == 4 && 9 < parts[1]?.getD 0) then
        fail "expected newer version of sed"
  | '\x7b' =>
      let reading ← get
      set { reading with
        blocks := ⟨reading.commands.size, reading.expression, reading.file⟩ :: reading.blocks }
      add (.block 0)
  | '\x7d' =>
      match (← get).blocks with
      | [] => fail "unexpected \x60\x7d'"
      | innermost :: others =>
          if start.isSome then fail "\x60\x7d' doesn't want any addresses"
          endOfCommand
          modify fun reading => { reading with
            blocks := others
            commands := reading.commands.modify innermost.command fun old =>
              { old with action := .block reading.commands.size } }
          add .nothing
  | 'e' =>
      refuseInSandbox
      let first ← nextNonBlank?
      match first with
      | none | some '\n' => add (.execute [])
      | _ =>
          putBack first
          withText (.execute [])
  | 'a' => withText (.append [])
  | 'i' => withText (.insert [])
  | 'c' => withText (.change [])
  | ':' =>
      if start.isSome then fail ": doesn't want any addresses"
      let label ← readLabel
      if label.isEmpty then fail "\":\" lacks a label"
      modify fun reading => { reading with
        labels := reading.labels ++ [(label, reading.commands.size)] }
      add .nothing
  | 'b' => add (.jump .always (← readLabel) 0)
  | 't' => add (.jump .replaced (← readLabel) 0)
  | 'T' => add (.jump .notReplaced (← readLabel) 0)
  | 'q' =>
      refuseRange stop
      add (.quit true ((← trailingNumber?).getD 0))
  | 'Q' =>
      refuseRange stop
      add (.quit false ((← trailingNumber?).getD 0))
  | 'l' => add (.list (← trailingNumber?))
  | '=' => plain .showNumber
  | 'd' => plain .delete
  | 'D' => plain .deleteFirstLine
  | 'F' => plain .showName
  | 'g' => plain (.takeHeld false)
  | 'G' => plain (.takeHeld true)
  | 'h' => plain (.hold false)
  | 'H' => plain (.hold true)
  | 'n' => plain (.next false)
  | 'N' => plain (.next true)
  | 'p' => plain .print
  | 'P' => plain .printFirstLine
  | 'z' => plain .clear
  | 'x' => plain .exchange
  | 'r' =>
      refuseInSandbox
      add (.readFile (← fileName))
  | 'R' =>
      refuseInSandbox
      add (.readLine (← fileName))
  | 'w' =>
      refuseInSandbox
      add (.write (← destination) false)
  | 'W' =>
      refuseInSandbox
      add (.write (← destination) true)
  | 's' => add (.substitute (← readSubstitution))
  | 'y' => add (.transliterate (← readTransliteration))
  | _ => fail ("unknown command: \x60" ++ String.singleton letter ++ "'")

/-- Whether an address only makes sense at the end of a range. -/
def Address.isRelative : Address → Bool
  | .following _ | .multiple _ => true
  | _ => false

/-- Whether a range may start in front of the first line. -/
def mayStartAtZero (stop : Option Address) : Bool :=
  match stop with
  | some (.matching _) => true
  | _ => false

/-- Read the lines that a command is for, and the first character behind them. -/
def readAddresses (first : Option Char) : Reader (Option Address × Option Address × Option Char) := do
  match ← readAddress? first with
  | none => return (none, none, first)
  | some start =>
      if start.isRelative then fail "invalid usage of +N or ~N as first address"
      let behind ← nextNonBlank?
      let (stop, after) ←
        if behind == some ',' then
          match ← readAddress? (← nextNonBlank?) with
          | none => fail "unexpected \x60,'"
          | stop => pure (stop, ← nextNonBlank?)
        else pure (none, behind)
      match start with
      | .line 0 =>
          let reads := stop.isNone && after == some 'r'
          if !(mayStartAtZero stop) && !reads then fail "invalid usage of line address 0"
      | _ => pure ()
      return (some start, stop, after)

/-- Read a command. There may be none left. -/
def readCommand : Reader Bool := do
  let _ ← Reader.takeWhile fun character => isSpace character || character == ';'
  match ← next? with
  | none => return false
  | first =>
      let (start, stop, after) ← readAddresses first
      let (negated, letter) ←
        if after == some '!' then
          let behind ← nextNonBlank?
          if behind == some '!' then fail "multiple \x60!'s"
          pure (true, behind)
        else pure (false, after)
      match letter with
      | none => fail "missing command"
      | some letter => readAction start stop negated letter
      return true

/-- Read commands. -/
def readCommands : Nat → Reader Unit
  | 0 => pure ()
  | fuel + 1 => do
      if ← readCommand then readCommands fuel

/-- Read a chunk. -/
def readChunk (chunk : Chunk) : Reader Unit := do
  modify fun reading => { reading with
    rest := chunk.text, consumed := 0, file := chunk.file.map (·, 1)
    expression := if chunk.file.isSome then reading.expression else reading.expression + 1 }
  match (← get).pending with
  | some pending => readText pending.command pending.text
  | none => pure ()
  readCommands (chunk.text.length + 1)
  modify fun reading => { reading with isFirstChunk := false }

/-- Let a jump lead to its label. -/
def resolveJump (reading : Reading) (command : Command) : Except Problem Command := do
  match command.action with
  | .jump condition label _ =>
      if label.isEmpty then return { command with action := .jump condition label reading.commands.size }
      else
        match reading.labels.lookup label with
        | some target => return { command with action := .jump condition label target }
        | none =>
            throw { message := "can't find label for jump to \x60" ++ label ++ "'", code := 4
                    written := reading.written }
  | _ => return command

namespace Reading

/-- Read another chunk. -/
def add (reading : Reading) (chunk : Chunk) : Except Problem Reading := do
  let (_, result) ← (readChunk chunk).run reading
  return result

/-- The script that was read, once no chunk is left. -/
def finish (reading : Reading) : Except Problem Script := do
  match reading.blocks with
  | block :: _ =>
      let place := match block.file with
        | some (name, line) => "file " ++ name ++ " line " ++ toString line
        | none => "-e expression #" ++ toString block.expression ++ ", char 0"
      throw { message := place ++ ": unmatched \x60\x7b'", written := reading.written }
  | [] => pure ()
  let commands ← reading.commands.mapM (resolveJump reading)
  return { commands, quiet := reading.quiet, written := reading.written }

end Reading

end QueryFoundry.Sandbox.Sed
