import QueryFoundry.Sandbox.Sed.Script
import QueryFoundry.Sandbox.Task

/-!
# Editing streams of lines

A script is carried out for each line of some files. What it prints is collected and written when
there is much of it and at the end.
-/

namespace QueryFoundry.Sandbox.Sed

open Text (Octets)

/-- How lines are edited. -/
structure Settings where
  /-- Whether each file is edited for itself. -/
  separate : Bool := false
  /-- What is added to the names of files that are kept when they are changed in place. -/
  inPlace : Option Octets := none
  /-- Whether lines end with zero bytes. -/
  zeroEnded : Bool := false
  unbuffered : Bool := false
  /-- Whether the last line is lost if another one is to be added to it. -/
  strict : Bool := false
  lineLength : Nat := 70
  environment : Environment := []

/-- A file that is read. -/
structure Input where
  name : Octets
  descriptor : Nat
  /-- What was read and not used. -/
  buffer : List Char := []
  isEnded : Bool := false

/-- Whether a range of lines has started. -/
inductive RangeState where
  | outside
  /-- It has; it may end with a certain line. -/
  | inside (stop : Option Nat)
  /-- It has ended and does not start again. -/
  | closed
deriving DecidableEq

/-- What is printed at the end of a round. -/
inductive Queued where
  | text (value : List Char)
  | file (path : Octets)

/-- The state of an editor. -/
structure Editor where
  settings : Settings
  script : Script
  /-- The files that were not opened. -/
  files : List Octets
  input : Option Input := none
  /-- Whether the next line is the first one of a file that is edited for itself. -/
  startsFile : Bool := true
  /-- The name of the file that was opened last. -/
  name : Octets := "-"
  lineNumber : Nat := 0
  space : List Char := []
  /-- Whether the line that is edited had an end. -/
  hasEnd : Bool := true
  held : List Char := []
  heldHasEnd : Bool := true
  ranges : List (Nat × RangeState) := []
  /-- Whether something was replaced since the last line was read. -/
  replaced : Bool := false
  queue : List Queued := []
  lastPattern : Option Pattern := none
  /-- What was printed into the file that is changed in place. -/
  edited : List Octets := []
  /-- What was printed and not written. -/
  pending : List Octets := []
  pendingLength : Nat := 0
  /-- The destinations whose last line lacks its end. -/
  unended : List Destination := []
  /-- The descriptors of the files that are written. -/
  opened : List (Octets × Nat) := []
  /-- The files of which lines are read one by one. -/
  sources : List (Octets × Option Input) := []
  hasBadFile : Bool := false

/-- An action of an editor, which may end the program. -/
abbrev Editing (α : Type) := ExceptT UInt8 (StateT Editor Program) α

namespace Editing

/-- Do something that is no business of the editor. -/
def perform {α : Type} (program : Program α) : Editing α :=
  ExceptT.lift (StateT.lift program)

/-- Print an error message. -/
def complain (message : Octets) : Editing Unit :=
  perform (Program.complain ("sed: " ++ message ++ "\n"))

/-- End the program with an error message. -/
def panic {α : Type} (message : Octets) : Editing α := do
  complain message
  throw 4

/-- The words about an error. -/
def errorText : IoError → Octets
  | .os errno => errnoText errno
  | other => other.message

/-- The character that lines end with. -/
def lineEnd : Editing Char := do
  return if (← get).settings.zeroEnded then '\x00' else '\n'

/-- Write what was printed. -/
def flush : Editing Unit := do
  let pending := (← get).pending
  modify fun editor => { editor with pending := [], pendingLength := 0 }
  match ← perform (Program.tryWrite 1 (String.join pending.reverse)) with
  | .ok () => pure ()
  | .error error => panic ("couldn't flush stdout: " ++ errorText error)

/-- The amount of text that is written at once. -/
def bufferSize : Nat := 4096

/-- Print a text to the standard output. -/
def emitToStandard (text : Octets) : Editing Unit := do
  modify fun editor => { editor with
    pending := text :: editor.pending, pendingLength := editor.pendingLength + text.length }
  let editor ← get
  if editor.settings.unbuffered || bufferSize ≤ editor.pendingLength then flush

/-- Print a text, into the file that is changed in place if there is one. -/
def emit (text : Octets) : Editing Unit := do
  if (← get).settings.inPlace.isSome then
    modify fun editor => { editor with edited := text :: editor.edited }
  else emitToStandard text

/-- Write a text to a destination. -/
def send (destination : Destination) (text : Octets) : Editing Unit := do
  match destination with
  | .output => emit text
  | .standard => emitToStandard text
  | .errors => perform (Program.complain text)
  | .file path =>
      match (← get).opened.lookup path with
      | none => pure ()
      | some descriptor =>
          match ← perform (Program.tryWrite descriptor text) with
          | .ok () => pure ()
          | .error error => panic ("couldn't flush <unknown>: " ++ errorText error)

/-- End the last line of a destination if that lacks its end. -/
def completeLine (destination : Destination) : Editing Unit := do
  if (← get).unended.contains destination then
    modify fun editor => { editor with unended := editor.unended.filter (· != destination) }
    send destination (String.singleton (← lineEnd))

/-- Write a line, which may lack its end. -/
def sendLine (destination : Destination) (text : List Char) (hasEnd : Bool) : Editing Unit := do
  completeLine destination
  let ending ← lineEnd
  send destination (String.ofList (text ++ if hasEnd then [ending] else []))
  if !hasEnd then
    modify fun editor => { editor with unended := destination :: editor.unended }

/-- Write the line that is edited. -/
def sendSpace (destination : Destination) : Editing Unit := do
  let editor ← get
  sendLine destination editor.space editor.hasEnd

/-- Print lines that are no part of the input. -/
def emitText (text : List Char) : Editing Unit := do
  completeLine .output
  emit (String.ofList text)

/-- Print a text that ends with a line end as a line of the output. -/
def emitLine (text : List Char) : Editing Unit := do
  let ending ← lineEnd
  emitText (if text.isEmpty then [] else text.dropLast ++ [ending])

/-- Read more of a file. -/
def refill (input : Input) : Editing Input := do
  if input.isEnded then return input
  else
    match ← perform (Program.ask (.read input.descriptor Program.chunk)) with
    | .octets data =>
        if data.isEmpty then return { input with isEnded := true }
        else return { input with buffer := input.buffer ++ data.toList }
    | .failed error => panic ("read error on " ++ input.name ++ ": " ++ errorText error)
    | _ => return { input with isEnded := true }

/-- Read a file up to its next line end, at most a number of pieces. -/
def refillLine (ending : Char) : Nat → Input → Editing Input
  | 0, input => pure input
  | fuel + 1, input => do
      if input.isEnded || input.buffer.contains ending then return input
      else refillLine ending fuel (← refill input)

/-- Close a file. -/
def close (input : Input) : Editing Unit := do
  if input.descriptor != 0 then
    let _ ← perform (Program.ask (.close input.descriptor))

/-- Take the next line of a file, and tell whether it has an end. -/
def takeLine? (input : Input) : Editing (Option (List Char × Bool) × Input) := do
  let ending ← lineEnd
  let filled ← refillLine ending Program.readLimit input
  let (line, behind) := filled.buffer.span (· != ending)
  match behind with
  | _ :: rest => return (some (line, true), { filled with buffer := rest })
  | [] =>
      if line.isEmpty then return (none, filled)
      else return (some (line, false), { filled with buffer := [] })

/-- Open a file for reading, or tell why that fails. -/
def openInput? (name : Octets) : Editing (Option Input) := do
  let inPlace := (← get).settings.inPlace.isSome
  let missing (error : IoError) : Editing (Option Input) := do
    complain ("can't read " ++ name ++ ": " ++ errorText error)
    modify fun editor => { editor with hasBadFile := true }
    return none
  if name == "-" && !inPlace then return some { name, descriptor := 0 }
  else
    match ← perform (Program.ask (.openFile name .read)) with
    | .number descriptor =>
        if inPlace && !(← perform (Program.status? name)).any Entry.isFile then
          panic ("couldn't edit " ++ name ++ ": not a regular file")
        return some { name, descriptor }
    | .failed error => missing error
    | _ => missing .notFound

/-- The name of the file that is kept when a file is changed in place. -/
def backupName (path ending : Octets) : Octets :=
  let pieces := path.splitOn "/"
  let name := pieces.getLast?.getD path
  let backup := if ending.toList.contains '*' then
      String.ofList (ending.toList.flatMap fun character =>
        if character == '*' then name.toList else [character])
    else name ++ ending
  if backup.toList.contains '/' then backup
  else "/".intercalate (pieces.dropLast ++ [backup])

/-- Put what was printed in the place of a file. -/
def replaceFile (path : Octets) : Editing Unit := do
  let editor ← get
  match editor.settings.inPlace with
  | none => pure ()
  | some ending =>
      let executable := match ← perform (Program.status? path) with
        | some (.file _ executable) => executable
        | _ => false
      if ending.isEmpty then
        let _ ← perform (Program.attempt (.removeFile path))
      else
        match ← perform (Program.attempt (.rename path (backupName path ending))) with
        | .ok () => pure ()
        | .error error => panic ("cannot rename " ++ path ++ ": " ++ errorText error)
      let _ ← perform (Program.writeFile path (String.join editor.edited.reverse))
      if executable then
        let _ ← perform (Program.attempt (.setExecutable path true))
      modify fun editor => { editor with
        edited := [], unended := editor.unended.filter (· != .output) }

/-- Close the file that is read. -/
def closeInput : Editing Unit := do
  match (← get).input with
  | none => pure ()
  | some input =>
      close input
      replaceFile input.name
      modify fun editor => { editor with
        input := none, startsFile := editor.settings.separate }

/-- Open the next of the files that are left, if one can be opened. -/
def openNext : List Octets → Editing Bool
  | [] => do
      modify fun editor => { editor with files := [] }
      return false
  | name :: rest => do
      modify fun editor => { editor with files := rest }
      match ← openInput? name with
      | some input =>
          modify fun editor => { editor with input := some input, name }
          return true
      | none => openNext rest

/-- The greatest number of files. -/
def fileLimit : Nat := 100000

/-- Go to the next file that has something left to read, if there is one. Where `stays` holds, only
the current file counts. -/
def seek (stays : Bool) : Nat → Editing Bool
  | 0 => pure false
  | fuel + 1 => do
      match (← get).input with
      | some input =>
          let filled ← if input.buffer.isEmpty then refill input else pure input
          modify fun editor => { editor with input := some filled }
          if !filled.buffer.isEmpty then return true
          else if !filled.isEnded then seek stays fuel
          else if stays then return false
          else
            closeInput
            seek stays fuel
      | none => if ← openNext (← get).files then seek stays fuel else return false

/-- Whether the current line is the last one. -/
def isLast : Editing Bool := do
  let editor ← get
  match editor.settings.separate, editor.input with
  | true, none => return true
  | separate, _ => return !(← seek separate fileLimit)

/-- Print what is to be printed at the end of a round. -/
def printQueue : Editing Unit := do
  let queue := (← get).queue
  modify fun editor => { editor with queue := [] }
  queue.forM fun item => do
    match item with
    | .text value => emitText value
    | .file path =>
        let content ←
          if path == "/dev/stdin" then perform (Program.readAll 0 Program.readLimit [])
          else perform (Program.readFile path)
        match content with
        | .ok text => if !text.isEmpty then emitText text.toList
        | .error _ => pure ()

/-- The ranges of a script that have started before its first line. -/
def initialRanges (script : Script) : List (Nat × RangeState) :=
  script.commands.toList.zipIdx.filterMap fun (command, place) =>
    match command.start, command.stop with
    | some (.line 0), some _ => some (place, .inside none)
    | _, _ => none

/-- Read the next line, in place of the one that is edited or behind it. -/
def readLine (adds : Bool) : Editing Bool := do
  printQueue
  modify fun editor => { editor with replaced := false }
  if !(← seek false fileLimit) then return false
  else
    if (← get).startsFile then
      (← get).sources.forM fun (_, source) => source.forM close
      modify fun editor => { editor with
        startsFile := false, lineNumber := 0, held := [], heldHasEnd := true, sources := []
        ranges := initialRanges editor.script }
    match (← get).input with
    | none => return false
    | some input =>
        match ← takeLine? input with
        | (none, _) => return false
        | (some (line, hasEnd), rest) =>
            let ending ← lineEnd
            modify fun editor => { editor with
              input := some rest, hasEnd, lineNumber := editor.lineNumber + 1
              space := if adds then editor.space ++ ending :: line else line }
            return true

/-- The expression that a pattern stands for. -/
def meantPattern (pattern : Pattern) : Editing Pattern := do
  match pattern.regex with
  | some _ =>
      modify fun editor => { editor with lastPattern := some pattern }
      return pattern
  | none =>
      match (← get).lastPattern with
      | some last => return last
      | none =>
          complain "-e expression #1, char 0: no previous regular expression"
          throw 1

/-- Look for a pattern in the line that is edited, from a place on. -/
def find? (lineEnd : Char) (pattern : Pattern) (characters : Array Char) (start : Nat) :
    Option Regex.Found :=
  pattern.regex.bind fun regex =>
    Regex.find? regex pattern.ignoreCase (if pattern.hasLines then some lineEnd else none)
      characters start

/-- Whether an address means the current line. -/
def isMeant (address : Address) : Editing Bool := do
  let editor ← get
  match address with
  | .line number => return editor.lineNumber == number
  | .last => isLast
  | .matching pattern =>
      let meant ← meantPattern pattern
      return (find? (← lineEnd) meant editor.space.toArray 0).isSome
  | .every first step =>
      return first ≤ editor.lineNumber && (editor.lineNumber - first) % step == 0
  | .following _ | .multiple _ => return false

/-- Set whether the range of a command has started. -/
def setRange (place : Nat) (range : RangeState) : Editing Unit :=
  modify fun editor => { editor with
    ranges := (place, range) :: editor.ranges.filter (·.1 != place) }

/-- Where a range ends that starts with the current line, if that is a certain line. -/
def rangeStop (lineNumber : Nat) : Address → Option Nat
  | .line number => some number
  | .following count => some (lineNumber + count)
  | .multiple factor =>
      some (if factor = 0 then lineNumber else (lineNumber / factor + 1) * factor)
  | _ => none

/-- Whether a range starts with the current line. One that starts with a certain line starts with the
first line behind it if that line is passed over. -/
def startsRange (start : Address) : Editing Bool := do
  match start with
  | .line number => return number ≤ (← get).lineNumber
  | _ => isMeant start

/-- Whether the current line is in the range of a command. -/
def isInRange (place : Nat) (start stop : Address) : Editing Bool := do
  let lineNumber := (← get).lineNumber
  let ended : RangeState := if start matches .line _ then .closed else .outside
  let isFixed := stop matches .line _
  match ((← get).ranges.lookup place).getD .outside with
  | .closed => return false
  | .outside =>
      if !(← startsRange start) then return false
      else
        match rangeStop lineNumber stop with
        | some last =>
            setRange place (if lineNumber < last then .inside (some last) else ended)
            let isFirst := match start with
              | .line number => number == lineNumber
              | _ => true
            return !isFixed || lineNumber ≤ last || isFirst
        | none =>
            let isOver ← if stop matches .matching _ then pure false else isMeant stop
            setRange place (if isOver then ended else .inside none)
            return true
  | .inside (some last) =>
      if last ≤ lineNumber then setRange place ended
      return !isFixed || lineNumber ≤ last
  | .inside none =>
      if ← isMeant stop then setRange place ended
      return true

/-- Whether a command is for the current line. -/
def isFor (place : Nat) (command : Command) : Editing Bool := do
  let meant ← match command.start, command.stop with
    | none, _ => pure true
    | some start, none => isMeant start
    | some start, some stop => isInRange place start stop
  return meant != command.negated

/-- Give letters a case, the first one perhaps another than the others. -/
def withCase (casing : Casing) (first : Option Casing) (text : List Char) : List Char :=
  let change (casing : Casing) (character : Char) : Char :=
    match casing with
    | .kept => character
    | .upper => character.toUpper
    | .lower => character.toLower
  match first, text with
  | some special, letter :: rest => change special letter :: rest.map (change casing)
  | _, _ => text.map (change casing)

/-- The text that the parts of a replacement make of a match. A case for one letter that meets no
letter is kept for the next part. -/
def replacementText (characters : Array Char) (found : Regex.Found) :
    List Part → Option Casing → List Char
  | [], _ => []
  | part :: rest, carried =>
      let first := part.first <|> carried
      let start := withCase part.casing first part.text
      let left := if part.text.isEmpty then first else none
      let covered := match part.group with
        | none => none
        | some 0 => some (found.start, found.stop)
        | some index => found.groups.lookup index
      match covered with
      | none => start ++ replacementText characters found rest none
      | some (low, high) =>
          let text := (characters.extract low high).toList
          let isCarried := text.isEmpty && part.first.isSome
          start ++ withCase part.casing left text ++
            replacementText characters found rest (if isCarried then left else none)

/-- Replace matches in a line from a place on. The result is built in reverse order. The flag tells
whether something was replaced. -/
def replaceFrom (substitution : Substitution) (find : Nat → Option Regex.Found)
    (characters : Array Char) :
    Nat → Nat → Option Nat → Nat → List Char → List Char × Bool → List Char × Bool
  | 0, _, _, _, _, (built, replaced) => (built, replaced)
  | fuel + 1, start, behind, count, _, (built, replaced) =>
      let rest (place : Nat) (built : List Char) : List Char :=
        (characters.extract place characters.size).toList.reverse ++ built
      if characters.size < start then (built, replaced)
      else
        match find start with
        | none => (rest start built, replaced)
        | some found =>
            let copied := (characters.extract start found.start).toList.reverse ++ built
            let isEmpty := found.start == found.stop
            let go := replaceFrom substitution find characters fuel
            let pass (built : List Char) : List Char :=
              match characters[found.start]? with
              | some character => character :: built
              | none => built
            if isEmpty && behind == some found.start then
              go (found.start + 1) none count [] (pass copied, replaced)
            else
              let isReplaced := substitution.nth ≤ count + 1
              let text := if isReplaced then
                  replacementText characters found substitution.parts none
                else (characters.extract found.start found.stop).toList
              let added := text.reverse ++ copied
              if isReplaced && !substitution.everywhere then (rest found.stop added, true)
              else if isEmpty then
                go (found.start + 1) none (count + 1) [] (pass added, replaced || isReplaced)
              else
                go found.stop (some found.stop) (count + 1) [] (added, replaced || isReplaced)

/-- What a command prints that a shell carries out. -/
def commandOutput (command : List Char) : Editing (List Char) := do
  if (← get).settings.inPlace.isNone then flush
  let environment := (← get).settings.environment
  match ← perform (Program.ask .pipe) with
  | .numbers reader writer =>
      let child : Task := Program.toTask do
        let _ ← Program.ask (.close reader)
        let _ ← Program.ask (.duplicate writer 1)
        let _ ← Program.ask (.close writer)
        let _ ← Program.ask
          (.execute "/bin/sh" ["sh", "-c", String.ofList command] environment)
        return 127
      let id ← perform (Program.fork child)
      let _ ← perform (Program.ask (.close writer))
      let output ← perform (Program.readAll reader Program.readLimit [])
      let _ ← perform (Program.ask (.close reader))
      let _ ← perform (Program.ask (.awaitChild (some id) true))
      match output with
      | .ok text => return text.toList
      | .error _ => return []
  | _ => return []

/-- Carry out the line that is edited as a command; what that prints takes its place. -/
def evaluateSpace : Editing Unit := do
  let output ← commandOutput (← get).space
  let text := if output.getLast? == some '\n' then output.dropLast else output
  modify fun editor => { editor with space := text }

/-- Carry out a substitution. -/
def substitute (substitution : Substitution) : Editing Unit := do
  let pattern ← meantPattern substitution.pattern
  let characters := (← get).space.toArray
  let find := find? (← lineEnd) pattern characters
  let (built, replaced) := replaceFrom substitution find characters (2 * characters.size + 4)
    0 none 0 [] ([], false)
  if replaced then
    modify fun editor => { editor with space := built.reverse, replaced := true }
    if substitution.printsBefore then sendSpace .output
    if substitution.evaluates then evaluateSpace
    if substitution.printsAfter then sendSpace .output
    match substitution.destination with
    | some destination => sendSpace destination
    | none => pure ()

/-- The characters with which a character is shown in a listing. -/
def listedCharacter (character : Char) : List Char :=
  match character with
  | '\\' => ['\\', '\\']
  | '\x07' => ['\\', 'a']
  | '\x08' => ['\\', 'b']
  | '\x0c' => ['\\', 'f']
  | '\n' => ['\\', 'n']
  | '\r' => ['\\', 'r']
  | '\t' => ['\\', 't']
  | '\x0b' => ['\\', 'v']
  | _ =>
      if ' ' ≤ character && character ≤ '~' then [character]
      else
        let digits := Nat.toDigits 8 character.toNat
        '\\' :: List.replicate (3 - digits.length) '0' ++ digits

/-- A listing of characters in lines of a width; without one it is a single line. -/
def listing (ending : Char) (width : Option Nat) : Nat → List Char → List Char
  | _, [] => ['$', ending]
  | column, character :: rest =>
      let text := listedCharacter character
      match width with
      | some limit =>
          if limit < column + text.length then
            '\\' :: ending :: text ++ listing ending width text.length rest
          else text ++ listing ending width (column + text.length) rest
      | none => text ++ listing ending width 0 rest

/-- Print the line that is edited so that all its characters can be seen. -/
def listSpace (width : Option Nat) : Editing Unit := do
  let editor ← get
  let length := width.getD editor.settings.lineLength
  emitText (listing (← lineEnd) (if length = 0 then none else some (length - 1)) 0 editor.space)

/-- Write the part of the line that is edited in front of its first line end. -/
def sendFirstLine (destination : Destination) : Editing Unit := do
  let ending ← lineEnd
  let editor ← get
  let (first, behind) := editor.space.span (· != ending)
  sendLine destination first (editor.hasEnd || !behind.isEmpty)

/-- Take the next line of a file that is read line by line. -/
def takeSourceLine? (path : Octets) : Editing (Option (List Char)) := do
  let input? ← match (← get).sources.lookup path with
    | some known => pure known
    | none =>
        match ← perform (Program.ask (.openFile path .read)) with
        | .number descriptor => pure (some { name := path, descriptor : Input })
        | _ => pure none
  let (line, rest) ← match input? with
    | some input =>
        let (line, rest) ← takeLine? input
        pure (line, some rest)
    | none => pure (none, none)
  modify fun editor => { editor with
    sources := (path, rest) :: editor.sources.filter (·.1 != path) }
  let ending ← lineEnd
  return line.map fun (text, hasEnd) => if hasEnd then text ++ [ending] else text

/-- How control goes on behind a command. -/
inductive Step where
  | onward
  | goto (place : Nat)
  /-- The round ends; the line may be printed. -/
  | endRound (prints : Bool)
  /-- The round starts again with what is left of the line. -/
  | again
  | quit (prints : Bool) (code : Nat)

/-- Add a text to those that are printed at the end of the round. -/
def enqueue (item : Queued) : Editing Unit :=
  modify fun editor => { editor with queue := editor.queue ++ [item] }

/-- Carry out a command. -/
def carryOut (place : Nat) (command : Command) : Editing Step := do
  match command.action with
  | .block _ | .nothing => return .onward
  | .jump condition _ target =>
      let replaced := (← get).replaced
      if condition != .always then modify fun editor => { editor with replaced := false }
      let isTaken := match condition with
        | .always => true
        | .replaced => replaced
        | .notReplaced => !replaced
      return if isTaken then .goto target else .onward
  | .append text =>
      enqueue (.text text)
      return .onward
  | .insert text =>
      emitLine text
      return .onward
  | .change text =>
      let isOpen := match ((← get).ranges.lookup place).getD .outside with
        | .inside _ => command.stop.isSome
        | .outside | .closed => false
      if !isOpen then emitLine text
      return .endRound false
  | .substitute substitution =>
      substitute substitution
      return .onward
  | .transliterate pairs =>
      modify fun editor => { editor with
        space := editor.space.map fun character => (pairs.lookup character).getD character }
      return .onward
  | .delete => return .endRound false
  | .deleteFirstLine =>
      let ending ← lineEnd
      let behind := (← get).space.dropWhile (· != ending)
      match behind with
      | [] => return .endRound false
      | _ :: rest =>
          modify fun editor => { editor with space := rest }
          return .again
  | .takeHeld adds =>
      let ending ← lineEnd
      modify fun editor => { editor with
        space := if adds then editor.space ++ ending :: editor.held else editor.held
        hasEnd := editor.heldHasEnd }
      return .onward
  | .hold adds =>
      let ending ← lineEnd
      modify fun editor => { editor with
        held := if adds then editor.held ++ ending :: editor.space else editor.space
        heldHasEnd := editor.hasEnd }
      return .onward
  | .exchange =>
      modify fun editor => { editor with
        space := editor.held, hasEnd := editor.heldHasEnd
        held := editor.space, heldHasEnd := editor.hasEnd }
      return .onward
  | .next adds =>
      if ← isLast then return .endRound (!(adds && (← get).settings.strict))
      else
        if !adds && !(← get).script.quiet then sendSpace .output
        let _ ← readLine adds
        return .onward
  | .print =>
      sendSpace .output
      return .onward
  | .printFirstLine =>
      sendFirstLine .output
      return .onward
  | .list width =>
      listSpace width
      return .onward
  | .showNumber =>
      emitLine (toString (← get).lineNumber ++ "\n").toList
      return .onward
  | .showName =>
      let name := (← get).name
      emitLine (name ++ "\n").toList
      return .onward
  | .quit prints code => return .quit prints code
  | .readFile path =>
      match command.start with
      | some (.line 0) => pure ()
      | _ => enqueue (.file path)
      return .onward
  | .readLine path =>
      match ← takeSourceLine? path with
      | some line => enqueue (.text line)
      | none => pure ()
      return .onward
  | .write destination onlyFirstLine =>
      if onlyFirstLine then sendFirstLine destination else sendSpace destination
      return .onward
  | .clear =>
      modify fun editor => { editor with space := [] }
      return .onward
  | .execute text =>
      if text.isEmpty then
        evaluateSpace
        modify fun editor => { editor with hasEnd := true }
      else emitText (← commandOutput text)
      return .onward

/-- The greatest number of commands in one round. -/
def stepLimit : Nat := 10000000

/-- Let time pass, so that no loop is endless in no time. -/
def pause : Editing Unit := do
  let _ ← perform (Program.ask .now)

/-- Carry out the commands from a place on, until the round ends. -/
def runFrom : Nat → Nat → Editing Step
  | 0, _ => pure (.quit true 0)
  | fuel + 1, place => do
      match (← get).script.commands[place]? with
      | none => return .endRound true
      | some command =>
          if ← isFor place command then
            match ← carryOut place command with
            | .onward => runFrom fuel (place + 1)
            | .goto target =>
                pause
                runFrom fuel target
            | step => return step
          else
            match command.action with
            | .block stop => runFrom fuel stop
            | _ => runFrom fuel (place + 1)

/-- Print the files that are read in front of the first line. -/
def readInFront : Editing Unit := do
  for command in (← get).script.commands do
    match command.start, command.action with
    | some (.line 0), .readFile path =>
        enqueue (.file path)
    | _, _ => pure ()
  printQueue

/-- Go through the lines; the result is the exit code. A round may go on with the line that it has.
-/
def runRounds : Nat → Bool → Editing Nat
  | 0, _ => pure 0
  | fuel + 1, goesOn => do
      pause
      let hasLine ← if goesOn then pure true else readLine false
      if !hasLine then return 0
      else
        if (← get).lineNumber == 1 && !goesOn then readInFront
        let finish (prints : Bool) : Editing Unit := do
          if prints && !(← get).script.quiet then sendSpace .output
        match ← runFrom stepLimit 0 with
        | .again => runRounds fuel true
        | .quit prints code =>
            finish prints
            if prints then
              completeLine .output
              printQueue
            return code
        | .endRound prints =>
            finish prints
            printQueue
            runRounds fuel false
        | _ => runRounds fuel false

/-- Open the files that are written. -/
def openWritten (paths : List Octets) : Editing Unit := do
  paths.forM fun path => do
    match ← perform (Program.ask (.openFile path .truncate)) with
    | .number descriptor =>
        modify fun editor => { editor with opened := (path, descriptor) :: editor.opened }
    | .failed error => panic ("couldn't open file " ++ path ++ ": " ++ errorText error)
    | _ => pure ()

/-- Edit all files. -/
def editAll : Editing Nat := do
  openWritten (← get).script.written
  let code ← runRounds stepLimit false
  closeInput
  return if code == 0 && (← get).hasBadFile then 2 else code

end Editing

/-- Edit files with a script; the result is the exit code. -/
def edit (settings : Settings) (script : Script) (files : List Octets) : Program UInt8 := do
  let (result, editor) ← Editing.editAll.run.run { settings, script, files }
  let code : UInt8 := match result with
    | .ok code => UInt8.ofNat code
    | .error code => code
  match ← Program.tryWrite 1 (String.join editor.pending.reverse) with
  | .ok () => return code
  | .error error =>
      Program.complain ("sed: couldn't flush stdout: " ++ Editing.errorText error ++ "\n")
      return 4

end QueryFoundry.Sandbox.Sed
