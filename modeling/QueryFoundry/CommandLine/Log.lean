import QueryFoundry.Host
import QueryFoundry.Text.Blank
import QueryFoundry.Text.Octets

/-!
# The log

A filter is a list of directives that are separated by commas. A directive gives a level, an origin,
or an origin and a level, and may ask for the fields of a message; it may also name a span, but
messages lie in none. Of the directives that care about a message, the most specific one decides.

A message that is let through is told on a line that starts with the date and time and with the
level. Characters that command a terminal are written as escapes; line feeds stay, so a message may
take several lines.
-/

namespace QueryFoundry.CommandLine

open Text (Octets toOctets)

/-- A directive of a filter. -/
structure LogDirective where
  /-- What the name of an origin must start with. -/
  origin : Option Octets
  /-- The fields that a message must have. -/
  fields : List Octets := []
  /-- The level of the most detailed messages that are let through; none are at zero. -/
  level : Nat
deriving DecidableEq, Repr

/-- Why a directive is ignored. -/
inductive LogFault where
  | form
  | level
deriving DecidableEq, Repr

/-- What is said about a directive that is ignored. -/
def LogFault.message : LogFault → String
  | form => "invalid filter directive"
  | level =>
      "error parsing level filter: expected one of \"off\", \"error\", \"warn\", \"info\", " ++
        "\"debug\", \"trace\", or a number 0-5"

namespace LogDirective

/-- The names of the levels, from the one that lets nothing through. -/
def levelNames : List Octets :=
  ["off", "error", "warn", "info", "debug", "trace"]

/-- The level of the most detailed messages. -/
def finest : Nat := levelNames.length - 1

/-- Read the decimal digits of a number, with an optional sign in front. -/
def number? (text : Octets) : Option Nat :=
  let digits := match text.toList with
    | '+' :: rest => rest
    | all => all
  if digits.isEmpty || !digits.all Char.isDigit then none
  else some (digits.foldl (fun value digit => value * 10 + (digit.toNat - '0'.toNat)) 0)

/-- Read a level: a number or a name in letters of either case. -/
def level? (text : Octets) : Option Nat :=
  match number? text with
  | some value => if value ≤ finest then some value else none
  | none => levelNames.idxOf? (String.ofList (text.toList.map Char.toLower))

/-- What a directive has been read up to. Numbers are positions in its text. -/
inductive Reading where
  | start
  | levelOrOrigin
  | span (start : Nat)
  | field (start : Nat)
  | fields
  | behindSpan
  | level (start : Nat)
deriving DecidableEq, Repr

/-- A directive as far as it has been read. -/
structure Draft where
  reading : Reading := .start
  origin : Option Octets := none
  hasSpan : Bool := false
  /-- The names of the fields, each with whether it asks for a value. -/
  fields : List (Octets × Bool) := []
deriving DecidableEq, Repr

/-- The part of a text between two positions. -/
def slice (text : List Char) (start stop : Nat) : Octets :=
  String.ofList ((text.take stop).drop start)

/-- Whether a directive may start with an octet. -/
def mayStart (character : Char) : Bool :=
  character.isAlphanum || ['-', ':', '_'].contains character || 0x80 ≤ character.toNat

/-- Read one octet of a directive. -/
def Draft.read (text : List Char) (position : Nat) (character : Char) (draft : Draft) :
    Except LogFault Draft :=
  let withField (start : Nat) (reading : Reading) : Except LogFault Draft :=
    let field := slice text start position
    if field.isEmpty then .error .form
    else
      let pieces := field.splitOn "="
      .ok { draft with
        reading, fields := draft.fields ++ [(pieces.headD "", decide (1 < pieces.length))] }
  match draft.reading, character with
  | .start, '[' => .ok { draft with reading := .span (position + 1) }
  | .start, _ =>
      if mayStart character then .ok { draft with reading := .levelOrOrigin } else .error .form
  | .levelOrOrigin, '=' =>
      .ok { draft with origin := some (slice text 0 position), reading := .level (position + 1) }
  | .levelOrOrigin, '[' =>
      .ok { draft with origin := some (slice text 0 position), reading := .span (position + 1) }
  | .behindSpan, '=' => .ok { draft with reading := .level (position + 1) }
  | .span _, ']' => .ok { draft with hasSpan := true, reading := .behindSpan }
  | .span start, '\x7b' =>
      .ok { draft with
        hasSpan := !(slice text start position).isEmpty, reading := .field (position + 1) }
  | .field start, '\x7d' => withField start .fields
  | .fields, ']' => .ok { draft with reading := .behindSpan }
  | .levelOrOrigin, _ | .span _, _ | .field _, _ | .level _, _ => .ok draft
  | .behindSpan, _ | .fields, _ => .error .form

/-- Read the octets of a directive one after the other. -/
def Draft.readAll (text : List Char) : Nat → List Char → Draft → Except LogFault Draft
  | _, [], draft => .ok draft
  | position, character :: rest, draft => do
      readAll text (position + 1) rest (← draft.read text position character)

/-- What a directive that has been read to its end asks for. -/
def Draft.finish (text : List Char) (draft : Draft) : Except LogFault (Draft × Nat) :=
  match draft.reading with
  | .levelOrOrigin =>
      let all := String.ofList text
      match level? all with
      | some level => .ok (draft, level)
      | none => .ok ({ draft with origin := some all }, finest)
  | .level start =>
      let name := slice text start text.length
      if name.isEmpty then .ok (draft, finest)
      else match level? name with
        | some level => .ok (draft, level)
        | none => .error .level
  | .behindSpan => .ok (draft, finest)
  | _ => .error .form

/-- Read a directive. Blanks around it are not looked at, but they count where its parts are cut
out. There is nothing to do for a directive that only spans could match. -/
def read (text : String) : Except LogFault (Option LogDirective) := do
  let octets := (toOctets text).toList
  let trimmed := (toOctets (Text.trim text)).toList
  let draft ← Draft.readAll octets 0 trimmed {}
  let (whole, level) ← draft.finish octets
  if whole.hasSpan || whole.fields.any Prod.snd then return none
  else return some ⟨whole.origin, whole.fields.map Prod.fst, level⟩

/-- How specific a directive is, in the order of importance: whether it names an origin and how long
the name is, and how many fields it asks for. -/
def weight (directive : LogDirective) : List Nat :=
  [match directive.origin with
    | none => 0
    | some origin => origin.length + 1, directive.fields.length]

/-- Whether a directive comes before another one. Of two that are as specific, the one that is later
in the order of texts comes first. -/
def comesBefore (left right : LogDirective) : Bool :=
  if left.weight != right.weight then right.weight < left.weight
  else if left.origin != right.origin then right.origin.getD "" < left.origin.getD ""
  else right.fields < left.fields

/-- Whether two directives match the same messages. -/
def rivals (left right : LogDirective) : Bool :=
  left.origin == right.origin && left.fields == right.fields

/-- The one field of a message. -/
def messageField : Octets := "message"

/-- Whether a directive decides about the messages of an origin. -/
def caresAbout (directive : LogDirective) (origin : Octets) : Bool :=
  (match directive.origin with
    | none => true
    | some start => start.toList.isPrefixOf origin.toList) &&
  directive.fields.all (· == messageField)

end LogDirective

/-- Directives in the order in which they are asked. -/
structure LogFilter where
  directives : List LogDirective := []
deriving DecidableEq, Repr

namespace LogFilter

/-- Add a directive, instead of one that matches the same messages. -/
def add (filter : LogFilter) (directive : LogDirective) : LogFilter :=
  let others := filter.directives.filter fun other => !other.rivals directive
  ⟨others.filter (·.comesBefore directive) ++
    directive :: others.filter fun other => !other.comesBefore directive⟩

/-- Read a filter. The directives that cannot be understood are ignored, and returned with what is
wrong with them. -/
def read (text : String) : LogFilter × List (String × LogFault) :=
  ((text.splitOn ",").filter (!·.isEmpty)).foldl (fun (filter, faults) piece =>
    match LogDirective.read piece with
    | .error fault => (filter, faults ++ [(piece, fault)])
    | .ok none => (filter, faults)
    | .ok (some directive) => (filter.add directive, faults)) ({}, [])

/-- The name of an origin as filters give it. -/
def originName : LogOrigin → Octets
  | .buildCommand => "querygen::build"
  | .building => "querygen_core::build"
  | .config => "querygen_core::config"
  | .executing => "querygen_core::execute::dylib"
  | .formatting => "querygen_core::generate::formatter"
  | .generating => "querygen_core::generate"
  | .pipeline => "querygen_core::pipeline"
  | .supervision => "querygen_core::process"

/-- The level of a message. -/
def levelOf : Severity → Nat
  | .warning => 2
  | .information => 3
  | .detail => 4

/-- Whether a message is let through. -/
def lets (filter : LogFilter) (severity : Severity) (origin : LogOrigin) : Bool :=
  match filter.directives.find? (·.caresAbout (originName origin)) with
  | some directive => levelOf severity ≤ directive.level
  | none => false

end LogFilter

/-! ## Lines of the log -/

namespace LogLine

/-- A number in decimal digits, with zeros in front up to a width. -/
def padded (width number : Nat) : String :=
  let digits := Nat.toDigits 10 number
  String.ofList (List.replicate (width - digits.length) '0' ++ digits)

/-- The year, month and day of a number of days since the start of 1970. Years are counted from
March, in eras of 400 years, so that a leap day is the last day of its year. -/
def dateOf (days : Nat) : Nat × Nat × Nat :=
  let shifted := days + 719468
  let era := shifted / 146097
  let dayOfEra := shifted % 146097
  let yearOfEra := (dayOfEra - dayOfEra / 1460 + dayOfEra / 36524 - dayOfEra / 146096) / 365
  let dayOfYear := dayOfEra - (365 * yearOfEra + yearOfEra / 4 - yearOfEra / 100)
  let monthFromMarch := (5 * dayOfYear + 2) / 153
  let day := dayOfYear - (153 * monthFromMarch + 2) / 5 + 1
  let month := if monthFromMarch < 10 then monthFromMarch + 3 else monthFromMarch - 9
  (yearOfEra + era * 400 + (if month ≤ 2 then 1 else 0), month, day)

/-- The date and time of a number of nanoseconds since the start of 1970. -/
def timeText (nanoseconds : Nat) : String :=
  let seconds := nanoseconds / 1000000000
  let (year, month, day) := dateOf (seconds / 86400)
  padded 4 year ++ "-" ++ padded 2 month ++ "-" ++ padded 2 day ++ "T" ++
    padded 2 (seconds / 3600 % 24) ++ ":" ++ padded 2 (seconds / 60 % 60) ++ ":" ++
    padded 2 (seconds % 60) ++ "." ++ padded 6 (nanoseconds / 1000 % 1000000) ++ "Z"

/-- The name of a level, five characters wide. -/
def levelText : Severity → String
  | .warning => " WARN"
  | .information => " INFO"
  | .detail => "DEBUG"

/-- A character as it is shown in a log: one that commands a terminal is written as an escape. -/
def shownCharacter (character : Char) : List Char :=
  let digits := Nat.toDigits 16 character.toNat
  if 0x80 ≤ character.toNat && character.toNat ≤ 0x9f then
    ['\\', 'u', '\x7b'] ++ digits ++ ['\x7d']
  else if ['\x07', '\x08', '\x0c', '\x1b', '\x7f'].contains character then
    ['\\', 'x'] ++ (if digits.length < 2 then '0' :: digits else digits)
  else [character]

/-- A text as it is shown in a log. -/
def shownText (text : String) : String :=
  String.ofList (text.toList.flatMap shownCharacter)

/-- The line for a message at a time. -/
def render (nanoseconds : Nat) (entry : LogEntry) : String :=
  timeText nanoseconds ++ " " ++ levelText entry.severity ++ " " ++ shownText entry.text ++ "\n"

end LogLine

end QueryFoundry.CommandLine
