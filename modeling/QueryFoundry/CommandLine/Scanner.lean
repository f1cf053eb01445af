/-!
# Scanning arguments

The arguments of a command are read from left to right: options by their long or short names, and
what is not an option by its position. The value of an option is checked when the next argument that
is known arrives, so an unknown argument is told about first. What may be wrong with the arguments
is told in one line.
-/

namespace QueryFoundry.CommandLine

/-- Why the arguments cannot be understood. -/
inductive UsageError where
  /-- Nothing at all was given. -/
  | nothingGiven (summary : String)
  | missingCommand (program : String)
  | unknownCommand (name : String)
  | unknownArgument (argument : String)
  /-- An argument or an option that must be given is not. -/
  | missingArguments
  | missingValue (option : String)
  | badValue (value option reason : String)
  /-- A value was attached to an option that takes none. -/
  | unneededValue (value option : String)
  | repeated (option : String)
deriving DecidableEq, Repr

/-- A text that a terminal shows as one that is wrong. -/
def wrongText (text : String) : String := "\x1b[33m" ++ text ++ "\x1b[0m"

/-- A text that a terminal shows as one to be taken literally. -/
def literalText (text : String) : String := "\x1b[1m" ++ text ++ "\x1b[0m"

/-- What is said about an error of usage, for a terminal. -/
def UsageError.message : UsageError → String
  | nothingGiven summary => summary
  | missingCommand program =>
      "error: '" ++ wrongText program ++ "' requires a subcommand but one was not provided"
  | unknownCommand name => "error: unrecognized subcommand '" ++ wrongText name ++ "'"
  | unknownArgument argument => "error: unexpected argument '" ++ wrongText argument ++ "' found"
  | missingArguments => "error: the following required arguments were not provided:"
  | missingValue option =>
      "error: a value is required for '" ++ wrongText option ++ "' but none was supplied"
  | badValue value option reason =>
      "error: invalid value '" ++ wrongText value ++ "' for '" ++ literalText option ++ "': " ++
        reason
  | unneededValue value option =>
      "error: unexpected value '" ++ wrongText value ++ "' for '" ++ literalText option ++
        "' found; no more were expected"
  | repeated option =>
      "error: the argument '" ++ wrongText option ++ "' cannot be used multiple times"

/-- What is checked about the value of an option. -/
inductive ValueKind where
  | text
  /-- A path, which must not be empty. -/
  | path
  /-- A text that a reader takes, or refuses with a reason. -/
  | checked (check : String → Except String Unit)

/-- What an option takes. -/
inductive Arity where
  /-- Nothing: the option is a switch. -/
  | flag
  /-- Nothing: the option ends the reading, since something else is asked for. -/
  | ending
  /-- One value. -/
  | single (label : String) (kind : ValueKind)
  /-- Values separated by commas; the option may be given again and adds more. -/
  | many (label : String) (kind : ValueKind)

/-- An option that a command understands. -/
structure OptionRule where
  name : String
  letter : Option Char := none
  arity : Arity := .flag

namespace OptionRule

/-- How an option is written when it is told about. -/
def display (rule : OptionRule) : String :=
  match rule.arity with
  | .flag | .ending => "--" ++ rule.name
  | .single label _ | .many label _ => "--" ++ rule.name ++ " <" ++ label ++ ">"

/-- An option takes a value. -/
def takesValue (rule : OptionRule) : Bool :=
  match rule.arity with
  | .flag | .ending => false
  | .single .. | .many .. => true

/-- Check one value of an option. -/
def checkValue (rule : OptionRule) (value : String) : ValueKind → Except UsageError Unit
  | .text => .ok ()
  | .path => if value.isEmpty then .error (.missingValue rule.display) else .ok ()
  | .checked check =>
      match check value with
      | .ok () => .ok ()
      | .error reason => .error (.badValue value rule.display reason)

/-- The values that a written value stands for, each of which must be right. -/
def values (rule : OptionRule) (written : String) : Except UsageError (List String) :=
  match rule.arity with
  | .flag | .ending => .ok []
  | .single _ kind => do
      rule.checkValue written kind
      return [written]
  | .many _ kind => do
      let pieces := written.splitOn ","
      let _ ← pieces.mapM (rule.checkValue · kind)
      return pieces

end OptionRule

/-- Why the reading of arguments ends early. -/
inductive Stop where
  | wrong (error : UsageError)
  /-- An option asks for something else. -/
  | asked (option : String)
deriving DecidableEq, Repr

/-- The option that was read last and is not settled yet. -/
structure Pending where
  rule : OptionRule
  /-- The value of the option, once it has been read. -/
  value : Option String

/-- What has been read so far. -/
structure Scan where
  /-- The options that are settled, with their values. -/
  options : List (String × List String) := []
  positionals : List String := []
  pending : Option Pending := none
  /-- Whether the rest are no options, whatever they look like. -/
  optionsEnded : Bool := false

namespace Scan

/-- Whether an option has been given. -/
def has (scan : Scan) (name : String) : Bool :=
  scan.options.any (·.1 == name)

/-- The values of an option. -/
def valuesOf (scan : Scan) (name : String) : List String :=
  (scan.options.filter (·.1 == name)).flatMap Prod.snd

/-- The value of an option. -/
def value? (scan : Scan) (name : String) : Option String :=
  (scan.valuesOf name).head?

/-- Take an option with what was written as its value. Only an option with many values may be given
twice. -/
def record (scan : Scan) (rule : OptionRule) (written : String) : Except UsageError Scan := do
  let isMany := match rule.arity with
    | .many .. => true
    | _ => false
  if scan.has rule.name && !isMany then throw (.repeated rule.display)
  return { scan with options := scan.options ++ [(rule.name, ← rule.values written)] }

/-- Settle the option that was read last. -/
def settle (scan : Scan) : Except UsageError Scan :=
  match scan.pending with
  | none => .ok scan
  | some ⟨rule, none⟩ => .error (.missingValue rule.display)
  | some ⟨rule, some value⟩ => { scan with pending := none }.record rule value

/-- Take an option that has been recognized, with the value that is attached to it. -/
def accept (scan : Scan) (rule : OptionRule) (attached : Option String) : Except Stop Scan := do
  let settled ← scan.settle.mapError .wrong
  match rule.arity, attached with
  | .ending, _ => throw (.asked rule.name)
  | .flag, _ => (settled.record rule "").mapError .wrong
  | _, none => return { settled with pending := some ⟨rule, none⟩ }
  | _, some value => (settled.record rule value).mapError .wrong

/-- Whether the argument to come is the value of the option that was read last. -/
def awaitsValue (scan : Scan) : Bool :=
  match scan.pending with
  | some ⟨_, none⟩ => true
  | _ => false

/-- Take the value of the option that was read last. -/
def giveValue (scan : Scan) (value : String) : Scan :=
  { scan with pending := scan.pending.map fun pending => { pending with value := some value } }

/-- Read an option that is written with its long name, and perhaps a value behind an equals sign. -/
def readLong (rules : List OptionRule) (scan : Scan) (body : List Char) : Except Stop Scan :=
  let name := String.ofList (body.takeWhile (· != '='))
  let attached := match body.dropWhile (· != '=') with
    | _ :: value => some (String.ofList value)
    | [] => none
  match rules.find? (·.name == name), attached with
  | none, _ => .error (.wrong (.unknownArgument ("--" ++ name)))
  | some rule, some value =>
      if rule.takesValue then scan.accept rule (some value)
      else .error (.wrong (.unneededValue value rule.display))
  | some rule, none => scan.accept rule none

/-- Read a cluster of short options; the first one that takes a value takes the rest, without an
equals sign in front. -/
def readLetters (rules : List OptionRule) (scan : Scan) : List Char → Except Stop Scan
  | [] => .ok scan
  | letter :: rest =>
      match rules.find? (·.letter == some letter) with
      | none => .error (.wrong (.unknownArgument ("-" ++ letter.toString)))
      | some rule =>
          if rule.takesValue then
            scan.accept rule (match rest with
              | [] => none
              | '=' :: value => some (String.ofList value)
              | value => some (String.ofList value))
          else do
            let next ← scan.accept rule none
            readLetters rules next rest

/-- What an argument looks like. -/
inductive Shape where
  /-- Two hyphens: all that follows is no option. -/
  | separator
  | long (body : List Char)
  | short (letters : List Char)
  | plain
deriving DecidableEq, Repr

/-- The shape of an argument; a single hyphen is plain. -/
def shapeOf (argument : String) : Shape :=
  match argument.toList with
  | ['-', '-'] => .separator
  | '-' :: '-' :: body => .long body
  | ['-'] => .plain
  | '-' :: letters => .short letters
  | _ => .plain

/-- What a command takes. -/
structure CommandRule where
  options : List OptionRule
  /-- How many positional arguments there are. -/
  positionals : Nat
  /-- What is wrong about one more positional argument. -/
  surplus : String → UsageError := .unknownArgument

/-- Take an argument that is no option. -/
def takePlain (scan : Scan) (rule : CommandRule) (argument : String) : Except Stop Scan :=
  if scan.awaitsValue && !scan.optionsEnded then .ok (scan.giveValue argument)
  else if scan.positionals.length < rule.positionals then do
    let settled ← scan.settle.mapError .wrong
    return { settled with positionals := settled.positionals ++ [argument] }
  else .error (.wrong (rule.surplus argument))

/-- Read an argument of a command. -/
def read (rule : CommandRule) (scan : Scan) (argument : String) : Except Stop Scan :=
  if scan.optionsEnded then scan.takePlain rule argument
  else
    match shapeOf argument with
    | .separator => .ok { scan with optionsEnded := true }
    | .long body => readLong rule.options scan body
    | .short letters => readLetters rule.options scan letters
    | .plain => scan.takePlain rule argument

end Scan

end QueryFoundry.CommandLine
