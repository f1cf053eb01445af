import QueryFoundry.ArtifactName
import QueryFoundry.CommandLine.Scanner
import QueryFoundry.Path
import QueryFoundry.Template.QueryShape

/-!
# Invocations

What the program may be asked to do, and how that is read from its arguments. Options that every
command understands may stand before the command or behind its name; there the later one counts.
-/

namespace QueryFoundry.CommandLine

/-- The name of the program. -/
def programName : String := "querygen"

/-- The version of the program. -/
def programVersion : String := "0.1.0"

/-- What the program is for. -/
def programSummary : String := "Generate, build and run native storage engine queries"

/-- What is to be done. -/
inductive Action where
  /-- Write and format a source without building it. -/
  | generate (name : ArtifactName) (source : Path) (withBridge : Bool)
  /-- Build an artifact whose source is there already. -/
  | build (name : ArtifactName)
  /-- Generate, build and execute an artifact. -/
  | run (name : ArtifactName) (source : Path) (withBridge : Bool)
  /-- Print the bridge of a module. -/
  | bridge (name : String) (shape : QueryShape)
  /-- Print a query header. -/
  | header (hash : String)
deriving DecidableEq, Repr

/-- The actions on artifacts need settings; a template needs none. -/
def Action.usesSettings : Action → Bool
  | .generate .. | .build _ | .run .. => true
  | .bridge .. | .header _ => false

/-- An action with the options that every command understands. -/
structure Invocation where
  action : Action
  root : Option Path := none
  config : Option Path := none
  skipsFormatter : Bool := false
  json : Bool := false
  /-- Whether details are told to the log. -/
  verbose : Bool := false
deriving DecidableEq, Repr

/-- What the arguments ask for. -/
inductive Demand where
  | version
  | help
  | invoke (invocation : Invocation)
deriving DecidableEq, Repr

/-- The option that names a configuration file. -/
def configRule : OptionRule := { name := "config", arity := .single "CONFIG" .path }

/-- The options that every command understands. -/
def sharedRules : List OptionRule :=
  [{ name := "root", arity := .single "ROOT" .path }, configRule, { name := "no-format" },
    { name := "json" }, { name := "verbose", letter := some 'v' },
    { name := "help", letter := some 'h', arity := .ending }]

/-- The options of a command that reads a source. -/
def sourceRules : List OptionRule :=
  [{ name := "source", letter := some 's', arity := .single "SOURCE" .text }, { name := "bridge" }]

/-- The values of an option that names element types. -/
def elementKind : ValueKind :=
  .checked fun text =>
    match ElementType.parse text with
    | .ok _ => .ok ()
    | .error unknown => .error unknown.message

/-- The options of the command that prints templates. -/
def templateRules : List OptionRule :=
  [{ name := "query-type", arity := .single "QUERY_TYPE" .text },
    { name := "keys", arity := .many "KEYS" elementKind },
    { name := "annotation", arity := .single "ANNOTATION" elementKind },
    { name := "fetch-member", arity := .single "FETCH_MEMBER" .text }, { name := "header" }]

/-- The action of a command that reads a source. -/
def sourceAction (make : ArtifactName → Path → Bool → Action) (name : String) (scan : Scan) :
    Option Action :=
  (scan.value? "source").map fun source => make ⟨name⟩ source (scan.has "bridge")

/-- The query shape that the options ask for. -/
def shapeOf (scan : Scan) : QueryShape :=
  let default : QueryShape := {}
  let types (name : String) : List ElementType :=
    (scan.valuesOf name).filterMap fun text => (ElementType.parse text).toOption
  { queryType := (scan.value? "query-type").getD default.queryType
    keys := if scan.has "keys" then types "keys" else default.keys
    annotation := (types "annotation").head?.getD default.annotation
    fetch :=
      match scan.value? "fetch-member" with
      | some member => .member member
      | none => default.fetch }

/-- The action of the command that prints templates. -/
def templateAction (name : String) (scan : Scan) : Action :=
  if scan.has "header" then .header name else .bridge name (shapeOf scan)

/-- A command: its name, its options, and its action if all that it needs was given. -/
structure CommandForm where
  name : String
  options : List OptionRule
  action : String → Scan → Option Action

/-- The commands of the program. -/
def commands : List CommandForm :=
  [⟨"generate", sourceRules, sourceAction .generate⟩,
    ⟨"build", [], fun name _ => some (.build ⟨name⟩)⟩,
    ⟨"run", sourceRules, sourceAction .run⟩,
    ⟨"template", templateRules, fun name scan => some (templateAction name scan)⟩]

/-- The command that explains the others. -/
def helpCommand : String := "help"

/-- Whether a word names a command. -/
def isCommand (word : String) : Bool :=
  word == helpCommand || commands.any (·.name == word)

/-- A variable may name the configuration file where no option does; its value is checked too. -/
def checkVariable (configVariable : Option String) (scan : Scan) : Except UsageError Unit :=
  match configVariable with
  | some value => if scan.has configRule.name then .ok () else configRule.checkValue value .path
  | none => .ok ()

/-- Settle all that was read of a command. -/
def complete (configVariable : Option String) (scan : Scan) : Except Stop Scan := do
  let settled ← scan.settle.mapError .wrong
  (checkVariable configVariable settled).mapError .wrong
  return settled

/-- Read the arguments behind the name of a command. -/
def readCommand (configVariable : Option String) (form : CommandForm) (arguments : List String) :
    Except Stop (Scan × Action) := do
  let rule : Scan.CommandRule := { options := sharedRules ++ form.options, positionals := 1 }
  let scan ← arguments.foldlM (Scan.read rule) {}
  let settled ← complete configVariable scan
  match settled.positionals.head?.bind (form.action · settled) with
  | some action => return (settled, action)
  | none => throw (.wrong .missingArguments)

/-- The invocation of an action, with the options in front of the command and behind it. A variable
counts only where no option does. -/
def invocationOf (configVariable : Option String) (before behind : Scan) (action : Action) :
    Invocation :=
  { action
    root := behind.value? "root" <|> before.value? "root"
    config := behind.value? "config" <|> before.value? "config" <|> configVariable
    skipsFormatter := behind.has "no-format" || before.has "no-format"
    json := behind.has "json" || before.has "json"
    verbose := behind.has "verbose" || before.has "verbose" }

/-- Read the words behind the command that explains others: each must name a command. -/
def readHelp : List String → Except Stop Demand
  | [] => .ok .help
  | [word] => if isCommand word then .ok .help else .error (.wrong (.unknownCommand word))
  | word :: other :: _ => .error (.wrong (.unknownCommand (if isCommand word then other else word)))

/-- What may stand in front of a command. -/
def leadingRule : Scan.CommandRule :=
  { options := sharedRules ++ [{ name := "version", letter := some 'V', arity := .ending }]
    positionals := 0
    surplus := fun word => if isCommand word then .unknownArgument word else .unknownCommand word }

/-- Read the arguments in front of the command, then the command. -/
def readLeading (configVariable : Option String) (scan : Scan) : List String → Except Stop Demand
  | [] => do
      let settled ← complete configVariable scan
      if settled.options.isEmpty && configVariable.isNone then
        throw (.wrong (.nothingGiven programSummary))
      else throw (.wrong (.missingCommand programName))
  | argument :: rest =>
      if !scan.optionsEnded && !scan.awaitsValue && isCommand argument then
        match commands.find? (·.name == argument) with
        | none => readHelp rest
        | some form => do
            let (behind, action) ← readCommand configVariable form rest
            let before ← complete configVariable scan
            return .invoke (invocationOf configVariable before behind action)
      else do
        let next ← scan.read leadingRule argument
        readLeading configVariable next rest

/-- Read the arguments of the program, given the variable that names a configuration file. -/
def Demand.read (configVariable : Option String) (arguments : List String) :
    Except UsageError Demand :=
  match readLeading configVariable {} arguments with
  | .ok demand => .ok demand
  | .error (.asked "version") => .ok .version
  | .error (.asked _) => .ok .help
  | .error (.wrong error) => .error error

end QueryFoundry.CommandLine
