import QueryFoundry.CommandLine.Settings
import QueryFoundry.CommandLine.SourceText
import QueryFoundry.Pipeline
import QueryFoundry.Template.QueryHeader
import QueryFoundry.Text.Terminal

/-!
# The commands of the program

What the program does with its arguments: what it prints, what it complains about and the code that
it ends with.
-/

namespace QueryFoundry.CommandLine

variable {σ : Type}

/-- How the program ends. -/
structure Ending where
  status : WaitStatus
  /-- What is said among the error messages. -/
  complaint : String := ""
deriving DecidableEq, Repr

/-- Why a command failed. -/
inductive Failure where
  /-- The settings could not be loaded, a tool is missing or a stage failed. -/
  | pipeline (error : PipelineError)
  /-- There is no root directory, because the working directory cannot be determined. -/
  | rootless (cause : IoError)
  /-- The results of a run hold a path that JSON cannot hold. -/
  | notUnicode
  /-- The program panicked over such a path. -/
  | panicked
deriving DecidableEq, Repr

namespace Failure

/-- What is said about a path that JSON cannot hold. -/
def pathMessage : String := "path contains invalid UTF-8 characters"

/-- What is said about a failure. -/
def message : Failure → String
  | pipeline error => error.withHint
  | rootless cause =>
      "Failed to determine current directory\n\nCaused by:\n    " ++ cause.message
  | notUnicode | panicked => pathMessage

/-- Where the program is, as it follows the message of an error that tells it. -/
def backtraceSuffix : Option String → String
  | none => ""
  | some backtrace => "\n\nStack backtrace:\n" ++ backtrace

/-- How a failure ends the program. Where it panics, it says first where it is; this is left out. -/
def ending (backtrace : Option String) : Failure → Ending
  | panicked =>
      ⟨.exited 101, "called \x60Result::unwrap()\x60 on an \x60Err\x60 value: Error(\"" ++
        pathMessage ++ "\", line: 0, column: 0)\n"⟩
  | failure => ⟨.exited 1, "Error: " ++ failure.message ++ backtraceSuffix backtrace ++ "\n"⟩

end Failure

/-- Print a line. -/
def printLine (host : Host σ) (line : String) : StateM σ Unit :=
  host.print (line ++ "\n")

/-- Whether results can be told that hold a path: JSON only holds what is UTF-8. -/
def Settings.tells (settings : Settings) (host : Host σ) (path : Path) : Bool :=
  !settings.json || host.isUnicode path

/-- Write and format a source. -/
def generate (host : Host σ) (settings : Settings) (name : ArtifactName) (producer : Producer σ) :
    StateM σ (Except Failure Unit) := do
  match ← SourceGenerator.ofConfig host settings.layout settings.config with
  | .error error => return .error (.pipeline error)
  | .ok generator =>
      match ← generator.generate host producer name with
      | .error error => return .error (.pipeline error)
      | .ok path =>
          if settings.tells host path then
            printLine host
              (if settings.json then
                (Json.object [("name", .text name.text), ("source_path", .text path)]).compact
              else "Generated " ++ path)
            return .ok ()
          else return .error .panicked

/-- Build an artifact, with a warning where its source is missing. -/
def build (host : Host σ) (settings : Settings) (name : ArtifactName) :
    StateM σ (Except Failure Unit) := do
  let source := settings.layout.sourcePath name.text
  if !host.pathExists (← get) source then
    host.warn .buildCommand
      ("No generated source at " ++ source ++ "; building '" ++ name.text ++ "' anyway")
  match ← Builder.ofConfig host settings.layout settings.config.build with
  | .error error => return .error (.pipeline error)
  | .ok builder =>
      match ← builder.compile host name with
      | .error error => return .error (.pipeline error)
      | .ok elapsed =>
          printLine host
            (if settings.json then
              let milliseconds : UInt64 := UInt64.ofNat elapsed.wholeMilliseconds
              (Json.object [("elapsed_ms", .whole milliseconds.toNat),
                ("name", .text name.text)]).compact
            else "Built " ++ name.text ++ " in " ++ elapsed.hundredthsText ++ "s")
          return .ok ()

/-- The verb that tells which stage a run is at. -/
def stageVerb? : Stage → Option String
  | .generating => some "Generating"
  | .building => some "Building"
  | .executing => some "Executing"
  | .start | .done | .failed => none

/-- Prints a line for each stage of a run. -/
def progress (host : Host σ) : Callback σ where
  started name stage :=
    match stageVerb? stage with
    | some verb => host.print ("  ▶ " ++ verb ++ " " ++ name.text ++ "... ")
    | none => pure ()
  completed _ _ elapsed := printLine host ("✓ " ++ elapsed.hundredthsText ++ "s")
  failed _ _ _ := printLine host "✗"

/-- The line between the progress of a run and its results. -/
def ruler : String := String.ofList (List.replicate 50 '─')

/-- A report and the results of a query as a JSON value. -/
def resultJson (report : Report) (result : Option ExecutionReport) : Json :=
  .object [("name", .text report.name.text),
    ("result", match result with
      | none => .null
      | some result =>
          .object [("fetched", .whole result.fetched.toInt), ("rows", .whole result.rows.toInt)]),
    ("source_path", .text report.sourcePath),
    ("stages", .array (report.stages.map fun timing =>
      .object [("elapsed_ms", .whole timing.elapsedMilliseconds.toNat),
        ("stage", timing.stage.toJson)]))]

/-- Print the results of a run. -/
def printResults (host : Host σ) (report : Report) (result : Option ExecutionReport) :
    StateM σ Unit := do
  printLine host ruler
  if let some result := result then
    printLine host ("rows: " ++ toString result.rows.toInt ++ "   fetch: " ++
      toString result.fetched.toInt)
  -- The stages follow each other, so no clock shows so long a time that their sum is too much.
  let total := report.total?.getD .longest
  printLine host ("Completed " ++ report.name.text ++ " in " ++ total.hundredthsText ++ "s")

/-- Generate and build an artifact and hand it to an executor. -/
def runWith (host : Host σ) (settings : Settings) (name : ArtifactName) (producer : Producer σ)
    (executor : Executor σ (Option ExecutionReport)) : StateM σ (Except Failure Unit) := do
  match ← Pipeline.ofConfig host settings.root settings.config executor none with
  | .error error => return .error (.pipeline error)
  | .ok silent =>
      if !settings.json then printLine host ("Running " ++ name.text)
      let pipeline := if settings.json then silent else { silent with callback := progress host }
      let (result, after) ← (pipeline.compileAndRun host producer name : StateM σ _)
      match result with
      | .error error => return .error (.pipeline error)
      | .ok report =>
          if settings.tells host report.sourcePath then
            if settings.json then printLine host (resultJson report after.memory).pretty
            else printResults host report after.memory
            return .ok ()
          else return .error .notUnicode

/-- Generate, build and execute an artifact. -/
def run (host : Host σ) (settings : Settings) (name : ArtifactName) (producer : Producer σ) :
    StateM σ (Except Failure Unit) :=
  let executor : ModuleExecutor := ⟨settings.layout, settings.config.execute⟩
  runWith host settings name producer (executor.execute host)

/-- Do what is asked with the settings that it needs. A template needs none. -/
def perform (host : Host σ) (invocation : Invocation) :
    StateM σ (Except Failure Unit) := do
  let withSettings (action : Settings → StateM σ (Except Failure Unit)) :
      StateM σ (Except Failure Unit) := do
    match ← Settings.load host invocation with
    | .error error => return .error (.pipeline error)
    | .ok settings => action settings
  let producer (name : ArtifactName) (source : Path) (withBridge : Bool) : Producer σ :=
    sourceProducer host source (if withBridge then some name.text else none)
  match invocation.action with
  | .generate name source withBridge =>
      withSettings fun settings => generate host settings name (producer name source withBridge)
  | .build name => withSettings fun settings => build host settings name
  | .run name source withBridge =>
      withSettings fun settings => run host settings name (producer name source withBridge)
  | .bridge name shape => do
      host.print (shape.render name)
      return .ok ()
  | .header hash => do
      host.print (QueryHeader.render hash)
      return .ok ()

/-- Why an invocation has no root directory, where that is so: it names none, and the working
directory cannot be determined. -/
def rootFault? (host : Host σ) (invocation : Invocation) (state : σ) : Option IoError :=
  if invocation.action.usesSettings && invocation.root.isNone then host.directoryFault? state
  else none

/-- Do what is asked, once it is known that there is a root directory. -/
def attempt (host : Host σ) (invocation : Invocation) : StateM σ (Except Failure Unit) := do
  match rootFault? host invocation (← get) with
  | some cause => return .error (.rootless cause)
  | none => perform host invocation

/-- How the program ends after a command, if nothing has ended it before. -/
def Ending.ofAnswer (backtrace : Option String) : Except Failure Unit → Ending
  | .ok () => ⟨.exited 0, ""⟩
  | .error failure => failure.ending backtrace

/-- Do what the arguments demand. -/
def fulfil (host : Host σ) : Except UsageError Demand → StateM σ Ending
  | .error error => return ⟨.exited 2, Text.Terminal.strip error.message ++ "\n"⟩
  | .ok .version => do
      printLine host (programName ++ " " ++ programVersion)
      return ⟨.exited 0, ""⟩
  | .ok .help => do
      printLine host programSummary
      return ⟨.exited 0, ""⟩
  | .ok (.invoke invocation) => do
      let answer ← attempt host invocation
      let state ← get
      match host.ended? state with
      | some status => return ⟨status, ""⟩
      | none => return .ofAnswer (host.backtrace? state) answer

end QueryFoundry.CommandLine
