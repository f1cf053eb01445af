import QueryFoundry.ArtifactName
import QueryFoundry.EngineLayout
import QueryFoundry.Formatter

/-!
# Building artifacts

The engine's build tool is started in the build root with the name of the artifact as its target.
-/

namespace QueryFoundry

variable {σ : Type}

/-- Starts the engine's build tool. -/
structure Builder where
  /-- The directory that the tool runs in. -/
  root : Path
  program : Path
  /-- The arguments in front of the target. -/
  arguments : List String := []
  timeout : Option Duration := none
deriving DecidableEq, Repr

namespace Builder

/-- The builder that a configuration asks for. -/
def ofConfig (host : Host σ) (layout : EngineLayout) (config : BuildConfig) :
    StateM σ (Except PipelineError Builder) := do
  match ← Tool.resolve host .building "build tool" config.program with
  | .error error => return .error error
  | .ok program => return .ok ⟨layout.engineDir, program, config.arguments, config.timeout⟩

/-- How the build tool is started for an artifact. What it prints is thrown away, but not its error
messages. -/
def command (builder : Builder) (name : ArtifactName) : Command :=
  { program := builder.program
    arguments := builder.arguments ++ [name.text]
    directory := some builder.root
    quiet := true }

/-- What the outcome of the build tool means for an artifact. -/
def judge (builder : Builder) (name : ArtifactName) : ToolOutcome → Except PipelineError Duration
  | .exited status elapsed =>
      if status.success then .ok elapsed
      else .error (.build name.text (status.exitCode?.map Int.ofNat))
  | .timedOut elapsed => .error (.buildTimeout name.text (builder.timeout.getD elapsed))

/-- Build an artifact. The time that the build took is returned. -/
def compile (host : Host σ) (builder : Builder) (name : ArtifactName) :
    StateM σ (Except PipelineError Duration) := do
  if host.isDirectory (← get) builder.root then
    host.inform .building ("Building " ++ name.text ++ " in " ++ builder.root)
    match ← Supervision.run host (builder.command name) builder.timeout with
    | .error error => return .error (.ofSpawn builder.program error)
    | .ok outcome =>
        match builder.judge name outcome with
        | .error error => return .error error
        | .ok elapsed =>
            host.inform .building
              ("Built " ++ name.text ++ " in " ++ elapsed.hundredthsText ++ "s")
            return .ok elapsed
  else return .error (.config ("build root " ++ builder.root ++ " is not a directory"))

end Builder

end QueryFoundry
