import QueryFoundry.Builder
import QueryFoundry.ModuleExecutor
import QueryFoundry.Report
import QueryFoundry.SourceGenerator

/-!
# The pipeline

An artifact is generated, built and executed, in this order. The first failure ends the run and is
returned as it is; what was written or built stays. A callback is told when a stage starts,
completes or fails.
-/

namespace QueryFoundry

variable {σ ε : Type}

/-- What is told about the stages of a run. -/
structure Callback (σ : Type) where
  started : ArtifactName → Stage → StateM σ Unit
  completed : ArtifactName → Stage → Duration → StateM σ Unit := fun _ _ _ => pure ()
  failed : ArtifactName → Stage → PipelineError → StateM σ Unit

/-- A callback that is told everything and does nothing. -/
def Callback.silent : Callback σ where
  started _ _ := pure ()
  failed _ _ _ := pure ()

/-- Takes artifacts through generation, build and execution. -/
structure Pipeline (σ ε : Type) where
  generator : SourceGenerator
  builder : Builder
  executor : Executor σ ε
  /-- What the executor remembers. -/
  memory : ε
  callback : Callback σ := .silent
  /-- The stage that the last run came to. -/
  stage : Stage := .start

namespace Pipeline

/-- The pipeline that a configuration asks for. The build tool is looked for first. -/
def ofConfig (host : Host σ) (root : Path) (config : Config) (executor : Executor σ ε)
    (memory : ε) : StateM σ (Except PipelineError (Pipeline σ ε)) := do
  let layout := EngineLayout.ofConfig root config.paths
  match ← Builder.ofConfig host layout config.build with
  | .error error => return .error error
  | .ok builder =>
      match ← SourceGenerator.ofConfig host layout config with
      | .error error => return .error error
      | .ok generator => return .ok { generator, builder, executor, memory }

/-- The actions of a run: they change the host and the pipeline, and the first failure ends them. -/
abbrev Run (σ ε α : Type) := ExceptT PipelineError (StateT (Pipeline σ ε) (StateM σ)) α

/-- Do something on the host. -/
def onHost {α : Type} (action : StateM σ α) : Run σ ε α :=
  fun pipeline state =>
    let (result, after) := action state
    ((.ok result, pipeline), after)

/-- End the run at the current stage with an error. -/
def fail {α : Type} (host : Host σ) (name : ArtifactName) (error : PipelineError) : Run σ ε α := do
  let stage := (← get).stage
  modify fun pipeline => { pipeline with stage := .failed }
  onHost (host.warn .pipeline (name.text ++ ": " ++ stage.name ++ " stage failed: " ++ error.message))
  onHost ((← get).callback.failed name stage error)
  throw error

/-- Go through one stage: tell that it starts, do its work, and tell that it completed or failed. -/
def perform {α : Type} (host : Host σ) (name : ArtifactName) (stage : Stage)
    (work : StateT (Pipeline σ ε) (StateM σ) (Except PipelineError α)) :
    Run σ ε (α × StageTiming) := do
  modify fun pipeline => { pipeline with stage }
  onHost (host.tellDetail .pipeline (name.text ++ ": " ++ stage.name))
  onHost ((← get).callback.started name stage)
  let start := host.clock (← onHost get)
  match ← (ExceptT.lift work : Run σ ε _) with
  | .error error => fail host name error
  | .ok result =>
      let elapsed := host.elapsedSince start (← onHost get)
      onHost ((← get).callback.completed name stage elapsed)
      return (result, ⟨stage, elapsed⟩)

/-- Do the work of a stage that leaves the pipeline as it is. -/
def hostWork {α : Type} (work : Pipeline σ ε → StateM σ (Except PipelineError α)) :
    StateT (Pipeline σ ε) (StateM σ) (Except PipelineError α) :=
  fun pipeline state =>
    let (result, after) := work pipeline state
    ((result, pipeline), after)

/-- Hand an artifact to the executor and keep what it remembers. -/
def executorWork (name : ArtifactName) :
    StateT (Pipeline σ ε) (StateM σ) (Except PipelineError Unit) :=
  fun pipeline state =>
    let ((result, memory), after) := pipeline.executor name pipeline.memory state
    ((result, { pipeline with memory }), after)

/-- Generate an artifact, build it and hand it to the executor. -/
def compileAndRun (host : Host σ) (producer : Producer σ) (name : ArtifactName) :
    Run σ ε Report := do
  if !name.isIdentifier then
    onHost (host.warn .pipeline ("Artifact name '" ++ name.text ++
      "' is not a plain identifier; downstream tools may reject it"))
  modify fun pipeline => { pipeline with stage := .start }
  let (sourcePath, generating) ← perform host name .generating
    (hostWork fun pipeline => pipeline.generator.generate host producer name)
  let (_, building) ← perform host name .building
    (hostWork fun pipeline => pipeline.builder.compile host name)
  let (_, executing) ← perform host name .executing (executorWork name)
  modify fun pipeline => { pipeline with stage := .done }
  return ⟨name, sourcePath, [generating, building, executing]⟩

end Pipeline

end QueryFoundry
