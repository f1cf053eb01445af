import QueryFoundry.ArtifactName
import QueryFoundry.EngineLayout
import QueryFoundry.Host

/-!
# Executing compiled modules

A compiled artifact is loaded, its init function is asked for the table of operations, and the query
is run, read and released. The library is unloaded on every way out, and a handle is released before
that.
-/

namespace QueryFoundry

variable {σ : Type}

/-- Runs an artifact that was built, with a memory of type `ε` that lasts from run to run. -/
abbrev Executor (σ ε : Type) := ArtifactName → ε → StateM σ (Except PipelineError Unit × ε)

/-- What a query reported. -/
structure ExecutionReport where
  rows : Int64
  fetched : Int64
deriving DecidableEq, Repr

/-- Loads the modules of an engine. -/
structure ModuleExecutor where
  layout : EngineLayout
  config : ExecuteConfig
deriving DecidableEq, Repr

namespace ModuleExecutor

/-- The file that the library of an artifact is expected at. -/
def libraryPath (executor : ModuleExecutor) (name : ArtifactName) : Path :=
  executor.layout.libraryPath name.text executor.config.libraryStart

/-- The name of the init function of an artifact. -/
def initSymbol (executor : ModuleExecutor) (name : ArtifactName) : String :=
  executor.config.initSymbolStart ++ name.text

/-- Run the query of a module, read its results and release it. -/
def query (host : Host σ) (table : ModuleTable) (name : ArtifactName) :
    StateM σ (Except PipelineError ExecutionReport) := do
  match ← host.loader.callRun table with
  | none => return .error (.execution ("query '" ++ name.text ++ "' failed to run"))
  | some handle =>
      let rows ← host.loader.callRowCount table handle
      let fetched ← host.loader.callFetch table handle
      host.loader.callRelease table handle
      return .ok ⟨rows, fetched⟩

/-- Ask the init function of a loaded module for its table and use it if its version fits. -/
def enter (host : Host σ) (executor : ModuleExecutor) (library : Library) (name : ArtifactName) :
    StateM σ (Except PipelineError ExecutionReport) := do
  let symbol := executor.initSymbol name
  match ← host.loader.callInit library symbol with
  | .error cause =>
      return .error (.execution ("Failed to get symbol " ++ symbol ++ ": " ++ cause.message))
  | .ok none => return .error (.execution (symbol ++ " returned no module table"))
  | .ok (some table) =>
      if table.abiVersion = bridgeAbiVersion then query host table name
      else
        return .error (.execution ("module '" ++ name.text ++ "' has bridge ABI version " ++
          toString table.abiVersion.toNat ++ ", expected " ++ toString bridgeAbiVersion.toNat))

/-- Load an artifact, run its query and read the results. -/
def run (host : Host σ) (executor : ModuleExecutor) (name : ArtifactName) :
    StateM σ (Except PipelineError ExecutionReport) := do
  let path := executor.libraryPath name
  if host.pathExists (← get) path then
    host.inform .executing ("Loading " ++ path)
    match ← host.loader.openLibrary path with
    | .error cause => return .error (.libraryLoad cause)
    | .ok library =>
        let result ← executor.enter host library name
        host.loader.closeLibrary library
        if let .ok report := result then
          host.inform .executing ("Query '" ++ name.text ++ "' returned " ++
            toString report.rows.toInt ++ " rows (fetch: " ++ toString report.fetched.toInt ++ ")")
        return result
  else
    return .error (.execution
      ("compiled artifact for '" ++ name.text ++ "' not found at " ++ path))

/-- The executor of a pipeline that loads modules. It remembers the report of the last success. -/
def execute (host : Host σ) (executor : ModuleExecutor) :
    Executor σ (Option ExecutionReport) := fun name lastReport => do
  match ← executor.run host name with
  | .error error => return (.error error, lastReport)
  | .ok report => return (.ok (), some report)

end ModuleExecutor

end QueryFoundry
