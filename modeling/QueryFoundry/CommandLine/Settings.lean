import QueryFoundry.CommandLine.Invocation
import QueryFoundry.Config.Load
import QueryFoundry.EngineLayout

/-!
# Settings

The root directory and the configuration that a command works with.
-/

namespace QueryFoundry.CommandLine

variable {σ : Type}

/-- What a command works with. -/
structure Settings where
  root : Path
  config : Config
  /-- Whether results are printed as JSON. -/
  json : Bool
deriving DecidableEq, Repr

namespace Settings

/-- Settle the root directory and load the configuration. A file that is named must be there; else
the one in the root directory counts where there is one. -/
def load (host : Host σ) (invocation : Invocation) :
    StateM σ (Except PipelineError Settings) := do
  let root := invocation.root.getD (host.workingDirectory (← get))
  let loaded ← match invocation.config with
    | some path => Config.load host path
    | none => Config.discover host root
  match loaded with
  | .error failure => return .error failure.toError
  | .ok config =>
      let format := { config.format with
        enabled := config.format.enabled && !invocation.skipsFormatter }
      return .ok ⟨root, { config with format }, invocation.json⟩

/-- The layout of the engine's directories. -/
def layout (settings : Settings) : EngineLayout :=
  EngineLayout.ofConfig settings.root settings.config.paths

end Settings

end QueryFoundry.CommandLine
