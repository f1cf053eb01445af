import QueryFoundry.Config.Decode
import QueryFoundry.Host

/-!
# Loading a configuration

A configuration is loaded from a file that is named, or from the file in the root directory where
there is one.
-/

namespace QueryFoundry.Config

variable {σ : Type}

/-- Why a configuration could not be loaded. -/
inductive LoadFailure where
  /-- The file could not be read. -/
  | unreadable (path : Path) (cause : IoError)
  /-- The text of the file is no configuration. -/
  | invalid (path : Path) (cause : TextError)
deriving DecidableEq, Repr

/-- The error that a failed load is reported as. -/
def LoadFailure.toError : LoadFailure → PipelineError
  | unreadable path cause => .config ("cannot read " ++ path ++ ": " ++ cause.message)
  | invalid path cause => .config (path ++ ": " ++ cause.message)

/-- Load the configuration from a file. -/
def load (host : Host σ) (path : Path) : StateM σ (Except LoadFailure Config) := do
  match ← host.readText path with
  | .error cause => return .error (.unreadable path cause)
  | .ok text => return (parse text).mapError (.invalid path)

/-- Load the configuration file of a root directory; without one the defaults hold. -/
def discover (host : Host σ) (root : Path) : StateM σ (Except LoadFailure Config) := do
  let candidate := Path.join root configFileName
  if host.isFile (← get) candidate then
    host.tellDetail .config ("Loading configuration from " ++ candidate)
    load host candidate
  else return .ok {}

end QueryFoundry.Config
