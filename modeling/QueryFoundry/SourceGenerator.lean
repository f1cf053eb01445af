import QueryFoundry.ArtifactName
import QueryFoundry.EngineLayout
import QueryFoundry.Formatter

/-!
# Generating sources

A producer yields the text of a query. The text is written under the engine's directory of generated
sources and formatted where there is a formatter.
-/

namespace QueryFoundry

variable {σ : Type}

/-- Why a producer failed: what went wrong, then what caused it, and so on. -/
abbrev CauseChain := List String

/-- A source of query text. -/
abbrev Producer (σ : Type) := StateM σ (Except CauseChain String)

/-- A chain of causes in one line. -/
def causeText (causes : CauseChain) : String :=
  ": ".intercalate causes

/-- Writes the texts of producers into the engine's directory of generated sources. -/
structure SourceGenerator where
  layout : EngineLayout
  formatter : Option Formatter
deriving DecidableEq, Repr

namespace SourceGenerator

/-- The generator that a configuration asks for. -/
def ofConfig (host : Host σ) (layout : EngineLayout) (config : Config) :
    StateM σ (Except PipelineError SourceGenerator) := do
  match ← Formatter.ofConfig host config.format with
  | .error error => return .error error
  | .ok formatter => return .ok ⟨layout, formatter⟩

/-- Write a text as the source of an artifact, creating its directory where that is missing. -/
def write (host : Host σ) (generator : SourceGenerator) (name : ArtifactName) (text : String) :
    StateM σ (Except PipelineError Path) := do
  let directory := generator.layout.generatedDir
  let path := generator.layout.sourcePath name.text
  let failed (action target : String) (error : IoError) : PipelineError :=
    .generation name.text ("cannot " ++ action ++ " " ++ target ++ ": " ++ error.message)
  match ← host.createDirectories directory with
  | .error error => return .error (failed "create" directory error)
  | .ok () =>
      match ← host.writeText path text with
      | .error error => return .error (failed "write" path error)
      | .ok () =>
          host.inform .generating ("Generated " ++ path)
          return .ok path

/-- Format a written source where there is a formatter. -/
def format (host : Host σ) (generator : SourceGenerator) (path : Path) :
    StateM σ (Except PipelineError Path) := do
  match generator.formatter with
  | none => return .ok path
  | some formatter =>
      match ← formatter.formatInPlace host path with
      | .error error => return .error error
      | .ok () =>
          host.tellDetail .generating ("Formatted " ++ path ++ " with " ++ formatter.program)
          return .ok path

/-- Call the producer once, write its text and format it. The path of the written file is returned.
-/
def generate (host : Host σ) (generator : SourceGenerator) (producer : Producer σ)
    (name : ArtifactName) : StateM σ (Except PipelineError Path) := do
  match ← producer with
  | .error causes => return .error (.generation name.text (causeText causes))
  | .ok text =>
      match ← generator.write host name text with
      | .error error => return .error error
      | .ok path => generator.format host path

end SourceGenerator

end QueryFoundry
