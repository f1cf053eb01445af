import QueryFoundry.Config

/-!
# The layout of the engine's directories

Where generated sources and built libraries of a storage engine lie. A layout is only computed;
nothing is created.
-/

namespace QueryFoundry

/-- The directories around a storage engine. -/
structure EngineLayout where
  /-- The directory that the others are resolved against. -/
  root : Path
  /-- The directory that the build tool runs in. -/
  engineDir : Path
  /-- The directory of generated sources. -/
  generatedDir : Path
  /-- The directory that built libraries are left in. -/
  artifactDir : Path
deriving DecidableEq, Repr

namespace EngineLayout

/-- Resolve configured directories against a root. -/
def ofConfig (root : Path) (paths : PathsConfig) : EngineLayout :=
  let engineDir := Path.join root paths.engineDir
  { root := root
    engineDir := engineDir
    generatedDir := Path.join engineDir paths.generatedDir
    artifactDir :=
      match paths.artifactDir with
      | some directory => Path.join engineDir directory
      | none => engineDir }

/-- The layout with the default directories. -/
def ofRoot (root : Path) : EngineLayout :=
  ofConfig root {}

/-- The generated source of an artifact. -/
def sourcePath (layout : EngineLayout) (name : String) : Path :=
  Path.join layout.generatedDir (name ++ ".cpp")

/-- The shared library that the build leaves for an artifact. -/
def libraryPath (layout : EngineLayout) (name start : String) : Path :=
  Path.join layout.artifactDir (start ++ name ++ "." ++ libraryExtension)

end EngineLayout

end QueryFoundry
