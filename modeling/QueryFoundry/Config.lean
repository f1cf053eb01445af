import QueryFoundry.Duration
import QueryFoundry.Path
import QueryFoundry.Template.QueryShape

/-!
# Configuration

The settings of a pipeline: where the engine's directories are, which tools format and build, and
how a compiled module is found. Each setting has a default that fits an unchanged engine.
-/

namespace QueryFoundry

/-- The name of the configuration file in the root directory. -/
def configFileName : String := "querygen.toml"

/-- The extension of a shared library. -/
def libraryExtension : String := "so"

/-- The usual start of the file name of a shared library. -/
def defaultLibraryStart : String := "lib"

/-- Where the engine's directories are. -/
structure PathsConfig where
  /-- The build root, relative to the root directory. -/
  engineDir : Path := "storage_engine"
  /-- The directory of generated sources, relative to the build root. -/
  generatedDir : Path := "generated"
  /-- The directory of built libraries, relative to the build root; it is the build root itself
  where none is given. -/
  artifactDir : Option Path := none
deriving DecidableEq, Repr

/-- How generated sources are formatted. -/
structure FormatConfig where
  enabled : Bool := true
  program : String := "clang-format"
  style : String := "llvm"
  timeoutSeconds : Option UInt64 := none
deriving DecidableEq, Repr

/-- How artifacts are built. -/
structure BuildConfig where
  program : String := "make"
  /-- The arguments in front of the target. -/
  arguments : List String := []
  timeoutSeconds : Option UInt64 := some 600
deriving DecidableEq, Repr

/-- How a built library is found and entered. -/
structure ExecuteConfig where
  /-- What the file name of a library starts with. -/
  libraryStart : String := defaultLibraryStart
  /-- What the name of an init function starts with. -/
  initSymbolStart : String := initSymbolStart
deriving DecidableEq, Repr

/-- The settings of a pipeline. -/
structure Config where
  paths : PathsConfig := {}
  format : FormatConfig := {}
  build : BuildConfig := {}
  execute : ExecuteConfig := {}
deriving DecidableEq, Repr

/-- The time that the formatter is given. -/
def FormatConfig.timeout (config : FormatConfig) : Option Duration :=
  config.timeoutSeconds.map Duration.ofSeconds

/-- The time that the build tool is given. -/
def BuildConfig.timeout (config : BuildConfig) : Option Duration :=
  config.timeoutSeconds.map Duration.ofSeconds

end QueryFoundry
