import QueryFoundry.Duration
import QueryFoundry.IoError
import QueryFoundry.Path

/-!
# Pipeline errors

Why an artifact could not be generated, formatted, built, loaded or run: one constructor for each
cause, with the text that is shown for it and a hint on how to recover.
-/

namespace QueryFoundry

/-- Why a library or one of its symbols could not be had. -/
inductive LoadError where
  /-- The loader refused the file. -/
  | openFailed
  /-- The library has no such symbol. -/
  | symbolMissing
  /-- The name of the symbol holds a NUL character before its end. -/
  | nulInSymbol
deriving DecidableEq, Repr

/-- What is said about a failed load. -/
def LoadError.message : LoadError → String
  | openFailed => "dlopen failed"
  | symbolMissing => "dlsym failed"
  | nulInSymbol => "interior zero element in parameter"

/-- Why a stage failed. -/
inductive PipelineError where
  /-- The producer failed or its text could not be written. -/
  | generation (name message : String)
  /-- The formatter ended without success. -/
  | format (path : Path) (code : Option Int)
  /-- The formatter did not end in time and was killed. -/
  | formatTimeout (path : Path) (timeout : Duration)
  /-- The build tool ended without success. -/
  | build (name : String) (code : Option Int)
  /-- The build tool did not end in time and was killed. -/
  | buildTimeout (name : String) (timeout : Duration)
  /-- A tool is not there or could not be started. -/
  | toolNotFound (tool : String)
  /-- The compiled library could not be loaded. -/
  | libraryLoad (cause : LoadError)
  /-- The compiled library was loaded but could not be run. -/
  | execution (message : String)
  /-- The configuration is wrong. -/
  | config (message : String)
  /-- Some other operation on files or processes failed. -/
  | io (cause : IoError)
deriving DecidableEq, Repr

namespace PipelineError

/-- The name of the cause. -/
def kind : PipelineError → String
  | generation .. => "Generation"
  | format .. => "Format"
  | formatTimeout .. => "FormatTimeout"
  | build .. => "Build"
  | buildTimeout .. => "BuildTimeout"
  | toolNotFound .. => "ToolNotFound"
  | libraryLoad .. => "LibraryLoad"
  | execution .. => "Execution"
  | config .. => "Config"
  | io .. => "Io"

/-- How a tool ended, as it follows the statement that it failed. -/
def statusSuffix : Option Int → String
  | some code => " with exit status " ++ toString code
  | none => " (terminated by signal)"

/-- What is said about an error. -/
def message : PipelineError → String
  | generation name message => "generation failed for '" ++ name ++ "': " ++ message
  | format path code => "formatting " ++ path ++ " failed" ++ statusSuffix code
  | formatTimeout path timeout =>
      "formatting " ++ path ++ " timed out after " ++ timeout.secondsText ++ "s"
  | build name code => "build of '" ++ name ++ "' failed" ++ statusSuffix code
  | buildTimeout name timeout =>
      "build of '" ++ name ++ "' timed out after " ++ timeout.secondsText ++ "s"
  | toolNotFound tool => "tool not found: " ++ tool
  | libraryLoad cause => "failed to load library: " ++ cause.message
  | execution message => "execution error: " ++ message
  | config message => "configuration error: " ++ message
  | io cause => "IO error: " ++ cause.message

/-- The exit code of the tool that failed, if it reported one. -/
def exitCode? : PipelineError → Option Int
  | format _ code | build _ code => code
  | _ => none

/-- What to do about an error, where there is something to do. -/
def hint? : PipelineError → Option String
  | generation .. =>
      some "check the source producer and that the output directory is writable"
  | format .. =>
      some "run the formatter by hand on the generated file, or set `format.enabled = false`"
  | build .. =>
      some "inspect the build tool's stderr above; the generated source is left in place"
  | formatTimeout .. => some "raise `format.timeout_secs` in querygen.toml"
  | buildTimeout .. => some "raise `build.timeout_secs` in querygen.toml"
  | toolNotFound .. => some "install the tool or point querygen.toml at it"
  | libraryLoad .. =>
      some "make sure the build target produces a shared library in `paths.artifact_dir`"
  | config .. => some "see querygen.toml"
  | execution .. | io .. => none

/-- The line that a hint adds to the message. -/
def hintSuffix (error : PipelineError) : String :=
  match error.hint? with
  | some hint => "\n  hint: " ++ hint
  | none => ""

/-- The message together with the hint, where there is one. -/
def withHint (error : PipelineError) : String :=
  error.message ++ error.hintSuffix

end PipelineError

end QueryFoundry
