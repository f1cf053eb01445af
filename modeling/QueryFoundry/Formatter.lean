import QueryFoundry.Config
import QueryFoundry.Supervision
import QueryFoundry.Tool

/-!
# Formatters

A tool that formats a generated source in place.
-/

namespace QueryFoundry

variable {σ : Type}

/-- How an error on starting a tool is reported: a program that is not there is a missing tool. -/
def PipelineError.ofSpawn (program : Path) (error : IoError) : PipelineError :=
  if error = .notFound then .toolNotFound program else .io error

/-- A tool that formats sources in place. -/
structure Formatter where
  program : Path
  style : String
  timeout : Option Duration := none
deriving DecidableEq, Repr

namespace Formatter

/-- The formatter that a configuration asks for; there is none where formatting is disabled. -/
def ofConfig (host : Host σ) (config : FormatConfig) :
    StateM σ (Except PipelineError (Option Formatter)) := do
  if config.enabled then
    match ← Tool.resolve host .formatting "formatter" config.program with
    | .error error => return .error error
    | .ok program => return .ok (some ⟨program, config.style, config.timeout⟩)
  else return .ok none

/-- How the formatter is started on a file. -/
def command (formatter : Formatter) (path : Path) : Command :=
  { program := formatter.program, arguments := ["-style=" ++ formatter.style, "-i", path] }

/-- What the outcome of the formatter means for a file. -/
def judge (formatter : Formatter) (path : Path) : ToolOutcome → Except PipelineError Unit
  | .exited status _ =>
      if status.success then .ok ()
      else .error (.format path (status.exitCode?.map Int.ofNat))
  | .timedOut elapsed => .error (.formatTimeout path (formatter.timeout.getD elapsed))

/-- Format a file in place. -/
def formatInPlace (host : Host σ) (formatter : Formatter) (path : Path) :
    StateM σ (Except PipelineError Unit) := do
  match ← Supervision.run host (formatter.command path) formatter.timeout with
  | .error error => return .error (.ofSpawn formatter.program error)
  | .ok outcome => return formatter.judge path outcome

end Formatter

end QueryFoundry
