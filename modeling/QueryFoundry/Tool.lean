import QueryFoundry.Host
import QueryFoundry.Text.Blank

/-!
# Finding tools

A tool is named by a path or looked for in the directories of the search path. What is found is an
executable file.
-/

namespace QueryFoundry.Tool

variable {σ : Type}

/-- The parts of a path: a root directory counts as one, a point only at the start, and what lies
between two separators in a row does not. -/
def components (path : Path) : List String :=
  let pieces := path.splitOn "/"
  let named := pieces.filter fun piece => piece != "" && piece != "."
  if Path.isAbsolute path then "/" :: named
  else if pieces.head? == some "." then "." :: named
  else named

/-- A program with more than one component is taken as a path. -/
def isPath (program : String) : Bool :=
  1 < (components program).length

/-- The component that stands for the home directory at the start of a directory to search. -/
def homeMark : String := "~"

/-- A path as it is, or against the working directory. -/
def settle (host : Host σ) (state : σ) (path : Path) : Path :=
  if Path.isAbsolute path then path
  else ((components path).dropWhile (· == ".")).foldl Path.join (host.workingDirectory state)

/-- A directory of the search path with the home directory in place of its mark. -/
def expandHome (host : Host σ) (state : σ) (directory : Path) : Path :=
  match components directory with
  | [] => directory
  | first :: rest =>
      if first == homeMark then rest.foldl Path.join (host.homeDirectory state) else directory

/-- The files that a program may stand for: a path is taken as it is or against the working
directory, and a plain name is looked for in each directory of the search path. -/
def candidates (host : Host σ) (state : σ) (program : String) : List Path :=
  if isPath program then [settle host state program]
  else (host.searchPath state).map fun directory =>
    Path.join (settle host state (expandHome host state directory)) program

/-- The first candidate for a program that is an executable file. -/
def find? (host : Host σ) (state : σ) (program : String) : Option Path :=
  (candidates host state program).find? fun candidate =>
    host.isFile state candidate && host.isExecutable state candidate

/-- The executable file of a tool. -/
def find (host : Host σ) (program : String) : StateM σ (Except PipelineError Path) := do
  match find? host (← get) program with
  | some path => return .ok path
  | none => return .error (.toolNotFound program)

/-- The first line of a text, without its end. -/
def firstLine (text : String) : String :=
  String.ofList (text.toList.takeWhile (· != '\n'))

/-- What a tool tells about its version: the first line that it prints when asked, if it succeeds
and the line is not blank. -/
def version (host : Host σ) (path : Path) : StateM σ (Option String) := do
  match ← host.capture { program := path, arguments := ["--version"] } with
  | .error _ => return none
  | .ok (status, output) =>
      let line := Text.trim (firstLine output)
      return if status.success && line != "" then some line else none

/-- Find a tool and ask it for its version, which is only told to the log: a tool that does not know
the question is as good as one that does. -/
def resolve (host : Host σ) (origin : LogOrigin) (job program : String) :
    StateM σ (Except PipelineError Path) := do
  match ← find host program with
  | .error error => return .error error
  | .ok path =>
      if let some told ← version host path then
        host.tellDetail origin ("Using " ++ job ++ " " ++ told)
      return .ok path

end QueryFoundry.Tool
