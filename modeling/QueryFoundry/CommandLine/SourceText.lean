import QueryFoundry.SourceGenerator
import QueryFoundry.Template.QueryShape

/-!
# Source texts

The producer behind the commands that read a source: a file or the input of the program, with a
bridge behind it where one is wanted.
-/

namespace QueryFoundry.CommandLine

variable {σ : Type}

/-- The path that stands for the input of the program. -/
def inputPath : Path := "-"

/-- Put a bridge behind a text, on a line of its own. -/
def appendBridge (text name : String) : String :=
  let isOpen := !text.isEmpty && text.toList.getLast? != some '\n'
  (if isOpen then text ++ "\n" else text) ++ bridgeSource name

/-- Read a source. -/
def readSource (host : Host σ) (path : Path) :
    StateM σ (Except CauseChain String) := do
  if path = inputPath then
    match ← host.readInput with
    | .error error => return .error ["Failed to read source from stdin", error.message]
    | .ok text => return .ok text
  else
    match ← host.readText path with
    | .error error => return .error ["Failed to read source " ++ path, error.message]
    | .ok text => return .ok text

/-- The producer that reads a source and puts the bridge of a module behind it where one is named.
-/
def sourceProducer (host : Host σ) (path : Path) (bridge : Option String) : Producer σ :=
  fun state =>
    let (result, after) := readSource host path state
    match bridge with
    | none => (result, after)
    | some name => (result.map (appendBridge · name), after)

end QueryFoundry.CommandLine
