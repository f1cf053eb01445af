import QueryFoundry.Sandbox.Sed.Invocation
import QueryFoundry.Sandbox.Utilities.Concatenation
import QueryFoundry.Sandbox.Utilities.Files
import QueryFoundry.Sandbox.Utilities.Lines
import QueryFoundry.Sandbox.Utilities.Make
import QueryFoundry.Sandbox.Utilities.Messages
import QueryFoundry.Sandbox.Utilities.Processes

/-!
# Utilities

The small programs that scripts on the in-memory machine call.
-/

namespace QueryFoundry.Sandbox.Utilities

open Text (Octets)

/-- The small programs by name. -/
def all : List (Octets × Utility) :=
  [("true", constant "true" 0), ("false", constant "false" 1), ("sleep", sleep),
    ("touch", touch), ("cat", Concatenation.program), ("pwd", printDirectory), ("echo", echo),
    ("printf", printf), ("test", test), ("[", bracket), ("kill", kill),
    ("mkdir", makeDirectories), ("rmdir", removeDirectories), ("rm", remove), ("cp", copy),
    ("mv", move), ("chmod", changeMode), ("ls", list), ("basename", baseName),
    ("dirname", directoryName), ("head", someLines "head" fun count lines => lines.take count),
    ("tail", someLines "tail" fun count lines => lines.drop (lines.length - count)),
    ("wc", wordCount), ("tee", tee), ("seq", numberSequence), ("grep", grep),
    ("sed", Sed.program), ("env", environmentUtility), ("make", make)]

end QueryFoundry.Sandbox.Utilities
