import QueryFoundry.Sandbox.Options
import QueryFoundry.Sandbox.Quotation
import QueryFoundry.Sandbox.Task

/-!
# Utilities as such

What a small program of the in-memory machine is, and how such programs complain.
-/

namespace QueryFoundry.Sandbox

open Text (Octets)

/-- A small program: what it does with its arguments and its variables, and its exit code. -/
abbrev Utility := List Octets → Environment → Program UInt8

namespace Utility

/-- Print an error message with the name of a program. -/
def complain (name message : Octets) : Program Unit :=
  Program.complain (name ++ ": " ++ message ++ "\n")

/-- Complain about arguments, with a reference to the help; the result is an exit code. -/
def usageError (name message : Octets) (code : UInt8) : Program UInt8 := do
  complain name message
  Program.complain ("Try '" ++ name ++ " --help' for more information.\n")
  return code

/-- The text of an error in messages. -/
def errorText : IoError → Octets
  | .os errno => errnoText errno
  | other => other.message

/-- Print a text and return an exit code, which tells of a failure, too. -/
def printed (name text : Octets) (code : UInt8) : Program UInt8 := do
  match ← Program.tryWrite 1 text with
  | .ok () => return code
  | .error error =>
      complain name ("write error: " ++ errorText error)
      return 1

/-- Options that all programs know: to tell how they are used and which version they have. -/
def commonWords : List (Octets × Octets × OptionArgument) :=
  [("help", "help", .never), ("version", "version", .never)]

/-- The first line of what a program tells about its version. -/
def versionLine (name : Octets) : Octets := name ++ " (GNU coreutils) 9.4\n"

/-- A program that knows some options: arguments that do not fit them are refused with a code. -/
def withOptions (name : Octets) (table : OptionTable) (code : UInt8)
    (run : ReadArguments → Environment → Program UInt8) : Utility := fun arguments environment => do
  let read := { table with words := table.words ++ commonWords }.read arguments
  match read.options.find? fun option => ["help", "version"].contains option.1 with
  | some ("version", _) => printed name (versionLine name) 0
  | some _ => printed name ("Usage: " ++ name ++ " [OPTION]...\n") 0
  | none =>
      match read.problem with
      | some problem => usageError name problem.message code
      | none => run read environment

/-- Do something for each of some items; the exit code tells whether it always succeeded. -/
def forEach {α : Type} (items : List α) (action : α → Program Bool) : Program UInt8 := do
  let results ← items.mapM action
  return if results.all id then 0 else 1

end Utility

end QueryFoundry.Sandbox
