import QueryFoundry.Sandbox.Machine
import QueryFoundry.Sandbox.Shell.Startup
import QueryFoundry.Sandbox.Utilities

/-!
# The system of the in-memory machine

The programs that the machine comes with, the files that it starts with and the variables that its
programs see.
-/

namespace QueryFoundry.Sandbox

open Text (Octets)

namespace System

/-- The directories that hold programs. -/
def programDirectories : List Octets := ["/usr/bin", "/bin"]

/-- The directories that programs are looked for in, unless others are given. -/
def standardSearchPath : List Octets :=
  ["/usr/local/sbin", "/usr/local/bin", "/usr/sbin", "/usr/bin", "/sbin", "/bin"]

/-- The names of the programs that are shells. -/
def shells : List Octets := ["sh", "dash"]

/-- What a program of the machine does. -/
def programs (more : List (Octets × Utility)) : Programs :=
  fun name arguments environment =>
    if shells.contains name then shellProgram arguments environment
    else if name == Machine.executableProgram then
      match more.lookup name with
      | some utility => Program.toTask (utility arguments environment)
      | none => .exit 126
    else
      match (Utilities.all ++ more).lookup name with
      | some utility => Program.toTask (utility (arguments.drop 1) environment)
      | none => .exit 127

/-- The bytes of the file of a program. -/
def programImage (name : Octets) : Octets := Machine.programMark ++ name ++ "\n"

/-- The devices of a system. -/
def devices : List (Octets × Device) :=
  [("/dev/null", Device.null), ("/dev/zero", .zero), ("/dev/full", .full), ("/dev/tty", .terminal),
    ("/dev/stdin", .descriptor 0), ("/dev/stdout", .descriptor 1), ("/dev/stderr", .descriptor 2)] ++
    (List.range 10).map fun number => ("/dev/fd/" ++ toString number, Device.descriptor number)

/-- A file tree with the directories of a system and the given programs. -/
def tree (names : List Octets) : FileTree :=
  let place (path : Octets) : Location := (path.splitOn "/").filter (· != "")
  let directories := ["/usr", "/usr/bin", "/usr/local", "/usr/local/bin", "/usr/sbin",
    "/usr/local/sbin", "/bin", "/sbin", "/dev", "/dev/fd", "/etc", "/proc", "/root", "/tmp"]
  let files := programDirectories.flatMap fun directory =>
    names.map fun name => (place directory ++ [name], Entry.file (programImage name) true)
  ⟨directories.map (fun path => (place path, Entry.directory)) ++
    devices.map (fun (path, kind) => (place path, Entry.device kind)) ++ files, [], 0⟩

/-- A machine with the programs of the system and some more. -/
def machine (more : List (Octets × Utility)) : Machine :=
  { programs := programs more
    tree := tree ((shells ++ (Utilities.all ++ more).map Prod.fst).filter
      (· != Machine.executableProgram)) }

end System

end QueryFoundry.Sandbox
