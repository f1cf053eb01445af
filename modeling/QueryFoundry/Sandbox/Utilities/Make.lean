import QueryFoundry.Sandbox.Utility

/-!
# Making targets without rules

What a build program does where no file says how targets are made: targets that exist are up to date,
and others cannot be made.
-/

namespace QueryFoundry.Sandbox.Utilities

open Text (Octets)

/-- The options of the build program. -/
def makeTable : OptionTable where
  letters := "bBdeEikLmnpqrRsStwv".toList.map (fun letter =>
      (letter, String.singleton letter, .never)) ++
    [('C', "C", .always), ('f', "f", .always), ('I', "I", .always), ('j', "j", .perhaps),
      ('l', "l", .perhaps), ('o', "o", .always), ('O', "O", .perhaps), ('W', "W", .always)]
  words := [("directory", "C", .always), ("file", "f", .always), ("makefile", "f", .always),
    ("always-make", "B", .never), ("jobs", "j", .perhaps), ("keep-going", "k", .never),
    ("silent", "s", .never), ("quiet", "s", .never), ("question", "q", .never),
    ("dry-run", "n", .never), ("touch", "t", .never), ("version", "v", .never)]

/-- Give up with a message. -/
def stopMaking (message : Octets) : Program UInt8 := do
  Program.complain ("make: *** " ++ message ++ "  Stop.\n")
  return 2

/-- Make targets one after the other. -/
def makeTargets : List Octets → Program UInt8
  | [] => return 0
  | target :: rest => do
      match ← Program.status? target with
      | some _ =>
          Program.print ("make: Nothing to be done for '" ++ target ++ "'.\n")
          makeTargets rest
      | none => stopMaking ("No rule to make target '" ++ target ++ "'.")

/-- Make targets in the working directory. -/
def makeHere (read : ReadArguments) : Program UInt8 := do
  let targets := read.operands.filter fun word => !(word.toList.contains '=')
  let missing : Option Octets ← match read.last? "f" with
    | some file => do
        pure (if (← Program.status? file).isSome then none else some file)
    | none => pure none
  match missing with
  | some file =>
      Program.complain ("make: " ++ file ++ ": No such file or directory\n")
      stopMaking ("No rule to make target '" ++ file ++ "'.")
  | none =>
      if targets.isEmpty then stopMaking "No targets specified and no makefile found."
      else makeTargets targets

/-- Make targets. -/
def make : Utility := fun arguments _ => do
  let read := makeTable.read arguments
  if read.has "v" then Utility.printed "make" "GNU Make 4.3\n" 0
  else
    match read.last? "C" with
    | none => makeHere read
    | some directory =>
        match ← Program.attempt (.changeDirectory directory) with
        | .error error => stopMaking (directory ++ ": " ++ Utility.errorText error ++ ".")
        | .ok () =>
            let place ← Program.workingDirectory
            Program.print ("make: Entering directory '" ++ place ++ "'\n")
            let code ← makeHere read
            Program.print ("make: Leaving directory '" ++ place ++ "'\n")
            return code

end QueryFoundry.Sandbox.Utilities
