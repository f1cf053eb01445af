import QueryFoundry.Sandbox.Shell.Builtins

/-!
# Looking for commands

Where the programs are found that a shell starts, and how a shell tells what a name stands for.
-/

namespace QueryFoundry.Sandbox.Shell

open Text (Octets)

/-- The commands of the shell that are looked for among the programs, too. -/
def lateBuiltins : List Octets := ["echo", "hash", "printf", "test", "["]

/-- Whether a command of the shell is found before the other words of a command are expanded. -/
def isEarlyBuiltin (name : Octets) : Bool := isBuiltin name && !(lateBuiltins.contains name)

/-- How a program that cannot be started is told. -/
def startFailure (name : Octets) (error : IoError) : Octets :=
  name ++ ": " ++ (match error with
    | .os errno => if errno == 2 || errno == 20 then "not found" else errnoText errno
    | other => other.message)

/-- The file of a program. A plain name is looked for in some places, and remembered if those are the
usual ones. -/
def findProgram (name : Octets) (places : Option Octets) : Shell (Except IoError Octets) := do
  if name.toList.contains '/' then return .ok name
  else
    match places with
    | some path => perform (firstProgram true (programCandidates path name))
    | none =>
        match (← get).found.lookup name with
        | some path => return .ok path
        | none =>
            let result ← perform (firstProgram true (programCandidates (← searchPath) name))
            match result with
            | .ok path => modify fun state => { state with
                found := (name, path) :: state.found }
            | .error _ => pure ()
            return result

/-- Remember where the program of a command is, if the first word of the command is a plain name. -/
def remember (command : Command) : Shell Unit := do
  match command with
  | .simple _ _ (word :: _) _ =>
      match Word.bare? word with
      | some name =>
          if isName name && !(isBuiltin name) && ((← get).functions.lookup name).isNone then
            let _ ← findProgram name none
      | none => pure ()
  | _ => pure ()

/-- Print what the name of a command stands for, as a sentence or as the bare name or path. -/
def describe (asSentence usesStandardPath : Bool) (word : Octets) : Shell Nat := do
  let tell (kind bare : Octets) : Shell Nat := do
    say ((if asSentence then word ++ kind else bare) ++ "\n")
    return 0
  let state ← get
  if reservedWords.contains word then tell " is a shell keyword" word
  else
    match state.aliases.lookup word with
    | some text =>
        if asSentence then tell (" is an alias for " ++ text) ""
        else
          say "alias "
          showAlias word text
          return 0
    | none =>
        if (state.functions.lookup word).isSome then tell " is a shell function" word
        else if isBuiltin word then
          tell (if specialBuiltins.contains word then " is a special shell builtin"
            else " is a shell builtin") word
        else
          let isPath := word.toList.contains '/'
          let isTracked := !usesStandardPath && !isPath && (state.found.lookup word).isSome
          let found ←
            if isPath then
              pure (if (← perform (Program.status? word)).isSome then Except.ok word
                else .error IoError.notFound)
            else findProgram word (if usesStandardPath then some standardPath else none)
          match found with
          | .ok path =>
              tell (if isTracked then " is a tracked alias for " ++ path else " is " ++ path) path
          | .error _ =>
              if asSentence then say (word ++ ": not found\n")
              return 127

/-- Tell what names stand for. -/
def tellKinds : Builtin := fun arguments => do
  let (_, words) ← options [] arguments
  let mut status := 0
  for word in words do
    status := status ||| (← describe true false word)
  return status

/-- Tell what a name stands for, if that is asked for. -/
def tellCommand : Builtin := fun arguments => do
  let (letters, words) ← options ['p', 'v', 'V'] arguments
  let asked := letters.filter (· != 'p')
  match words, asked with
  | word :: _, _ :: _ => describe (asked.contains 'V') (letters.contains 'p') word
  | _, _ => return 0

/-- Forget, list or look up the places of programs. -/
def rememberPrograms : Builtin := fun arguments => do
  let (letters, names) ← options ['r'] arguments
  if letters.contains 'r' then
    modify fun state => { state with found := [] }
    return 0
  else if names.isEmpty then
    let sorted := (← get).found.reverse.mergeSort fun left right =>
      tablePlace 31 left.1 ≤ tablePlace 31 right.1
    sorted.forM fun (_, path) => say (path ++ "\n")
    return 0
  else
    let mut status := 0
    for name in names do
      modify fun state => { state with found := state.found.filter (·.1 != name) }
      if !(isBuiltin name) && ((← get).functions.lookup name).isNone then
        match ← findProgram name none with
        | .ok _ => pure ()
        | .error error =>
            complain (startFailure name error)
            status := 1
    return status

/-- Become a program, of which several files may hold one. An error is returned if none does. A file
that is no program is read as a script. -/
def becomeFirst (arguments : List Octets) (environment : Environment) :
    IoError → List Octets → Program IoError
  | error, [] => pure error
  | error, candidate :: rest => do
      let attempt (path : Octets) (arguments : List Octets) : Program IoError := do
        match ← Program.ask (.execute path arguments environment) with
        | .failed failure => return failure
        | _ => return .notFound
      let first ← attempt candidate arguments
      let failure ← if first == .notExecutableFormat then
        attempt "/bin/sh" ("/bin/sh" :: candidate :: arguments.drop 1) else pure first
      let isMissing := failure == .notFound || failure == .notADirectory
      becomeFirst arguments environment (if isMissing then error else failure) rest

/-- The exit code of a shell that cannot become a program. -/
def startFailureCode (error : IoError) : Nat :=
  match error with
  | .os errno => if [2, 20, 36, 40].contains errno then 127 else 126
  | _ => 126

/-- Become a program, with the files to try. It is returned from only when this fails, with a
message and an exit code. -/
def becomeProgram (name : Octets) (candidates arguments : List Octets)
    (environment : Environment) : Program (Octets × Nat) := do
  let error ← becomeFirst (name :: arguments) environment .notFound candidates
  return (startFailure name error, startFailureCode error)

end QueryFoundry.Sandbox.Shell
