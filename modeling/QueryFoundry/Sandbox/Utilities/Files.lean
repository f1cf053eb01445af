import QueryFoundry.Sandbox.Utility

/-!
# Programs for files and directories

Creating, removing, copying and listing files.
-/

namespace QueryFoundry.Sandbox.Utilities

open Text (Octets)
open Utility (complain usageError errorText withOptions forEach)
open Quotation (forShell)

/-- Letters for options without arguments, which are their own names. -/
def plainLetters (letters : String) : List (Char × Octets × OptionArgument) :=
  letters.toList.map fun letter => (letter, String.singleton letter, .never)

/-- The time that the dates of files are set to: that of another file, a date, which lies in front of
all that happens, or the current time. -/
def touchTime (read : ReadArguments) : Program (Except Octets Nat) := do
  match read.last? "r" with
  | some reference =>
      match ← Program.inspect? reference with
      | some (_, _, time) => return .ok time
      | none => return .error ("failed to get attributes of " ++ forShell reference ++
          ": No such file or directory")
  | none =>
      if read.has "d" || read.has "t" then return .ok 0
      else
        match ← Program.ask .now with
        | .number time => return .ok time
        | _ => return .ok 0

/-- Set the date of a file, which may be created if it is missing, or its absence be tolerated. -/
def touchFile (creates tolerates changes : Bool) (time : Nat) (path : Octets) : Program Bool := do
  let failed (words : Octets) (error : IoError) : Program Bool := do
    complain "touch" (words ++ forShell path ++ ": " ++ errorText error)
    return false
  let opening : Option IoError ←
    if !creates || (← Program.status? path).isSome then pure none
    else
      match ← Program.ask (.openFile path .append) with
      | .number descriptor =>
          let _ ← Program.ask (.close descriptor)
          pure none
      | .failed error => pure (some error)
      | _ => pure none
  let setting ← if changes then Program.attempt (.setTime path time) else pure (.ok ())
  match setting, opening with
  | .ok (), _ => return true
  | .error error, some .isADirectory => failed "setting times of " error
  | .error _, some error => failed "cannot touch " error
  | .error error, none =>
      if tolerates && error == .notFound then return true else failed "setting times of " error

/-- Set the dates of files, which are created if they are missing. -/
def touch : Utility :=
  let table : OptionTable := {
    letters := plainLetters "acfhm" ++ [('d', "d", .always), ('r', "r", .always),
      ('t', "t", .always)]
    words := [("time", "time", .always), ("no-create", "c", .never), ("date", "d", .always),
      ("reference", "r", .always), ("no-dereference", "h", .never)] }
  withOptions "touch" table 1 fun read _ => do
    match ← touchTime read with
    | .error message =>
        complain "touch" message
        return 1
    | .ok time =>
        if read.operands.isEmpty then usageError "touch" "missing file operand" 1
        else
          let changes := read.has "m" || !read.has "a"
          forEach read.operands fun path =>
            if path == "-" then return true
            else touchFile (!(read.has "c" || read.has "h")) (read.has "c") changes time path

/-- Create a directory, with those above it where that is asked for. -/
def makeDirectory (withParents : Bool) (path : Octets) : Program Bool := do
  let pieces := path.splitOn "/"
  let starts := (List.range pieces.length).map fun count =>
    "/".intercalate (pieces.take (count + 1))
  let steps := if withParents then starts.filter (· != "") else [path]
  let results ← steps.mapM fun step => do
    match ← Program.attempt (.createDirectory step) with
    | .ok () => return none
    | .error error =>
        let isThere := (← Program.status? step).any Entry.isDirectory
        return if withParents && isThere then none else some (step, error)
  match results.findSome? id with
  | none => return true
  | some (step, error) =>
      complain "mkdir" ("cannot create directory " ++ forShell step ++ ": " ++ errorText error)
      return false

/-- Create directories. -/
def makeDirectories : Utility :=
  let table : OptionTable := {
    letters := plainLetters "pv" ++ [('m', "m", .always), ('Z', "Z", .never)]
    words := [("mode", "m", .always), ("parents", "p", .never), ("verbose", "v", .never)] }
  withOptions "mkdir" table 1 fun read _ => do
    if read.operands.isEmpty then usageError "mkdir" "missing operand" 1
    else
      forEach read.operands fun path => do
        let succeeded ← makeDirectory (read.has "p") path
        if succeeded && read.has "v" then
          Program.print ("mkdir: created directory " ++ forShell path ++ "\n")
        return succeeded

/-- Remove directories that are empty. -/
def removeDirectories : Utility :=
  let table : OptionTable := {
    letters := plainLetters "pv"
    words := [("ignore-fail-on-non-empty", "i", .never), ("parents", "p", .never),
      ("verbose", "v", .never)] }
  withOptions "rmdir" table 1 fun read _ => do
    if read.operands.isEmpty then usageError "rmdir" "missing operand" 1
    else
      forEach read.operands fun path => do
        match ← Program.attempt (.removeDirectory path) with
        | .ok () => return true
        | .error error =>
            complain "rmdir" ("failed to remove " ++ forShell path ++ ": " ++ errorText error)
            return false

/-- Remove what is at a path, with all that is below it. -/
def removeTree : Nat → Octets → Program (Except IoError Unit)
  | 0, _ => pure (.error (.os 40))
  | depth + 1, path => do
      match ← Program.status? path with
      | some .directory =>
          match ← Program.ask (.list path) with
          | .names names =>
              let _ ← names.mapM fun name => removeTree depth (path ++ "/" ++ name)
              Program.attempt (.removeDirectory path)
          | _ => return .ok ()
      | _ => Program.attempt (.removeFile path)

/-- The greatest depth of a tree of files that is walked through. -/
def depthLimit : Nat := 1000

/-- Remove files. -/
def remove : Utility :=
  let table : OptionTable := {
    letters := plainLetters "dfirvIR"
    words := [("force", "f", .never), ("interactive", "i", .perhaps),
      ("one-file-system", "o", .never), ("no-preserve-root", "n", .never),
      ("preserve-root", "n", .perhaps), ("recursive", "r", .never), ("dir", "d", .never),
      ("verbose", "v", .never)] }
  withOptions "rm" table 1 fun read _ => do
    let isForced := read.has "f"
    let isDeep := read.has "r" || read.has "R"
    if read.operands.isEmpty then
      if isForced then return 0 else usageError "rm" "missing operand" 1
    else
      forEach read.operands fun path => do
        let failed (error : IoError) : Program Bool := do
          complain "rm" ("cannot remove " ++ forShell path ++ ": " ++ errorText error)
          return false
        match ← Program.status? path with
        | none => if isForced then return true else failed .notFound
        | some entry =>
            let removes := isDeep || !entry.isDirectory
            let result ← if removes then removeTree depthLimit path
              else if read.has "d" then Program.attempt (.removeDirectory path)
              else pure (.error .isADirectory)
            match result with
            | .ok () => return true
            | .error error => failed error

/-- The path of an entry with the name of a path in a directory. -/
def pathIn (directory path : Octets) : Octets :=
  let name := ((path.splitOn "/").filter (· != "")).getLast?.getD path
  directory ++ (if directory.endsWith "/" then "" else "/") ++ name

/-- Where each of some paths goes: into a directory, or to the only target. -/
def destinations (paths : List Octets) : Program (List (Octets × Octets)) := do
  let target := paths.getLast?.getD ""
  let sources := paths.dropLast
  let isDirectory := (← Program.status? target).any Entry.isDirectory
  return sources.map fun source => (source, if isDirectory then pathIn target source else target)

/-- Copy what is at a path, with all that is below it. -/
def copyTree : Nat → Octets → Octets → Program (Except IoError Unit)
  | 0, _, _ => pure (.error (.os 40))
  | depth + 1, source, target => do
      match ← Program.status? source with
      | none => return .error .notFound
      | some .directory =>
          let _ ← Program.attempt (.createDirectory target)
          match ← Program.ask (.list source) with
          | .names names =>
              let results ← names.mapM fun name =>
                copyTree depth (source ++ "/" ++ name) (target ++ "/" ++ name)
              return (results.find? fun result => !result.isOk).getD (.ok ())
          | _ => return .ok ()
      | some entry =>
          match ← Program.readFile source with
          | .error error => return .error error
          | .ok content =>
              match ← Program.writeFile target content with
              | .error error => return .error error
              | .ok () =>
                  let executable := match entry with
                    | .file _ executable => executable
                    | _ => false
                  if executable then Program.attempt (.setExecutable target true)
                  else return .ok ()

/-- Copy files. -/
def copy : Utility :=
  let table : OptionTable := {
    letters := plainLetters "abdfHilLnprRsuvxPT"
    words := [("archive", "a", .never), ("force", "f", .never), ("recursive", "r", .never),
      ("verbose", "v", .never)] }
  withOptions "cp" table 1 fun read _ => do
    let isDeep := ["r", "R", "a"].any read.has
    match read.operands with
    | [] => usageError "cp" "missing file operand" 1
    | [path] => usageError "cp" ("missing destination file operand after " ++ forShell path) 1
    | operands =>
        forEach (← destinations operands) fun (source, target) => do
          match ← Program.status? source with
          | none =>
              complain "cp" ("cannot stat " ++ forShell source ++ ": No such file or directory")
              return false
          | some entry =>
              if entry.isDirectory && !isDeep then
                complain "cp" ("-r not specified; omitting directory " ++ forShell source)
                return false
              else
                match ← copyTree depthLimit source target with
                | .ok () => return true
                | .error error =>
                    complain "cp" ("cannot create regular file " ++ forShell target ++ ": " ++
                      errorText error)
                    return false

/-- Move files. -/
def move : Utility :=
  let table : OptionTable := {
    letters := plainLetters "bfinuvTZ"
    words := [("force", "f", .never), ("no-clobber", "n", .never), ("verbose", "v", .never)] }
  withOptions "mv" table 1 fun read _ => do
    match read.operands with
    | [] => usageError "mv" "missing file operand" 1
    | [path] => usageError "mv" ("missing destination file operand after " ++ forShell path) 1
    | operands =>
        forEach (← destinations operands) fun (source, target) => do
          match ← Program.status? source with
          | none =>
              complain "mv" ("cannot stat " ++ forShell source ++ ": No such file or directory")
              return false
          | some _ =>
              match ← Program.attempt (.rename source target) with
              | .ok () => return true
              | .error error =>
                  complain "mv" ("cannot move " ++ forShell source ++ " to " ++
                    forShell target ++ ": " ++ errorText error)
                  return false

/-- Change the permission to execute files. -/
def changeMode : Utility := fun arguments _ => do
  match arguments.filter fun word => word != "-R" && word != "-f" with
  | mode :: paths =>
      let characters := mode.toList
      let executable := match mode.toNat? with
        | some _ => characters.any fun digit => (digit.toNat - '0'.toNat) % 2 == 1
        | none => characters.contains '+'
      let concerns := mode.toNat?.isSome || characters.contains 'x'
      if paths.isEmpty then usageError "chmod" ("missing operand after " ++ forShell mode) 1
      else
        forEach paths fun path => do
          match ← Program.status? path with
          | none =>
              complain "chmod" ("cannot access " ++ forShell path ++
                ": No such file or directory")
              return false
          | some _ =>
              if concerns then
                let _ ← Program.attempt (.setExecutable path executable)
              return true
  | [] => usageError "chmod" "missing operand" 1

/-- The names in a directory that are to be listed, sorted. -/
def listedNames (read : ReadArguments) (path : Octets) : Program (List Octets) := do
  match ← Program.ask (.list path) with
  | .names names =>
      let dots := if read.has "a" then [".", ".."] else []
      let visible := names.filter fun name =>
        read.has "a" || read.has "A" || name.toList.head? != some '.'
      let sorted := (dots ++ visible).mergeSort fun left right => left ≤ right
      return if read.has "r" then sorted.reverse else sorted
  | _ => return []

/-- List files and the content of directories. -/
def list : Utility :=
  let table : OptionTable := {
    letters := plainLetters "aAdFilnrRst1"
    words := [("all", "a", .never), ("almost-all", "A", .never), ("directory", "d", .never),
      ("reverse", "r", .never)] }
  withOptions "ls" table 2 fun read _ => do
    let operands := if read.operands.isEmpty then ["."] else read.operands
    let paths := operands.mergeSort fun left right => left ≤ right
    let entries ← paths.mapM fun path => do
      return (path, ← Program.status? path)
    (entries.filter (·.2.isNone)).forM fun (path, _) =>
      complain "ls" ("cannot access " ++ forShell path ++ ": No such file or directory")
    let directories := if read.has "d" then [] else
      (entries.filter (·.2 == some .directory)).map Prod.fst
    let plain := (entries.filter fun entry =>
      entry.2.isSome && !(directories.contains entry.1)).map Prod.fst
    Program.print (String.join (plain.map (· ++ "\n")))
    let listings ← directories.mapM fun path => do
      let names ← listedNames read path
      let heading := if paths.length == 1 then "" else path ++ ":\n"
      return heading ++ String.join (names.map (· ++ "\n"))
    let gap := if plain.isEmpty || directories.isEmpty then "" else "\n"
    Program.print (gap ++ "\n".intercalate listings)
    return if entries.all (·.2.isSome) then 0 else 2

/-- Print the last component of a path. -/
def baseName : Utility :=
  withOptions "basename" {} 1 fun read _ => do
    match read.operands with
    | path :: rest =>
        let named := ((path.splitOn "/").filter (· != "")).getLast?
        let name := named.getD (if path.isEmpty then "" else "/")
        let ending := rest.headD ""
        let cut := if name.endsWith ending && name != ending then
          String.ofList (name.toList.take (name.length - ending.length)) else name
        Utility.printed "basename" (cut ++ "\n") 0
    | [] => usageError "basename" "missing operand" 1

/-- Print a path without its last component. -/
def directoryName : Utility :=
  withOptions "dirname" {} 1 fun read _ => do
    match read.operands with
    | path :: _ =>
        let above := ((path.splitOn "/").filter (· != "")).dropLast
        let joined := "/".intercalate above
        let start := if path.startsWith "/" then "/" else ""
        let shownPath := start ++ joined
        Utility.printed "dirname" ((if shownPath.isEmpty then "." else shownPath) ++ "\n") 0
    | [] => usageError "dirname" "missing operand" 1

end QueryFoundry.Sandbox.Utilities
