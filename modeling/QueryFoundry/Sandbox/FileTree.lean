import QueryFoundry.IoError
import QueryFoundry.Text.Octets

/-!
# File trees

The files of an in-memory machine: directories, files with their bytes and one permission, and a
few devices. Each has the time at which it was last changed. Paths are resolved as a file system
does, one component after the other.
-/

namespace QueryFoundry.Sandbox

open Text (Octets)

/-- A place in a file tree: the names that lead to it from the root directory. -/
abbrev Location := List Octets

/-- A device. -/
inductive Device where
  /-- It is always empty and takes all that is written to it. -/
  | null
  /-- Zero bytes without end. -/
  | zero
  /-- Nothing can be written to it. -/
  | full
  /-- The terminal of a process, of which there is none. -/
  | terminal
  /-- What a descriptor of the process that asks stands for. -/
  | descriptor (number : Nat)
deriving DecidableEq, Repr

/-- What is at a place. -/
inductive Entry where
  | directory
  | file (content : Octets) (executable : Bool)
  | device (kind : Device)
deriving DecidableEq, Repr

/-- An entry is a directory. -/
def Entry.isDirectory : Entry → Bool
  | directory => true
  | _ => false

/-- An entry is a regular file. -/
def Entry.isFile : Entry → Bool
  | file .. => true
  | _ => false

/-- The files of a machine. The root directory is always there. -/
structure FileTree where
  entries : List (Location × Entry)
  /-- When the entries were changed that were changed at all. -/
  times : List (Location × Nat) := []
  /-- The time that changes are made at. -/
  now : Nat := 0
deriving Repr

/-- The longest name of an entry. -/
def longestName : Nat := 255

/-- No path is as long as this. -/
def pathLimit : Nat := 4096

/-- A resolved path: a place in an existing directory, what is there, and whether the path asks for
a directory by its form. -/
structure Target where
  location : Location
  entry : Option Entry
  asDirectory : Bool
deriving Repr

namespace FileTree

/-- What is at a place. -/
def lookup (tree : FileTree) (location : Location) : Option Entry :=
  if location.isEmpty then some .directory else tree.entries.lookup location

/-- When a place was last changed. -/
def timeOf (tree : FileTree) (location : Location) : Nat :=
  (tree.times.lookup location).getD 0

/-- Set the time at which a place was last changed. -/
def setTime (tree : FileTree) (location : Location) (time : Nat) : FileTree :=
  { tree with times := (location, time) :: tree.times.filter (·.1 != location) }

/-- Let changes be made at a time. -/
def atTime (tree : FileTree) (time : Nat) : FileTree :=
  { tree with now := time }

/-- Put something at a place, instead of what was there. -/
def insert (tree : FileTree) (location : Location) (entry : Entry) : FileTree :=
  if (tree.entries.lookup location).isSome then
    { tree with
      entries := tree.entries.map fun old => if old.1 == location then (location, entry) else old }
  else
    ({ tree with entries := tree.entries ++ [(location, entry)] }.setTime location tree.now).setTime
      location.dropLast tree.now

/-- Take a place and all below it out of the tree. -/
def erase (tree : FileTree) (location : Location) : FileTree :=
  { tree with
    entries := tree.entries.filter fun entry => !location.isPrefixOf entry.1
    times := tree.times.filter fun entry => !location.isPrefixOf entry.1
    }.setTime location.dropLast tree.now

/-- What lies below a place, with the names that lead there. -/
def below (tree : FileTree) (location : Location) : List (Location × Entry) :=
  tree.entries.filterMap fun entry =>
    if location.isPrefixOf entry.1 && entry.1.length != location.length then
      some (entry.1.drop location.length, entry.2)
    else none

/-- The names in a directory. -/
def names (tree : FileTree) (location : Location) : List Octets :=
  (tree.below location).filterMap fun entry =>
    match entry.1 with
    | [name] => some name
    | _ => none

/-- Follow components from a directory. A component in the middle must be a directory; the last one
may be missing. -/
def follow (tree : FileTree) (asDirectory : Bool) :
    Location → List Octets → Except IoError Target
  | current, [] => .ok ⟨current, some .directory, true⟩
  | current, name :: rest =>
      if name == "." then follow tree asDirectory current rest
      else if name == ".." then follow tree asDirectory current.dropLast rest
      else if longestName < name.length then .error .nameTooLong
      else
        let location := current ++ [name]
        match tree.lookup location, rest with
        | entry, [] =>
            match entry with
            | some .directory | none => .ok ⟨location, entry, asDirectory⟩
            | some _ => if asDirectory then .error .notADirectory
                else .ok ⟨location, entry, asDirectory⟩
        | none, _ => .error .notFound
        | some .directory, _ => follow tree asDirectory location rest
        | some _, _ => .error .notADirectory

/-- The pieces of a path between its separators. -/
def piecesOf (path : Octets) : List Octets :=
  (path.toList.splitOn '/').map String.ofList

/-- Resolve a path against a directory. -/
def resolve (tree : FileTree) (base : Location) (path : Octets) : Except IoError Target :=
  let pieces := piecesOf path
  let names := pieces.filter (· != "")
  if path.isEmpty then .error .notFound
  else if pathLimit ≤ path.length then .error .nameTooLong
  else
    let start := if pieces.head? == some "" then [] else base
    match tree.lookup start with
    | none => .error .notFound
    | some _ => tree.follow (pieces.getLast? == some "") start names

/-- What is at a path, which must not be missing. -/
def find (tree : FileTree) (base : Location) (path : Octets) :
    Except IoError (Location × Entry) := do
  let target ← tree.resolve base path
  match target.entry with
  | some entry => return (target.location, entry)
  | none => throw .notFound

/-- The bytes of the file at a path. -/
def read (tree : FileTree) (base : Location) (path : Octets) : Except IoError Octets := do
  match ← tree.find base path with
  | (_, .file content _) => return content
  | (_, .device .terminal) => throw (.os 6)
  | (_, .device _) => return ""
  | (_, .directory) => throw .isADirectory

/-- The place of a file that is to be written at a path; a missing file is created empty. -/
def create (tree : FileTree) (base : Location) (path : Octets) :
    Except IoError (Location × FileTree) := do
  let pieces := piecesOf path
  let target ←
    match tree.resolve base path with
    | .error error =>
        if error = .notADirectory ∧ pieces.getLast? == some "" ∧
            (tree.resolve base (String.ofList path.toList.dropLast)).isOk then
          throw .isADirectory
        else throw error
    | .ok target => pure target
  match target.entry with
  | some .directory => throw .isADirectory
  | some _ => return (target.location, tree)
  | none =>
      if target.asDirectory then throw .isADirectory
      else return (target.location, tree.insert target.location (.file "" false))

/-- Give a file other bytes; its permission stays. -/
def setContent (tree : FileTree) (location : Location) (content : Octets) : FileTree :=
  match tree.lookup location with
  | some (.file _ executable) =>
      (tree.insert location (.file content executable)).setTime location tree.now
  | _ => tree

/-- Write a file at a path, in place of what it held. -/
def write (tree : FileTree) (base : Location) (path content : Octets) :
    Except IoError FileTree := do
  let (location, created) ← tree.create base path
  return created.setContent location content

/-- Set the permission to execute a file. -/
def setExecutable (tree : FileTree) (base : Location) (path : Octets) (executable : Bool) :
    Except IoError FileTree := do
  match ← tree.find base path with
  | (location, .file content _) => return tree.insert location (.file content executable)
  | _ => return tree

/-- Make a directory at a path where nothing is. -/
def createDirectory (tree : FileTree) (base : Location) (path : Octets) :
    Except IoError FileTree := do
  let target ← match tree.resolve base path with
    | .error .notADirectory =>
        let name := (path.toList.reverse.dropWhile (· == '/')).reverse
        match tree.resolve base (String.ofList name) with
        | .ok target => pure target
        | .error error => throw error
    | other => other
  match target.entry with
  | some _ => throw .alreadyExists
  | none => return tree.insert target.location .directory

/-- Whether a directory is at a path. -/
def hasDirectory (tree : FileTree) (base : Location) (path : Octets) : Bool :=
  match tree.find base path with
  | .ok (_, .directory) => true
  | _ => false

/-- The names that a path goes through. -/
def namesOf (path : Octets) : List Octets :=
  (piecesOf path).filter fun piece => piece != "" && piece != "."

/-- What the text of a path starts with, in front of its names. -/
def rootOf (path : Octets) : Octets :=
  if (piecesOf path).head? == some "" && !path.isEmpty then "/" else ""

/-- The path that goes through some names. -/
def pathThrough (root : Octets) (names : List Octets) : Octets :=
  root ++ "/".intercalate names

/-- Make a directory and those above it that are missing. The list holds the names of the path in
reverse order. A directory that is there already is as good as a new one, and what has been made
stays when the rest cannot be made. -/
def makeDirectoriesFrom (base : Location) (root : Octets) :
    List Octets → FileTree → Except IoError Unit × FileTree
  | [], tree => (.ok (), tree)
  | name :: above, tree =>
      let path := pathThrough root (name :: above).reverse
      match tree.createDirectory base path with
      | .ok made => (.ok (), made)
      | .error .notFound =>
          match makeDirectoriesFrom base root above tree with
          | (.error error, left) => (.error error, left)
          | (.ok (), made) =>
              match made.createDirectory base path with
              | .ok complete => (.ok (), complete)
              | .error error =>
                  (if made.hasDirectory base path then .ok () else .error error, made)
      | .error error => (if tree.hasDirectory base path then .ok () else .error error, tree)

/-- Make a directory and those above it that are missing, as far as that is possible. -/
def makeDirectories (tree : FileTree) (base : Location) (path : Octets) :
    Except IoError Unit × FileTree :=
  makeDirectoriesFrom base (rootOf path) (namesOf path).reverse tree

/-- The file tree with a directory and those above it that are missing. -/
def createDirectories (tree : FileTree) (base : Location) (path : Octets) :
    Except IoError FileTree :=
  let (answer, made) := tree.makeDirectories base path
  answer.map fun _ => made

/-- Remove a file. -/
def removeFile (tree : FileTree) (base : Location) (path : Octets) : Except IoError FileTree := do
  match ← tree.find base path with
  | (_, .directory) => throw .isADirectory
  | (location, _) => return tree.erase location

/-- Remove a directory that has no entries. -/
def removeDirectory (tree : FileTree) (base : Location) (path : Octets) :
    Except IoError FileTree := do
  match ← tree.find base path with
  | (location, .directory) =>
      if (tree.below location).isEmpty then return tree.erase location
      else throw .directoryNotEmpty
  | _ => throw .notADirectory

/-- Remove a file, or a directory with all that is in it. -/
def removeAll (tree : FileTree) (base : Location) (path : Octets) : Except IoError FileTree := do
  let (location, _) ← tree.find base path
  return tree.erase location

/-- Move a file or a directory to another place. -/
def rename (tree : FileTree) (base : Location) (source target : Octets) :
    Except IoError FileTree := do
  let (location, entry) ← tree.find base source
  let place ← tree.resolve base target
  match entry, place.entry with
  | .directory, some .directory =>
      if !(tree.below place.location).isEmpty then throw .directoryNotEmpty
  | .directory, some _ => throw .notADirectory
  | _, some .directory => throw .isADirectory
  | _, _ => pure ()
  if location == place.location then return tree
  let moved := (location, entry) :: (tree.below location).map fun below =>
    (location ++ below.1, below.2)
  let cleared := (tree.erase location).erase place.location
  let renamed (old : Location) : Location := place.location ++ old.drop location.length
  let entries := moved.map fun (old : Location × Entry) => (renamed old.1, old.2)
  let times := moved.map fun (old : Location × Entry) => (renamed old.1, tree.timeOf old.1)
  let added : FileTree := { cleared with
    entries := cleared.entries ++ entries, times := cleared.times ++ times }
  return added.setTime place.location.dropLast tree.now

end FileTree

end QueryFoundry.Sandbox
