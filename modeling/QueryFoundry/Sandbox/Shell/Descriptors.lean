import QueryFoundry.Sandbox.Shell.State

/-!
# Redirections

How a shell lets the descriptors of a command lead to other files, and how it puts them aside and
brings them back.
-/

namespace QueryFoundry.Sandbox.Shell

open Text (Octets)

/-- A descriptor that was put aside, and where it is kept; there is no such place if it was closed.
-/
abbrev SavedDescriptor := Nat × Option Nat

/-- A redirection whose target is known. -/
inductive Prepared where
  | file (descriptor : Nat) (kind : RedirectionKind) (path : Octets)
  /-- To what another descriptor leads to, or to nothing. -/
  | duplicate (descriptor : Nat) (source : Option Nat)
  | here (descriptor document : Nat)

/-- The descriptor that a redirection is about. -/
def Prepared.descriptor : Prepared → Nat
  | file descriptor _ _ | duplicate descriptor _ | here descriptor _ => descriptor

/-- Put a descriptor aside. -/
def saveDescriptor (descriptor : Nat) : Shell SavedDescriptor := do
  let target := (← get).nextSaved
  match ← ask (.duplicate descriptor target) with
  | .failed _ => return (descriptor, none)
  | _ =>
      let _ ← ask (.close descriptor)
      modify fun state => { state with nextSaved := target + 1 }
      return (descriptor, some target)

/-- Bring descriptors back that were put aside, the last one first. -/
def restoreDescriptors (saved : List SavedDescriptor) : Shell Unit :=
  saved.forM fun (descriptor, kept) => do
    match kept with
    | none =>
        let _ ← ask (.close descriptor)
    | some target =>
        let _ ← ask (.duplicate target descriptor)
        let _ ← ask (.close target)
        modify fun state => { state with nextSaved := state.nextSaved - 1 }

/-- Give descriptors up that were put aside. -/
def dropDescriptors (saved : List SavedDescriptor) : Shell Unit :=
  saved.forM fun (_, kept) => do
    match kept with
    | none => pure ()
    | some target =>
        let _ ← ask (.close target)

/-- Let a descriptor stand for a file that was opened under another one. -/
def moveDescriptor (source target : Nat) : Program Unit := do
  if source != target then
    let _ ← Program.ask (.duplicate source target)
    let _ ← Program.ask (.close source)

/-- How a file is opened for a redirection. A file that is there is not overwritten where it is to
be kept. -/
def openingMode (keepsFiles : Bool) (kind : RedirectionKind) (path : Octets) :
    Program (Except IoError OpenMode) := do
  match kind with
  | .input | .duplicate => return .ok .read
  | .append => return .ok .append
  | .readWrite => return .ok .readWrite
  | .overwrite => return .ok .truncate
  | .output =>
      if keepsFiles then
        match ← Program.status? path with
        | none => return .ok .exclusive
        | some entry => return if entry.isFile then .error .alreadyExists else .ok .write
      else return .ok .truncate

/-- The message about a file that cannot be opened. -/
def openFailure (kind : RedirectionKind) (path : Octets) (error : IoError) : Octets :=
  let isInput := match kind with
    | .input => true
    | _ => false
  let cause := match error with
    | .os errno =>
        if errno == 2 || errno == 20 then
          if isInput then "No such file" else "Directory nonexistent"
        else errnoText errno
    | other => other.message
  "cannot " ++ (if isInput then "open " else "create ") ++ path ++ ": " ++ cause

/-- Open the file of a redirection. -/
def openTarget (kind : RedirectionKind) (path : Octets) : Shell Nat := do
  let keepsFiles := (← get).isOn "noclobber"
  let opened ← perform do
    match ← openingMode keepsFiles kind path with
    | .error error => return Except.error error
    | .ok mode =>
        match ← Program.ask (.openFile path mode) with
        | .number descriptor => return .ok descriptor
        | .failed error => return .error error
        | _ => return .error .notFound
  match opened with
  | .ok descriptor => return descriptor
  | .error error => giveUp (openFailure kind path error)

/-- A descriptor from which a text can be read. -/
def openText (text : Octets) : Shell Nat := do
  match ← ask .pipe with
  | .numbers reader writer =>
      perform (Program.write writer text)
      let _ ← ask (.close writer)
      return reader
  | _ => giveUp "Pipe call failed"

/-- Let a descriptor lead to what another one leads to, or to nothing. -/
def duplicateTo (descriptor : Nat) (source : Option Nat) : Shell Unit := do
  match source with
  | none =>
      let _ ← ask (.close descriptor)
  | some number =>
      match ← ask (.duplicate number descriptor) with
      | .failed _ => giveUp (toString number ++ ": Bad file descriptor")
      | _ => pure ()

/-- Put a descriptor aside unless that was done, and list it with those that were put aside. -/
def keepAlso (keeps : Bool) (saved : List SavedDescriptor) (descriptor : Nat) :
    Shell (List SavedDescriptor) := do
  if keeps && !(saved.any (·.1 == descriptor)) then
    return (← saveDescriptor descriptor) :: saved
  else return saved

/-- Let a descriptor stand for a file that was opened under another one, or under itself if it was
closed. -/
def occupy (keeps : Bool) (saved : List SavedDescriptor) (descriptor opened : Nat) :
    Shell (List SavedDescriptor) := do
  if opened == descriptor then return if keeps then (descriptor, none) :: saved else saved
  else
    let kept ← keepAlso keeps saved descriptor
    perform (moveDescriptor opened descriptor)
    return kept

/-- Let a descriptor that is put aside lead to what another one leads to. If it cannot, it is brought
back. -/
def duplicateOver (keeps : Bool) (saved : List SavedDescriptor) (descriptor : Nat)
    (source : Option Nat) : Shell (List SavedDescriptor) := do
  let kept ← keepAlso keeps saved descriptor
  try duplicateTo descriptor source catch escape =>
    restoreDescriptors (kept.take (kept.length - saved.length))
    throw escape
  return kept

/-- The redirection to the descriptor that a text names. -/
def preparedDuplicate (descriptor : Nat) (text : Octets) : Shell Prepared := do
  match text.toList with
  | ['-'] => return .duplicate descriptor none
  | [digit] =>
      if digit.isDigit then return .duplicate descriptor (some (digit.toNat - 48)) else refuse
  | _ => refuse
where
  /-- Give up because of a text that names no descriptor. -/
  refuse : Shell Prepared := do
    giveUpReading ⟨(← get).sourceLine, "Syntax error: Bad fd number"⟩

end QueryFoundry.Sandbox.Shell
