import QueryFoundry.Sandbox.Task

/-!
# The in-memory machine

Processes, open files, pipes, a console and a clock. Each process has a time of its own at which its
next request is served; the machine serves the earliest one first, so a run is the same every time.
-/

namespace QueryFoundry.Sandbox

open Text (Octets)

/-- What a descriptor stands for. -/
inductive OpenFile where
  | null
  /-- A place outside of the machine that collects what is written to it. -/
  | stream (id : Nat)
  | pipeReader (pipe : Nat)
  | pipeWriter (pipe : Nat)
  | file (location : Location) (offset : Nat) (append : Bool) (readable writable : Bool)
  | device (kind : Device)
  /-- A text that the kernel made up, without what was read of it. -/
  | generated (rest : Octets)
deriving DecidableEq, Repr

/-- A process. -/
structure Process where
  id : Nat
  parent : Nat
  group : Nat
  /-- The name of the program. -/
  name : Octets
  task : Task
  /-- The time at which the next request is served. -/
  readyAt : Nat
  /-- Whether the request waits for something that another process does. -/
  blocked : Bool := false
  stopped : Bool := false
  directory : Location
  /-- The open files by descriptor. -/
  descriptors : List (Nat × Nat)
  ignored : List Nat := []
  caught : List Nat := []
  pending : List Nat := []
  /-- The status of a process that has ended and that nobody has waited for. -/
  ended : Option WaitStatus := none

/-- The programs of a machine: what a program does, given its arguments and its variables. -/
abbrev Programs := Octets → List Octets → Environment → Task

/-- A machine. -/
structure Machine where
  programs : Programs
  tree : FileTree
  clock : Nat := 0
  processes : List Process := []
  nextProcess : Nat := 4000
  openFiles : List (Nat × OpenFile) := []
  nextOpenFile : Nat := 1
  /-- What was written to each pipe and not read. -/
  pipes : List (Nat × Octets) := []
  /-- What was written to each stream. -/
  streams : List (Nat × Octets) := [(1, ""), (2, "")]
  nextStream : Nat := 3
  /-- The stream that children print to. -/
  outputStream : Nat := 1
  /-- The stream for the error messages of children. -/
  errorStream : Nat := 2

namespace Machine

/-- The number of the process that the machine itself is for its children. -/
def hostProcess : Nat := 1000

/-- What the bytes of a program file start with; the name of the program follows. -/
def programMark : Octets := "\x7fELF program "

/-- What the bytes of a shared library start with; its sources follow. -/
def libraryMark : Octets := "\x7fELF library\n"

/-- What the bytes of a compiled program start with; its sources follow. -/
def executableMark : Octets := "\x7fELF executable\n"

/-- The name of the program that runs compiled programs, given their bytes in front of their
arguments. It has no file of its own. -/
def executableProgram : Octets := "(executable)"

/-- Drop a text in front of another one. -/
def dropText? (start text : Octets) : Option Octets :=
  if start.toList.isPrefixOf text.toList then
    some (String.ofList (text.toList.drop start.length))
  else none

/-- The time that it takes to start a program. -/
def startTime : Nat := 600000

/-- The time that it takes to copy a process. -/
def forkTime : Nat := 200000

/-- The time that another request takes. -/
def requestTime : Nat := 2000

/-- The process with a number. -/
def process? (machine : Machine) (id : Nat) : Option Process :=
  machine.processes.find? (·.id == id)

/-- Put a process in the place of the one with the same number. -/
def setProcess (machine : Machine) (process : Process) : Machine :=
  { machine with
    processes := machine.processes.map fun old => if old.id == process.id then process else old }

/-- Let all processes that wait for something look again. -/
def wake (machine : Machine) (time : Nat) : Machine :=
  { machine with
    processes := machine.processes.map fun process =>
      if process.blocked then
        { process with blocked := false, readyAt := max process.readyAt time }
      else process }

/-- The open file that a descriptor of a process stands for. -/
def openFile? (machine : Machine) (process : Process) (descriptor : Nat) :
    Option (Nat × OpenFile) := do
  let id ← process.descriptors.lookup descriptor
  let file ← machine.openFiles.lookup id
  return (id, file)

/-- Put an open file in the place of the one with the same number. -/
def setOpenFile (machine : Machine) (id : Nat) (file : OpenFile) : Machine :=
  { machine with
    openFiles := machine.openFiles.map fun old => if old.1 == id then (id, file) else old }

/-- What was written to a pipe and not read. -/
def pipeContent (machine : Machine) (pipe : Nat) : Octets :=
  (machine.pipes.lookup pipe).getD ""

/-- Let a pipe hold other bytes. -/
def setPipe (machine : Machine) (pipe : Nat) (content : Octets) : Machine :=
  { machine with
    pipes := machine.pipes.map fun old => if old.1 == pipe then (pipe, content) else old }

/-- What was written to a stream. -/
def streamContent (machine : Machine) (stream : Nat) : Octets :=
  (machine.streams.lookup stream).getD ""

/-- Write to a stream. -/
def writeStream (machine : Machine) (stream : Nat) (data : Octets) : Machine :=
  { machine with
    streams := machine.streams.map fun old =>
      if old.1 == stream then (stream, old.2 ++ data) else old }

/-- Add an empty stream. -/
def addStream (machine : Machine) : Nat × Machine :=
  (machine.nextStream,
    { machine with
      streams := machine.streams ++ [(machine.nextStream, "")]
      nextStream := machine.nextStream + 1 })

/-- Whether some process can still write to a stream. -/
def isWritten (machine : Machine) (stream : Nat) : Bool :=
  machine.processes.any fun process =>
    process.descriptors.any fun descriptor =>
      machine.openFiles.lookup descriptor.2 == some (.stream stream)

/-- Add an open file. -/
def addOpenFile (machine : Machine) (file : OpenFile) : Nat × Machine :=
  (machine.nextOpenFile,
    { machine with
      openFiles := machine.openFiles ++ [(machine.nextOpenFile, file)]
      nextOpenFile := machine.nextOpenFile + 1 })

/-- Forget the open files that no descriptor stands for. -/
def collectOpenFiles (machine : Machine) : Machine :=
  let used := machine.processes.flatMap fun process => process.descriptors.map Prod.snd
  { machine with openFiles := machine.openFiles.filter fun file => used.contains file.1 }

/-- Whether some process can still write to a pipe. -/
def hasWriter (machine : Machine) (pipe : Nat) : Bool :=
  machine.processes.any fun process =>
    process.descriptors.any fun descriptor =>
      machine.openFiles.lookup descriptor.2 == some (.pipeWriter pipe)

/-- Whether some process can still read from a pipe. -/
def hasReader (machine : Machine) (pipe : Nat) : Bool :=
  machine.processes.any fun process =>
    process.descriptors.any fun descriptor =>
      machine.openFiles.lookup descriptor.2 == some (.pipeReader pipe)

/-- End a process. Its children are left to nobody, and it stays until its parent has waited for it,
if it has one. -/
def endProcess (machine : Machine) (process : Process) (status : WaitStatus) (time : Nat) :
    Machine :=
  let ended := { process with ended := some status, descriptors := [], readyAt := time }
  let others := (machine.setProcess ended).processes.map fun other =>
    if other.parent == process.id then { other with parent := 0 } else other
  let kept := others.filter fun other => !(other.parent == 0 && other.ended.isSome)
  ({ machine with processes := kept }.collectOpenFiles).wake time

/-- The signals that do nothing to a process that does not ask for them. -/
def harmlessSignals : List Nat := [17, 18, 23, 28]

/-- The signals that stop a process. -/
def stopSignals : List Nat := [19, 20, 21, 22]

/-- Send a signal to a process. -/
def deliver (machine : Machine) (process : Process) (signal time : Nat) : Machine :=
  if process.ended.isSome || signal == 0 then machine
  else if signal == 9 then machine.endProcess process (.signaled 9) time
  else if signal == 18 then
    machine.setProcess { process with stopped := false, readyAt := max process.readyAt time }
  else if signal == 19 then machine.setProcess { process with stopped := true }
  else if process.ignored.contains signal then machine
  else if process.caught.contains signal then
    machine.setProcess { process with
      pending := process.pending ++ [signal]
      blocked := false
      readyAt := if process.blocked then max process.readyAt time else process.readyAt }
  else if harmlessSignals.contains signal then machine
  else if stopSignals.contains signal then machine.setProcess { process with stopped := true }
  else machine.endProcess process (.signaled (UInt8.ofNat signal)) time

/-- The processes that a signal is sent to: one of them, a group or the sender's own group. -/
def receivers (machine : Machine) (sender : Process) (target : Int) : List Process :=
  machine.processes.filter fun process =>
    if 0 < target then process.id == target.toNat
    else if target == 0 then process.group == sender.group
    else process.group == (-target).toNat

/-- Send a signal to several processes, one after the other. -/
def deliverAll (machine : Machine) (receivers : List Process) (signal time : Nat) : Machine :=
  receivers.foldl (fun machine receiver =>
    match machine.process? receiver.id with
    | some process => machine.deliver process signal time
    | none => machine) machine

/-- The text that tells about a process. -/
def statusText (process : Process) : Octets :=
  toString process.id ++ " (" ++ process.name ++ ") S " ++ toString process.parent ++ " " ++
    toString process.group ++ " " ++ toString hostProcess ++
    " 0 -1 4194304 100 0 0 0 0 0 0 0 20 0 1 0 1000 2000000 200 18446744073709551615\n"

/-- The text that the kernel makes up for a path, if it is one of those for which it does so. -/
def generatedText? (machine : Machine) (reader : Process) (path : Octets) : Option Octets :=
  match path.splitOn "/" with
  | ["", "proc", name, "stat"] => do
      let id ← if name == "self" then some reader.id else name.toNat?
      let process ← machine.process? id
      return statusText process
  | _ => none

/-- The bytes of a file behind an offset. -/
def contentAt (content : Octets) (offset limit : Nat) : Octets :=
  if offset == 0 && content.length ≤ limit then content
  else String.ofList ((content.toList.drop offset).take limit)

/-- Write bytes into others at an offset; a gap is filled with zero bytes. -/
def overwrite (content : Octets) (offset : Nat) (data : Octets) : Octets :=
  if content.length == offset then content ++ data
  else
    let characters := content.toList
    let gap := List.replicate (offset - characters.length) '\x00'
    String.ofList (characters.take offset ++ gap ++ data.toList ++
      characters.drop (offset + data.length))

/-- What a request leads to: an answer, or that it has to wait. -/
inductive Effect where
  | answer (reply : Reply) (machine : Machine)
  | wait

/-- The bytes of a file at a place, and nothing where there is no file. -/
def fileContent (machine : Machine) (location : Location) : Octets :=
  match machine.tree.lookup location with
  | some (.file content _) => content
  | _ => ""

/-- Serve the request to read from an open file. -/
def readOpenFile (machine : Machine) (id : Nat) (file : OpenFile) (limit time : Nat) : Effect :=
  match file with
  | .null | .stream _ | .device .null | .device (.descriptor _) => .answer (.octets "") machine
  | .pipeWriter _ => .answer (.failed (.os 9)) machine
  | .device .zero | .device .full =>
      .answer (.octets (String.ofList (List.replicate limit '\x00'))) machine
  | .device .terminal => .answer (.failed (.os 5)) machine
  | .generated rest =>
      let data := contentAt rest 0 limit
      .answer (.octets data) (machine.setOpenFile id
        (.generated (String.ofList (rest.toList.drop data.length))))
  | .file location offset append readable writable =>
      if !readable then .answer (.failed (.os 9)) machine
      else
        let data := contentAt (machine.fileContent location) offset limit
        .answer (.octets data) (machine.setOpenFile id
          (.file location (offset + data.length) append readable writable))
  | .pipeReader pipe =>
      let content := machine.pipeContent pipe
      if content.isEmpty then
        if machine.hasWriter pipe then .wait else .answer (.octets "") machine
      else
        let data := contentAt content 0 limit
        let rest := String.ofList (content.toList.drop data.length)
        .answer (.octets data)
          ((machine.setPipe pipe rest).wake time)

/-- The result of a write. It is a broken pipe when nobody can read what is written. -/
def writeOpenFile (machine : Machine) (id : Nat) (file : OpenFile) (data : Octets) (time : Nat) :
    Except IoError Machine :=
  match file with
  | .null | .device .null | .device .zero | .device (.descriptor _) => .ok machine
  | .device .full => .error (.os 28)
  | .device .terminal => .error (.os 5)
  | .stream stream => .ok (machine.writeStream stream data)
  | .generated _ | .pipeReader _ => .error (.os 9)
  | .pipeWriter pipe =>
      if machine.hasReader pipe then
        .ok ((machine.setPipe pipe (machine.pipeContent pipe ++ data)).wake time)
      else .error (.os 32)
  | .file location offset append readable writable =>
      if !writable then .error (.os 9)
      else
        let content := machine.fileContent location
        let start := if append then content.length else offset
        let written := (machine.tree.atTime time).setContent location
          (overwrite content start data)
        .ok ({ machine with tree := written }.setOpenFile id
          (.file location (start + data.length) append readable writable))

/-- The least number from a start that is no descriptor of a process. -/
def freeDescriptor (process : Process) (start : Nat) : Nat :=
  let used := process.descriptors.map Prod.fst
  ((List.range (used.length + 1)).map (· + start)).find? (fun number => !used.contains number)
    |>.getD (start + used.length + 1)

/-- Give a process a new descriptor for an open file. -/
def addDescriptor (machine : Machine) (process : Process) (file : OpenFile) : Nat × Machine :=
  let (id, added) := machine.addOpenFile file
  let descriptor := freeDescriptor process 3
  (descriptor, added.setProcess
    { process with descriptors := (descriptor, id) :: process.descriptors })

/-- The open file for a place that is opened in some mode. -/
def placeOpened (location : Location) (mode : OpenMode) : OpenFile :=
  .file location 0 mode.isAppending mode.isReadable (mode != .read)

/-- The place of a file that is to be opened in some mode, and the tree in which it is there. -/
def openPlace (machine : Machine) (base : Location) (path : Octets) (mode : OpenMode)
    (time : Nat) : Except IoError (Location × FileTree) := do
  let tree := machine.tree.atTime time
  match mode with
  | .read => return ((← tree.find base path).1, tree)
  | .write | .update =>
      let (location, entry) ← tree.find base path
      if entry.isDirectory then throw .isADirectory else return (location, tree)
  | .exclusive =>
      if (← tree.resolve base path).entry.isSome then throw .alreadyExists
      else tree.create base path
  | .truncate | .renew =>
      let (location, created) ← tree.create base path
      return (location, created.setContent location "")
  | .append | .readWrite | .extend => tree.create base path

/-- Open a file for a process. A device may stand for what one of its descriptors stands for: a file
is then opened again, and of a pipe either end can be had. -/
def serveOpen (machine : Machine) (process : Process) (path : Octets) (mode : OpenMode)
    (time : Nat) : Effect :=
  let opened (machine : Machine) (file : OpenFile) : Effect :=
    let (descriptor, added) := machine.addDescriptor process file
    .answer (.number descriptor) added
  match mode, machine.generatedText? process path with
  | .read, some text => opened machine (.generated text)
  | _, _ =>
      match machine.openPlace process.directory path mode time with
      | .error error => .answer (.failed error) machine
      | .ok (location, tree) =>
          let changed := { machine with tree }
          match tree.lookup location with
          | some (.device .null) => opened changed .null
          | some (.device .terminal) => .answer (.failed (.os 6)) machine
          | some (.device (.descriptor number)) =>
              match (machine.openFile? process number).map Prod.snd with
              | none => .answer (.failed .notFound) machine
              | some (.file place _ _ _ _) =>
                  let cleared := if mode = .truncate || mode = .renew then
                    (machine.tree.atTime time).setContent place "" else machine.tree
                  opened { machine with tree := cleared } (placeOpened place mode)
              | some (.pipeReader pipe) =>
                  opened changed (if mode = .read then .pipeReader pipe else .pipeWriter pipe)
              | some (.pipeWriter pipe) =>
                  opened changed (if mode = .read then .pipeReader pipe else .pipeWriter pipe)
              | some other => opened changed other
          | some (.device kind) => opened changed (.device kind)
          | _ => opened changed (placeOpened location mode)

/-- The absolute path of a place. -/
def pathOf (location : Location) : Octets :=
  "/" ++ "/".intercalate location

/-- The last component of a path. -/
def baseName (path : Octets) : Octets :=
  ((path.splitOn "/").filter (· != "")).getLast?.getD path

/-- The interpreter that the first line of a script names, and its argument. -/
def interpreterLine (content : Octets) : Octets × List Octets :=
  let line := (content.toList.drop 2).takeWhile (· != '\n')
  let isBlank (character : Char) : Bool := character == ' ' || character == '\t'
  let trimmed := ((line.dropWhile isBlank).reverse.dropWhile isBlank).reverse
  let (program, rest) := trimmed.span fun character => !isBlank character
  let argument := rest.dropWhile isBlank
  (String.ofList program, if argument.isEmpty then [] else [String.ofList argument])

/-- Find what a program file does. A script is given to the interpreter that it names, to a small
depth. -/
def loadProgram (machine : Machine) (base : Location) :
    Nat → Octets → List Octets → Environment → Except IoError (Octets × Task)
  | 0, _, _, _ => .error (.os 40)
  | depth + 1, path, arguments, environment =>
      match machine.tree.find base path with
      | .error error => .error error
      | .ok (_, .file content true) =>
          match dropText? programMark content with
          | some name =>
              .ok (baseName path,
                machine.programs (String.ofList (name.toList.takeWhile (· != '\n'))) arguments
                  environment)
          | none =>
              if (dropText? libraryMark content).isSome then
                .ok (baseName path, .raise 11 139)
              else if (dropText? executableMark content).isSome then
                .ok (baseName path,
                  machine.programs executableProgram (content :: arguments) environment)
              else if (dropText? "#!" content).isSome then
                let (interpreter, argument) := interpreterLine content
                if interpreter.isEmpty then .error .notExecutableFormat
                else
                  loadProgram machine base depth interpreter
                    (interpreter :: argument ++ path :: arguments.drop 1) environment
                  |>.map fun (_, task) => (baseName path, task)
              else .error .notExecutableFormat
      | .ok _ => .error .accessDenied

/-- The depth to which scripts may be interpreted by scripts. -/
def interpreterDepth : Nat := 5

/-- Serve the request of a process to become another program. -/
def serveExecute (machine : Machine) (process : Process) (path : Octets)
    (arguments : List Octets) (environment : Environment) : Effect :=
  match machine.loadProgram process.directory interpreterDepth path arguments environment with
  | .error error => .answer (.failed error) machine
  | .ok (name, task) =>
      .answer .done (machine.setProcess { process with
        name, task, caught := [], pending := []
        descriptors := process.descriptors.filter fun descriptor => descriptor.1 < 10 })

/-- Serve the request to learn of the end of a child, or to wait for it. -/
def serveAwait (machine : Machine) (process : Process) (child : Option Nat) (blocks : Bool) :
    Effect :=
  let isAwaited (other : Process) : Bool :=
    other.parent == process.id && (child.isNone || child == some other.id)
  match machine.processes.find? fun other => isAwaited other && other.ended.isSome with
  | some other =>
      .answer (.ended other.id (other.ended.getD (.exited 0)))
        { machine with processes := machine.processes.filter (·.id != other.id) }
  | none =>
      if !(machine.processes.any isAwaited) then .answer (.failed (.os 10)) machine
      else if !blocks then .answer .done machine
      else if !process.pending.isEmpty then .answer (.failed (.os 4)) machine
      else .wait

/-- Answer with what changed the file tree, or with the error. -/
def treeEffect (machine : Machine) : Except IoError FileTree → Effect
  | .ok tree => .answer .done { machine with tree }
  | .error error => .answer (.failed error) machine

/-- Tell what is at a place. A device that stands for a descriptor is told as what that one stands
for. -/
def serveStatus (machine : Machine) (process : Process) (location : Location) (entry : Entry) :
    Effect :=
  let told (location : Location) (entry : Entry) : Effect :=
    .answer (.entry entry location (machine.tree.timeOf location)) machine
  match entry with
  | .device (.descriptor number) =>
      match (machine.openFile? process number).map Prod.snd with
      | none => .answer (.failed .notFound) machine
      | some (.file place _ _ _ _) =>
          match machine.tree.lookup place with
          | some found => told place found
          | none => .answer (.failed .notFound) machine
      | some .null => told ["dev", "null"] (.device .null)
      | some (.device kind) => told location (.device kind)
      | some _ => told location entry
  | _ => told location entry

/-- Serve the request to move the place at which an open file is read and written. -/
def serveSeek (machine : Machine) (process : Process) (descriptor : Nat) (distance : Int)
    (origin : SeekOrigin) : Effect :=
  match machine.openFile? process descriptor with
  | none => .answer (.failed (.os 9)) machine
  | some (id, .file location offset append readable writable) =>
      let start : Int := match origin with
        | .start => 0
        | .here => offset
        | .finish => (machine.fileContent location).length
      if start + distance < 0 then .answer (.failed (.os 22)) machine
      else
        let place := (start + distance).toNat
        .answer (.number place)
          (machine.setOpenFile id (.file location place append readable writable))
  | some _ => .answer (.failed (.os 29)) machine

/-- Serve a request of a process, at a time. -/
def serve (machine : Machine) (process : Process) (time : Nat) : Request → Effect
  | .now => .answer (.number time) machine
  | .sleep _ => .answer .done machine
  | .read descriptor limit =>
      match machine.openFile? process descriptor with
      | none => .answer (.failed (.os 9)) machine
      | some (id, file) =>
          match file with
          | .file location .. =>
              if machine.tree.lookup location == some .directory then
                .answer (.failed .isADirectory) machine
              else machine.readOpenFile id file limit time
          | _ => machine.readOpenFile id file limit time
  | .write descriptor data =>
      match machine.openFile? process descriptor with
      | none => .answer (.failed (.os 9)) machine
      | some (id, file) =>
          match machine.writeOpenFile id file data time with
          | .ok written => .answer .done written
          | .error error =>
              if error != .os 32 || process.ignored.contains 13 then
                .answer (.failed error) machine
              else if process.caught.contains 13 then
                .answer (.failed error) (machine.deliver process 13 time)
              else .answer .done (machine.deliver process 13 time)
  | .openFile path mode => machine.serveOpen process path mode time
  | .seek descriptor distance origin => machine.serveSeek process descriptor distance origin
  | .close descriptor =>
      let closed := { process with
        descriptors := process.descriptors.filter (·.1 != descriptor) }
      .answer .done (((machine.setProcess closed).collectOpenFiles).wake time)
  | .duplicate source target =>
      match process.descriptors.lookup source with
      | none => .answer (.failed (.os 9)) machine
      | some id =>
          let changed := { process with
            descriptors := (target, id) :: process.descriptors.filter (·.1 != target) }
          .answer .done (((machine.setProcess changed).collectOpenFiles).wake time)
  | .pipe =>
      let pipe := machine.nextOpenFile
      let prepared := { machine with pipes := machine.pipes ++ [(pipe, "")] }
      let (reader, first) := prepared.addDescriptor process (.pipeReader pipe)
      let (writer, second) :=
        first.addDescriptor ((first.process? process.id).getD process) (.pipeWriter pipe)
      .answer (.numbers reader writer) second
  | .status path =>
      if (machine.generatedText? process path).isSome then
        .answer (.entry (.file "" false) [path] time) machine
      else
        match machine.tree.find process.directory path with
        | .ok (location, entry) => machine.serveStatus process location entry
        | .error error => .answer (.failed error) machine
  | .list path =>
      match machine.tree.find process.directory path with
      | .ok (location, .directory) => .answer (.names (machine.tree.names location)) machine
      | .ok _ => .answer (.failed .notADirectory) machine
      | .error error => .answer (.failed error) machine
  | .createDirectory path =>
      machine.treeEffect ((machine.tree.atTime time).createDirectory process.directory path)
  | .removeFile path =>
      machine.treeEffect ((machine.tree.atTime time).removeFile process.directory path)
  | .removeDirectory path =>
      machine.treeEffect ((machine.tree.atTime time).removeDirectory process.directory path)
  | .rename source target =>
      machine.treeEffect ((machine.tree.atTime time).rename process.directory source target)
  | .setTime path changed =>
      machine.treeEffect ((machine.tree.find process.directory path).map fun (location, _) =>
        machine.tree.setTime location changed)
  | .setExecutable path executable =>
      machine.treeEffect (machine.tree.setExecutable process.directory path executable)
  | .workingDirectory => .answer (.octets (pathOf process.directory)) machine
  | .changeDirectory path =>
      match machine.tree.find process.directory path with
      | .ok (location, .directory) =>
          .answer .done (machine.setProcess { process with directory := location })
      | .ok _ => .answer (.failed .notADirectory) machine
      | .error error => .answer (.failed error) machine
  | .processId => .answer (.numbers process.id process.parent) machine
  | .awaitChild child blocks => machine.serveAwait process child blocks
  | .sendSignal target signal =>
      match machine.receivers process target with
      | [] => .answer (.failed .noSuchProcess) machine
      | receivers => .answer .done (machine.deliverAll receivers signal time)
  | .setDisposition signal disposition =>
      let without := { process with
        ignored := process.ignored.filter (· != signal)
        caught := process.caught.filter (· != signal) }
      .answer .done (machine.setProcess (match disposition with
        | .standard => without
        | .ignored => { without with ignored := signal :: without.ignored }
        | .caught => { without with caught := signal :: without.caught }))
  | .takeSignals =>
      .answer (.signals process.pending) (machine.setProcess { process with pending := [] })
  | .execute path arguments environment =>
      machine.serveExecute process path arguments environment

/-- The time that a request takes. -/
def costOf : Request → Nat
  | .sleep nanoseconds => nanoseconds + requestTime
  | .execute .. => startTime
  | _ => requestTime

/-- Take a process to what it does after an answer. A process that became another program goes on
with that one. -/
def proceed (machine : Machine) (process : Process) (request : Request) (next : Reply → Task)
    (reply : Reply) (time : Nat) : Machine :=
  match machine.process? process.id with
  | none => machine
  | some current =>
      if current.ended.isSome then machine
      else
        let isReplaced := match request, reply with
          | .execute .., .done => true
          | _, _ => false
        machine.setProcess { current with
          task := if isReplaced then current.task else next reply
          readyAt := time + costOf request }

/-- Let a process take its next step. -/
def step (machine : Machine) (process : Process) : Machine :=
  let time := process.readyAt
  match process.task with
  | .exit code => machine.endProcess process (.exited code) time
  | .fork child next =>
      let id := machine.nextProcess
      let copy := { process with
        id, parent := process.id, task := child, readyAt := time + forkTime, pending := [] }
      let parent := { process with task := next id, readyAt := time + forkTime }
      { machine.setProcess parent with
        processes := (machine.setProcess parent).processes ++ [copy]
        nextProcess := id + 1 }
  | .call request next =>
      match machine.serve process time request with
      | .wait => machine.setProcess { process with blocked := true }
      | .answer reply after => after.proceed process request next reply time

/-- Whether a process can take a step. -/
def isReady (process : Process) : Bool :=
  process.ended.isNone && !process.blocked && !process.stopped

/-- The process that takes the next step: of those that can, the one with the least time. -/
def nextReady? (machine : Machine) : Option Process :=
  machine.processes.foldl (fun best process =>
    if isReady process then
      match best with
      | none => some process
      | some earlier => if process.readyAt < earlier.readyAt then some process else best
    else best) none

/-- The greatest number of steps of a run. -/
def stepLimit : Nat := 10000000

/-- Let processes take steps up to a time, or until a condition holds. -/
def runWhile (goesOn : Machine → Bool) (limit : Option Nat) : Nat → Machine → Machine
  | 0, machine => machine
  | fuel + 1, machine =>
      if goesOn machine then
        match machine.nextReady? with
        | none => machine
        | some process =>
            if limit.any (· < process.readyAt) then machine
            else
              let advanced := machine.step process
              runWhile goesOn limit fuel
                { advanced with clock := max machine.clock process.readyAt }
      else machine

/-- Let processes take all steps up to a time. The clock then shows this time. -/
def runUntil (machine : Machine) (time : Nat) : Machine :=
  { runWhile (fun _ => true) (some time) stepLimit machine with clock := max machine.clock time }

/-- Let processes take steps until a condition no longer holds. -/
def runTo (machine : Machine) (goesOn : Machine → Bool) : Machine :=
  runWhile goesOn none stepLimit machine

end Machine

end QueryFoundry.Sandbox
