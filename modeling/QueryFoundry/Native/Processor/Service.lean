import QueryFoundry.Native.Processor.Number
import QueryFoundry.Native.Processor.Formatted
import QueryFoundry.Native.Processor.State

/-!
# Services

What native code cannot do by instructions alone: it asks for memory, for formatted texts, for
functions of numbers, and for what the kernel does.
-/

namespace QueryFoundry.Native.Service

open Text (Octets)
open Sandbox (OpenMode Reply Request SeekOrigin Task)

/-- What comes of a service. -/
inductive Result where
  | done (value : UInt64) (memory : Memory) (state : ProcessorState)
  /-- Ask the kernel; its answer gives the value and may change memory. -/
  | ask (request : Request) (answer : Reply → Memory → UInt64 × Memory) (memory : Memory)
      (state : ProcessorState)
  /-- Start a child, whose number is the value. -/
  | fork (child : Task) (memory : Memory) (state : ProcessorState)
  | stop (reason : Stop) (memory : Memory)

/-- A service: what it does with its arguments. -/
abbrev Handler := List UInt64 → Memory → ProcessorState → Option Result

/-! ## Numbers -/

/-- The functions of a number with a fraction. -/
def realFunctions : List (Octets × (Float → Float)) :=
  [("sqrt", Float.sqrt), ("cbrt", Float.cbrt), ("exp", Float.exp), ("exp2", Float.exp2),
    ("log", Float.log), ("log2", Float.log2), ("log10", Float.log10), ("sin", Float.sin),
    ("cos", Float.cos), ("tan", Float.tan), ("asin", Float.asin), ("acos", Float.acos),
    ("atan", Float.atan), ("sinh", Float.sinh), ("cosh", Float.cosh), ("tanh", Float.tanh),
    ("asinh", Float.asinh), ("acosh", Float.acosh), ("atanh", Float.atanh),
    ("floor", Float.floor), ("ceil", Float.ceil), ("round", Float.round)]

/-- The functions of two numbers with fractions. -/
def pairFunctions : List (Octets × (Float → Float → Float)) :=
  [("pow", Float.pow), ("atan2", Float.atan2)]

/-- What is left of a number when it is divided by another one and the quotient loses its fraction; the
sign stays. -/
def remainder (left right : Float) : Float :=
  match Binary64.ofBits left.toBits, Binary64.ofBits right.toBits with
  | .finite negative dividend, .finite _ divisor =>
      if divisor.significand == 0 then 0 / 0
      else
        let (numerator, denominator) := dividend.ratio
        let (divisorNumerator, divisorDenominator) := divisor.ratio
        let rest := (numerator * divisorDenominator) % (divisorNumerator * denominator)
        Float.ofBits (Binary64.ofRatio negative rest (denominator * divisorDenominator)).toBits
  | .finite .., .infinite _ => left
  | _, _ => 0 / 0

/-- Read a number with a fraction from a text; the address behind it is written to a place. -/
def readReal : Handler := fun arguments memory state => do
  let [text, place] := arguments | none
  let characters := (← memory.text? text).toList
  let (value, consumed) := match Sandbox.Printf.readReal? Sandbox.Printf.shellRules characters with
    | some (number, rest) => (number.toBits, characters.length - rest.length)
    | none => (0, 0)
  let written ← if place == 0 then some memory
    else memory.store? place (text + UInt64.ofNat consumed) 8
  return .done value written state

/-- The functions of whole numbers that look at their bits. -/
def bitFunctions : List (Octets × (UInt64 → Nat → UInt64)) :=
  [("countBits", fun word width => UInt64.ofNat (Bits.count word width)),
    ("parity", fun word width => UInt64.ofNat (Bits.count word width % 2)),
    ("leadingZeros", fun word width => UInt64.ofNat (Bits.leadingZeros word width)),
    ("trailingZeros", fun word width => UInt64.ofNat (Bits.trailingZeros word width)),
    ("firstBit", fun word width => UInt64.ofNat (Bits.first word width)),
    ("swapBytes", Bits.swapBytes)]

/-- Arithmetic that stores its result and tells whether it did not fit. -/
def checked : Handler := fun arguments memory state => do
  let [operator, leftSigned, left, rightSigned, right, isSigned, size, place] := arguments | none
  let result := Bits.arithmetic operator.toNat (Bits.numberOf leftSigned left)
    (Bits.numberOf rightSigned right)
  let kind := Bits.kindOfSize size.toNat (isSigned != 0)
  let written ← memory.store? place (wordOf result) size.toNat
  return .done (wordOfBool (kind.wrap result != result)) written state

/-! ## Memory -/

/-- Hand out memory. -/
def allocate : Handler := fun arguments memory state => do
  let [size] := arguments | none
  match Heap.allocate? size.toNat memory state with
  | some (address, extended, changed) => return .done address extended changed
  | none => none

/-- Take memory back. -/
def release : Handler := fun arguments memory state => do
  let [address] := arguments | none
  let (released, changed) ← Heap.release? address memory state
  return .done 0 released changed

/-- Change the size of a piece of memory. -/
def resize : Handler := fun arguments memory state => do
  let [address, size] := arguments | none
  let (fresh, resized, changed) ← Heap.resize? address size.toNat memory state
  return .done fresh resized changed

/-- Copy bytes. -/
def copy : Handler := fun arguments memory state => do
  let [target, source, count] := arguments | none
  if count == 0 then return .done target memory state
  return .done target (← memory.copy? target source count.toNat) state

/-- Set bytes to one value. -/
def fill : Handler := fun arguments memory state => do
  let [target, value, count] := arguments | none
  if count == 0 then return .done target memory state
  let bytes : ByteArray := ⟨Array.replicate count.toNat value.toUInt8⟩
  return .done target (← memory.write? target bytes) state

/-- Compare bytes: the difference of the first ones that differ. -/
def compareBytes : List UInt8 → List UInt8 → Int
  | first :: left, second :: right =>
      if first == second then compareBytes left right else (first.toNat : Int) - second.toNat
  | _, _ => 0

/-- Compare two pieces of memory. -/
def compare : Handler := fun arguments memory state => do
  let [left, right, count] := arguments | none
  if count == 0 then return .done 0 memory state
  let first ← memory.bytes? left count.toNat
  let second ← memory.bytes? right count.toNat
  return .done (wordOf (compareBytes first.toList second.toList)) memory state

/-- The number of bytes from a place in some data up to the next zero. -/
def lengthFrom (bytes : ByteArray) (start : Nat) : Nat → Nat
  | 0 => 0
  | fuel + 1 => if bytes.get! start == 0 then 0 else lengthFrom bytes (start + 1) fuel + 1

/-- The length of a text. -/
def length : Handler := fun arguments memory state => do
  let [text] := arguments | none
  let place := text.toNat
  let count ← if memory.isData text.toNat 1 then
      let start := place - Memory.dataBase
      some (lengthFrom memory.data start (memory.data.size - start))
    else if memory.isStack text.toNat 1 then
      let start := place - Memory.stackBase
      some (lengthFrom memory.stack start (memory.stack.size - start))
    else none
  return .done (UInt64.ofNat count) memory state

/-- Make a text of a format and values; its length is written to a place. -/
def format : Handler := fun arguments memory state => do
  let [text, values, place] := arguments | none
  let (characters, written) ← Formatted.format? memory (← memory.text? text) values
  let (address, extended, changed) ← Heap.allocateText? (String.ofList characters) written state
  return .done address (← extended.store? place (UInt64.ofNat characters.length) 8) changed

/-! ## Objects -/

/-- The address of the whole object that a part with a table belongs to. -/
def wholeOf? (memory : Memory) (object : UInt64) : Option UInt64 := do
  let table ← memory.load? object 8
  return object + (← memory.load? (table - 16) 8)

/-- The address of the whole object of a part. -/
def wholeObject : Handler := fun arguments memory state => do
  let [object] := arguments | none
  if object == 0 then return .done 0 memory state
  return .done (← wholeOf? memory object) memory state

/-- The part of an object that is of a type; there may be none. -/
def dynamicCast : Handler := fun arguments memory state => do
  let [object, wanted] := arguments | none
  if object == 0 then return .done 0 memory state
  let whole ← wholeOf? memory object
  let description ← memory.load? ((← memory.load? object 8) - 8) 8
  match Processor.distanceTo? memory description wanted Processor.derivationDepth with
  | some distance => return .done (whole + distance) memory state
  | none => return .done 0 memory state

/-- Call a function when a library is unloaded. -/
def atExit : Handler := fun arguments memory state => do
  let [function, argument, handle] := arguments | none
  return .done 0 memory { state with
    atExit := { handle, function, argument } :: state.atExit }

/-- The number of objects that were thrown and are not handled yet. -/
def caughtCount : Handler := fun _ memory state =>
  some (.done (UInt64.ofNat state.caught.length) memory state)

/-- The object that was caught last, its type or its destructor. -/
def caughtPart : Handler := fun arguments memory state => do
  let [part] := arguments | none
  match state.caught with
  | [] => return .done 0 memory state
  | thrown :: _ =>
      let value := match part.toNat with
        | 0 => thrown.object
        | 1 => thrown.type
        | _ => thrown.destructor
      return .done value memory state

/-! ## Surroundings -/

/-- The value of a variable of the environment. -/
def variableValue : Handler := fun arguments memory state => do
  let [name] := arguments | none
  match state.environment.lookup (← memory.text? name) with
  | none => return .done 0 memory state
  | some text => do
      let (address, extended, changed) ← Heap.allocateText? text memory state
      return .done address extended changed

/-- Give a variable of the environment a value. -/
def setVariable : Handler := fun arguments memory state => do
  let [name, value] := arguments | none
  let key ← memory.text? name
  let text ← memory.text? value
  let known := state.environment
  let environment := if known.any (·.1 == key) then
      known.map fun entry => if entry.1 == key then (key, text) else entry
    else known ++ [(key, text)]
  return .done 0 memory { state with environment }

/-- Take a variable out of the environment. -/
def unsetVariable : Handler := fun arguments memory state => do
  let [name] := arguments | none
  let key ← memory.text? name
  return .done 0 memory { state with
    environment := state.environment.filter (·.1 != key) }

/-- The text of an error number. -/
def errorText : Handler := fun arguments memory state => do
  let [number] := arguments | none
  let text := errnoText (IntegerKind.int.toInt (IntegerKind.int.extend number))
  let (address, extended, changed) ← Heap.allocateText? text memory state
  return .done address extended changed

/-! ## The kernel -/

/-- The negative number that tells an error. -/
def errorWord : IoError → UInt64
  | .os errno => wordOf (-errno)
  | _ => wordOf (-22)

/-- What a plain answer of the kernel is worth. -/
def plainAnswer (reply : Reply) (memory : Memory) : UInt64 × Memory :=
  match reply with
  | .failed error => (errorWord error, memory)
  | .number value | .numbers value _ => (UInt64.ofNat value, memory)
  | _ => (0, memory)

/-- Ask the kernel for something that has a number as its answer. -/
def asking (request : Request) (memory : Memory) (state : ProcessorState) : Option Result :=
  some (.ask request plainAnswer memory state)

/-- The way in which a file is opened, by the bits that native code uses for it. -/
def openMode (flags : Nat) : OpenMode :=
  let has (bit : Nat) : Bool := flags / bit % 2 == 1
  let writes := flags % 4 != 0
  let reads := flags % 4 != 1
  if !writes then .read
  else if has 1024 then (if reads then .extend else .append)
  else if has 64 && has 128 then .exclusive
  else if has 512 then (if reads then .renew else .truncate)
  else if has 64 then .readWrite
  else if reads then .update else .write

/-- Open a file. -/
def openFile : Handler := fun arguments memory state => do
  let path :: flags :: _ := arguments | none
  asking (.openFile (← memory.text? path) (openMode flags.toNat)) memory state

/-- Read from a descriptor. -/
def read : Handler := fun arguments memory state => do
  let [descriptor, place, count] := arguments | none
  let answer (reply : Reply) (memory : Memory) : UInt64 × Memory :=
    match reply with
    | .octets data =>
        match memory.write? place (Heap.bytesOf data) with
        | some written => (UInt64.ofNat data.length, written)
        | none => (wordOf (-14), {})
    | other => plainAnswer other memory
  return .ask (.read (IntegerKind.unsigned.extend descriptor).toNat count.toNat) answer memory state

/-- Write to a descriptor. -/
def write : Handler := fun arguments memory state => do
  let [descriptor, place, count] := arguments | none
  if count == 0 then return .done 0 memory state
  let bytes ← memory.bytes? place count.toNat
  let answer (reply : Reply) (memory : Memory) : UInt64 × Memory :=
    match reply with
    | .failed error => (errorWord error, memory)
    | _ => (count, memory)
  return .ask (.write (IntegerKind.unsigned.extend descriptor).toNat (Heap.charactersOf bytes))
    answer memory state

/-- Move the place at which a file is read and written. -/
def seek : Handler := fun arguments memory state => do
  let [descriptor, distance, origin] := arguments | none
  let place : SeekOrigin := match origin.toNat with
    | 0 => .start
    | 1 => .here
    | _ => .finish
  asking (.seek (IntegerKind.unsigned.extend descriptor).toNat distance.toInt64.toInt place) memory
    state

/-- Something that is done with a path. -/
def withPath (request : Octets → Request) : Handler := fun arguments memory state => do
  let path :: _ := arguments | none
  asking (request (← memory.text? path)) memory state

/-- Rename a file. -/
def rename : Handler := fun arguments memory state => do
  let [source, target] := arguments | none
  asking (.rename (← memory.text? source) (← memory.text? target)) memory state

/-- What a thing in the file tree is: its kind, its size and the time of its last change. -/
def describeEntry (entry : Sandbox.Entry) (time : Nat) : List UInt64 :=
  match entry with
  | .file content executable =>
      [if executable then 1 else 0, UInt64.ofNat content.length, UInt64.ofNat time]
  | .directory => [2, 4096, UInt64.ofNat time]
  | .device _ => [3, 0, UInt64.ofNat time]

/-- Ask what is at a path; three words about it are written to a place. -/
def status : Handler := fun arguments memory state => do
  let [path, place] := arguments | none
  let answer (reply : Reply) (memory : Memory) : UInt64 × Memory :=
    match reply with
    | .entry entry _ time =>
        match Processor.writeArguments memory place.toNat (describeEntry entry time) with
        | some written => (0, written)
        | none => (wordOf (-14), {})
    | other => plainAnswer other memory
  return .ask (.status (← memory.text? path)) answer memory state

/-- Write a text of the kernel to a place of some size. -/
def workingDirectory : Handler := fun arguments memory state => do
  let [place, size] := arguments | none
  let answer (reply : Reply) (memory : Memory) : UInt64 × Memory :=
    match reply with
    | .octets text =>
        if size.toNat ≤ text.length then (wordOf (-34), memory)
        else
          match memory.write? place ((Heap.bytesOf text).push 0) with
          | some written => (UInt64.ofNat (text.length + 1), written)
          | none => (wordOf (-14), {})
    | other => plainAnswer other memory
  return .ask .workingDirectory answer memory state

/-- Write the names in a directory to a place of some size, with a zero behind each of them. -/
def list : Handler := fun arguments memory state => do
  let [path, place, size] := arguments | none
  let answer (reply : Reply) (memory : Memory) : UInt64 × Memory :=
    match reply with
    | .names values =>
        let text := String.join (values.map fun name => name ++ "\x00")
        if size.toNat < text.length then (wordOf (-34), memory)
        else
          match memory.write? place (Heap.bytesOf text) with
          | some written => (UInt64.ofNat text.length, written)
          | none => (wordOf (-14), {})
    | other => plainAnswer other memory
  return .ask (.list (← memory.text? path)) answer memory state

/-- Start a shell that carries out a command. -/
def startShell : Handler := fun arguments memory state => do
  let [command] := arguments | none
  let text ← memory.text? command
  let child : Task := .call (.execute "/bin/sh" ["sh", "-c", text] state.environment) fun _ =>
    .exit 127
  return .fork child memory state

/-- Wait for a child; its status is the value. -/
def await : Handler := fun arguments memory state => do
  let [child] := arguments | none
  let answer (reply : Reply) (memory : Memory) : UInt64 × Memory :=
    match reply with
    | .ended _ status => (status.word.toUInt64, memory)
    | other => plainAnswer other memory
  return .ask (.awaitChild (some child.toNat) true) answer memory state

/-- Send a signal to a process. -/
def sendSignal : Handler := fun arguments memory state => do
  let [process, signal] := arguments | none
  asking (.sendSignal (IntegerKind.int.toInt (IntegerKind.int.extend process)) signal.toNat) memory
    state

/-- The number of the parent of the process. -/
def parentId : Handler := fun _ memory state =>
  let answer (reply : Reply) (memory : Memory) : UInt64 × Memory :=
    match reply with
    | .numbers _ parent => (UInt64.ofNat parent, memory)
    | other => plainAnswer other memory
  some (.ask .processId answer memory state)

/-- Wait for some time. -/
def sleep : Handler := fun arguments memory state => do
  let [nanoseconds] := arguments | none
  asking (.sleep nanoseconds.toNat) memory state

/-- End the program. -/
def exit (stop : UInt8 → Stop) : Handler := fun arguments memory _ => do
  let [code] := arguments | none
  return .stop (stop code.toUInt8) memory

/-! ## All services -/

/-- The services besides functions of numbers. -/
def handlers : List (Octets × Handler) :=
  [("allocate", allocate), ("release", release), ("copy", copy), ("fill", fill),
    ("compare", compare), ("length", length), ("resize", resize), ("format", format),
    ("write", write), ("read", read), ("open", openFile), ("seek", seek),
    ("close", fun arguments memory state => do
      let [descriptor] := arguments | none
      asking (.close (IntegerKind.unsigned.extend descriptor).toNat) memory state),
    ("checked", checked), ("dynamicCast", dynamicCast), ("wholeObject", wholeObject),
    ("atExit", atExit), ("caughtCount", caughtCount), ("caughtPart", caughtPart),
    ("readReal", readReal), ("variableValue", variableValue), ("setVariable", setVariable),
    ("unsetVariable", unsetVariable), ("errorText", errorText), ("removeFile", withPath .removeFile),
    ("removeDirectory", withPath .removeDirectory),
    ("createDirectory", withPath .createDirectory), ("rename", rename),
    ("changeDirectory", withPath .changeDirectory), ("status", status),
    ("setExecutable", fun arguments memory state => do
      let [path, flag] := arguments | none
      asking (.setExecutable (← memory.text? path) (flag != 0)) memory state),
    ("workingDirectory", workingDirectory), ("list", list), ("startShell", startShell),
    ("await", await), ("sendSignal", sendSignal), ("sleep", sleep),
    ("now", fun _ memory state => asking .now memory state),
    ("processId", fun _ memory state => asking .processId memory state),
    ("parentId", parentId), ("exit", exit .exited), ("leave", exit .left),
    ("abort", fun _ memory _ => some (.stop .aborted memory))]

/-- Functions of numbers, by their names and arguments. -/
def numeric? (name : Octets) (arguments : List UInt64) : Option UInt64 :=
  match arguments with
  | [word] => (realFunctions.lookup name).map fun function =>
      (function (Float.ofBits word)).toBits
  | [first, second] =>
      match bitFunctions.lookup name with
      | some function => some (function first second.toNat)
      | none =>
          if name == "remainder" then
            some (remainder (Float.ofBits first) (Float.ofBits second)).toBits
          else (pairFunctions.lookup name).map fun function =>
            (function (Float.ofBits first) (Float.ofBits second)).toBits
  | _ => none

/-- Carry out a service. One that is not known, or that touches memory that is not there, is a
fault. -/
def serve (name : Octets) (arguments : List UInt64) (memory : Memory) (state : ProcessorState) :
    Result :=
  match handlers.lookup name with
  | some handler => (handler arguments memory state).getD (.stop .fault {})
  | none =>
      match numeric? name arguments with
      | some value => .done value memory state
      | none => .stop .fault memory

end QueryFoundry.Native.Service
