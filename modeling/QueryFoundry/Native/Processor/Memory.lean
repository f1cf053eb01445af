import QueryFoundry.Text.Octets

/-!
# Memory

The bytes that native code works on: a segment for data, which only grows, and one for the places of
the functions that are being called. Nothing is at other addresses.
-/

namespace QueryFoundry.Native

open Text (Octets)

/-- The bytes of a program that runs. -/
structure Memory where
  data : ByteArray := ByteArray.empty
  stack : ByteArray := ByteArray.empty

namespace Memory

/-- The address of the first byte of the data. -/
def dataBase : Nat := 268435456

/-- The address of the first byte of the stack. -/
def stackBase : Nat := 139637976727552

/-- The greatest size of the stack. -/
def stackLimit : Nat := 8388608

/-- The greatest size of the data. -/
def dataLimit : Nat := 268435456

/-- The value of bytes, the lowest one first. -/
def readBytes (bytes : ByteArray) (start : Nat) : Nat → UInt64
  | 0 => 0
  | count + 1 => (readBytes bytes (start + 1) count <<< 8) ||| (bytes.get! start).toUInt64

/-- Write the low bytes of a value, the lowest one first. -/
def writeBytes (bytes : ByteArray) (start : Nat) (value : UInt64) : Nat → ByteArray
  | 0 => bytes
  | count + 1 => writeBytes (bytes.set! start value.toUInt8) (start + 1) (value >>> 8) count

/-- Write zeros. -/
def clearBytes (bytes : ByteArray) (start : Nat) : Nat → ByteArray
  | 0 => bytes
  | count + 1 => clearBytes (bytes.set! start 0) (start + 1) count

/-- Add zeros to the end of some bytes. -/
def grow (bytes : ByteArray) : Nat → ByteArray
  | 0 => bytes
  | count + 1 => grow (bytes.push 0) count

/-- Whether all bytes of a range are data. -/
def isData (memory : Memory) (address count : Nat) : Bool :=
  dataBase ≤ address && address + count ≤ dataBase + memory.data.size

/-- Whether all bytes of a range are on the stack. -/
def isStack (memory : Memory) (address count : Nat) : Bool :=
  stackBase ≤ address && address + count ≤ stackBase + memory.stack.size

/-- The value of the bytes at an address. -/
def load? (memory : Memory) (address : UInt64) (count : Nat) : Option UInt64 :=
  let place := address.toNat
  if memory.isData place count then some (readBytes memory.data (place - dataBase) count)
  else if memory.isStack place count then some (readBytes memory.stack (place - stackBase) count)
  else none

/-- Write the low bytes of a value at an address. -/
def store? (memory : Memory) (address value : UInt64) (count : Nat) : Option Memory :=
  let place := address.toNat
  if memory.isData place count then
    let ⟨data, stack⟩ := memory
    some ⟨writeBytes data (place - dataBase) value count, stack⟩
  else if memory.isStack place count then
    let ⟨data, stack⟩ := memory
    some ⟨data, writeBytes stack (place - stackBase) value count⟩
  else none

/-- Write zeros at an address. -/
def clear? (memory : Memory) (address : UInt64) (count : Nat) : Option Memory :=
  let place := address.toNat
  if memory.isData place count then
    let ⟨data, stack⟩ := memory
    some ⟨clearBytes data (place - dataBase) count, stack⟩
  else if memory.isStack place count then
    let ⟨data, stack⟩ := memory
    some ⟨data, clearBytes stack (place - stackBase) count⟩
  else none

/-- The bytes of a range. -/
def bytes? (memory : Memory) (address : UInt64) (count : Nat) : Option ByteArray :=
  let place := address.toNat
  if memory.isData place count then
    some (memory.data.extract (place - dataBase) (place - dataBase + count))
  else if memory.isStack place count then
    some (memory.stack.extract (place - stackBase) (place - stackBase + count))
  else none

/-- Write bytes at an address. -/
def write? (memory : Memory) (address : UInt64) (bytes : ByteArray) : Option Memory :=
  let place := address.toNat
  if memory.isData place bytes.size then
    let ⟨data, stack⟩ := memory
    some ⟨bytes.copySlice 0 data (place - dataBase) bytes.size, stack⟩
  else if memory.isStack place bytes.size then
    let ⟨data, stack⟩ := memory
    some ⟨data, bytes.copySlice 0 stack (place - stackBase) bytes.size⟩
  else none

/-- Copy bytes; the two ranges may overlap. -/
def copy? (memory : Memory) (target source : UInt64) (count : Nat) : Option Memory := do
  memory.write? target (← memory.bytes? source count)

/-- The bytes of a text up to the zero behind it, as characters. -/
def textFrom (bytes : ByteArray) : Nat → Nat → List Char
  | 0, _ => []
  | count + 1, start =>
      let byte := bytes.get! start
      if byte == 0 then [] else Char.ofNat byte.toNat :: textFrom bytes count (start + 1)

/-- The text at an address, up to the zero behind it. -/
def text? (memory : Memory) (address : UInt64) : Option Octets :=
  let place := address.toNat
  if memory.isData place 1 then
    let start := place - dataBase
    some (String.ofList (textFrom memory.data (memory.data.size - start) start))
  else if memory.isStack place 1 then
    let start := place - stackBase
    some (String.ofList (textFrom memory.stack (memory.stack.size - start) start))
  else none

/-- The least multiple of a number that is at least as great as a value. -/
def alignUp (value alignment : Nat) : Nat :=
  if alignment ≤ 1 then value else (value + alignment - 1) / alignment * alignment

/-- Add room to the data; its address is returned. -/
def extend? (memory : Memory) (size alignment : Nat) : Option (UInt64 × Memory) :=
  let ⟨data, stack⟩ := memory
  let start := alignUp data.size alignment
  if dataLimit < start + size then none
  else some (UInt64.ofNat (dataBase + start), ⟨grow data (start + size - data.size), stack⟩)

/-- Let the stack have at least some size. -/
def reach? (memory : Memory) (size : Nat) : Option Memory :=
  if size ≤ memory.stack.size then some memory
  else if stackLimit < size then none
  else
    let ⟨data, stack⟩ := memory
    some ⟨data, grow stack (size - stack.size)⟩

end Memory

end QueryFoundry.Native
