import QueryFoundry.Native.Processor.State

/-!
# Linking

Compiled sources are put together: their functions and data get addresses, and these addresses are
put in place of the symbols that stand for them.
-/

namespace QueryFoundry.Native

open Text (Octets)

/-- Why compiled sources cannot be put together. -/
inductive LinkError where
  /-- Two sources define the same symbol. -/
  | duplicate (symbol : Octets)
  /-- No source defines a symbol that is needed. -/
  | missing (symbol : Octets)
  /-- There is no memory left. -/
  | noRoom
deriving DecidableEq, Repr, Inhabited

/-- Addresses by the symbols that stand for them. -/
abbrev SymbolTable := Std.HashMap Octets UInt64

/-- Where a symbol lies that others may see. -/
structure SharedSymbol where
  address : UInt64
  binding : Binding
  isHidden : Bool
deriving Inhabited

/-- The symbols that the sources of one library share. -/
abbrev SharedSymbols := Std.HashMap Octets SharedSymbol

/-- What has been put together. -/
structure LinkedLibrary where
  /-- The symbols that others may ask for. -/
  exports : SymbolTable := {}
  /-- What is called before anything else. -/
  preparers : List UInt64 := []
  /-- What is called when the library is loaded, in order. -/
  constructors : List UInt64 := []
  /-- What is called when the library is unloaded, in order. -/
  destructors : List UInt64 := []
  /-- The address that tells the library from others. -/
  handle : UInt64 := 0
  /-- Whether the library stays loaded for ever. -/
  isPermanent : Bool := false
deriving Inhabited

namespace Linking

/-- The symbol of what tells a library from others. -/
def handleSymbol : Octets := "__dso_handle"

/-- A unit that holds what each library has. -/
def frameUnit : CompiledUnit :=
  { data := [{ symbol := handleSymbol, isHidden := true, size := 8, alignment := 8 }] }

/-- A unit whose symbols have addresses. -/
structure PlacedUnit where
  content : CompiledUnit
  symbols : SymbolTable
deriving Inhabited

/-- Give data its place and its initial bytes. -/
def placeData (memory : Memory) (symbols : SymbolTable) :
    List DataItem → Option (Memory × SymbolTable)
  | [] => some (memory, symbols)
  | item :: rest => do
      let (address, extended) ← memory.extend? (max item.size 1) (max item.alignment 1)
      let written ← extended.write? address ⟨item.bytes.toArray⟩
      placeData written (symbols.insert item.symbol address) rest

/-- Give all that a unit holds its place; the number of its first function is given. -/
def placeUnit (memory : Memory) (first : Nat) (content : CompiledUnit) :
    Option (Memory × PlacedUnit) := do
  let functions := content.functions.zipIdx.foldl (fun (symbols : SymbolTable) (function, index) =>
    symbols.insert function.symbol (Processor.functionAddress (first + index))) {}
  let (written, symbols) ← placeData memory functions content.data
  let named := content.aliases.foldl (fun (symbols : SymbolTable) (name, target) =>
    match symbols[target]? with
    | some address => symbols.insert name address
    | none => symbols) symbols
  return (written, ⟨content, named⟩)

/-- Give all that some units hold its place. -/
def placeUnits (memory : Memory) (first : Nat) :
    List CompiledUnit → Option (Memory × List PlacedUnit)
  | [] => some (memory, [])
  | content :: rest => do
      let (placed, unit) ← placeUnit memory first content
      let (all, units) ← placeUnits placed (first + content.functions.length) rest
      return (all, unit :: units)

/-- Let others see a symbol, unless there is a better definition of it. -/
def share (shared : SharedSymbols) (name : Octets) (binding : Binding) (isHidden : Bool)
    (address : UInt64) : Except LinkError SharedSymbols :=
  let added := shared.insert name ⟨address, binding, isHidden⟩
  match binding, shared[name]? with
  | .internal, _ => .ok shared
  | _, none => .ok added
  | .global, some known => if known.binding == .global then .error (.duplicate name) else .ok added
  | _, some _ => .ok shared

/-- Let the other units see the symbols of a unit. -/
def shareUnit (shared : SharedSymbols) (unit : PlacedUnit) : Except LinkError SharedSymbols := do
  let addressOf (name : Octets) : UInt64 := (unit.symbols[name]?).getD 0
  let functions ← unit.content.functions.foldlM (fun all function =>
    share all function.symbol function.binding function.isHidden (addressOf function.symbol)) shared
  let data ← unit.content.data.foldlM (fun all item =>
    share all item.symbol item.binding item.isHidden (addressOf item.symbol)) functions
  unit.content.aliases.foldlM (fun all (name, _) =>
    let binding : Binding := if unit.content.optional.contains name then .weak else .global
    share all name binding false (addressOf name)) data

/-- The symbols that some units only use themselves, with their addresses. -/
def internalSymbols (unit : PlacedUnit) : SymbolTable :=
  let add (symbols : SymbolTable) (name : Octets) (binding : Binding) : SymbolTable :=
    match binding, unit.symbols[name]? with
    | .internal, some address => symbols.insert name address
    | _, _ => symbols
  let functions := unit.content.functions.foldl (fun symbols function =>
    add symbols function.symbol function.binding) {}
  unit.content.data.foldl (fun symbols item => add symbols item.symbol item.binding) functions

/-- The symbols that some code needs. -/
def symbolsOf (code : Array Instruction) : List Octets :=
  code.toList.filterMap fun
    | .symbol name _ => some name
    | _ => none

/-- The symbols that a unit needs. -/
def needs (content : CompiledUnit) : List Octets :=
  content.functions.flatMap (fun function => symbolsOf function.code) ++
    content.data.flatMap fun item => item.addresses.map Prod.snd

/-- The symbols that units need and do not define. -/
def missingSymbols (units : List CompiledUnit) : List Octets :=
  let defined (symbols : Std.HashMap Octets Unit) (content : CompiledUnit) :
      Std.HashMap Octets Unit :=
    let functions := content.functions.foldl (fun all function =>
      all.insert function.symbol ()) symbols
    let data := content.data.foldl (fun all item => all.insert item.symbol ()) functions
    content.aliases.foldl (fun all (name, _) => all.insert name ()) data
  let known := units.foldl defined {}
  let needed := units.flatMap fun content =>
    (needs content).filter fun name => !content.optional.contains name
  (needed.foldl (fun (found : Std.HashMap Octets Unit × List Octets) name =>
    if found.1.contains name then found else (found.1.insert name (), name :: found.2))
    (known, [])).2.reverse

/-- Whether the instruction at a position calls what was put on top of the stack before. -/
def isCallAt (code : Array Instruction) (position : Nat) : Bool :=
  match code[position]? with
  | some (.call _) => true
  | _ => false

/-- Put addresses in place of symbols. Where this is left for the time of a call, a function that is
only called may be missing. -/
def resolveCode (addressOf : Octets → Except LinkError UInt64) (isLazy : Bool)
    (code : Array Instruction) : Except LinkError (Array Instruction) :=
  code.mapIdxM fun position instruction =>
    match instruction with
    | .symbol name distance =>
        match addressOf name with
        | .ok address => .ok (.push (address + UInt64.ofInt distance))
        | .error error =>
            if isLazy && isCallAt code (position + 1) then .ok (.push 0) else .error error
    | other => .ok other

/-- Write the addresses that data holds. -/
def resolveData (addressOf : Octets → Except LinkError UInt64) (symbols : SymbolTable)
    (memory : Memory) (item : DataItem) : Except LinkError Memory :=
  item.addresses.foldlM (fun memory (offset, name) => do
    let address ← addressOf name
    let place := (symbols[item.symbol]?).getD 0 + UInt64.ofNat offset
    match memory.store? place address 8 with
    | some written => return written
    | none => throw .noRoom) memory

/-- The addresses of some symbols of a unit. -/
def addressesOf (unit : PlacedUnit) (names : List Octets) : List UInt64 :=
  names.filterMap fun name => unit.symbols[name]?

/-- Functions in the order of their numbers, those of the same number as they are. -/
def inOrder (functions : List (Nat × UInt64)) : List UInt64 :=
  (functions.mergeSort fun first second => first.1 ≤ second.1).map Prod.snd

/-- Functions of a unit that have numbers, with their addresses. -/
def numbered (unit : PlacedUnit) (functions : List (Nat × Octets)) : List (Nat × UInt64) :=
  functions.filterMap fun (number, name) => (unit.symbols[name]?).map (number, ·)

/-- How units are put together. -/
structure Surroundings where
  /-- The symbols that are used even where units define others of the same name. -/
  preferred : Octets → Option UInt64 := fun _ => none
  /-- The symbols that are used where units define none. -/
  known : Octets → Option UInt64 := fun _ => none
  /-- Whether functions are only looked for when they are called. -/
  isLazy : Bool := false

/-- The address of a symbol for the code of a unit. -/
def addressFor (surroundings : Surroundings) (shared : SharedSymbols) (unit : PlacedUnit) :
    Octets → Except LinkError UInt64 :=
  let internals := internalSymbols unit
  fun name =>
    match internals[name]?, shared[name]? with
    | some address, _ | none, some ⟨address, _, true⟩ => .ok address
    | none, some ⟨address, _, false⟩ => .ok ((surroundings.preferred name).getD address)
    | none, none =>
        match surroundings.known name with
        | some address => .ok address
        | none => if unit.content.optional.contains name then .ok 0 else .error (.missing name)

/-- Put units together in a program that may have been running before. -/
def link (processor : Processor) (surroundings : Surroundings) (units : List CompiledUnit) :
    Except LinkError (Processor × LinkedLibrary) := do
  let ⟨memory, state⟩ := processor
  match placeUnits memory state.functions.size (frameUnit :: units) with
  | none => throw .noRoom
  | some (memory, placed) => do
      let shared ← placed.foldlM shareUnit {}
      let (functions, memory) ← placed.foldlM (fun (functions, memory) unit => do
        let addressOf := addressFor surroundings shared unit
        let functions ← unit.content.functions.foldlM (fun functions function => do
          let code ← resolveCode addressOf surroundings.isLazy function.code
          return functions.push
            { name := function.symbol, frameSize := function.frameSize, code : LoadedFunction })
          functions
        let memory ← unit.content.data.foldlM (resolveData addressOf unit.symbols) memory
        return (functions, memory)) (state.functions, memory)
      let exports := shared.fold (fun (table : SymbolTable) name symbol =>
        if symbol.isHidden then table else table.insert name symbol.address) {}
      let library : LinkedLibrary :=
        { exports
          preparers := placed.flatMap fun unit => addressesOf unit unit.content.preparers
          constructors := inOrder (placed.flatMap fun unit =>
            numbered unit unit.content.constructors)
          destructors := (inOrder (placed.flatMap fun unit =>
            numbered unit unit.content.destructors)).reverse
          handle := ((shared[handleSymbol]?).map (·.address)).getD 0
          isPermanent := units.any fun content =>
            (content.data.any fun item => item.binding == .unique && !item.isHidden) }
      return (⟨memory, { state with functions }⟩, library)

end Linking

end QueryFoundry.Native
