import QueryFoundry.Native.Compilation.Calls

/-!
# Descriptions of types

What is known of types when the program runs: their names, what they inherit from and what pointers
point to. Handlers compare them with the types of what is thrown.
-/

namespace QueryFoundry.Native.Compile

open Text (Octets)

/-- Add a piece of data, unless there is one with its symbol. -/
def emitData (item : DataItem) : Compile Unit := do
  let isKnown := (← get).output.data.any fun other => other.symbol == item.symbol
  if !isKnown then changeOutput fun output => { output with data := item :: output.data }

/-- The bytes of a word, the lowest one first. -/
def wordBytes (value : Nat) : List UInt8 :=
  (List.range 8).map fun index => UInt8.ofNat (value / Nat.pow 256 index)

/-- The bytes of a text with a zero behind them. -/
def textBytes (text : Octets) : List UInt8 :=
  text.toList.map (fun character => UInt8.ofNat character.toNat) ++ [0]

/-- The symbol of a text that never changes. -/
def textSymbol (bytes : List UInt8) : Compile Octets := do
  match (← get).texts.lookup bytes with
  | some symbol => return symbol
  | none =>
      let symbol := "text " ++ toString (← fresh)
      modify fun environment => { environment with texts := (bytes, symbol) :: environment.texts }
      emitData { symbol, binding := .internal, size := bytes.length, bytes }
      return symbol

/-- How deeply types may contain each other. -/
def descriptionDepth : Nat := 32

/-- The symbol of the description of a type. -/
def describeWithin : Nat → ValueType → Compile Octets
  | 0, _ => throw .tooDeep
  | depth + 1, written => do
      let type := written.plain
      let name ← typeSymbol type
      let symbol := "_ZTI" ++ name
      if (← get).output.data.any fun other => other.symbol == symbol then return symbol
      let text ← textSymbol (textBytes name)
      match type with
      | .record id => do
          emitData { symbol, binding := .weak, size := 0 }
          let found ← completeRecord id
          let bases ← found.bases.mapM fun base => do
            let inner ← describeWithin depth (.record base.record)
            let shared := found.shared.lookup base.record
            let offset := if base.isVirtual then shared.getD 0 else base.offset
            return (inner, offset)
          let numbers := bases.flatMap fun (_, offset) => wordBytes 0 ++ wordBytes offset
          let addresses := bases.zipIdx.map fun ((inner, _), index) => (24 + 16 * index, inner)
          let item : DataItem :=
            { symbol, binding := .weak, size := 24 + 16 * bases.length, alignment := 8
              bytes := wordBytes 1 ++ wordBytes 0 ++ wordBytes bases.length ++ numbers
              addresses := (8, text) :: addresses }
          changeOutput fun output => { output with
            data := item :: output.data.filter fun other => other.symbol != symbol }
          return symbol
      | .pointer target => do
          let inner ← describeWithin depth target
          emitData
            { symbol, binding := .weak, size := 32, alignment := 8
              bytes := wordBytes 2 ++ wordBytes 0 ++ wordBytes 0 ++
                wordBytes (if target.isConst then 1 else 0)
              addresses := [(8, text), (16, inner)] }
          return symbol
      | _ => do
          emitData
            { symbol, binding := .weak, size := 32, alignment := 8, addresses := [(8, text)] }
          return symbol

/-- The symbol of the description of a type. -/
def describe (type : ValueType) : Compile Octets := describeWithin descriptionDepth type

/-- Whether objects of a structure know what they are when the program runs. -/
def isPolymorphic (id : Nat) : Compile Bool := do
  let found ← completeRecord id
  return !found.tables.isEmpty

end QueryFoundry.Native.Compile
