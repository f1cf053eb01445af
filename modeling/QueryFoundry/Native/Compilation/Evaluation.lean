import QueryFoundry.Native.Compilation.Calls
import QueryFoundry.Native.Linking
import QueryFoundry.Native.Processor.Step

/-!
# Values that are known beforehand

Where a source needs the value of an expression before the program runs, the expression is compiled,
put together with all that it refers to, and run. It may only use functions and values that are meant
for that.
-/

namespace QueryFoundry.Native.Compile

open Text (Octets)

/-- What an evaluation refers to. -/
structure Reached where
  functions : List CompiledFunction := []
  data : List DataItem := []
  seen : Std.HashMap Octets Unit := {}

/-- The operations of the processor that have the same result each time. -/
def pureServices : List Octets :=
  ["countBits", "parity", "leadingZeros", "trailingZeros", "firstBit", "swapBytes", "checked"]

/-- Whether some code does only what can be done beforehand. -/
def isPure (code : Array Instruction) : Bool :=
  code.all fun
    | .service name _ => pureServices.contains name
    | _ => true

/-- Whether a function may be called in an evaluation. -/
def isForEvaluation (entry : FunctionEntry) : Compile Bool := do
  if entry.specifiers.isConstexpr || entry.isImplicit then return true
  if entry.specifiers.body == .defaulted then return true
  match entry.owner with
  | some owner => return (← record owner).isClosure
  | none => return false

/-- A function by its symbol, compiled if that has not been done yet. -/
def compiledNamed? (symbol : Octets) : Compile (Option CompiledFunction) := do
  let entry? := (← get).functions.findIdx? fun entry => entry.symbol == symbol
  if let some id := entry? then
    let entry ← functionEntry id
    if !(← isForEvaluation entry) then throw .notConstant
    if entry.progress != .compiled then function id
  return (← get).output.functions.find? fun known => known.symbol == symbol

/-- Whether a piece of memory holds a value that cannot change. -/
def isUnchanging (symbol : Octets) : Compile Bool := do
  match (← get).variables_.find? fun known => known.symbol == symbol with
  | some known => return known.type.isConst || known.type.isReference
  | none => return true

/-- Collect all that some symbols refer to. -/
def collect : Nat → List Octets → Reached → Compile Reached
  | 0, _, _ => throw .notConstant
  | _, [], reached => return reached
  | fuel + 1, symbol :: rest, reached => do
      if reached.seen.contains symbol then collect fuel rest reached
      else
        let marked := { reached with seen := reached.seen.insert symbol () }
        match ← compiledNamed? symbol with
        | some found =>
            if !isPure found.code then throw .notConstant
            collect fuel (Linking.symbolsOf found.code ++ rest)
              { marked with functions := found :: reached.functions }
        | none =>
            match (← get).output.data.find? fun item => item.symbol == symbol with
            | none => throw .notConstant
            | some item =>
                if !(← isUnchanging symbol) then throw .notConstant
                collect fuel (item.addresses.map Prod.snd ++ rest)
                  { marked with data := item :: reached.data }

/-- A bound on the number of symbols that an evaluation refers to. -/
def reachLimit : Nat := 100000

/-- Collect what gives the data that has been reached its initial values; the routines are given from
the last one to the first one, and those that are needed are returned in their order. -/
def collectRoutines : List Octets → Reached → List Octets → Compile (List Octets × Reached)
  | [], reached, needed => return (needed, reached)
  | routine :: rest, reached, needed => do
      let found? := (← get).output.functions.find? fun known => known.symbol == routine
      let targets := match found? with
        | some found => Linking.symbolsOf found.code
        | none => []
      if reached.data.any fun item => targets.contains item.symbol then
        collectRoutines rest (← collect reachLimit [routine] reached) (routine :: needed)
      else collectRoutines rest reached needed

/-- A bound on the number of steps of an evaluation. -/
def evaluationLimit : Nat := 3000000

/-- Run a program that may not ask for anything. -/
def runAlone : Nat → Processor → Option UInt64
  | 0, _ => none
  | fuel + 1, processor =>
      match processor.step with
      | .running next => runAlone fuel next
      | .stopped (.returned value) _ => some value
      | _ => none

/-- The symbol of an expression that is evaluated. -/
def evaluatedSymbol : Octets := "evaluated"

/-- Whether some code uses arguments or variables of the present function. -/
def usesLocals (code : Code) : Compile Bool := do
  let depth := (← context).depth
  let places := ((← get).variables_.toList.filter fun known =>
    known.depth == some depth && known.constant.isNone).map fun known => known.place
  let isLocal : Instruction → Bool
    | .argument _ => true
    | .frame offset => places.any fun
        | [.frame other] => other == offset
        | _ => false
    | _ => false
  return code.any isLocal

/-- The word that some code leaves when it is run. -/
def runBeforehand (code : Code) : Compile UInt64 := do
  if ← usesLocals code then throw .notConstant
  let whole : Code := code ++ [Instruction.finish]
  let main : CompiledFunction :=
    { symbol := evaluatedSymbol, binding := .global, frameSize := (← context).frameSize
      code := whole.assemble (← context).labelLevels }
  if !isPure main.code then throw .notConstant
  let direct ← collect reachLimit (Linking.symbolsOf main.code) {}
  let routines := (← get).prepare.filterMap fun
    | .symbol name _ => some name
    | _ => none
  let (needed, reached) ← collectRoutines routines.reverse direct []
  let before : Code := needed.flatMap fun name => [.symbol name 0, .call 0, .drop]
  let start := { main with code := before.assemble [] ++ main.code.map (moved before.length) }
  let content : CompiledUnit := { functions := start :: reached.functions, data := reached.data }
  match Linking.link {} {} [content] with
  | .error _ => throw .notConstant
  | .ok (processor, library) =>
      match processor.start? ((library.exports[evaluatedSymbol]?).getD 0) [] with
      | none => throw .notConstant
      | some ready =>
          match runAlone evaluationLimit ready with
          | some value => return value
          | none => throw .notConstant
where
  /-- The same instruction behind some others. -/
  moved (distance : Nat) : Instruction → Instruction
    | .jump position => .jump (position + distance)
    | .jumpIfZero position => .jumpIfZero (position + distance)
    | .guard level handlers =>
        .guard level (handlers.map fun (isTyped, position) => (isTyped, position + distance))
    | other => other

/-- The known value of an operand. -/
def evaluateOperand (operand : Operand) : Compile Int := do
  match operand.constant with
  | some (.integer known) => return known
  | some (.real _) => throw .notConstant
  | none => do
      if !(← isCpp) then throw .notConstant
      let single ← value operand
      let form ← formOf single.type
      let word ← runBeforehand single.code
      match form with
      | .integer kind => return kind.toInt word
      | .bool => return if word == 0 then 0 else 1
      | _ => return word.toNat

end QueryFoundry.Native.Compile
