import QueryFoundry.Native.Compilation.Declarations
import QueryFoundry.Native.Compilation.Evaluation
import QueryFoundry.Native.Compilation.Expressions

/-!
# Compiled sources

A source is compiled declaration by declaration. Functions that were asked for are compiled until
there are no more of them; the others are only checked. What nothing refers to is left out.
-/

namespace QueryFoundry.Native

open Text (Octets)

/-- The parts of the compilation, with a bound on how deeply they refer to each other. -/
def Parts.within : Nat → Parts
  | 0 =>
      let deep {α : Type} : CompileState α := throw .tooDeep
      { expression := fun _ => deep, type := fun _ => deep, statement := fun _ => deep
        declaration := fun _ => deep, complete := fun _ => deep, function := fun _ => deep
        convert := fun _ _ => deep, cast := fun _ _ _ => deep, construct := fun _ _ _ => deep
        list := fun _ _ => deep, initial := fun _ _ _ => deep, call := fun _ _ => deep
        binary := fun _ _ _ => deep, instantiate := fun _ _ => deep
        arguments := fun _ _ => deep, evaluate := fun _ => deep }
  | depth + 1 =>
      let inner (_ : Unit) : Parts := Parts.within depth
      { expression := fun written => Compile.expressionOf written (inner ())
        type := fun written => Compile.typeOf written (inner ())
        statement := fun written => Compile.statementOf written (inner ())
        declaration := fun written => Compile.declarationOf written (inner ())
        complete := fun id => Compile.completeNow id (inner ())
        function := fun id => Compile.compileFunction id (inner ())
        convert := fun operand target => Compile.convertTo operand target (inner ())
        cast := fun kind operand target => Compile.castTo kind operand target (inner ())
        construct := fun target form operands =>
          Compile.constructFrom target form operands (inner ())
        list := fun target items => Compile.listOperand target items (inner ())
        initial := fun target place written =>
          Compile.setInitial target place written (inner ())
        call := fun callee operands => Compile.callOperand callee operands (inner ())
        binary := fun operator left right =>
          Compile.binaryOperator operator left right (inner ())
        instantiate := fun id given => Compile.instantiateTemplate id given (inner ())
        arguments := fun id written => Compile.writtenArguments id written (inner ())
        evaluate := fun operand => Compile.evaluateOperand operand (inner ()) }

/-- How deeply the parts of the compilation may refer to each other. -/
def Parts.depth : Nat := 1000

namespace Compile

/-! ## All functions -/

/-- Compile declarations one after the other. -/
def declareAll : List Statement → Compile Unit
  | [] => pure ()
  | first :: rest => do
      let _ ← declaration first
      declareAll rest

/-- A bound on the number of functions that are compiled. -/
def functionLimit : Nat := 100000

/-- Compile the functions that were asked for, until there are no more of them. -/
def compileRequested : Nat → Compile Unit
  | 0 => throw .tooDeep
  | fuel + 1 => do
      match (← get).requested with
      | [] => pure ()
      | id :: rest => do
          modify fun environment => { environment with requested := rest }
          function id
          compileRequested fuel

/-- Find out whether something can be compiled, without keeping what comes of it. -/
def checking (action : Compile Unit) : Compile Unit := fun parts environment =>
  (action parts environment).map fun _ => ((), environment)

/-- Check the functions that were not asked for. What a template makes is not checked. -/
def checkUnused : Nat → Nat → Compile Unit
  | 0, _ => pure ()
  | fuel + 1, id => do
      match (← get).functions[id]? with
      | none => pure ()
      | some entry => do
          let owner? ← match entry.owner with
            | some owner => do pure (some (← record owner))
            | none => pure none
          let isMade := entry.origin.isSome || owner?.any fun found => found.origin.isSome
          if entry.hasBody && entry.progress != .compiled && !isMade && entry.depth == 0 then
            checking (function id)
          checkUnused fuel (id + 1)

/-! ## What is left out -/

/-- Whether something is there even if nothing in its source refers to it. -/
def isKept (binding : Binding) : Bool :=
  binding == .global

/-- The symbols that a symbol refers to. -/
abbrev References := Std.HashMap Octets (List Octets)

/-- What each symbol of a source refers to. -/
def references (content : CompiledUnit) : References :=
  let functions := content.functions.foldl (fun (found : References) function =>
    found.insert function.symbol (Linking.symbolsOf function.code)) {}
  let data := content.data.foldl (fun (found : References) item =>
    found.insert item.symbol (item.addresses.map Prod.snd)) functions
  content.aliases.foldl (fun found (name, target) => found.insert name [target]) data

/-- The symbols that can be reached from some others. -/
def reachable (known : References) :
    Nat → List Octets → Std.HashMap Octets Unit → Std.HashMap Octets Unit
  | 0, _, found => found
  | _, [], found => found
  | fuel + 1, symbol :: rest, found =>
      if found.contains symbol then reachable known fuel rest found
      else reachable known fuel (((known[symbol]?).getD []) ++ rest) (found.insert symbol ())

/-- The symbols that are there in any case. -/
def keptSymbols (content : CompiledUnit) : List Octets :=
  let functions := (content.functions.filter fun function => isKept function.binding).map
    fun function => function.symbol
  let data := (content.data.filter fun item => isKept item.binding).map fun item => item.symbol
  functions ++ data ++ content.aliases.map Prod.fst ++
    (content.constructors ++ content.destructors).map Prod.snd

/-- Those of some routines that give initial values to data that can be reached, and all that can be
reached then. A routine may need what another one in front of it does. -/
def neededRoutines (content : CompiledUnit) (routines : List Octets) :
    List Octets × Std.HashMap Octets Unit :=
  let known := references content
  let data := content.data.foldl (fun (found : Std.HashMap Octets Unit) item =>
    found.insert item.symbol ()) {}
  routines.reverse.foldl (fun (needed, found) routine =>
    let targets := ((known[routine]?).getD []).filter fun symbol => data.contains symbol
    if targets.any fun symbol => found.contains symbol then
      (routine :: needed, reachable known reachLimit [routine] found)
    else (needed, found)) ([], reachable known reachLimit (keptSymbols content) {})

/-! ## Sources -/

/-- The symbol of what is done before anything else. -/
def prepareSymbol : Octets := "prepare"

/-- The symbol of what is done when the program is started. -/
def startupSymbol : Octets := "start up"

/-- The number of functions that are called on loading without one of their own. -/
def plainOrder : Nat := 65535

/-- A function that carries out some code without arguments and a result. -/
def routineOf (symbol : Octets) (calls : Code) : CompiledFunction :=
  let whole : Code := calls ++ [Instruction.push 0, .finish]
  { symbol, binding := .internal, frameSize := 0, code := whole.assemble [] }

/-- What is left of the output of a source when all is compiled. -/
def finalUnit (environment : Environment) : CompiledUnit :=
  let output := environment.output
  let whole := { output with
    functions := (routineOf startupSymbol environment.startup :: output.functions).reverse
    data := output.data.reverse
    constructors := if environment.startup.isEmpty then output.constructors
      else output.constructors ++ [(plainOrder, startupSymbol)] }
  let routines := environment.prepare.filterMap fun
    | .symbol name _ => some name
    | _ => none
  let (needed, found) := neededRoutines whole routines
  let kept := whole.functions.filter fun function => found.contains function.symbol
  { whole with
    functions := routineOf prepareSymbol (needed.flatMap callRoutine) :: kept
    data := whole.data.filter fun item => found.contains item.symbol
    preparers := if needed.isEmpty then [] else [prepareSymbol] }

/-- Compile a whole source. -/
def source (declarations : List Statement) : Compile CompiledUnit := do
  declareAll declarations
  compileRequested functionLimit
  checkUnused functionLimit 0
  return finalUnit (← get)

end Compile

/-- How a source is to be compiled. -/
structure CompileOptions where
  language : Language
  /-- The version of the language, as its macro tells it. -/
  version : Nat
  /-- Whether symbols are seen in their library only, unless they are declared otherwise. -/
  hidesSymbols : Bool := false
deriving DecidableEq, Repr, Inhabited

/-- Compile the declarations of a source. -/
def compileDeclarations (options : CompileOptions) (declarations : List Statement) :
    Except CompileError CompiledUnit :=
  (Compile.source declarations (Parts.within Parts.depth)).run'
    { language := options.language, version := options.version
      hidesSymbols := options.hidesSymbols }

end QueryFoundry.Native
