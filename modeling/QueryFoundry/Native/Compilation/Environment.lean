import QueryFoundry.Native.Instruction
import QueryFoundry.Native.Token
import Std.Data.HashMap

/-!
# What is known while a source is compiled

Scopes with the names that are declared in them, and tables of the structures, functions, variables
and templates that these names stand for. The compilation of expressions, types, statements and
declarations needs each of the others, so each part refers to the others through one record.
-/

namespace QueryFoundry.Native

open Text (Octets)

/-- Why a source cannot be compiled. -/
inductive CompileError where
  | undeclared (name : Octets)
  | redeclared (name : Octets)
  | noMember (name : Octets)
  /-- No candidate takes the arguments. -/
  | noMatch (name : Octets)
  | ambiguous (name : Octets)
  | inaccessible (name : Octets)
  /-- A function that must not be used. -/
  | deleted (name : Octets)
  | mismatch (what : Octets)
  | incomplete (name : Octets)
  | notConstant
  | invalid (what : Octets)
  | tooDeep
deriving DecidableEq, Repr, Inhabited

/-- A value that is known before the program runs. -/
inductive Constant where
  | integer (value : Int)
  | real (bits : UInt64)
deriving DecidableEq, Repr, Inhabited

/-- What a parameter of a template stands for. -/
inductive TemplateArgument where
  | type (type : ValueType)
  | value (value : Int) (type : ValueType)
  | symbol (name : Octets) (type : ValueType)
  | template (id : Nat)
  | pack (arguments : List TemplateArgument)
deriving BEq, Repr, Inhabited

/-- What a name stands for. -/
inductive Entity where
  | variable_ (id : Nat)
  | field (record index : Nat)
  | function (id : Nat)
  | type (type : ValueType)
  | template (id : Nat)
  | namespace (scope : Nat)
  | constant (value : Int) (type : ValueType)
  /-- One for each argument of a pack. -/
  | pack (members : List Entity)
deriving BEq, Repr, Inhabited

/-- What kind of place declarations stand in. -/
inductive ScopeKind where
  | namespace
  | record (id : Nat)
  | block
  | template
deriving DecidableEq, Repr, Inhabited

/-- The names that are declared in one place. -/
structure Scope where
  kind : ScopeKind
  parent : Option Nat := none
  /-- The name of a namespace or a structure. -/
  name : Octets := ""
  names : Std.HashMap Octets (List Entity) := {}
  /-- Structures and enumerations by the names that follow their keywords. -/
  tags : Std.HashMap Octets ValueType := {}
  /-- The namespaces whose names are known here, too. -/
  used : List Nat := []
deriving Inhabited

/-- A variable. -/
structure Variable where
  name : Octets
  type : ValueType
  /-- Pushes the address of the variable. -/
  place : Code
  /-- The depth of the function that the variable is in; variables that live as long as the program
  have none. -/
  depth : Option Nat := none
  constant : Option Constant := none
  symbol : Octets := ""
  isDefined : Bool := false
  /-- Pushes the size of an array whose length is not known before. -/
  size : Option Code := none
  access : Access := .everyone
  /-- A member of a template that has not been given its initial value yet. -/
  pending : Option (Statement × Nat) := none
  isReferenced : Bool := false
deriving Inhabited

/-- What a function is for. -/
inductive FunctionKind where
  | plain
  | constructor
  | destructor
  | conversion
deriving DecidableEq, Repr, Inhabited

/-- How far the compilation of a function has come. -/
inductive Progress where
  | declared
  | requested
  | compiled
deriving DecidableEq, Repr, Inhabited

/-- A function. -/
structure FunctionEntry where
  name : Octets
  kind : FunctionKind := .plain
  symbol : Octets
  type : ValueType
  /-- The scope that the parameters and the body are read in. -/
  scope : Nat
  owner : Option Nat := none
  access : Access := .everyone
  specifiers : Specifiers := {}
  isStatic : Bool := false
  isVirtual : Bool := false
  isImplicit : Bool := false
  parameters : List Statement := []
  initializers : List Expr := []
  body : Statement := .empty
  hasBody : Bool := false
  binding : Binding := .global
  progress : Progress := .declared
  /-- The template that the function comes from, with its arguments. -/
  origin : Option (Nat × List TemplateArgument) := none
  /-- How deeply the functions are nested that the function is defined in. -/
  depth : Nat := 0
deriving Inhabited

/-- What a template makes. -/
inductive TemplateKind where
  | record
  | function
  | alias
  | variable_
deriving DecidableEq, Repr, Inhabited

/-- A definition for some arguments of a template. -/
structure Specialization where
  parameters : List Statement
  patterns : List Expr
  declaration : Statement
  scope : Nat
deriving Inhabited

/-- A template. -/
structure TemplateEntry where
  name : Octets
  kind : TemplateKind
  parameters : List Statement
  declaration : Statement
  scope : Nat
  owner : Option Nat := none
  access : Access := .everyone
  specializations : List Specialization := []
  /-- What was made already, by the arguments. -/
  instances : List (List TemplateArgument × Entity) := []
  /-- Members that are defined outside: the parameters of the template and the definition. -/
  members : List (List Statement × Statement × Nat) := []
deriving Inhabited

/-- A member of a structure. -/
structure Field where
  name : Octets
  type : ValueType
  offset : Nat := 0
  /-- The first bit and the number of bits of a member that shares its place. -/
  bits : Option (Nat × Nat) := none
  initial : Expr := .absent
  access : Access := .everyone
  isMutable : Bool := false
deriving Inhabited

/-- A structure that another one inherits from. -/
structure Base where
  record : Nat
  offset : Nat := 0
  access : Access := .everyone
  isVirtual : Bool := false
deriving Inhabited, Repr, BEq

/-- A function that is chosen when the program runs: by its name and type. -/
structure VirtualEntry where
  name : Octets
  /-- The type that callers expect: the function may refer to a more special structure. -/
  type : ValueType
  function : Nat
  /-- The distance from the part that the table belongs to to the structure of the function. -/
  adjustment : Int := 0
deriving Inhabited

/-- The functions that are chosen through one part of a structure. -/
structure VirtualTable where
  offset : Nat
  /-- The structure that the part is. -/
  record : Nat
  entries : List VirtualEntry
  /-- Whether the part is inherited virtually. -/
  isShared : Bool := false
deriving Inhabited

/-- A structure. -/
structure RecordEntry where
  name : Octets
  key : RecordKey
  /-- The scope of the members. -/
  scope : Nat
  isComplete : Bool := false
  isBeingDefined : Bool := false
  size : Nat := 0
  alignment : Nat := 1
  /-- The size without the bytes at the end that only fill up. -/
  usedSize : Nat := 0
  fields : Array Field := #[]
  bases : List Base := []
  /-- The offsets of the structures that are inherited virtually. -/
  shared : List (Nat × Nat) := []
  tables : List VirtualTable := []
  constructors : List Entity := []
  destructor : Option Nat := none
  conversions : List Entity := []
  origin : Option (Nat × List TemplateArgument) := none
  /-- The definition and its scope, if it has not been compiled yet. -/
  pending : Option (Statement × Nat) := none
  friends : List Octets := []
  isFinal : Bool := false
  /-- Whether the structure belongs to a function without a name. -/
  isClosure : Bool := false
  isPacked : Bool := false
  /-- How deeply the functions are nested that the structure is defined in. -/
  depth : Nat := 0
  /-- Whether values can be copied, assigned or left without an initial value as plain bytes. -/
  isPlainToCopy : Bool := true
  isPlainToAssign : Bool := true
  isPlainToMake : Bool := true
  /-- Whether the members can be given their values one by one. -/
  isAggregate : Bool := true
  isAbstract : Bool := false
  /-- Whether the tables of virtual functions have been written. -/
  hasTables : Bool := false
deriving Inhabited

/-- An enumeration. -/
structure EnumerationEntry where
  name : Octets
  underlying : ValueType
  isScoped : Bool
  scope : Nat
deriving Inhabited

/-- What a value can be used for. -/
inductive Category where
  /-- It has a place. -/
  | place
  /-- It has a place and is not needed any more. -/
  | moved
  /-- It has no place yet. -/
  | value
deriving DecidableEq, Repr, Inhabited

/-- What an operand is besides a value. -/
inductive Subject where
  | plain
  /-- Functions of one name, with the template arguments that were given. -/
  | functions (name : Octets) (found : List Entity) (arguments : Option (List TemplateArgument))
  /-- Functions of an object: whose address the code pushes, and whose type is given. -/
  | methods (name : Octets) (found : List Entity) (arguments : Option (List TemplateArgument))
      (object : Code) (type : ValueType) (isExact : Bool) (category : Category)
  /-- Values between braces. -/
  | list (items : List Expr)
deriving Inhabited

/-- A compiled expression. An operand with a place pushes its address. A number or pointer without
one pushes its value. A structure without one takes the address of a place and is made there. -/
structure Operand where
  type : ValueType
  category : Category := .value
  code : Code := []
  constant : Option Constant := none
  bits : Option (Nat × Nat) := none
  subject : Subject := .plain
deriving Inhabited

/-- What a function without a name may capture by itself. -/
inductive CaptureRule where
  | nothing
  | values
  | references
deriving DecidableEq, Repr, Inhabited

/-- The function that is being compiled. -/
structure Context where
  /-- How deeply functions are nested. -/
  depth : Nat := 0
  function : Option Nat := none
  result : ValueType := .void
  /-- The type of the object that the function works on. -/
  self : Option ValueType := none
  /-- Pushes the address of that object, if it is not the first argument. -/
  selfPlace : Code := []
  /-- The structure of a function without a name that is being compiled, and what it may capture. -/
  closure : Option (Nat × CaptureRule) := none
  /-- Pushes the address of the place for the result. -/
  resultPlace : Code := []
  frameSize : Nat := 0
  /-- The present level of what is put off. -/
  level : Nat := 1
  /-- Whether something was put off at the present level. -/
  hasDeferred : Bool := false
  /-- Where a statement goes on that leaves a loop or a switch, and its level. -/
  leaveTarget : Option (Nat × Nat) := none
  againTarget : Option (Nat × Nat) := none
  /-- Where a statement goes on that ends a function with more to do, and its level. -/
  finishTarget : Option (Nat × Nat) := none
  /-- The cases of the present switch: the values and the label. -/
  cases : List (Int × Int × Nat) := []
  otherwise : Option Nat := none
  /-- The type that the cases are values of. -/
  switchType : Option ValueType := none
  /-- The labels of the function by name. -/
  labels : List (Octets × Nat) := []
  /-- The levels of these labels. -/
  labelLevels : List (Nat × Nat) := []
  /-- The local variable that is made in the place of the result. -/
  namedResult : Octets := ""
  /-- Whether the type of the result is found out from the first one. -/
  infersResult : Bool := false
  /-- How many parameters of the function lie on its stack. -/
  argumentCount : Nat := 0
  /-- The number of local things that were named so far. -/
  serial : Nat := 0
deriving Inhabited

/-- What is known while a source is compiled. -/
structure Environment where
  language : Language := .c
  /-- The version of the language, as its macro tells it. -/
  version : Nat := 201710
  /-- Whether symbols are seen in their library only, unless they are declared otherwise. -/
  hidesSymbols : Bool := false
  scopes : Array Scope := #[{ kind := .namespace }]
  /-- The present scope. -/
  scope : Nat := 0
  records : Array RecordEntry := #[]
  enumerations : Array EnumerationEntry := #[]
  functions : Array FunctionEntry := #[]
  variables_ : Array Variable := #[]
  templates : Array TemplateEntry := #[]
  context : Context := {}
  /-- The number of the next label, of the next name and of the next unknown type. -/
  serial : Nat := 0
  /-- The functions that are still to be compiled. -/
  requested : List Nat := []
  output : CompiledUnit := {}
  /-- The code that gives variables their initial values before anything else is done. -/
  prepare : Code := []
  /-- The code that gives variables their initial values when the program is started. -/
  startup : Code := []
  /-- Whether a conversion by a constructor or a conversion function is being looked for: then no other
  one is made on the way. -/
  isConverting : Bool := false
  /-- The texts with a place, and their symbols. -/
  texts : List (List UInt8 × Octets) := []
  /-- The compiled bodies of functions that may be evaluated beforehand. -/
  bodies : Std.HashMap Nat CompiledFunction := {}
deriving Inhabited

/-- A part of the compilation of a source. -/
abbrev CompileState (α : Type) := StateT Environment (Except CompileError) α

/-- The parts of the compilation that need each other. -/
structure Parts where
  expression : Expr → CompileState Operand
  type : TypeExpr → CompileState ValueType
  statement : Statement → CompileState Code
  declaration : Statement → CompileState Code
  /-- Make the size and the members of a structure known. -/
  complete : Nat → CompileState Unit
  /-- Compile the body of a function. -/
  function : Nat → CompileState Unit
  /-- Turn an operand into a type by what is allowed without being written. -/
  convert : Operand → ValueType → CompileState Operand
  /-- Turn an operand into a type as it is written. -/
  cast : CastKind → Operand → ValueType → CompileState Operand
  /-- Make an object of a type from arguments. -/
  construct : ValueType → InitialForm → List Operand → CompileState Operand
  /-- Make a value of a type from what is written between braces. -/
  list : ValueType → List Expr → CompileState Operand
  /-- Give the place that some code pushes the address of its initial value. -/
  initial : ValueType → Code → Expr → CompileState Code
  /-- Call one of some functions with arguments. -/
  call : Operand → List Operand → CompileState Operand
  /-- Apply an operator to operands. -/
  binary : BinaryOperator → Operand → Operand → CompileState Operand
  /-- What a template makes of its arguments. -/
  instantiate : Nat → List TemplateArgument → CompileState Entity
  /-- The arguments of a template, from what is written. -/
  arguments : Nat → List Expr → CompileState (List TemplateArgument)
  /-- The known value of an operand. -/
  evaluate : Operand → CompileState Int
deriving Inhabited

/-- The compilation of a source, which may refer to all of its parts. -/
abbrev Compile (α : Type) := ReaderT Parts (StateT Environment (Except CompileError)) α

namespace Compile

/-- Compile an expression. -/
def expression (written : Expr) : Compile Operand := fun parts => parts.expression written

/-- The type that is written. -/
def type (written : TypeExpr) : Compile ValueType := fun parts => parts.type written

/-- Compile a statement. -/
def statement (written : Statement) : Compile Code := fun parts => parts.statement written

/-- Compile a declaration. -/
def declaration (written : Statement) : Compile Code := fun parts => parts.declaration written

/-- Make the size and the members of a structure known. -/
def complete (id : Nat) : Compile Unit := fun parts => parts.complete id

/-- Compile the body of a function. -/
def function (id : Nat) : Compile Unit := fun parts => parts.function id

/-- Turn an operand into a type by what is allowed without being written. -/
def convert (operand : Operand) (target : ValueType) : Compile Operand :=
  fun parts => parts.convert operand target

/-- Turn an operand into a type as it is written. -/
def cast (kind : CastKind) (operand : Operand) (target : ValueType) : Compile Operand :=
  fun parts => parts.cast kind operand target

/-- Make an object of a type from arguments. -/
def construct (target : ValueType) (form : InitialForm) (arguments : List Operand) :
    Compile Operand :=
  fun parts => parts.construct target form arguments

/-- Make a value of a type from what is written between braces. -/
def list (target : ValueType) (items : List Expr) : Compile Operand :=
  fun parts => parts.list target items

/-- Give the place that some code pushes the address of its initial value. -/
def initial (target : ValueType) (place : Code) (written : Expr) : Compile Code :=
  fun parts => parts.initial target place written

/-- Call one of some functions with arguments. -/
def call (callee : Operand) (arguments : List Operand) : Compile Operand :=
  fun parts => parts.call callee arguments

/-- Apply an operator to operands. -/
def binary (operator : BinaryOperator) (left right : Operand) : Compile Operand :=
  fun parts => parts.binary operator left right

/-- What a template makes of its arguments. -/
def instantiate (id : Nat) (arguments : List TemplateArgument) : Compile Entity :=
  fun parts => parts.instantiate id arguments

/-- The arguments of a template, from what is written. -/
def arguments (id : Nat) (written : List Expr) : Compile (List TemplateArgument) :=
  fun parts => parts.arguments id written

/-- The known value of an operand. -/
def evaluate (operand : Operand) : Compile Int := fun parts => parts.evaluate operand

/-- Compile something; if that fails, nothing has changed. -/
def attempt? {α : Type} (action : Compile α) : Compile (Option α) := fun parts environment =>
  match action parts environment with
  | .ok (value, after) => .ok (some value, after)
  | .error _ => .ok (none, environment)

/-- Find something out without changing anything. -/
def hypothetically? {α : Type} (action : Compile α) : Compile (Option α) :=
  fun parts environment =>
    match action parts environment with
    | .ok (value, _) => .ok (some value, environment)
    | .error _ => .ok (none, environment)

/-- Whether the source is written in C++. -/
def isCpp : Compile Bool := do
  return (← get).language == .cpp

/-- A number that was not used before. -/
def fresh : Compile Nat := do
  let number := (← get).serial
  modify fun environment => { environment with serial := number + 1 }
  return number

/-- The structure with a number. -/
def record (id : Nat) : Compile RecordEntry := do
  return ((← get).records[id]?).getD default

/-- Change a structure. -/
def changeRecord (id : Nat) (change : RecordEntry → RecordEntry) : Compile Unit :=
  modify fun environment => { environment with records := environment.records.modify id change }

/-- The structure with a number, with its size and its members. -/
def completeRecord (id : Nat) : Compile RecordEntry := do
  if !(← record id).isComplete then complete id
  record id

/-- The function with a number. -/
def functionEntry (id : Nat) : Compile FunctionEntry := do
  return ((← get).functions[id]?).getD default

/-- Change a function. -/
def changeFunction (id : Nat) (change : FunctionEntry → FunctionEntry) : Compile Unit :=
  modify fun environment =>
    { environment with functions := environment.functions.modify id change }

/-- The variable with a number. -/
def variable_ (id : Nat) : Compile Variable := do
  return ((← get).variables_[id]?).getD default

/-- Change a variable. -/
def changeVariable (id : Nat) (change : Variable → Variable) : Compile Unit :=
  modify fun environment =>
    { environment with variables_ := environment.variables_.modify id change }

/-- The template with a number. -/
def template (id : Nat) : Compile TemplateEntry := do
  return ((← get).templates[id]?).getD default

/-- Change a template. -/
def changeTemplate (id : Nat) (change : TemplateEntry → TemplateEntry) : Compile Unit :=
  modify fun environment =>
    { environment with templates := environment.templates.modify id change }

/-- The enumeration with a number. -/
def enumeration (id : Nat) : Compile EnumerationEntry := do
  return ((← get).enumerations[id]?).getD default

/-- The scope with a number. -/
def scopeEntry (id : Nat) : Compile Scope := do
  return ((← get).scopes[id]?).getD default

/-- Change a scope. -/
def changeScope (id : Nat) (change : Scope → Scope) : Compile Unit :=
  modify fun environment => { environment with scopes := environment.scopes.modify id change }

/-- Add a scope. -/
def addScope (scope : Scope) : Compile Nat := do
  let id := (← get).scopes.size
  modify fun environment => { environment with scopes := environment.scopes.push scope }
  return id

/-- Compile something in a scope. -/
def inScope {α : Type} (id : Nat) (action : Compile α) : Compile α := do
  let outer := (← get).scope
  modify fun environment => { environment with scope := id }
  let result ← action
  modify fun environment => { environment with scope := outer }
  return result

/-- Compile something in a new scope inside of the present one. -/
def inNewScope {α : Type} (kind : ScopeKind) (action : Compile α) : Compile α := do
  inScope (← addScope { kind, parent := some (← get).scope }) action

/-- The function that is being compiled. -/
def context : Compile Context := do
  return (← get).context

/-- Change what is known of the function that is being compiled. -/
def changeContext (change : Context → Context) : Compile Unit :=
  modify fun environment => { environment with context := change environment.context }

/-- Change what the source is compiled to. -/
def changeOutput (change : CompiledUnit → CompiledUnit) : Compile Unit :=
  modify fun environment => { environment with output := change environment.output }

/-- Let a name stand for something in a scope, besides what it stands for. -/
def declareIn (scope : Nat) (name : Octets) (entity : Entity) : Compile Unit :=
  changeScope scope fun here =>
    { here with names := here.names.insert name (((here.names[name]?).getD []) ++ [entity]) }

/-- Let a name stand for something in a scope, and nothing else. -/
def replaceIn (scope : Nat) (name : Octets) (entity : Entity) : Compile Unit :=
  changeScope scope fun here => { here with names := here.names.insert name [entity] }

/-- Let a name stand for something in the present scope. -/
def declare (name : Octets) (entity : Entity) : Compile Unit := do
  declareIn (← get).scope name entity

/-- A new label. -/
def newLabel : Compile Nat := fresh

/-- Room in the frame of the function that is being compiled; its offset is returned. -/
def reserve (size alignment : Nat) : Compile Nat := do
  let used := (← context).frameSize
  let step := max alignment 1
  let start := (used + step - 1) / step * step
  changeContext fun context => { context with frameSize := start + max size 1 }
  return start

/-- Room for a word in the frame of the function that is being compiled. -/
def reserveWord : Compile Nat := reserve 8 8

end Compile

end QueryFoundry.Native
