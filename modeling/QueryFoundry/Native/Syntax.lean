import QueryFoundry.Native.ValueType

/-!
# The structure of native sources

Types as they are written, expressions and statements. Declarations are statements, too. What may
be left out is absent, so that only lists of parts occur besides the parts themselves.
-/

namespace QueryFoundry.Native

open Text (Octets)

/-- The operators with one operand. -/
inductive UnaryOperator where
  | plus
  | minus
  | not
  | complement
  | dereference
  | address
deriving DecidableEq, Repr, Inhabited

/-- The operators between two operands. -/
inductive BinaryOperator where
  | multiply
  | divide
  | remainder
  | add
  | subtract
  | shiftLeft
  | shiftRight
  | less
  | greater
  | lessEqual
  | greaterEqual
  | equal
  | different
  | bitAnd
  | bitXor
  | bitOr
  | and
  | or
  | comma
  | member
  | memberThrough
deriving DecidableEq, Repr, Inhabited

namespace UnaryOperator

/-- How an operator is written. -/
def symbol : UnaryOperator → Octets
  | plus => "+"
  | minus => "-"
  | not => "!"
  | complement => "~"
  | dereference => "*"
  | address => "&"

end UnaryOperator

namespace BinaryOperator

/-- How an operator is written. -/
def symbol : BinaryOperator → Octets
  | multiply => "*"
  | divide => "/"
  | remainder => "%"
  | add => "+"
  | subtract => "-"
  | shiftLeft => "<<"
  | shiftRight => ">>"
  | less => "<"
  | greater => ">"
  | lessEqual => "<="
  | greaterEqual => ">="
  | equal => "=="
  | different => "!="
  | bitAnd => "&"
  | bitXor => "^"
  | bitOr => "|"
  | and => "&&"
  | or => "||"
  | comma => ","
  | member => ".*"
  | memberThrough => "->*"

/-- All operators between two operands. -/
def all : List BinaryOperator :=
  [multiply, divide, remainder, add, subtract, shiftLeft, shiftRight, less, greater, lessEqual,
    greaterEqual, equal, different, bitAnd, bitXor, bitOr, and, or, comma, member, memberThrough]

/-- The operator that is written in some way. -/
def ofSymbol? (symbol : Octets) : Option BinaryOperator :=
  all.find? fun operator => operator.symbol == symbol

/-- How strongly an operator binds its operands. -/
def strength : BinaryOperator → Nat
  | member | memberThrough => 11
  | multiply | divide | remainder => 10
  | add | subtract => 9
  | shiftLeft | shiftRight => 8
  | less | greater | lessEqual | greaterEqual => 7
  | equal | different => 6
  | bitAnd => 5
  | bitXor => 4
  | bitOr => 3
  | and => 2
  | or => 1
  | comma => 0

/-- Whether the operator compares its operands. -/
def isComparison : BinaryOperator → Bool
  | less | greater | lessEqual | greaterEqual | equal | different => true
  | _ => false

end BinaryOperator

/-- What kind of name a name is. -/
inductive NameKind where
  | plain
  /-- The name of a template, with its arguments. -/
  | template
  /-- The name of a destructor. -/
  | destructor
  /-- The name of an operator. -/
  | operator
  /-- A conversion to the type that is the argument. -/
  | conversion
deriving DecidableEq, Repr, Inhabited

/-- The ways in which a value is turned into another type. -/
inductive CastKind where
  | written
  | static
  | dynamic
  | const
  | reinterpret
deriving DecidableEq, Repr, Inhabited

/-- How an initial value is written. -/
inductive InitialForm where
  /-- Behind an equals sign. -/
  | assigned
  /-- Between parentheses. -/
  | arguments
  /-- Between braces. -/
  | braces
deriving DecidableEq, Repr, Inhabited

/-- Properties that a declaration may be given. -/
inductive Attribute where
  /-- Run when the library is loaded; those of a smaller number come first. -/
  | constructor (order : Nat)
  /-- Run when the library is unloaded. -/
  | destructor (order : Nat)
  | weak
  | visibility (name : Octets)
  | alias (target : Octets)
  | packed
  | aligned (size : Nat)
  | cleanup (function : Octets)
  | other (name : Octets)
deriving DecidableEq, Repr, Inhabited

/-- Who may use a member. -/
inductive Access where
  | everyone
  | heirs
  | owner
deriving DecidableEq, Repr, Inhabited

/-- What a function is declared to do without a body of its own. -/
inductive BodyForm where
  | plain
  | defaulted
  | deleted
  /-- Left to the structures that inherit it. -/
  | pure
deriving DecidableEq, Repr, Inhabited

/-- The words in front of and behind a declaration. -/
structure Specifiers where
  isTypedef : Bool := false
  isStatic : Bool := false
  isExtern : Bool := false
  isInline : Bool := false
  isVirtual : Bool := false
  isExplicit : Bool := false
  isFriend : Bool := false
  isConstexpr : Bool := false
  isMutable : Bool := false
  isOverride : Bool := false
  isFinal : Bool := false
  isNoexcept : Bool := false
  /-- The mark behind a member function that tells what it is called on. -/
  subjectMark : Octets := ""
  body : BodyForm := .plain
  /-- The language that the name is linked as. -/
  linkage : Option Octets := none
  /-- The name that the linker knows. -/
  label : Option Octets := none
  attributes : List Attribute := []
deriving Repr, Inhabited, BEq

/-- The words that a structure may be declared with. -/
inductive RecordKey where
  | struct
  | classKey
  | union
deriving DecidableEq, Repr, Inhabited

mutual

/-- A type as it is written. -/
inductive TypeExpr where
  | plain (type : ValueType)
  | named (name : Expr)
  /-- A structure or enumeration, by the word in front of its name; it may not be declared yet. -/
  | tagged (key : Octets) (name : Expr)
  | pointer (target : TypeExpr)
  | reference (target : TypeExpr)
  | movedReference (target : TypeExpr)
  | array (element : TypeExpr) (length : Expr)
  | function (result : TypeExpr) (parameters : List Statement) (isVariadic isConst : Bool)
  | memberPointer (owner : Expr) (target : TypeExpr)
  | const (type : TypeExpr)
  | automatic
  | ofExpression (expression : Expr) (isDeclared : Bool)
  /-- A type for each argument of a pack. -/
  | expansion (type : TypeExpr)

/-- An expression. -/
inductive Expr where
  | absent
  | type (type : TypeExpr)
  | integer (value : Nat) (type : ValueType)
  /-- A number with a fraction, by the bits of a double number. -/
  | real (bits : UInt64) (type : ValueType)
  | text (codes : List Nat) (element : ValueType)
  | nullPointer
  | boolean (value : Bool)
  | this
  /-- The scope outside of all others. -/
  | outermost
  | name (scope : Expr) (kind : NameKind) (text : Octets) (arguments : List Expr)
  | unary (operator : UnaryOperator) (operand : Expr)
  | step (isIncrement isPrefixed : Bool) (operand : Expr)
  | binary (operator : BinaryOperator) (left right : Expr)
  | assign (operator : Option BinaryOperator) (target value : Expr)
  /-- A choice; where the first alternative is absent, the condition takes its place. -/
  | choice (condition whenTrue whenFalse : Expr)
  | call (function : Expr) (arguments : List Expr)
  | index (array position : Expr)
  | member (object : Expr) (isArrow : Bool) (name : Expr)
  | cast (kind : CastKind) (type : TypeExpr) (operand : Expr)
  | construct (type : TypeExpr) (form : InitialForm) (arguments : List Expr)
  | size (operand : Expr) (isAlignment : Bool)
  | packSize (name : Octets)
  | create (place : List Expr) (type : TypeExpr) (initial : Expr)
  | delete (isArray : Bool) (operand : Expr)
  | throw (operand : Expr)
  /-- A function without a name: what it captures and its definition. -/
  | lambda (captures : List Expr) (definition : Statement) (isMutable : Bool)
  /-- Something that a function captures: a name, or everything, by value or by reference. -/
  | capture (name : Octets) (isReference : Bool) (initial : Expr)
  | initial (form : InitialForm) (items : List Expr)
  | fieldItem (name : Octets) (item : Expr)
  | positionItem (first last item : Expr)
  | block (body : Statement)
  | expansion (pattern : Expr)
  | fold (operator : BinaryOperator) (first pack : Expr) (isLeft : Bool)
  | typeInfo (operand : Expr)
  | noexcept (operand : Expr)
  | generic (operand : Expr) (cases : List Expr)
  | genericCase (type : TypeExpr) (value : Expr)
  | argument (list : Expr) (type : TypeExpr)
  | offset (type : TypeExpr) (member : Expr)
  | sameType (left right : TypeExpr)
  /-- A structure that another one inherits from. -/
  | base (access : Access) (isVirtual : Bool) (type : TypeExpr)
  | enumerator (name : Octets) (value : Expr)

/-- A statement or a declaration. -/
inductive Statement where
  | empty
  | expression (value : Expr)
  | block (body : List Statement)
  /-- Declarations without a scope of their own. -/
  | group (members : List Statement)
  | branch (isStatic : Bool) (condition whenTrue whenFalse : Statement)
  | loop (condition : Statement) (step : Expr) (body : Statement)
  | repeat (body : Statement) (condition : Expr)
  | forEach (item : Statement) (range : Expr) (body : Statement)
  | switch (condition : Statement) (body : Statement)
  | case (first last : Expr) (next : Statement)
  | otherwise (next : Statement)
  | leave
  | again
  | finish (value : Expr)
  | jump (label : Octets)
  | label (name : Octets) (next : Statement)
  | attempt (body : Statement) (handlers : List Statement)
  | handler (parameter body : Statement)
  /-- A variable, a member or a parameter; the width tells the bits of a member. -/
  | variable_ (name : Expr) (type : TypeExpr) (width initial : Expr) (specifiers : Specifiers)
  | function (name : Expr) (type : TypeExpr) (initializers : List Expr) (body : Statement)
      (specifiers : Specifiers)
  /-- Names for the parts of a value. -/
  | bindings (names : List Octets) (type : TypeExpr) (initial : Expr)
  | alias (name : Octets) (type : TypeExpr)
  | record (key : RecordKey) (name : Expr) (bases : List Expr) (members : List Statement)
      (specifiers : Specifiers)
  | enumeration (name : Expr) (isScoped isOpaque : Bool) (underlying : TypeExpr)
      (items : List Expr)
  | access (level : Access)
  | namespace (name : Octets) (isInline : Bool) (members : List Statement)
  | namespaceAlias (name : Octets) (target : Expr)
  | useNamespace (name : Expr)
  | use (name : Expr)
  | template (parameters : List Statement) (declaration : Statement)
  | instantiate (declaration : Statement)
  | typeParameter (name : Octets) (isPack : Bool) (standard : Expr)
  | templateParameter (name : Octets) (isPack : Bool) (standard : Expr)
  | assertion (condition : Expr)

end

instance : Inhabited TypeExpr := ⟨.automatic⟩
instance : Inhabited Expr := ⟨.absent⟩
instance : Inhabited Statement := ⟨.empty⟩

namespace Expr

/-- Whether there is no expression. -/
def isAbsent : Expr → Bool
  | absent => true
  | _ => false

/-- A name without a scope. -/
def plainName (text : Octets) : Expr := .name .absent .plain text []

/-- The last part of a name. -/
def lastName : Expr → Octets
  | name _ _ written _ => written
  | _ => ""

/-- The scope that a name is looked up in. -/
def scopeOf : Expr → Expr
  | name scope _ _ _ => scope
  | _ => .absent

end Expr

namespace Statement

/-- Whether there is nothing. -/
def isEmpty : Statement → Bool
  | empty => true
  | _ => false

end Statement

end QueryFoundry.Native
