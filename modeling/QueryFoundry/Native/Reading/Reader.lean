import QueryFoundry.Native.Syntax
import QueryFoundry.Native.Token
import Std.Data.HashMap

/-!
# Reading sources

The tokens that are left to be read, and the names that are known so far. What a source means
depends on which of its names are types, so each scope keeps what its names are known to be.
-/

namespace QueryFoundry.Native

open Text (Octets)

/-- What a name is known to be. -/
inductive Meaning where
  | value
  /-- A type, with the scope of its members. -/
  | type (scope : Option Nat)
  /-- A template of types, with the scope of their members. -/
  | typeTemplate (scope : Option Nat)
  | valueTemplate
  | namespace (scope : Nat)
deriving DecidableEq, Repr, Inhabited

/-- The names that are declared in one place. -/
structure NameScope where
  /-- The name of the structure whose members these are. -/
  owner : Option Octets := none
  /-- Whether the names are the parameters of a template. -/
  isTemplate : Bool := false
  names : Std.HashMap Octets Meaning := {}
  /-- The scopes whose names are known here, too. -/
  others : List Nat := []
deriving Inhabited

/-- Why a source cannot be read. -/
structure ReadingError where
  /-- The token that does not fit; there is none at the end of the source. -/
  token : Option Token
  expected : Octets
deriving Repr, Inhabited

/-- The state of the reading of a source. -/
structure Reader where
  language : Language
  tokens : List Token
  /-- A bound on the number of parts of anything in the source. -/
  limit : Nat
  scopes : Array NameScope := #[{}]
  /-- The present scopes, the innermost one first. -/
  present : List Nat := [0]
  /-- The definitions of types inside of the present declaration. -/
  hoisted : List Statement := []
  /-- The number of the next structure without a name. -/
  unnamed : Nat := 0
  /-- Whether the bodies of functions are passed over. -/
  isSurvey : Bool := false
  /-- Whether a mark that closes the arguments of a template may not be read as a comparison. -/
  closesAtGreater : Bool := false
deriving Inhabited

/-- A part of the reading of a source. -/
abbrev Read (α : Type) := StateT Reader (Except ReadingError) α

namespace Read

/-- Give up, because something else was expected. -/
def fail {α : Type} (expected : Octets) : Read α := do
  throw { token := (← get).tokens.head?, expected }

/-- The next token. -/
def peek? : Read (Option Token) := do
  return (← get).tokens.head?

/-- The token behind some others. -/
def peekBehind? (count : Nat) : Read (Option Token) := do
  return (← get).tokens[count]?

/-- Pass over the next token. -/
def advance : Read Unit :=
  modify fun reader => { reader with tokens := reader.tokens.drop 1 }

/-- Whether the next token is a certain mark. -/
def seesMark (symbol : Octets) : Read Bool := do
  return (← get).tokens.head?.any fun token => token.isMark symbol

/-- Whether the next token is a certain word. -/
def seesWord (name : Octets) : Read Bool := do
  return (← get).tokens.head?.any fun token => token.isWord name

/-- Pass over a mark, if it comes next. -/
def takesMark (symbol : Octets) : Read Bool := do
  if ← seesMark symbol then
    advance
    return true
  else return false

/-- Pass over a word, if it comes next. -/
def takesWord (name : Octets) : Read Bool := do
  if ← seesWord name then
    advance
    return true
  else return false

/-- Pass over a mark that must come next. -/
def expectMark (symbol : Octets) : Read Unit := do
  if !(← takesMark symbol) then fail symbol

/-- Pass over a word that must come next. -/
def expectWord (name : Octets) : Read Unit := do
  if !(← takesWord name) then fail name

/-- Pass over the mark that closes the arguments of a template; it may be the start of a longer
one. -/
def expectGreater : Read Unit := do
  match (← get).tokens with
  | token :: rest =>
      if token.kind == .mark && token.spelling.startsWith ">" then
        let left := String.ofList (token.spelling.toList.drop 1)
        modify fun reader => { reader with
          tokens := if left.isEmpty then rest else { token with spelling := left } :: rest }
      else fail ">"
  | [] => fail ">"

/-- Read something; if that fails, nothing has been read. -/
def attempt? {α : Type} (action : Read α) : Read (Option α) := fun reader =>
  match action reader with
  | .ok (value, after) => .ok (some value, after)
  | .error _ => .ok (none, reader)

/-- Read something without passing over it. -/
def ahead? {α : Type} (action : Read α) : Read (Option α) := fun reader =>
  match action reader with
  | .ok (value, _) => .ok (some value, reader)
  | .error _ => .ok (none, reader)

/-- Read in a setting that ends where the reading ends. -/
def setting {α β : Type} (current : Reader → β) (restore : β → Reader → Reader)
    (change : Reader → Reader) (action : Read α) : Read α := do
  let outer := current (← get)
  modify change
  let result ← action
  modify (restore outer)
  return result

/-- Read between parentheses, where comparisons are read as usual. -/
def inside {α : Type} (action : Read α) : Read α :=
  setting (·.closesAtGreater) (fun outer reader => { reader with closesAtGreater := outer })
    (fun reader => { reader with closesAtGreater := false }) action

/-- Read the arguments of a template. -/
def insideAngles {α : Type} (action : Read α) : Read α :=
  setting (·.closesAtGreater) (fun outer reader => { reader with closesAtGreater := outer })
    (fun reader => { reader with closesAtGreater := true }) action

/-- Read several items that are separated by commas; the bound is on their number. -/
def separated {α : Type} (item : Read α) : Nat → Read (List α)
  | 0 => fail "end of list"
  | fuel + 1 => do
      let first ← item
      if ← takesMark "," then return first :: (← separated item fuel)
      else return [first]

/-- A bound on the number of parts of anything in the source. -/
def partLimit : Read Nat := do
  return (← get).limit

/-- Read items that are separated by commas up to a closing mark; there may be none. -/
def enclosed {α : Type} (item : Read α) (close : Octets) : Read (List α) := do
  if ← takesMark close then return []
  else
    let items ← separated item (← partLimit)
    expectMark close
    return items

/-- Pass over tokens up to the mark that closes what was opened before. -/
def skipGroup : Nat → Nat → Read Unit
  | 0, _ => fail "end of group"
  | fuel + 1, depth => do
      match ← peek? with
      | none => fail "end of group"
      | some token =>
          advance
          if token.kind == .mark then
            if ["(", "[", "\x7b"].contains token.spelling then skipGroup fuel (depth + 1)
            else if [")", "]", "\x7d"].contains token.spelling then
              if depth == 0 then pure () else skipGroup fuel (depth - 1)
            else skipGroup fuel depth
          else skipGroup fuel depth

/-! ## Names -/

/-- Whether the source is written in C++. -/
def isCpp : Read Bool := do
  return (← get).language == .cpp

/-- The words of both languages that are no names. -/
def commonKeywords : List Octets :=
  ["auto", "break", "case", "char", "const", "continue", "default", "do", "double", "else", "enum",
    "extern", "float", "for", "goto", "if", "inline", "int", "long", "register", "return", "short",
    "signed", "sizeof", "static", "struct", "switch", "typedef", "union", "unsigned", "void",
    "volatile", "while", "__attribute__", "__asm__", "__extension__", "__typeof__", "__inline",
    "__inline__", "__restrict", "__restrict__", "__const", "__volatile__", "__signed__",
    "__alignof__", "__builtin_va_arg", "__builtin_offsetof", "__builtin_types_compatible_p",
    "__thread", "asm", "typeof"]

/-- The words of C that are no names. -/
def cKeywords : List Octets :=
  ["restrict", "_Bool", "_Alignas", "_Alignof", "_Generic", "_Noreturn", "_Static_assert",
    "_Thread_local", "_Atomic"]

/-- The words of C++ that are no names. -/
def cppKeywords : List Octets :=
  ["alignas", "alignof", "bool", "catch", "char16_t", "char32_t", "class", "const_cast",
    "constexpr", "decltype", "delete", "dynamic_cast", "explicit", "export", "false", "friend",
    "mutable", "namespace", "new", "noexcept", "nullptr", "operator", "private", "protected",
    "public", "reinterpret_cast", "static_assert", "static_cast", "template", "this",
    "thread_local", "throw", "true", "try", "typeid", "typename", "using", "virtual", "wchar_t"]

/-- Whether a token is a name. -/
def isName (language : Language) (token : Token) : Bool :=
  token.kind == .word && !commonKeywords.contains token.spelling &&
    !(match language with
      | .c => cKeywords.contains token.spelling
      | .cpp => cppKeywords.contains token.spelling)

/-- The name that comes next, if one does. -/
def peekName? : Read (Option Octets) := do
  let reader ← get
  return (reader.tokens.head?.filter (isName reader.language)).map (·.spelling)

/-- Read a name. -/
def name : Read Octets := do
  match ← peekName? with
  | some found =>
      advance
      return found
  | none => fail "name"

/-- How deeply scopes may refer to each other. -/
def scopeDepth : Nat := 16

/-- What a name means among the members of a scope. -/
def meaningIn (reader : Reader) (text : Octets) : Nat → Nat → Option Meaning
  | 0, _ => none
  | depth + 1, id =>
      match reader.scopes[id]? with
      | none => none
      | some scope =>
          match scope.names[text]? with
          | some meaning => some meaning
          | none => scope.others.findSome? (meaningIn reader text depth)

/-- What a name means in the present scopes. -/
def meaning? (text : Octets) : Read (Option Meaning) := do
  let reader ← get
  return reader.present.findSome? (meaningIn reader text scopeDepth)

/-- What a name means in a scope. -/
def memberMeaning? (scope : Nat) (text : Octets) : Read (Option Meaning) := do
  return meaningIn (← get) text scopeDepth scope

/-- Change a scope. -/
def changeScope (id : Nat) (change : NameScope → NameScope) : Read Unit :=
  modify fun reader => { reader with scopes := reader.scopes.modify id change }

/-- The scope that declarations belong to. -/
def declaringScope : Read Nat := do
  let reader ← get
  let isOwn (id : Nat) : Bool := (reader.scopes[id]?).any fun scope => !scope.isTemplate
  return (reader.present.find? isOwn).getD 0

/-- Whether the present declaration is that of a template. -/
def isTemplate : Read Bool := do
  let reader ← get
  return (reader.present.head?.bind (reader.scopes[·]?)).any (·.isTemplate)

/-- Whether the present place lies inside of a template. -/
def isInsideTemplate : Read Bool := do
  let reader ← get
  return reader.present.any fun id => (reader.scopes[id]?).any (·.isTemplate)

/-- Let a name be known in the scope that declarations belong to. -/
def declare (text : Octets) (meaning : Meaning) : Read Unit := do
  if !text.isEmpty then
    changeScope (← declaringScope) fun scope =>
      { scope with names := scope.names.insert text meaning }

/-- Let a name be known in the innermost scope. -/
def declareHere (text : Octets) (meaning : Meaning) : Read Unit := do
  if !text.isEmpty then
    changeScope ((← get).present.headD 0) fun scope =>
      { scope with names := scope.names.insert text meaning }

/-- Add a scope. -/
def addScope (scope : NameScope) : Read Nat := do
  let id := (← get).scopes.size
  modify fun reader => { reader with scopes := reader.scopes.push scope }
  return id

/-- Read in a scope. -/
def inScope {α : Type} (id : Nat) (action : Read α) : Read α :=
  setting (·.present) (fun outer reader => { reader with present := outer })
    (fun reader => { reader with present := id :: reader.present }) action

/-- Read in a new scope. -/
def inNewScope {α : Type} (action : Read α) : Read α := do
  inScope (← addScope {}) action

/-- A name for a structure that has none. -/
def unnamed : Read Octets := do
  let number := (← get).unnamed
  modify fun reader => { reader with unnamed := number + 1 }
  return "<" ++ toString number ++ ">"

/-- Keep the definition of a type for the declaration that it stands in. -/
def hoist (definition : Statement) : Read Unit :=
  modify fun reader => { reader with hoisted := definition :: reader.hoisted }

/-- Read declarations, with the definitions of types that stand in them put in front. -/
def withHoisted (action : Read Statement) : Read Statement := do
  let outer := (← get).hoisted
  modify fun reader => { reader with hoisted := [] }
  let declaration ← action
  let definitions := (← get).hoisted.reverse
  modify fun reader => { reader with hoisted := outer }
  match definitions, declaration with
  | [], _ => return declaration
  | [definition], .empty => return definition
  | _, _ => return .group (definitions ++ [declaration])

end Read

/-- The readers of the parts of a source that occur inside of each other. -/
structure Grammar where
  /-- A type without a name. -/
  typeName : Read TypeExpr
  /-- A type in which only pointers and references follow the words. -/
  shortTypeName : Read TypeExpr
  /-- An expression that may hold commas. -/
  expression : Read Expr
  /-- An expression without commas. -/
  assignment : Read Expr
  /-- An initial value: an expression or values between braces. -/
  initial : Read Expr
  statement : Read Statement
  /-- Statements between braces. -/
  block : Read Statement
  /-- A declaration inside or outside of functions. -/
  declaration : Read Statement
  /-- A declaration inside of a structure. -/
  member : Read Statement
  /-- A structure or an enumeration, which may be defined there. -/
  definedType : Read TypeExpr

end QueryFoundry.Native
