import QueryFoundry.Text.Blank

/-!
# Query shapes and their bridges

A bridge is the C++ text that exposes one native query as a loadable module. It exports a single
symbol, the module's init function, which returns a table of four operations: run the query, count
its rows, fetch a value, release it. A query shape says which query type the bridge is for, and with
which native types, each of which has its spelling in C++ and the spellings that are read.
-/

namespace QueryFoundry

/-- The native type of a query attribute or annotation. -/
inductive ElementType where
  | int
  | long
  | uint32
  | uint64
  | float
  | double
deriving DecidableEq, Repr

namespace ElementType

/-- The spelling of the type in C++. -/
def cppName : ElementType → String
  | int => "int"
  | long => "long"
  | uint32 => "uint32_t"
  | uint64 => "uint64_t"
  | float => "float"
  | double => "double"

instance : ToString ElementType := ⟨cppName⟩

/-- The type with a given exact spelling; the fixed-width types have a short spelling too. -/
def ofSpelling? : String → Option ElementType
  | "int" => some int
  | "long" => some long
  | "uint32_t" | "u32" => some uint32
  | "uint64_t" | "u64" => some uint64
  | "float" => some float
  | "double" => some double
  | _ => none

/-- A text that spells no element type, without the blanks around it. -/
structure Unknown where
  spelling : String
deriving DecidableEq, Repr

/-- What is said about a text that spells no element type. -/
def Unknown.message (unknown : Unknown) : String :=
  "unknown element type '" ++ unknown.spelling ++
    "' (expected int, long, uint32_t, uint64_t, float or double)"

/-- Read an element type, ignoring blanks around it. -/
def parse (text : String) : Except Unknown ElementType :=
  match ofSpelling? (Text.trim text) with
  | some type => .ok type
  | none => .error ⟨Text.trim text⟩

end ElementType

/-- The version that every generated module table carries. -/
def bridgeAbiVersion : UInt32 := 1

/-- The start of the name of every generated init function; the module name follows it. -/
def initSymbolStart : String := "querygen_init_"

/-- The name of the init function that the bridge for a module exports. -/
def initSymbol (name : String) : String :=
  initSymbolStart ++ name

/-- What the fetch operation of a module returns. -/
inductive FetchMode where
  /-- A constant. -/
  | placeholder (value : Int64)
  /-- A numeric member of the query object. -/
  | member (name : String)
deriving DecidableEq, Repr

/-- The native query type that a bridge is made for. -/
structure QueryShape where
  /-- The name of the class template. -/
  queryType : String := "Query"
  /-- The attribute types, in the order of the template's arguments. -/
  keys : List ElementType := [.long, .long]
  /-- The annotation type, always the last argument. -/
  annotation : ElementType := .long
  fetch : FetchMode := .placeholder 2
deriving DecidableEq, Repr

namespace QueryShape

/-- The template arguments: the keys in order, then the annotation. -/
def arguments (shape : QueryShape) : List ElementType :=
  shape.keys ++ [shape.annotation]

/-- The full C++ type, such as `Query<long, long, long>`. -/
def cppType (shape : QueryShape) : String :=
  shape.queryType ++ "<" ++ ", ".intercalate (shape.arguments.map ElementType.cppName) ++ ">"

/-- The C++ expression for a placeholder value: its decimal digits as a literal of type `long`. -/
def placeholderExpression (value : Int64) : String :=
  toString value.toInt ++ "L"

/-- The two lines of the fetch operation's body. -/
def fetchBody : FetchMode → List String
  | .placeholder value => ["  (void)handle;", "  return " ++ placeholderExpression value ++ ";"]
  | .member name =>
      ["  query_t *q = static_cast<query_t *>(handle);",
        "  return static_cast<long>(q->" ++ name ++ ");"]

/-- The declaration of the module table's type, guarded against a second inclusion. -/
def tableDeclaration : List String :=
  ["#ifndef QUERYGEN_MODULE_DEFINED",
    "#define QUERYGEN_MODULE_DEFINED",
    "extern \"C\" \x7b",
    "typedef struct querygen_module \x7b",
    "  uint32_t abi_version;",
    "  void *(*run)(void);",
    "  long (*num_rows)(void *);",
    "  long (*fetch_data)(void *);",
    "  void (*release)(void *);",
    "\x7d querygen_module;",
    "\x7d",
    "#endif"]

/-- The run operation; no exception leaves it. -/
def runOperation : List String :=
  ["void *run(void) \x7b",
    "  try \x7b",
    "    query_t *q = new query_t();",
    "    q->run();",
    "    return q;",
    "  \x7d catch (...) \x7b",
    "    return nullptr;",
    "  \x7d",
    "\x7d"]

/-- The operation that counts the rows of a result. -/
def rowCountOperation : List String :=
  ["long num_rows(void *handle) \x7b",
    "  query_t *q = static_cast<query_t *>(handle);",
    "  return static_cast<long>(q->num_rows);",
    "\x7d"]

/-- The lines in front of the text that depends on the shape's type. -/
def headLines (shape : QueryShape) (name : String) : List String :=
  ["// Generated by querygen. Do not edit.",
    "// Bridge for module " ++ name ++ ": " ++ shape.cppType,
    "",
    "#include <stdint.h>",
    "#include \"querywrapper.hpp\"",
    ""]

/-- The line that defines the init function, the only exported symbol. -/
def initLine (name : String) : String :=
  "extern \"C\" const querygen_module *" ++ initSymbol name ++
    "(void) \x7b return &module_table; \x7d"

/-- The line that defines the module table. -/
def tableLine : String :=
  "const querygen_module module_table = \x7b" ++ toString bridgeAbiVersion.toNat ++
    ", run, num_rows, fetch_data, release\x7d;"

/-- The lines of the bridge for a module. -/
def lines (shape : QueryShape) (name : String) : List String :=
  headLines shape name ++ tableDeclaration ++
    ["", "namespace \x7b", "", "typedef " ++ shape.cppType ++ " query_t;", ""] ++
    runOperation ++ [""] ++ rowCountOperation ++
    ["", "long fetch_data(void *handle) \x7b"] ++ fetchBody shape.fetch ++
    ["\x7d", "",
      "void release(void *handle) \x7b delete static_cast<query_t *>(handle); \x7d", "",
      tableLine, "",
      "\x7d // namespace", "",
      initLine name]

/-- The text of the bridge for a module: its lines, each of them ended by a line feed. -/
def render (shape : QueryShape) (name : String) : String :=
  String.join ((shape.lines name).map (· ++ "\n"))

end QueryShape

/-- The bridge for a module over the default query shape. -/
def bridgeSource (name : String) : String :=
  QueryShape.render {} name

end QueryFoundry
