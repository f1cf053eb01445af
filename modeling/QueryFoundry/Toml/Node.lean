import QueryFoundry.Decimal.Shortest
import QueryFoundry.Text.Quoted

/-!
# TOML documents as trees

The values and tables of a TOML document, each with the stretch of text that it was written in. A
table remembers how it came about, because that decides what may be added to it later.
-/

namespace QueryFoundry.Toml

/-- A stretch of a text, in bytes from its start. -/
structure Span where
  start : Nat
  stop : Nat
deriving DecidableEq, Repr

/-- A key with the stretch that it was written in. -/
structure Key where
  text : String
  span : Span
deriving DecidableEq, Repr

/-- How a table came about. -/
inductive TableForm where
  /-- By a header of its own, or as the whole document. -/
  | header
  /-- By a header of a table below it. -/
  | implied
  /-- By a dotted key. -/
  | dotted
  /-- As a value between braces. -/
  | inline
deriving DecidableEq, Repr

/-- A value or a table of a document. Tables that no text stands for have no span. -/
inductive Node where
  | text (span : Span) (value : String)
  | integer (span : Span) (value : Int)
  | float (span : Span) (value : Binary64)
  | boolean (span : Span) (value : Bool)
  | datetime (span : Span)
  /-- An array between brackets. -/
  | array (span : Span) (items : List Node)
  /-- The tables of one double-bracketed header. -/
  | tables (span : Option Span) (items : List Node)
  | table (form : TableForm) (span : Option Span) (entries : List (Key × Node))
deriving Repr, Inhabited

namespace Node

/-- The stretch that a node was written in. -/
def span? : Node → Option Span
  | text span _ | integer span _ | float span _ | boolean span _ | datetime span
  | array span _ => some span
  | tables span _ | table _ span _ => span

/-- What kind of thing a node is, in words, with the value itself where it is short. -/
def describe : Node → String
  | text _ value => "string " ++ Text.quote value
  | integer _ value => "integer `" ++ toString value ++ "`"
  | float _ value => "floating point `" ++ value.displayWithPoint ++ "`"
  | boolean _ value => "boolean `" ++ toString value ++ "`"
  | array .. | tables .. => "sequence"
  | datetime _ | table .. => "map"

end Node

/-- A table while it is filled. -/
structure Table where
  form : TableForm
  span : Option Span
  entries : List (Key × Node)
deriving Repr

namespace Table

/-- A table without entries that no text stands for. -/
def empty (form : TableForm) : Table := ⟨form, none, []⟩

/-- The table as a node. -/
def toNode (table : Table) : Node :=
  .table table.form table.span table.entries

/-- The value under a key. -/
def get? (table : Table) (key : String) : Option Node :=
  (table.entries.find? fun entry => entry.1.text == key).map Prod.snd

/-- Add a value under a key that is not in use. -/
def push (table : Table) (key : Key) (node : Node) : Table :=
  { table with entries := table.entries ++ [(key, node)] }

/-- Put another value in the place of the one under a key. -/
def replace (table : Table) (key : String) (node : Node) : Table :=
  { table with
    entries := table.entries.map fun entry =>
      if entry.1.text == key then (entry.1, node) else entry }

/-- Take a key out of the table. -/
def erase (table : Table) (key : String) : Table :=
  { table with entries := table.entries.filter fun entry => entry.1.text != key }

end Table

end QueryFoundry.Toml
