import QueryFoundry.Toml.Reader

/-!
# Reading TOML documents

A document is a sequence of lines: entries, which go into the table that was opened last, and
headers, which open a table. A table takes its place in the document when the next one is opened.
-/

namespace QueryFoundry.Toml

open Reader

/-- A document while it is read: the tables that are complete, and the one that is open with the
keys that lead to it. -/
structure Draft where
  root : Table
  path : List Key
  isArrayItem : Bool
  current : Table
deriving Repr

namespace Draft

/-- A document of which nothing was read. Its outermost table is open. -/
def start : Draft :=
  { root := ⟨.header, none, []⟩
    path := []
    isArrayItem := false
    current := ⟨.header, some ⟨0, 0⟩, []⟩ }

/-- Let the stretch of a table reach to the end of a value. -/
def extendSpan (table : Table) (node : Node) : Table :=
  match table.span, node.span? with
  | some span, some added => { table with span := some ⟨span.start, added.stop⟩ }
  | _, _ => table

/-- Put an entry into the open table. -/
def putEntry (draft : Draft) (keys : List Key) (node : Node) : Option Draft := do
  let (path, key) ← splitKey keys
  let (_, current) ← Table.putDotted path key node (extendSpan draft.current node)
  return { draft with current }

/-- The stretch from the first of some tables to the last one. -/
def spanOfTables (items : List Node) : Option Span :=
  match items.head?.bind Node.span?, items.getLast?.bind Node.span? with
  | some first, some last => some ⟨first.start, last.stop⟩
  | _, _ => none

/-- Some tables of one double-bracketed header, with the stretch from the first to the last. -/
def tablesNode (items : List Node) : Node :=
  .tables (spanOfTables items) items

/-- Put a complete table under a key of its parent: behind the tables of the same double-bracketed
header, or as the only table of that name. -/
def settle (isArrayItem : Bool) (key : Key) (node : Node) : StateT Table Option Unit := do
  let parent ← get
  match parent.get? key.text, isArrayItem with
  | none, true => set (parent.push key (tablesNode [node]))
  | some (.tables _ items), true => set (parent.replace key.text (tablesNode (items ++ [node])))
  | none, false => set (parent.push key node)
  | _, _ => failure

/-- Give the open table its place in the document. -/
def close (draft : Draft) : Option Table :=
  match splitKey draft.path with
  | none => some draft.current
  | some (path, key) =>
      (Table.actAt false (settle draft.isArrayItem key draft.current.toNode) path draft.root).map
        Prod.snd

/-- Take what a table has already got out of its parent. A table that was only implied so far hands
over its entries; any other one is in the way. -/
def claimTable (key : Key) : StateT Table Option (List (Key × Node)) := do
  let parent ← get
  match parent.get? key.text with
  | none => return []
  | some (.table .implied _ entries) =>
      set (parent.erase key.text)
      return entries
  | some _ => failure

/-- Check that nothing but tables of the same double-bracketed header is under a key. -/
def admitTables (key : Key) : StateT Table Option (List (Key × Node)) := do
  match (← get).get? key.text with
  | none | some (.tables ..) => return []
  | some _ => failure

/-- Open the table of a header. -/
def openTable (draft : Draft) (isArrayItem : Bool) (keys : List Key) (span : Span) :
    Option Draft := do
  let complete ← draft.close
  let (path, key) ← splitKey keys
  let claim := if isArrayItem then admitTables key else claimTable key
  let (entries, root) ← Table.actAt false claim path complete
  return { root, path := keys, isArrayItem, current := ⟨.header, some span, entries⟩ }

end Draft

/-- A header: a key between single or double brackets. -/
def header : Reader (Bool × List Key) := do
  if ← sees "[[" then
    expect "[["
    let keys ← dottedKey
    expect "]]"
    return (true, keys)
  else
    expect "["
    let keys ← dottedKey
    expect "]"
    return (false, keys)

/-- An entry of a table on a line: a key and its value. -/
def entry (fuel : Nat) : Reader (List Key × Node) := do
  let keys ← dottedKey
  expect "="
  skipLineBlanks
  return (keys, ← value fuel 0)

/-- Read the lines of a document, given more fuel than there are characters. -/
def documentLines (fuel : Nat) : Nat → Draft → Reader Draft
  | 0, _ => failure
  | lines + 1, draft => do
      skipLineBlanks
      match ← peek? with
      | none => return draft
      | some '#' =>
          skipComment
          endOfLine
          documentLines fuel lines draft
      | some '
' | some '' =>
          lineFeed
          documentLines fuel lines draft
      | some '[' =>
          let ((isArrayItem, keys), span) ← spanned header
          lineTail
          match draft.openTable isArrayItem keys span with
          | some opened => documentLines fuel lines opened
          | none => failure
      | some _ =>
          let (keys, node) ← entry fuel
          lineTail
          match draft.putEntry keys node with
          | some extended => documentLines fuel lines extended
          | none => failure

/-- Read a document, if its text follows the grammar and defines nothing twice. A byte order mark in
front is passed over. -/
def parse? (text : String) : Option (List (Key × Node)) := do
  let characters := text.toList
  let begin : Cursor := match characters with
    | '﻿' :: rest => ⟨3, rest⟩
    | _ => ⟨0, characters⟩
  let fuel := 2 * characters.length + 2
  let (draft, _) ← documentLines fuel fuel Draft.start begin
  return (← draft.close).entries

end QueryFoundry.Toml
