import QueryFoundry.Config
import QueryFoundry.Toml.Document
import QueryFoundry.Toml.Snippet

/-!
# Reading a configuration

A configuration is a document with four sections. What a document leaves out keeps its default; a
key that is not known and a value of the wrong kind are faults, and the first fault in the order of
the document is reported. A section may also be written as a list of its fields in order.
-/

namespace QueryFoundry.Config

open Toml

/-- What is wrong with a value or a key. -/
inductive Reason where
  /-- A key that is none of the fields. -/
  | unknownField (name : String) (fields : List String)
  /-- A value of another kind than the expected one. -/
  | mismatch (found expected : String)
  /-- A negative number where a count is expected. -/
  | negative (value : Int)
deriving DecidableEq, Repr

/-- A list of fields in words. -/
def fieldsText (fields : List String) : String :=
  let quoted := fields.map fun field => "`" ++ field ++ "`"
  match quoted with
  | [] => "there are no fields"
  | [only] => "expected " ++ only
  | [first, second] => "expected " ++ first ++ " or " ++ second
  | _ => "expected one of " ++ ", ".intercalate quoted

/-- What is said about a fault. -/
def Reason.message : Reason → String
  | unknownField name fields => "unknown field `" ++ name ++ "`, " ++ fieldsText fields
  | mismatch found expected => "invalid type: " ++ found ++ ", expected " ++ expected
  | negative value => "invalid value: integer `" ++ toString value ++ "`, expected u64"

/-- A fault and the stretch of text that it is found in. -/
structure Fault where
  reason : Reason
  span : Option Span
deriving DecidableEq, Repr

/-- A fault that has no place yet takes the given one. -/
def Fault.placedAt (span : Option Span) (fault : Fault) : Fault :=
  { fault with span := fault.span <|> span }

/-- Read a value; a fault in it that has no place is found at the value. -/
def located {α : Type} (read : Node → Except Reason α) (node : Node) : Except Fault α :=
  (read node).mapError fun reason => ⟨reason, node.span?⟩

/-- A value of another kind than the expected one. -/
def wrongKind {α : Type} (node : Node) (expected : String) : Except Reason α :=
  .error (.mismatch node.describe expected)

/-- Read a text that is expected under some name. -/
def readTextAs (expected : String) : Node → Except Reason String
  | .text _ value => .ok value
  | node => wrongKind node expected

/-- Read a text. -/
def readText : Node → Except Fault String :=
  located (readTextAs "a string")

/-- Read a path. -/
def readPath : Node → Except Fault Path :=
  located (readTextAs "path string")

/-- Read a truth value. -/
def readBool : Node → Except Fault Bool :=
  located fun
    | .boolean _ value => .ok value
    | node => wrongKind node "a boolean"

/-- Read a count that fits into 64 bits. Whole numbers of a document are less than half as great. -/
def readCount : Node → Except Fault UInt64 :=
  located fun
    | .integer _ value =>
        if value < 0 then .error (.negative value) else .ok (UInt64.ofNat value.toNat)
    | node => wrongKind node "u64"

/-- Read a list of texts. -/
def readTexts (node : Node) : Except Fault (List String) :=
  match node with
  | .array _ items | .tables _ items =>
      (items.mapM readText).mapError (Fault.placedAt node.span?)
  | _ => located (wrongKind · "a sequence") node

/-- The name under which a date is taken for a table with one key. -/
def datetimeField : String := "$__toml_private_datetime"

/-- How the fields of a section are read: one field at a time is put into what was read so far. -/
structure SectionReader (σ : Type) where
  /-- What the section is called where another value is found. -/
  title : String
  fields : List String
  put : σ → String → Node → Except Fault σ

/-- The fault of a key that is none of the fields of a section. -/
def SectionReader.unknown {σ : Type} (reader : SectionReader σ) (name : String) : Reason :=
  .unknownField name reader.fields

/-- Read one entry of a section. The key must be one of the fields. -/
def SectionReader.readEntry {σ : Type} (reader : SectionReader σ) (state : σ)
    (entry : Key × Node) : Except Fault σ :=
  if reader.fields.contains entry.1.text then
    (reader.put state entry.1.text entry.2).mapError (Fault.placedAt entry.1.span)
  else .error ⟨reader.unknown entry.1.text, entry.1.span⟩

/-- Read a section: a table of its fields, or a list of them in order. -/
def SectionReader.read {σ : Type} (reader : SectionReader σ) (default : σ) (node : Node) :
    Except Fault σ :=
  match node with
  | .table _ _ entries =>
      (entries.foldlM reader.readEntry default).mapError (Fault.placedAt node.span?)
  | .array _ items | .tables _ items =>
      ((reader.fields.zip items).foldlM (fun state (field, item) => reader.put state field item)
        default).mapError (Fault.placedAt node.span?)
  | .datetime span => .error ⟨reader.unknown datetimeField, span⟩
  | _ => located (wrongKind · ("struct " ++ reader.title)) node

/-- The section of the engine's directories. -/
def pathsReader : SectionReader PathsConfig where
  title := "PathsConfig"
  fields := ["engine_dir", "generated_dir", "artifact_dir"]
  put config field node := do
    match field with
    | "engine_dir" => return { config with engineDir := ← readPath node }
    | "generated_dir" => return { config with generatedDir := ← readPath node }
    | _ => return { config with artifactDir := some (← readPath node) }

/-- The section of the formatter. -/
def formatReader : SectionReader FormatConfig where
  title := "FormatConfig"
  fields := ["enabled", "program", "style", "timeout_secs"]
  put config field node := do
    match field with
    | "enabled" => return { config with enabled := ← readBool node }
    | "program" => return { config with program := ← readText node }
    | "style" => return { config with style := ← readText node }
    | _ => return { config with timeoutSeconds := some (← readCount node) }

/-- The section of the build tool. -/
def buildReader : SectionReader BuildConfig where
  title := "BuildConfig"
  fields := ["program", "args", "timeout_secs"]
  put config field node := do
    match field with
    | "program" => return { config with program := ← readText node }
    | "args" => return { config with arguments := ← readTexts node }
    | _ => return { config with timeoutSeconds := some (← readCount node) }

/-- The section of the compiled modules. -/
def executeReader : SectionReader ExecuteConfig where
  title := "ExecuteConfig"
  fields := ["library_prefix", "init_symbol_prefix"]
  put config field node := do
    match field with
    | "library_prefix" => return { config with libraryStart := ← readText node }
    | _ => return { config with initSymbolStart := ← readText node }

/-- The whole configuration. -/
def documentReader : SectionReader Config where
  title := "PipelineConfig"
  fields := ["paths", "format", "build", "execute"]
  put config field node := do
    match field with
    | "paths" => return { config with paths := ← pathsReader.read {} node }
    | "format" => return { config with format := ← formatReader.read {} node }
    | "build" => return { config with build := ← buildReader.read {} node }
    | _ => return { config with execute := ← executeReader.read {} node }

/-- The configuration that the entries of a document describe. -/
def decode (entries : List (Key × Node)) : Except Fault Config :=
  entries.foldlM documentReader.readEntry {}

/-- Why a text is no configuration. -/
inductive TextError where
  /-- The text is no document. -/
  | malformed
  /-- The document holds something that a configuration does not. -/
  | fault (message : String)
deriving DecidableEq, Repr

/-- What is said about a text that is no configuration. Where the text is no document, its reader
tells what it expected and in which line; that is left out, and the start of it stands for all. -/
def TextError.message : TextError → String
  | malformed => "TOML parse error\n"
  | fault message => message

/-- What is said about a fault in a text. -/
def Fault.message (text : String) (fault : Fault) : String :=
  match fault.span with
  | some span => renderSnippet text span fault.reason.message
  | none => fault.reason.message ++ "\n"

/-- Read a configuration from the text of a document. -/
def parse (text : String) : Except TextError Config :=
  match Toml.parse? text with
  | none => .error .malformed
  | some entries => (decode entries).mapError fun fault => .fault (fault.message text)

end QueryFoundry.Config
