import Mathlib.Logic.Function.Basic
import QueryFoundry.Config.Decode

/-!
# Settings by name

A configuration seen as a table: the setting of each field under the name of its section and its own
name, and the setting that a value of a document stands for. The schema lists the sections with
their fields and the kind of setting that each takes.
-/

namespace QueryFoundry.Config

open Toml

/-- What a field of a configuration holds. -/
inductive Setting where
  /-- Nothing; no value of a document stands for it. -/
  | absent
  | text (value : String)
  | truth (value : Bool)
  | count (value : Nat)
  | texts (values : List String)
deriving DecidableEq, Repr

/-- The kinds of settings that fields take from a document. -/
inductive Kind where
  | text
  | truth
  | count
  | texts
deriving DecidableEq, Repr

def textOf? : Node → Option String
  | .text _ value => some value
  | _ => none

/-- The setting that a value of a document stands for in a field of a kind. -/
def Kind.read? : Kind → Node → Option Setting
  | text, .text _ value => some (.text value)
  | truth, .boolean _ value => some (.truth value)
  | count, .integer _ value => if 0 ≤ value then some (.count value.toNat) else none
  | texts, .array _ items | texts, .tables _ items => (items.mapM textOf?).map .texts
  | _, _ => none

/-- The sections with their fields. -/
def schema : List (String × List (String × Kind)) :=
  [("paths", [("engine_dir", .text), ("generated_dir", .text), ("artifact_dir", .text)]),
    ("format",
      [("enabled", .truth), ("program", .text), ("style", .text), ("timeout_secs", .count)]),
    ("build", [("program", .text), ("args", .texts), ("timeout_secs", .count)]),
    ("execute", [("library_prefix", .text), ("init_symbol_prefix", .text)])]

def kind? (heading field : String) : Option Kind :=
  (schema.lookup heading).bind fun fields => fields.lookup field

/-- The setting of a field that may hold nothing. -/
def optional {α : Type} (toSetting : α → Setting) (value : Option α) : Setting :=
  (value.map toSetting).getD .absent

def pathsSetting (config : PathsConfig) : String → Setting
  | "engine_dir" => .text config.engineDir
  | "generated_dir" => .text config.generatedDir
  | "artifact_dir" => optional .text config.artifactDir
  | _ => .absent

def formatSetting (config : FormatConfig) : String → Setting
  | "enabled" => .truth config.enabled
  | "program" => .text config.program
  | "style" => .text config.style
  | "timeout_secs" => optional (fun seconds => .count seconds.toNat) config.timeoutSeconds
  | _ => .absent

def buildSetting (config : BuildConfig) : String → Setting
  | "program" => .text config.program
  | "args" => .texts config.arguments
  | "timeout_secs" => optional (fun seconds => .count seconds.toNat) config.timeoutSeconds
  | _ => .absent

def executeSetting (config : ExecuteConfig) : String → Setting
  | "library_prefix" => .text config.libraryStart
  | "init_symbol_prefix" => .text config.initSymbolStart
  | _ => .absent

/-- The setting of a field of a section. -/
def setting (config : Config) : String → String → Setting
  | "paths" => pathsSetting config.paths
  | "format" => formatSetting config.format
  | "build" => buildSetting config.build
  | "execute" => executeSetting config.execute
  | _ => fun _ => .absent

theorem optional_injective {α : Type} {toSetting : α → Setting}
    (injective : Function.Injective toSetting) (present : ∀ value, toSetting value ≠ .absent) :
    Function.Injective (optional toSetting) := by
  rintro (_ | first) (_ | second) same
  · rfl
  · exact absurd same.symm (present second)
  · exact absurd same (present first)
  · exact congrArg some (injective same)

theorem optional_text_injective : Function.Injective (optional Setting.text) :=
  optional_injective (fun _ _ => Setting.text.inj) fun _ => Setting.noConfusion

theorem optional_count_injective :
    Function.Injective (optional fun seconds : UInt64 => Setting.count seconds.toNat) :=
  optional_injective (fun _ _ same => UInt64.toNat_inj.mp (Setting.count.inj same))
    fun _ => Setting.noConfusion

/-- A configuration is known from the settings of its fields. -/
theorem ext_setting {first second : Config}
    (same : ∀ heading field kind, kind? heading field = some kind →
      first.setting heading field = second.setting heading field) : first = second := by
  obtain ⟨⟨_, _, _⟩, ⟨_, _, _, _⟩, ⟨_, _, _⟩, ⟨_, _⟩⟩ := first
  obtain ⟨⟨_, _, _⟩, ⟨_, _, _, _⟩, ⟨_, _, _⟩, ⟨_, _⟩⟩ := second
  obtain rfl := Setting.text.inj (same "paths" "engine_dir" .text rfl)
  obtain rfl := Setting.text.inj (same "paths" "generated_dir" .text rfl)
  obtain rfl := optional_text_injective (same "paths" "artifact_dir" .text rfl)
  obtain rfl := Setting.truth.inj (same "format" "enabled" .truth rfl)
  obtain rfl := Setting.text.inj (same "format" "program" .text rfl)
  obtain rfl := Setting.text.inj (same "format" "style" .text rfl)
  obtain rfl := optional_count_injective (same "format" "timeout_secs" .count rfl)
  obtain rfl := Setting.text.inj (same "build" "program" .text rfl)
  obtain rfl := Setting.texts.inj (same "build" "args" .texts rfl)
  obtain rfl := optional_count_injective (same "build" "timeout_secs" .count rfl)
  obtain rfl := Setting.text.inj (same "execute" "library_prefix" .text rfl)
  obtain rfl := Setting.text.inj (same "execute" "init_symbol_prefix" .text rfl)
  rfl

end QueryFoundry.Config
