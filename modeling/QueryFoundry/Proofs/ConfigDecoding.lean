import Mathlib.Tactic.ByContra
import QueryFoundry.Proofs.DocumentForm
import QueryFoundry.Proofs.Settings

/-!
# What a document says of a configuration

A document is a configuration when each of its keys is known and each value is of the kind that its
field takes, and it then sets the fields that it names and no others. Sections and the document as a
whole are read by the same fold over their entries: each entry changes what is seen under its own
name and nothing else, so with distinct keys the order of the entries does not matter.
-/

namespace QueryFoundry.Config

open Toml

variable {σ ν α : Type}

def valueAt? (entries : List (Key × Node)) (name : String) : Option Node :=
  (entries.find? fun entry => entry.1.text == name).map Prod.snd

def entriesOf : Node → List (Key × Node)
  | .table _ _ entries => entries
  | _ => []

def fieldAt? (entries : List (Key × Node)) (heading field : String) : Option Node :=
  (valueAt? entries heading).bind fun node => valueAt? (entriesOf node) field

/-- The setting that a value stands for in a field of a section, where the section has the field and
the value is of its kind. -/
def settingOf? (heading field : String) (node : Node) : Option Setting :=
  (kind? heading field).bind fun kind => kind.read? node

/-- Each section that is there is written as a table. -/
def HasTables (entries : List (Key × Node)) : Prop :=
  ∀ entry ∈ entries, (schema.lookup entry.1.text).isSome →
    ∃ form span fields, entry.2 = .table form span fields

/-- Each key is that of a section, or of a field in the section that has this field, and the value
of each field is of the kind that the field takes. -/
def Valid (entries : List (Key × Node)) : Prop :=
  ∀ entry ∈ entries, (schema.lookup entry.1.text).isSome ∧
    ∀ field ∈ entriesOf entry.2, (settingOf? entry.1.text field.1.text field.2).isSome

/-- A configuration holds the value of each field that is there and the defaults of the others. -/
def Holds (entries : List (Key × Node)) (config : Config) : Prop :=
  ∀ heading field, (kind? heading field).isSome →
    match fieldAt? entries heading field with
    | some node => settingOf? heading field node = some (config.setting heading field)
    | none => config.setting heading field = Config.setting {} heading field

/-- The fields of a document in its order, each with its section and what its value stands for. -/
def settingsOf (entries : List (Key × Node)) : List (String × String × Option Setting) :=
  entries.flatMap fun entry => (entriesOf entry.2).map fun field =>
    (entry.1.text, field.1.text, settingOf? entry.1.text field.1.text field.2)

/-! ## Reading entries in a row -/

/-- What comes of putting a value under a name: where the value stands for something, what is seen
under this name changes to that, and nothing else changes. -/
def Puts (view : σ → String → ν) (state : σ) (name : String) (seen : Option ν)
    (result : Except Fault σ) : Prop :=
  match seen with
  | none => ∃ fault, result = .error fault
  | some value => ∃ after, result = .ok after ∧ view after = Function.update (view state) name value

theorem Puts.mapError {view : σ → String → ν} {state : σ} {name : String} {seen : Option ν}
    {result : Except Fault σ} (puts : Puts view state name seen result) (place : Fault → Fault) :
    Puts view state name seen (result.mapError place) := by
  cases seen with
  | none =>
      obtain ⟨fault, rfl⟩ := puts
      exact ⟨place fault, rfl⟩
  | some value =>
      obtain ⟨after, rfl, viewed⟩ := puts
      exact ⟨after, rfl, viewed⟩

/-- A reader puts each of its fields in place by what the value stands for, and nothing stands for
anything under another name. -/
structure Knows (reader : SectionReader σ) (seen : String → Node → Option ν)
    (view : σ → String → ν) : Prop where
  puts : ∀ name ∈ reader.fields, ∀ node : Node, node.WellFormed → ∀ state,
    Puts view state name (seen name node) (reader.put state name node)
  others : ∀ name ∉ reader.fields, ∀ node, seen name node = none

namespace Knows

variable {reader : SectionReader σ} {seen : String → Node → Option ν} {view : σ → String → ν}
variable {entries : List (Key × Node)}

theorem readEntry (knows : Knows reader seen view) {entry : Key × Node}
    (wellFormed : entry.2.WellFormed) (state : σ) :
    Puts view state entry.1.text (seen entry.1.text entry.2) (reader.readEntry state entry) := by
  by_cases known : entry.1.text ∈ reader.fields
  · simpa only [SectionReader.readEntry, List.contains_iff_mem, if_pos known] using
      (knows.puts _ known _ wellFormed state).mapError _
  · simpa only [SectionReader.readEntry, List.contains_iff_mem, if_neg known,
      knows.others _ known] using ⟨_, rfl⟩

theorem exists_fold (knows : Knows reader seen view)
    (values : ∀ entry ∈ entries, entry.2.WellFormed)
    (known : ∀ entry ∈ entries, (seen entry.1.text entry.2).isSome) (start : σ) :
    ∃ final, entries.foldlM reader.readEntry start = .ok final := by
  induction entries generalizing start with
  | nil => exact ⟨start, rfl⟩
  | cons entry entries ih =>
      obtain ⟨value, shown⟩ := Option.isSome_iff_exists.mp (known entry (by simp))
      have puts := knows.readEntry (values entry (by simp)) start
      rw [shown] at puts
      obtain ⟨after, stepped, -⟩ := puts
      rw [List.foldlM_cons, stepped]
      exact ih (fun other member => values other (by simp [member]))
        (fun other member => known other (by simp [member])) after

/-- After entries with distinct keys that were read to the end, each name shows what its entry
stands for, or what it showed at the start where no entry has that name. -/
theorem view_fold (knows : Knows reader seen view) (wellFormed : WellFormed entries)
    {start final : σ} (folded : entries.foldlM reader.readEntry start = .ok final) :
    (∀ entry ∈ entries, (seen entry.1.text entry.2).isSome) ∧
      ∀ name, some (view final name) =
        match valueAt? entries name with
        | some node => seen name node
        | none => some (view start name) := by
  obtain ⟨distinct, values⟩ := wellFormed
  induction entries generalizing start with
  | nil =>
      obtain rfl := Except.ok.inj folded
      exact ⟨by simp, fun _ => rfl⟩
  | cons entry entries ih =>
      rw [List.map_cons, List.nodup_cons] at distinct
      have puts := knows.readEntry (values entry (by simp)) start
      rw [List.foldlM_cons] at folded
      cases shown : seen entry.1.text entry.2 with
      | none =>
          rw [shown] at puts
          obtain ⟨fault, stepped⟩ := puts
          rw [stepped] at folded
          cases folded
      | some value =>
          rw [shown] at puts
          obtain ⟨after, stepped, viewed⟩ := puts
          rw [stepped] at folded
          obtain ⟨known, seenAfter⟩ :=
            ih folded distinct.2 (fun other member => values other (by simp [member]))
          refine ⟨by simpa [shown] using known, fun name => ?_⟩
          rw [seenAfter name, viewed]
          by_cases named : entry.1.text = name
          · -- No later entry has the name again, so what this one stands for stays.
            subst named
            have last : valueAt? entries entry.1.text = none := by
              simpa [valueAt?] using distinct.1
            rw [last]
            simp [valueAt?, shown]
          · simp [valueAt?, named, Function.update_of_ne (Ne.symm named)]

end Knows

theorem mapError_eq_ok_iff {ε ε' : Type} {place : ε → ε'} {result : Except ε α} {value : α} :
    result.mapError place = .ok value ↔ result = .ok value := by
  cases result with
  | error fault => exact iff_of_false nofun nofun
  | ok other => simp only [Except.mapError, Except.ok.injEq]

theorem read_table_eq_ok {reader : SectionReader σ} {form : TableForm} {span : Option Span}
    {entries : List (Key × Node)} {start final : σ} :
    reader.read start (.table form span entries) = .ok final ↔
      entries.foldlM reader.readEntry start = .ok final := by
  rw [SectionReader.read, mapError_eq_ok_iff]

/-! ## Values -/

/-- A reader of values fits a kind: it reads those that stand for a setting of the kind, as what
holds that setting, and no others. -/
def Fits (kind : Kind) (toSetting : α → Setting) (read : Node → Except Fault α) : Prop :=
  ∀ node : Node, node.WellFormed →
    match kind.read? node with
    | none => ∃ fault, read node = .error fault
    | some setting => ∃ value, read node = .ok value ∧ toSetting value = setting

/-- A value that is read by a fitting reader and put in a place of its own. -/
theorem Fits.puts {kind : Kind} {toSetting : α → Setting} {read : Node → Except Fault α}
    {view : σ → String → Setting} {state : σ} {name : String} {place : α → σ}
    (fits : Fits kind toSetting read)
    (placed : ∀ value, view (place value) = Function.update (view state) name (toSetting value))
    {node : Node} (wellFormed : node.WellFormed) :
    Puts view state name (kind.read? node) (do return place (← read node)) := by
  have reads := fits node wellFormed
  cases seen : kind.read? node with
  | none =>
      rw [seen] at reads
      obtain ⟨fault, failed⟩ := reads
      rw [failed]
      exact ⟨fault, rfl⟩
  | some setting =>
      rw [seen] at reads
      obtain ⟨value, read_eq, rfl⟩ := reads
      rw [read_eq]
      exact ⟨place value, rfl, placed value⟩

theorem fits_text (expected : String) :
    Fits .text Setting.text (located (readTextAs expected)) := by
  intro node _
  cases node with
  | text span value => exact ⟨value, rfl, rfl⟩
  | integer | float | boolean | datetime | array | tables | table => exact ⟨_, rfl⟩

theorem fits_truth : Fits .truth Setting.truth readBool := by
  intro node _
  cases node with
  | boolean span value => exact ⟨value, rfl, rfl⟩
  | text | integer | float | datetime | array | tables | table => exact ⟨_, rfl⟩

theorem fits_count :
    Fits .count (fun seconds : UInt64 => Setting.count seconds.toNat) readCount := by
  intro node wellFormed
  cases node with
  | integer span value =>
      cases wellFormed with
      | integer _ least greatest =>
          by_cases negative : value < 0
          · have unsigned : ¬0 ≤ value := by omega
            simp only [Kind.read?, if_neg unsigned]
            exact ⟨_, by simp only [readCount, located, if_pos negative]; rfl⟩
          · have unsigned : 0 ≤ value := by omega
            simp only [Kind.read?, if_pos unsigned]
            refine ⟨UInt64.ofNat value.toNat, ?_, ?_⟩
            · simp only [readCount, located, if_neg negative]
              rfl
            · rw [UInt64.toNat_ofNat_of_lt' (show value.toNat < 2 ^ 64 by omega)]
  | text | float | boolean | datetime | array | tables | table => exact ⟨_, rfl⟩

theorem mapM_readText (items : List Node) :
    match items.mapM textOf? with
    | none => ∃ fault, items.mapM readText = .error fault
    | some values => items.mapM readText = .ok values := by
  induction items with
  | nil => rfl
  | cons item items ih =>
      cases item with
      | text span value =>
          have read : readText (.text span value) = .ok value := rfl
          rw [List.mapM_cons, List.mapM_cons, read]
          simp only [textOf?, Option.pure_def, Option.bind_eq_bind, Option.bind_some]
          cases rest : items.mapM textOf? with
          | none =>
              rw [rest] at ih
              obtain ⟨fault, failed⟩ := ih
              rw [failed]
              exact ⟨fault, rfl⟩
          | some values =>
              rw [rest] at ih
              rw [ih]
              rfl
      | integer | float | boolean | datetime | array | tables | table =>
          exact ⟨_, rfl⟩

theorem fits_texts : Fits .texts Setting.texts readTexts := by
  intro node _
  cases node with
  | array span items | tables span items =>
      have items_read := mapM_readText items
      cases texts : items.mapM textOf? with
      | none =>
          rw [texts] at items_read
          obtain ⟨fault, read⟩ := items_read
          simp only [Kind.read?, texts, readTexts, read]
          exact ⟨_, rfl⟩
      | some values =>
          rw [texts] at items_read
          simp only [Kind.read?, texts, readTexts, items_read]
          exact ⟨values, rfl, rfl⟩
  | text | integer | float | boolean | datetime | table => exact ⟨_, rfl⟩

/-! ## Sections -/

theorem isSome_lookup_iff {named : List (String × α)} {name : String} :
    (named.lookup name).isSome ↔ name ∈ named.map Prod.fst := by
  rw [← not_iff_not, Bool.not_eq_true, Option.isSome_eq_false_iff, Option.isNone_iff_eq_none,
    List.lookup_eq_none_iff]
  simp only [bne_iff_ne, ne_eq, List.mem_map, Prod.exists, exists_and_right, exists_eq_right,
    not_exists]
  exact ⟨fun other value member => other _ member rfl,
    fun absent ⟨_, value⟩ member same => absent value (same ▸ member)⟩

theorem settingOf?_eq_none {heading field : String} {fields : List (String × Kind)}
    (section_eq : schema.lookup heading = some fields) (unknown : field ∉ fields.map Prod.fst)
    (node : Node) : settingOf? heading field node = none := by
  have missing : ¬(fields.lookup field).isSome := isSome_lookup_iff.not.mpr unknown
  simp [settingOf?, kind?, section_eq, Option.not_isSome_iff_eq_none.mp missing]

theorem knows_paths : Knows pathsReader (settingOf? "paths") pathsSetting where
  others _ unknown node := settingOf?_eq_none rfl unknown node
  puts := by
    simp only [pathsReader, List.forall_mem_cons, List.not_mem_nil, false_imp_iff, implies_true,
      and_true]
    refine ⟨fun node wellFormed state => (fits_text _).puts (fun value => ?_) wellFormed,
      fun node wellFormed state => (fits_text _).puts (fun value => ?_) wellFormed,
      fun node wellFormed state => (fits_text _).puts (fun value => ?_) wellFormed⟩
    all_goals
      funext field
      unfold pathsSetting
      split <;> simp_all [optional]

theorem knows_format : Knows formatReader (settingOf? "format") formatSetting where
  others _ unknown node := settingOf?_eq_none rfl unknown node
  puts := by
    simp only [formatReader, List.forall_mem_cons, List.not_mem_nil, false_imp_iff, implies_true,
      and_true]
    refine ⟨fun node wellFormed state => fits_truth.puts (fun value => ?_) wellFormed,
      fun node wellFormed state => (fits_text _).puts (fun value => ?_) wellFormed,
      fun node wellFormed state => (fits_text _).puts (fun value => ?_) wellFormed,
      fun node wellFormed state => fits_count.puts (fun value => ?_) wellFormed⟩
    all_goals
      funext field
      unfold formatSetting
      split <;> simp_all [optional]

theorem knows_build : Knows buildReader (settingOf? "build") buildSetting where
  others _ unknown node := settingOf?_eq_none rfl unknown node
  puts := by
    simp only [buildReader, List.forall_mem_cons, List.not_mem_nil, false_imp_iff, implies_true,
      and_true]
    refine ⟨fun node wellFormed state => (fits_text _).puts (fun value => ?_) wellFormed,
      fun node wellFormed state => fits_texts.puts (fun value => ?_) wellFormed,
      fun node wellFormed state => fits_count.puts (fun value => ?_) wellFormed⟩
    all_goals
      funext field
      unfold buildSetting
      split <;> simp_all [optional]

theorem knows_execute : Knows executeReader (settingOf? "execute") executeSetting where
  others _ unknown node := settingOf?_eq_none rfl unknown node
  puts := by
    simp only [executeReader, List.forall_mem_cons, List.not_mem_nil, false_imp_iff, implies_true,
      and_true]
    refine ⟨fun node wellFormed state => (fits_text _).puts (fun value => ?_) wellFormed,
      fun node wellFormed state => (fits_text _).puts (fun value => ?_) wellFormed⟩
    all_goals
      funext field
      unfold executeSetting
      split <;> simp_all

/-! ## The document -/

def readSettings? (reader : SectionReader σ) (default : σ) (view : σ → String → Setting)
    (node : Node) : Option (String → Setting) :=
  (reader.read default node).toOption.map view

/-- The settings that the value of a section stands for. -/
def sectionOf? : String → Node → Option (String → Setting)
  | "paths" => readSettings? pathsReader {} pathsSetting
  | "format" => readSettings? formatReader {} formatSetting
  | "build" => readSettings? buildReader {} buildSetting
  | "execute" => readSettings? executeReader {} executeSetting
  | _ => fun _ => none

theorem puts_section {reader : SectionReader σ} {default : σ} {view : σ → String → Setting}
    {config : Config} {name : String} {place : σ → Config} {node : Node}
    (placed : ∀ value,
      Config.setting (place value) = Function.update config.setting name (view value)) :
    Puts Config.setting config name (readSettings? reader default view node)
      (do return place (← reader.read default node)) := by
  unfold readSettings?
  cases reader.read default node with
  | error fault => exact ⟨fault, rfl⟩
  | ok value => exact ⟨place value, rfl, placed value⟩

theorem knows_document : Knows documentReader sectionOf? Config.setting where
  others name unknown node := by
    simp only [documentReader, List.mem_cons, List.not_mem_nil, or_false, not_or] at unknown
    unfold sectionOf?
    split <;> simp_all
  puts := by
    simp only [documentReader, List.forall_mem_cons, List.not_mem_nil, false_imp_iff, implies_true,
      and_true]
    refine ⟨fun node _ config => puts_section (fun value => ?_),
      fun node _ config => puts_section (fun value => ?_),
      fun node _ config => puts_section (fun value => ?_),
      fun node _ config => puts_section (fun value => ?_)⟩
    all_goals
      funext heading
      unfold Config.setting
      split <;> simp_all

/-- A section shows what its fields stand for, and the defaults of the other fields. -/
def Shows (heading : String) (fields : List (Key × Node)) (shown : String → Setting) : Prop :=
  ∀ name, some (shown name) =
    match valueAt? fields name with
    | some node => settingOf? heading name node
    | none => some (Config.setting {} heading name)

/-- A section is read exactly when each of its fields takes its value, and then it shows them. -/
def ReadsFields (heading : String) (fields : List (Key × Node)) :
    Option (String → Setting) → Prop
  | none => ∃ field ∈ fields, settingOf? heading field.1.text field.2 = none
  | some shown =>
      (∀ field ∈ fields, (settingOf? heading field.1.text field.2).isSome) ∧
        Shows heading fields shown

theorem Knows.readsFields {reader : SectionReader σ} {heading : String}
    {view : σ → String → Setting} {default : σ} {fields : List (Key × Node)}
    (knows : Knows reader (settingOf? heading) view)
    (default_eq : view default = Config.setting {} heading)
    {form : TableForm} {span : Option Span} (wellFormed : WellFormed fields) :
    ReadsFields heading fields (readSettings? reader default view (.table form span fields)) := by
  unfold readSettings?
  cases read : reader.read default (.table form span fields) with
  | error fault =>
      show ∃ field ∈ fields, settingOf? heading field.1.text field.2 = none
      by_contra! known
      obtain ⟨final, folded⟩ := knows.exists_fold wellFormed.values
        (fun field member => Option.isSome_iff_ne_none.mpr (known field member)) default
      rw [read_table_eq_ok.mpr folded] at read
      cases read
  | ok final =>
      obtain ⟨known, shown⟩ := knows.view_fold wellFormed (read_table_eq_ok.mp read)
      rw [default_eq] at shown
      exact ⟨known, shown⟩

theorem readsFields_sectionOf? {heading : String} (known : (schema.lookup heading).isSome)
    {fields : List (Key × Node)} (form : TableForm) (span : Option Span)
    (wellFormed : WellFormed fields) :
    ReadsFields heading fields (sectionOf? heading (.table form span fields)) := by
  unfold sectionOf?
  split
  · exact knows_paths.readsFields rfl wellFormed
  · exact knows_format.readsFields rfl wellFormed
  · exact knows_build.readsFields rfl wellFormed
  · exact knows_execute.readsFields rfl wellFormed
  · rename_i paths format build execute
    simp [schema, List.lookup_cons, beq_false_of_ne paths, beq_false_of_ne format,
      beq_false_of_ne build, beq_false_of_ne execute] at known

theorem valueAt?_eq_some_iff {entries : List (Key × Node)} (wellFormed : WellFormed entries)
    {name : String} {node : Node} :
    valueAt? entries name = some node ↔
      ∃ entry ∈ entries, entry.1.text = name ∧ entry.2 = node := by
  constructor
  · intro found
    obtain ⟨entry, hit, rfl⟩ := Option.map_eq_some_iff.mp found
    exact ⟨entry, List.mem_of_find?_eq_some hit, by simpa using List.find?_some hit, rfl⟩
  · rintro ⟨entry, member, rfl, rfl⟩
    obtain ⟨distinct, -⟩ := wellFormed
    induction entries with
    | nil => cases member
    | cons first entries ih =>
        rw [List.map_cons, List.nodup_cons] at distinct
        rcases List.mem_cons.mp member with rfl | later
        · simp [valueAt?]
        · have other : first.1.text ≠ entry.1.text := fun same =>
            distinct.1 (same ▸ List.mem_map_of_mem later)
          simpa [valueAt?, other] using ih later distinct.2

/-- Where a document has tables for its sections, each known section is read by its fields. -/
theorem reads_section {entries : List (Key × Node)} (wellFormed : WellFormed entries)
    (tables : HasTables entries) {entry : Key × Node} (member : entry ∈ entries)
    (known : (schema.lookup entry.1.text).isSome) :
    WellFormed (entriesOf entry.2) ∧
      ReadsFields entry.1.text (entriesOf entry.2) (sectionOf? entry.1.text entry.2) := by
  obtain ⟨form, span, fields, table⟩ := tables entry member known
  have value := wellFormed.values entry member
  rw [table] at value ⊢
  exact ⟨value.entries, readsFields_sectionOf? known form span value.entries⟩

theorem isSome_sectionOf?_iff {entries : List (Key × Node)} (wellFormed : WellFormed entries)
    (tables : HasTables entries) {entry : Key × Node} (member : entry ∈ entries) :
    (sectionOf? entry.1.text entry.2).isSome ↔ (schema.lookup entry.1.text).isSome ∧
      ∀ field ∈ entriesOf entry.2, (settingOf? entry.1.text field.1.text field.2).isSome := by
  by_cases known : (schema.lookup entry.1.text).isSome
  · obtain ⟨-, reads⟩ := reads_section wellFormed tables member known
    cases shown : sectionOf? entry.1.text entry.2 with
    | none =>
        rw [shown] at reads
        obtain ⟨field, inSection, refused⟩ := reads
        refine iff_of_false nofun fun ⟨_, taken⟩ => ?_
        simpa [refused] using taken field inSection
    | some =>
        rw [shown] at reads
        exact iff_of_true rfl ⟨known, reads.1⟩
  · have unread : sectionOf? entry.1.text entry.2 = none :=
      knows_document.others _ (isSome_lookup_iff.not.mp known) _
    exact iff_of_false (by simp [unread]) fun valid => known valid.1

theorem exists_decode_iff {entries : List (Key × Node)} (wellFormed : WellFormed entries)
    (tables : HasTables entries) : (∃ config, decode entries = .ok config) ↔ Valid entries := by
  have known : Valid entries ↔ ∀ entry ∈ entries, (sectionOf? entry.1.text entry.2).isSome :=
    forall₂_congr fun entry member => (isSome_sectionOf?_iff wellFormed tables member).symm
  rw [known]
  constructor
  · rintro ⟨config, decoded⟩
    exact (knows_document.view_fold wellFormed decoded).1
  · intro each
    exact knows_document.exists_fold wellFormed.values each {}

theorem holds_of_decode {entries : List (Key × Node)} (wellFormed : WellFormed entries)
    (tables : HasTables entries) {config : Config} (decoded : decode entries = .ok config) :
    Holds entries config := by
  obtain ⟨known, shown⟩ := knows_document.view_fold wellFormed decoded
  intro heading field kind
  have seen := shown heading
  unfold fieldAt?
  cases found : valueAt? entries heading with
  | none =>
      rw [found] at seen
      exact congrFun (Option.some.inj seen) field
  | some node =>
      obtain ⟨entry, member, rfl, rfl⟩ := (valueAt?_eq_some_iff wellFormed).mp found
      obtain ⟨-, reads⟩ :=
        reads_section wellFormed tables member (Option.isSome_of_isSome_bind kind)
      rw [found] at seen
      dsimp only at seen
      rw [← seen] at reads
      have fieldSeen := reads.2 field
      dsimp only [Option.bind_some]
      cases fieldFound : valueAt? (entriesOf entry.2) field with
      | none =>
          rw [fieldFound] at fieldSeen
          exact Option.some.inj fieldSeen
      | some value =>
          rw [fieldFound] at fieldSeen
          exact fieldSeen.symm

/-- A document determines the configuration that holds its values. -/
theorem Holds.unique {entries : List (Key × Node)} {first second : Config}
    (holdsFirst : Holds entries first) (holdsSecond : Holds entries second) : first = second := by
  refine ext_setting fun heading field kind known => ?_
  have inFirst := holdsFirst heading field (by simp [known])
  have inSecond := holdsSecond heading field (by simp [known])
  cases found : fieldAt? entries heading field with
  | none =>
      rw [found] at inFirst inSecond
      exact inFirst.trans inSecond.symm
  | some node =>
      rw [found] at inFirst inSecond
      exact Option.some.inj (inFirst.symm.trans inSecond)

theorem mem_settingsOf_iff {entries : List (Key × Node)} (wellFormed : WellFormed entries)
    (tables : HasTables entries) {heading field : String} (known : (kind? heading field).isSome)
    {setting : Option Setting} :
    (heading, field, setting) ∈ settingsOf entries ↔
      ∃ node, fieldAt? entries heading field = some node ∧
        settingOf? heading field node = setting := by
  have headingKnown : (schema.lookup heading).isSome := Option.isSome_of_isSome_bind known
  simp only [settingsOf, List.mem_flatMap, List.mem_map, Prod.mk.injEq, fieldAt?,
    Option.bind_eq_some_iff, valueAt?_eq_some_iff wellFormed]
  constructor
  · rintro ⟨entry, member, inner, inSection, rfl, rfl, rfl⟩
    obtain ⟨distinct, -⟩ := reads_section wellFormed tables member headingKnown
    exact ⟨inner.2, ⟨entry.2, ⟨entry, member, rfl, rfl⟩,
      (valueAt?_eq_some_iff distinct).mpr ⟨inner, inSection, rfl, rfl⟩⟩, rfl⟩
  · rintro ⟨_, ⟨_, ⟨entry, member, rfl, rfl⟩, found⟩, rfl⟩
    obtain ⟨distinct, -⟩ := reads_section wellFormed tables member headingKnown
    obtain ⟨inner, inSection, rfl, rfl⟩ := (valueAt?_eq_some_iff distinct).mp found
    exact ⟨entry, member, inner, inSection, rfl, rfl, rfl⟩

/-- Documents that name the same fields with the same values in any order are held by the same
configurations. -/
theorem Holds.perm {entries others : List (Key × Node)} {config : Config}
    (wellFormed : WellFormed entries) (tables : HasTables entries)
    (othersWellFormed : WellFormed others) (othersTables : HasTables others)
    (reordered : (settingsOf entries).Perm (settingsOf others)) (holds : Holds entries config) :
    Holds others config := by
  intro heading field known
  have named : ∀ setting, (∃ node, fieldAt? entries heading field = some node ∧
      settingOf? heading field node = setting) ↔ ∃ node, fieldAt? others heading field = some node ∧
        settingOf? heading field node = setting := by
    intro setting
    rw [← mem_settingsOf_iff wellFormed tables known, reordered.mem_iff,
      mem_settingsOf_iff othersWellFormed othersTables known]
  have held := holds heading field known
  cases found : fieldAt? others heading field with
  | none =>
      cases before : fieldAt? entries heading field with
      | none =>
          rw [before] at held
          exact held
      | some node =>
          obtain ⟨_, again, -⟩ := (named _).mp ⟨node, before, rfl⟩
          simp [found] at again
  | some node =>
      obtain ⟨before, foundBefore, same⟩ := (named _).mpr ⟨node, found, rfl⟩
      rw [foundBefore] at held
      exact same.symm.trans held

/-- A document whose sections are tables is a configuration exactly when it is valid. The
configuration holds the values of the document and the defaults of what it leaves out, and any other
valid document with the same fields and values, in whatever order, is the same configuration. -/
theorem decode_holds_document {entries : List (Key × Node)} (wellFormed : WellFormed entries)
    (tables : HasTables entries) :
    ((∃ config, decode entries = .ok config) ↔ Valid entries) ∧
    (∀ config, decode entries = .ok config → Holds entries config) ∧
    (∀ others, WellFormed others → HasTables others → Valid others →
      (settingsOf entries).Perm (settingsOf others) →
        ∀ config, decode entries = .ok config → decode others = .ok config) ∧
    (∀ text, Toml.parse? text = some entries →
      ∀ config, parse text = .ok config ↔ decode entries = .ok config) := by
  refine ⟨exists_decode_iff wellFormed tables, fun _ => holds_of_decode wellFormed tables,
    fun others othersWellFormed othersTables valid reordered config decoded => ?_,
    fun text read config => ?_⟩
  · obtain ⟨other, otherDecoded⟩ := (exists_decode_iff othersWellFormed othersTables).mpr valid
    have holds := (holds_of_decode wellFormed tables decoded).perm wellFormed tables
      othersWellFormed othersTables reordered
    rw [holds.unique (holds_of_decode othersWellFormed othersTables otherDecoded)]
    exact otherDecoded
  · rw [parse, read]
    exact mapError_eq_ok_iff

/-- A document with one field. -/
theorem decode_holds_build_timeout :
    ∃ entries, WellFormed entries ∧ HasTables entries ∧
      ∃ config, decode entries = .ok config ∧
        config.setting "build" "timeout_secs" = .count 30 ∧
        config.setting "build" "program" = .text "make" := by
  let fields : List (Key × Node) := [(⟨"timeout_secs", ⟨8, 20⟩⟩, .integer ⟨23, 25⟩ 30)]
  let entries : List (Key × Node) :=
    [(⟨"build", ⟨1, 6⟩⟩, .table .header (some ⟨0, 25⟩) fields)]
  have fieldsWellFormed : WellFormed fields :=
    ⟨by simp [fields], by simpa [fields] using .integer _ (by decide) (by decide)⟩
  have wellFormed : WellFormed entries :=
    ⟨by simp [entries], by simpa [entries] using fieldsWellFormed.node _ _⟩
  have tables : HasTables entries := by
    intro entry member _
    obtain rfl := List.mem_singleton.mp member
    exact ⟨_, _, _, rfl⟩
  have valid : Valid entries := by
    intro entry member
    obtain rfl := List.mem_singleton.mp member
    refine ⟨rfl, ?_⟩
    simp [fields, entriesOf, settingOf?, kind?, schema, List.lookup_cons, Kind.read?]
  obtain ⟨accepted, held, -⟩ := decode_holds_document wellFormed tables
  obtain ⟨config, decoded⟩ := accepted.mpr valid
  have holds := held config decoded
  exact ⟨entries, wellFormed, tables, config, decoded,
    (Option.some.inj (holds "build" "timeout_secs" rfl)).symm, holds "build" "program" rfl⟩

end QueryFoundry.Config
