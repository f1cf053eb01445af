import QueryFoundry.Proofs.SectionWriting

/-!
# Writing configurations

The document of a configuration holds every setting that is not absent. It is read as the
configuration itself, because what it leaves out is absent by default too. The timeout of a build is
not: it has a default, no value of a document stands for its absence, and so no document is read as
a build that waits forever.
-/

namespace QueryFoundry.Config

open Toml

variable {σ α β : Type}

/-! ## Configurations -/

def fieldsOf (config : Config) (heading : String) (fields : List (String × Kind)) : List Field :=
  (fields.map fun field => (field.1, config.setting heading field.1)).filter
    fun field => field.2 ≠ .absent

def sectionsOf (config : Config) : List Section :=
  schema.map fun part => (part.1, fieldsOf config part.1 part.2)

/-- The timeout of the formatter, where there is one, fits into a signed number of 64 bits. -/
def FormatFits (config : FormatConfig) : Prop :=
  ∀ seconds ∈ config.timeoutSeconds, seconds.toNat < 2 ^ 63

/-- The build has a timeout, and it fits into a signed number of 64 bits. -/
def BuildFits (config : BuildConfig) : Prop :=
  ∃ seconds, config.timeoutSeconds = some seconds ∧ seconds.toNat < 2 ^ 63

/-- A configuration that a document can be written for. -/
structure Writable (config : Config) : Prop where
  format : FormatFits config.format
  build : BuildFits config.build

theorem optional_cases (toSetting : α → Setting) (value : Option α) :
    optional toSetting value = .absent ∨
      ∃ held ∈ value, optional toSetting value = toSetting held := by
  cases value with
  | none => exact .inl rfl
  | some held => exact .inr ⟨held, rfl, rfl⟩

/-- A field of a configuration that can be written down holds a setting of its kind, or nothing when
that is its default. -/
theorem setting_cases {config : Config} (writable : Writable config) :
    ∀ part ∈ schema, ∀ field ∈ part.2,
      (config.setting part.1 field.1 = .absent ∧ Config.setting {} part.1 field.1 = .absent) ∨
      ((config.setting part.1 field.1).kind? = some field.2 ∧
        (config.setting part.1 field.1).InRange) := by
  obtain ⟨format, seconds, build, small⟩ := writable
  have artifactDir : config.setting "paths" "artifact_dir" = .absent ∨
      ∃ held ∈ config.paths.artifactDir, config.setting "paths" "artifact_dir" = .text held :=
    optional_cases _ _
  have formatTimeout : config.setting "format" "timeout_secs" = .absent ∨
      ∃ held ∈ config.format.timeoutSeconds,
        config.setting "format" "timeout_secs" = .count held.toNat :=
    optional_cases _ _
  have buildTimeout : config.setting "build" "timeout_secs" = .count seconds.toNat :=
    congrArg (optional _) build
  simp only [schema, List.forall_mem_cons, List.not_mem_nil, false_imp_iff, implies_true, and_true]
  refine ⟨⟨.inr ⟨rfl, trivial⟩, .inr ⟨rfl, trivial⟩, ?_⟩,
    ⟨.inr ⟨rfl, trivial⟩, .inr ⟨rfl, trivial⟩, .inr ⟨rfl, trivial⟩, ?_⟩,
    ⟨.inr ⟨rfl, trivial⟩, .inr ⟨rfl, trivial⟩, .inr ?_⟩,
    .inr ⟨rfl, trivial⟩, .inr ⟨rfl, trivial⟩⟩
  · rcases artifactDir with absent | ⟨held, -, text⟩
    · exact .inl ⟨absent, rfl⟩
    · exact .inr (text ▸ ⟨rfl, trivial⟩)
  · rcases formatTimeout with absent | ⟨held, set, count⟩
    · exact .inl ⟨absent, rfl⟩
    · exact .inr (count ▸ ⟨rfl, format held set⟩)
  · exact buildTimeout ▸ ⟨rfl, small⟩

theorem schema_fields : ∀ part ∈ schema, IsBare part.1 ∧ (part.2.map Prod.fst).Nodup ∧
    ∀ field ∈ part.2, IsBare field.1 ∧ kind? part.1 field.1 = some field.2 := by
  decide

theorem mem_of_lookup {named : List (String × α)} {name : String} {value : α}
    (found : named.lookup name = some value) : (name, value) ∈ named := by
  obtain ⟨before, after, rfl, -⟩ := List.lookup_eq_some_iff.mp found
  simp

theorem exists_of_mem_left {relation : α → β → Prop} {firsts : List α}
    {seconds : List β} (are : List.Forall₂ relation firsts seconds) {first : α}
    (member : first ∈ firsts) : ∃ second ∈ seconds, relation first second := by
  induction are with
  | nil => cases member
  | cons related _ ih =>
      rcases List.mem_cons.mp member with rfl | later
      · exact ⟨_, List.mem_cons_self, related⟩
      · obtain ⟨second, inSeconds, related⟩ := ih later
        exact ⟨second, List.mem_cons_of_mem _ inSeconds, related⟩

theorem exists_of_mem_right {relation : α → β → Prop} {firsts : List α}
    {seconds : List β} (are : List.Forall₂ relation firsts seconds) {second : β}
    (member : second ∈ seconds) : ∃ first ∈ firsts, relation first second :=
  exists_of_mem_left are.flip member

section

variable {config : Config} {entries : List (Key × Node)}

theorem mem_fieldsOf_iff {heading : String} {fields : List (String × Kind)} {field : Field} :
    field ∈ fieldsOf config heading fields ↔ field.1 ∈ fields.map Prod.fst ∧
      field.2 = config.setting heading field.1 ∧ field.2 ≠ .absent := by
  simp only [fieldsOf, List.mem_filter, List.mem_map, decide_eq_true_eq]
  constructor
  · rintro ⟨⟨named, inFields, rfl⟩, present⟩
    exact ⟨⟨named, inFields, rfl⟩, rfl, present⟩
  · rintro ⟨⟨named, inFields, same⟩, setting, present⟩
    exact ⟨⟨named, inFields, Prod.ext same (same ▸ setting.symm)⟩, present⟩

theorem notMem_fieldsOf {heading name : String} {fields : List (String × Kind)}
    (absent : config.setting heading name = .absent) :
    name ∉ (fieldsOf config heading fields).map Prod.fst := by
  intro member
  obtain ⟨field, inFields, rfl⟩ := List.mem_map.mp member
  obtain ⟨-, same, present⟩ := mem_fieldsOf_iff.mp inFields
  exact present (same.trans absent)

theorem nodup_fieldsOf {heading : String} {fields : List (String × Kind)}
    (distinct : (fields.map Prod.fst).Nodup) :
    ((fieldsOf config heading fields).map Prod.fst).Nodup := by
  refine List.Nodup.sublist (List.filter_sublist.map Prod.fst) ?_
  rw [List.map_map]
  exact distinct

theorem headings_sectionsOf (config : Config) :
    (sectionsOf config).map Prod.fst = schema.map Prod.fst :=
  List.map_map

theorem canWriteSection_of_mem (writable : Writable config) {part : Section}
    (member : part ∈ sectionsOf config) : CanWriteSection part := by
  obtain ⟨⟨heading, fields⟩, inSchema, rfl⟩ := List.mem_map.mp member
  obtain ⟨bare, distinct, each⟩ := schema_fields _ inSchema
  refine ⟨bare, nodup_fieldsOf distinct, fun ⟨name, setting⟩ inSection => ?_⟩
  obtain ⟨named, same, present⟩ := mem_fieldsOf_iff.mp inSection
  obtain rfl : setting = config.setting heading name := same
  obtain ⟨⟨_, kind⟩, inFields, rfl⟩ := List.mem_map.mp named
  obtain ⟨bareField, known⟩ := each _ inFields
  rcases setting_cases writable _ inSchema _ inFields with ⟨absent, -⟩ | ⟨holds, inRange⟩
  · exact absurd absent present
  · exact ⟨bareField, ⟨kind, known, holds⟩, inRange⟩

theorem hasTables_of_forall₂ (are : List.Forall₂ IsSection (sectionsOf config) entries) :
    HasTables entries := by
  intro entry member _
  obtain ⟨part, -, -, form, span, fields, table, -⟩ := exists_of_mem_right are member
  exact ⟨form, span, fields, table⟩

theorem valid_of_forall₂ (are : List.Forall₂ IsSection (sectionsOf config) entries) :
    Valid entries := by
  intro entry member
  obtain ⟨part, inSections, named, form, span, fields, table, areFields⟩ :=
    exists_of_mem_right are member
  rw [named, table]
  refine ⟨?_, fun field inSection => ?_⟩
  · rw [isSome_lookup_iff, ← headings_sectionsOf config]
    exact List.mem_map_of_mem inSections
  · obtain ⟨written, -, sameName, stands⟩ := exists_of_mem_right areFields inSection
    rw [sameName, stands]
    rfl

theorem holds_of_forall₂ (writable : Writable config) (wellFormed : WellFormed entries)
    (are : List.Forall₂ IsSection (sectionsOf config) entries) : Holds entries config := by
  intro heading field known
  obtain ⟨kind, known⟩ := Option.isSome_iff_exists.mp known
  obtain ⟨fields, headingKnown, fieldKnown⟩ := Option.bind_eq_some_iff.mp known
  have inSchema := mem_of_lookup headingKnown
  have inFields := mem_of_lookup fieldKnown
  obtain ⟨entry, member, named, form, span, values, table, areFields⟩ :=
    exists_of_mem_left are (List.mem_map_of_mem inSchema)
  have found : valueAt? entries heading = some entry.2 :=
    (valueAt?_eq_some_iff wellFormed).mpr ⟨entry, member, named, rfl⟩
  have distinct : WellFormed values := by
    have value := wellFormed.values entry member
    rw [table] at value
    exact value.entries
  rw [fieldAt?, found, table]
  dsimp only [Option.bind_some, entriesOf]
  -- A field that is left out has nothing for its default, which is what it is then read as.
  rcases setting_cases writable _ inSchema _ inFields with ⟨absent, default⟩ | ⟨holds, -⟩
  · have unwritten : valueAt? values field = none := by
      refine valueAt?_eq_none ?_
      rw [keys_eq (fun _ _ is => is.1) areFields]
      exact notMem_fieldsOf absent
    rw [unwritten]
    exact absent.trans default.symm
  · have inWritten : (field, config.setting heading field) ∈ fieldsOf config heading fields := by
      refine mem_fieldsOf_iff.mpr ⟨List.mem_map_of_mem inFields, rfl, fun absent => ?_⟩
      have none := (congrArg Setting.kind? absent).symm.trans holds
      cases none
    obtain ⟨value, inValues, sameName, stands⟩ := exists_of_mem_left areFields inWritten
    have written : valueAt? values field = some value.2 :=
      (valueAt?_eq_some_iff distinct).mpr ⟨value, inValues, sameName, rfl⟩
    rw [written]
    exact stands

theorem exists_parse (writable : Writable config) : ∃ text, parse text = .ok config := by
  have distinct : ((sectionsOf config).map Prod.fst).Nodup := by
    rw [headings_sectionsOf]
    decide
  obtain ⟨entries, read, are⟩ :=
    exists_parse?_spellSections (fun _ => canWriteSection_of_mem writable) distinct
  have wellFormed := wellFormed_of_parse? read
  have tables := hasTables_of_forall₂ are
  obtain ⟨decoded, decode_eq⟩ := (exists_decode_iff wellFormed tables).mpr (valid_of_forall₂ are)
  have same := (holds_of_decode wellFormed tables decode_eq).unique
    (holds_of_forall₂ writable wellFormed are)
  refine ⟨String.ofList (spellSections (sectionsOf config)), ?_⟩
  rw [parse, read]
  dsimp only
  rw [decode_eq, same]
  rfl

end

/-! ## What no document says -/

/-- A step that keeps a property of the state for each of some items keeps it over all of them. -/
theorem keeps_foldlM {ι : Type} {step : σ → ι → Except Fault σ} {keeps : σ → Prop} {items : List ι}
    (each : ∀ item ∈ items, ∀ state after, keeps state → step state item = .ok after → keeps after)
    {start final : σ} (holds : keeps start) (folded : items.foldlM step start = .ok final) :
    keeps final := by
  induction items generalizing start with
  | nil =>
      obtain rfl := Except.ok.inj folded
      exact holds
  | cons item items ih =>
      rw [List.foldlM_cons] at folded
      cases stepped : step start item with
      | error fault =>
          rw [stepped] at folded
          cases folded
      | ok between =>
          rw [stepped] at folded
          exact ih (fun other member => each other (by simp [member]))
            (each item (by simp) start between holds stepped) folded

/-- Whatever well-formed value is put under a field, a property of the state stays. -/
def SectionKeeps (reader : SectionReader σ) (keeps : σ → Prop) : Prop :=
  ∀ state name (node : Node), node.WellFormed → keeps state →
    ∀ after, reader.put state name node = .ok after → keeps after

theorem SectionKeeps.readEntry {reader : SectionReader σ} {keeps : σ → Prop}
    (stays : SectionKeeps reader keeps) {entry : Key × Node} (wellFormed : entry.2.WellFormed)
    {state after : σ} (holds : keeps state) (read : reader.readEntry state entry = .ok after) :
    keeps after := by
  unfold SectionReader.readEntry at read
  split at read
  · exact stays _ _ _ wellFormed holds _ (mapError_eq_ok_iff.mp read)
  · cases read

theorem SectionKeeps.read {reader : SectionReader σ} {keeps : σ → Prop}
    (stays : SectionKeeps reader keeps) {default final : σ} (holds : keeps default) {node : Node}
    (wellFormed : node.WellFormed) (read : reader.read default node = .ok final) : keeps final := by
  have fields {items : List Node} (each : ∀ item ∈ items, item.WellFormed)
      (folded : (reader.fields.zip items).foldlM
        (fun state (field, item) => reader.put state field item) default = .ok final) :
      keeps final :=
    keeps_foldlM (fun item member state after holds put =>
      stays _ _ _ (each _ (List.of_mem_zip member).2) holds _ put) holds folded
  cases wellFormed with
  | table form span distinct values =>
      exact keeps_foldlM (fun entry member _ _ => stays.readEntry (values entry member)) holds
        (mapError_eq_ok_iff.mp read)
  | array span each => exact fields each (mapError_eq_ok_iff.mp read)
  | tables span each => exact fields each (mapError_eq_ok_iff.mp read)
  | text | integer | float | boolean | datetime => cases read

/-- A property holds after a value is put in a place of its own if it holds with each value that is
read. -/
theorem keeps_of_put {keeps : σ → Prop} {read : Except Fault α} {place : α → σ} {after : σ}
    (put : (do return place (← read)) = Except.ok after)
    (each : ∀ value, read = .ok value → keeps (place value)) : keeps after := by
  cases read with
  | error fault => cases put
  | ok value =>
      obtain rfl := Except.ok.inj put
      exact each value rfl

theorem readCount_lt {node : Node} (wellFormed : node.WellFormed) {seconds : UInt64}
    (read : readCount node = .ok seconds) : seconds.toNat < 2 ^ 63 := by
  cases wellFormed with
  | integer span least greatest =>
      rename_i value
      simp only [readCount, located] at read
      split at read
      · cases read
      · obtain rfl := Except.ok.inj read
        rw [UInt64.toNat_ofNat_of_lt' (show value.toNat < 2 ^ 64 by omega)]
        omega
  | text | float | boolean | datetime | array | tables | table => cases read

theorem keeps_format : SectionKeeps formatReader FormatFits := by
  intro state name node wellFormed holds after put
  simp only [formatReader] at put
  split at put
  · exact keeps_of_put put fun _ _ => holds
  · exact keeps_of_put put fun _ _ => holds
  · exact keeps_of_put put fun _ _ => holds
  · refine keeps_of_put put fun seconds read => ?_
    rintro _ ⟨⟩
    exact readCount_lt wellFormed read

theorem keeps_build : SectionKeeps buildReader BuildFits := by
  intro state name node wellFormed holds after put
  simp only [buildReader] at put
  split at put
  · exact keeps_of_put put fun _ _ => holds
  · exact keeps_of_put put fun _ _ => holds
  · exact keeps_of_put put fun seconds read => ⟨seconds, rfl, readCount_lt wellFormed read⟩

theorem fits_default : FormatFits {} ∧ BuildFits {} :=
  ⟨by simp [FormatFits], 600, rfl, by decide⟩

theorem keeps_document : SectionKeeps documentReader Writable := by
  intro state name node wellFormed holds after put
  simp only [documentReader] at put
  split at put
  · exact keeps_of_put put fun _ _ => ⟨holds.format, holds.build⟩
  · exact keeps_of_put put fun config read =>
      ⟨keeps_format.read fits_default.1 wellFormed read, holds.build⟩
  · exact keeps_of_put put fun config read =>
      ⟨holds.format, keeps_build.read fits_default.2 wellFormed read⟩
  · exact keeps_of_put put fun _ _ => ⟨holds.format, holds.build⟩

/-- Every configuration that a text is read as can be written down. -/
theorem writable_of_parse {text : String} {config : Config} (read : parse text = .ok config) :
    Writable config := by
  unfold parse at read
  split at read
  · cases read
  · rename_i entries document
    have wellFormed := wellFormed_of_parse? document
    exact keeps_foldlM
      (fun entry member _ _ => keeps_document.readEntry (wellFormed.values entry member))
      ⟨fits_default.1, fits_default.2⟩ (mapError_eq_ok_iff.mp read)

/-- The configurations that texts are read as are those whose build timeout is set and whose
timeouts fit into signed numbers of 64 bits. -/
theorem exists_parse_iff (config : Config) :
    (∃ text, parse text = .ok config) ↔
      (∃ seconds, config.build.timeoutSeconds = some seconds ∧ seconds.toNat < 2 ^ 63) ∧
        ∀ seconds ∈ config.format.timeoutSeconds, seconds.toNat < 2 ^ 63 := by
  constructor
  · rintro ⟨text, read⟩
    have writable := writable_of_parse read
    exact ⟨writable.build, writable.format⟩
  · rintro ⟨build, format⟩
    exact exists_parse ⟨format, build⟩

/-- No text is read as the configuration whose build waits forever. -/
theorem not_exists_parse_build_waits :
    ¬∃ text, parse text = .ok { build := { timeoutSeconds := none } } := by
  rintro ⟨text, read⟩
  obtain ⟨-, seconds, set, -⟩ := writable_of_parse read
  cases set

end QueryFoundry.Config
