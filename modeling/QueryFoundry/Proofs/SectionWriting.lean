import QueryFoundry.Proofs.ConfigDecoding
import QueryFoundry.Proofs.TomlReading

/-!
# Writing sections

A document with one table for each section and one line for each field, and how it is read back: the
table that is open takes the fields one by one, and it takes its place in the document when the next
one opens.
-/

namespace QueryFoundry.Toml

/-! ## Tables -/

theorem get?_eq_none {table : Table} {name : String}
    (fresh : name ∉ table.entries.map fun entry => entry.1.text) : table.get? name = none := by
  rw [Table.get?, Option.map_eq_none_iff, List.find?_eq_none]
  rintro entry member same
  exact fresh (beq_iff_eq.mp same ▸ List.mem_map_of_mem member)

theorem get_bind {α : Type} (next : Table → StateT Table Option α) (table : Table) :
    (get >>= next) table = next table table :=
  rfl

theorem settle_eq {table : Table} {key : Key} (fresh : table.get? key.text = none) (node : Node) :
    Draft.settle false key node table = some ((), table.push key node) := by
  unfold Draft.settle
  rw [get_bind, fresh]
  rfl

theorem claimTable_eq {table : Table} {key : Key} (fresh : table.get? key.text = none) :
    Draft.claimTable key table = some ([], table) := by
  unfold Draft.claimTable
  rw [get_bind, fresh]
  rfl

theorem putDotted_eq {table : Table} {key : Key} (form : table.form = .header)
    (fresh : table.get? key.text = none) (node : Node) :
    Table.putDotted [] key node table = some ((), table.push key node) := by
  unfold Table.putDotted Table.actAt
  rw [get_bind, form, fresh]
  rfl

theorem form_extendSpan (table : Table) (node : Node) :
    (Draft.extendSpan table node).form = table.form := by
  unfold Draft.extendSpan
  split <;> rfl

theorem parse?_ofList {text : List Char} {after : Cursor} {closed : Table}
    (unmarked : text.head? ≠ some '\uFEFF')
    (read : documentLines (2 * text.length + 2) (2 * text.length + 2) Draft.start ⟨0, text⟩ =
      some (draft, after)) (close : draft.close = some closed) :
    Toml.parse? (String.ofList text) = some closed.entries := by
  unfold Toml.parse?
  rw [String.toList_ofList]
  dsimp only
  split
  · exact absurd rfl unmarked
  · rw [read]
    change draft.close.bind _ = _
    rw [close]
    rfl

end QueryFoundry.Toml

namespace QueryFoundry.Config

open Toml

def Setting.kind? : Setting → Option Kind
  | absent => none
  | text _ => some .text
  | truth _ => some .truth
  | count _ => some .count
  | texts _ => some .texts

/-- A setting as a value of a document. -/
def Setting.spell : Setting → List Char
  | absent => []
  | text value => quoted value
  | truth value => (toString value).toList
  | count value => hexNumber value
  | texts values => quotedList values

/-- A count of a setting can be a number of a document. -/
def Setting.InRange : Setting → Prop
  | count value => value < 2 ^ 63
  | _ => True

/-- A field with its setting. -/
abbrev Field := String × Setting

/-- A section with its fields. -/
abbrev Section := String × List Field

def spellField (field : Field) : List Char :=
  field.1.toList ++ '=' :: field.2.spell ++ ['\n']

example : spellField ("timeout_secs", .count 600) = "timeout_secs=0x0000000000000258\n".toList := by
  decide

def spellSection (part : Section) : List Char :=
  '[' :: (part.1.toList ++ [']']) ++ '\n' :: part.2.flatMap spellField

def spellSections (sections : List Section) : List Char :=
  sections.flatMap spellSection

/-! ## Values -/

section

variable {ν : Type} {rest : List Char} {fuel lines : Nat} {done : List Section} {draft : Draft}

theorem mapM_textOf? {values : List String} {items : List Node}
    (are : List.Forall₂ IsText values items) : items.mapM textOf? = some values := by
  induction are with
  | nil => rfl
  | cons isText _ ih =>
      obtain ⟨span, rfl⟩ := isText
      rw [List.mapM_cons, ih]
      rfl

theorem head?_truth (value : Bool) :
    ((toString value).toList ++ rest).head? = some (if value then 't' else 'f') := by
  cases value <;> rfl

theorem head?_hexNumber (value : Nat) : (hexNumber value ++ rest).head? = some '0' := by
  rw [hexNumber_append]
  rfl

theorem isLineBlank_of_head? {setting : Setting} {kind : Kind} (holds : setting.kind? = some kind) :
    ∀ character ∈ (setting.spell ++ rest).head?, isLineBlank character = false := by
  intro character same
  cases setting with
  | absent => cases holds
  | text value | texts values =>
      obtain rfl := Option.some.inj same
      decide
  | truth value =>
      obtain rfl := Option.some.inj ((head?_truth value).symm.trans same)
      cases value <;> decide
  | count value =>
      obtain rfl := Option.some.inj ((head?_hexNumber value).symm.trans same)
      decide

/-- A setting is read back from what is written for it. -/
theorem reads_spell {setting : Setting} {kind : Kind}
    (holds : setting.kind? = some kind) (inRange : setting.InRange)
    (enough : setting.spell.length ≤ fuel) :
    Reads (value (fuel + 1) 0) setting.spell ('\n' :: rest) (kind.read? · = some setting) := by
  cases setting with
  | absent => cases holds
  | text value =>
      obtain rfl := Option.some.inj holds
      refine (reads_value_of_scalar ?_ ?_ (reads_scalar_text value (by simp))).mono ?_
      · simp [quoted]
      · simp [quoted]
      · rintro _ ⟨span, rfl⟩
        rfl
  | truth value =>
      obtain rfl := Option.some.inj holds
      refine (reads_value_of_scalar ?_ ?_ (reads_scalar_boolean value)).mono ?_
      · rw [head?_truth]
        cases value <;> decide
      · rw [head?_truth]
        cases value <;> decide
      · rintro _ ⟨span, rfl⟩
        rfl
  | count value =>
      obtain rfl := Option.some.inj holds
      have ends : EndsNumber ('\n' :: rest) := by
        rintro _ ⟨⟩
        decide
      refine (reads_value_of_scalar ?_ ?_ (reads_scalar_integer inRange ends)).mono ?_
      · rw [head?_hexNumber]
        decide
      · rw [head?_hexNumber]
        decide
      · rintro _ ⟨span, rfl⟩
        simp [Kind.read?]
  | texts values =>
      obtain rfl := Option.some.inj holds
      have fits := Nat.lt_of_lt_of_le (length_lt_length_quotedList values) enough
      refine (reads_value_list fits).mono ?_
      rintro _ ⟨span, items, rfl, are⟩
      simp [Kind.read?, mapM_textOf? are]

/-! ## Drafts -/

/-- An entry of a section for a field. -/
def IsField (heading : String) (field : Field) (entry : Key × Node) : Prop :=
  entry.1.text = field.1 ∧ settingOf? heading field.1 entry.2 = some field.2

/-- An entry of a document for a section. -/
def IsSection (part : Section) (entry : Key × Node) : Prop :=
  entry.1.text = part.1 ∧ ∃ form span fields, entry.2 = .table form span fields ∧
    List.Forall₂ (IsField part.1) part.2 fields

/-- The complete tables of a draft are some sections. -/
def Closes (sections : List Section) (draft : Draft) : Prop :=
  ∃ closed, draft.close = some closed ∧ List.Forall₂ IsSection sections closed.entries

/-- A draft whose open table is the section that follows some others, as far as it was read. -/
structure Opens (sections : List Section) (part : Section) (draft : Draft) : Prop where
  path : IsKey part.1 draft.path
  single : draft.isArrayItem = false
  form : draft.current.form = .header
  done : List.Forall₂ IsSection sections draft.root.entries
  fields : List.Forall₂ (IsField part.1) part.2 draft.current.entries

theorem keys_eq {α : Type} {named : List (String × α)} {entries : List (Key × Node)}
    {relation : String × α → Key × Node → Prop}
    (names : ∀ item entry, relation item entry → entry.1.text = item.1)
    (are : List.Forall₂ relation named entries) :
    entries.map (fun entry => entry.1.text) = named.map Prod.fst := by
  induction are with
  | nil => rfl
  | cons first _ ih => rw [List.map_cons, List.map_cons, names _ _ first, ih]

theorem valueAt?_eq_none {entries : List (Key × Node)} {name : String}
    (absent : name ∉ entries.map fun entry => entry.1.text) : valueAt? entries name = none :=
  (get?_eq_none absent : (Table.mk .header none entries).get? name = none)

/-- The section that is open takes its place behind the others. -/
theorem Opens.closes {sections : List Section} {part : Section} {draft : Draft}
    (opens : Opens sections part draft) (fresh : part.1 ∉ sections.map Prod.fst) :
    Closes (sections ++ [part]) draft := by
  obtain ⟨⟨key, path, named⟩, single, -, done, fields⟩ := opens
  rw [← keys_eq (fun _ _ is => is.1) done, ← named] at fresh
  refine ⟨draft.root.push key draft.current.toNode, ?_, ?_⟩
  · have placed : draft.close =
        (Draft.settle draft.isArrayItem key draft.current.toNode draft.root).map Prod.snd := by
      rw [Draft.close, path]
      rfl
    rw [placed, single, settle_eq (get?_eq_none fresh)]
    rfl
  · exact List.rel_append done (.cons ⟨named, _, _, _, rfl, fields⟩ .nil)

/-- A header that is new opens a section without fields. -/
theorem Closes.opens {sections : List Section} {draft : Draft} (closes : Closes sections draft)
    {key : Key} (fresh : key.text ∉ sections.map Prod.fst) (span : Span) :
    ∃ opened, draft.openTable false [key] span = some opened ∧
      Opens sections (key.text, []) opened := by
  obtain ⟨closed, close, are⟩ := closes
  rw [← keys_eq (fun _ _ is => is.1) are] at fresh
  have opened : draft.openTable false [key] span = (Draft.claimTable key closed).map
      fun claimed => ⟨claimed.2, [key], false, ⟨.header, some span, claimed.1⟩⟩ := by
    rw [Draft.openTable, close, Option.map_eq_bind]
    rfl
  rw [claimTable_eq (get?_eq_none fresh)] at opened
  exact ⟨_, opened, ⟨⟨key, rfl, rfl⟩, rfl, rfl, are, .nil⟩⟩

theorem Opens.put {sections : List Section} {part : Section} {draft : Draft}
    (opens : Opens sections part draft) {field : Field} {key : Key} {node : Node}
    (fresh : field.1 ∉ part.2.map Prod.fst) (is : IsField part.1 field (key, node)) :
    ∃ extended, draft.putEntry [key] node = some extended ∧
      Opens sections (part.1, part.2 ++ [field]) extended := by
  have sameEntries := Draft.entries_extendSpan draft.current node
  have form := (form_extendSpan draft.current node).trans opens.form
  have named : key.text = field.1 := is.1
  rw [← keys_eq (fun _ _ is => is.1) opens.fields, ← sameEntries, ← named] at fresh
  have put : draft.putEntry [key] node =
      (Table.putDotted [] key node (Draft.extendSpan draft.current node)).map
        fun extended => { draft with current := extended.2 } := by
    rw [Option.map_eq_bind]
    rfl
  rw [putDotted_eq form (get?_eq_none fresh)] at put
  refine ⟨_, put, ⟨opens.path, opens.single, form, opens.done, ?_⟩⟩
  have extended := List.rel_append opens.fields (.cons is .nil)
  rw [← sameEntries] at extended
  exact extended

/-! ## Documents -/

/-- A field of a section can be written down: its name needs no quotes, and its setting is of its
kind. -/
structure CanWrite (heading : String) (field : Field) : Prop where
  bare : IsBare field.1
  kind : ∃ kind, kind? heading field.1 = some kind ∧ field.2.kind? = some kind
  inRange : field.2.InRange

/-- A section can be written down: its fields can, and none of them occurs twice. -/
structure CanWriteSection (part : Section) : Prop where
  bare : IsBare part.1
  distinct : (part.2.map Prod.fst).Nodup
  fields : ∀ field ∈ part.2, CanWrite part.1 field

theorem notMem_of_nodup_append {named : List (String × ν)} {item : String × ν}
    {others : List (String × ν)} (distinct : ((named ++ item :: others).map Prod.fst).Nodup) :
    item.1 ∉ named.map Prod.fst := by
  rw [List.map_append, List.nodup_append] at distinct
  exact fun old => distinct.2.2 _ old _ (by simp) rfl

/-- The fields of a section are read line by line into the table that is open. -/
theorem reads_fields {heading : String} {before fields : List Field} {back : List Char}
    {goal : Draft → Prop} (opens : Opens done (heading, before) draft)
    (canWrite : ∀ field ∈ fields, CanWrite heading field)
    (distinct : ((before ++ fields).map Prod.fst).Nodup)
    (enough : (fields.flatMap spellField).length ≤ fuel)
    (enoughLines : (fields.flatMap spellField ++ back).length < lines)
    (reads : ∀ extended lines, Opens done (heading, before ++ fields) extended →
      back.length < lines → Reads (documentLines (fuel + 1) lines extended) back rest goal) :
    Reads (documentLines (fuel + 1) lines draft) (fields.flatMap spellField ++ back) rest goal := by
  -- Each line that is read moves its field behind those of the open section.
  induction fields generalizing before draft lines with
  | nil => exact reads draft lines (by simpa using opens) enoughLines
  | cons field fields ih =>
      obtain ⟨bare, ⟨kind, known, holds⟩, inRange⟩ := canWrite field (by simp)
      have spelled : (field :: fields).flatMap spellField ++ back = field.1.toList ++
          '=' :: field.2.spell ++ '\n' :: (fields.flatMap spellField ++ back) := by
        simp [spellField]
      rw [spelled] at enoughLines ⊢
      simp only [List.flatMap_cons, spellField, List.length_append, List.length_cons] at enough
      simp only [List.length_append, List.length_cons] at enoughLines
      obtain ⟨lines, rfl⟩ : ∃ less, lines = less + 1 := ⟨lines - 1, by omega⟩
      refine reads_entryLine bare (isLineBlank_of_head? holds)
        (reads_spell holds inRange (by omega)) ?_
      intro key node named read
      have is : IsField heading field (key, node) :=
        ⟨named, by rw [settingOf?, known]; exact read⟩
      obtain ⟨extended, put, opensExtended⟩ := opens.put (notMem_of_nodup_append distinct) is
      refine ⟨extended, put, ih opensExtended
        (fun other member => canWrite other (by simp [member])) (by simpa using distinct)
        (by omega) ?_ (by simpa using reads)⟩
      rw [List.length_append]
      omega

/-- Sections are read one after the other. Each takes its place when the next one opens. -/
theorem reads_sections {sections : List Section} (closes : Closes done draft)
    (canWrite : ∀ part ∈ sections, CanWriteSection part)
    (distinct : ((done ++ sections).map Prod.fst).Nodup)
    (enough : (spellSections sections).length ≤ fuel)
    (enoughLines : (spellSections sections).length < lines) :
    Reads (documentLines (fuel + 1) lines draft) (spellSections sections) []
      (Closes (done ++ sections)) := by
  induction sections generalizing done draft lines with
  | nil =>
      obtain ⟨lines, rfl⟩ : ∃ less, lines = less + 1 := ⟨lines - 1, by omega⟩
      exact reads_noLine (by simpa using closes)
  | cons part sections ih =>
      obtain ⟨bare, distinctFields, fields⟩ := canWrite part (by simp)
      have fresh := notMem_of_nodup_append distinct
      have spelled : spellSections (part :: sections) = '[' :: (part.1.toList ++ [']']) ++
          '\n' :: (part.2.flatMap spellField ++ spellSections sections) := by
        simp [spellSections, spellSection]
      rw [spelled] at enough enoughLines ⊢
      simp only [List.length_append, List.length_cons] at enough enoughLines
      obtain ⟨lines, rfl⟩ : ∃ less, lines = less + 1 := ⟨lines - 1, by omega⟩
      refine reads_headerLine bare fun key span named => ?_
      obtain ⟨opened, open_eq, opens⟩ := closes.opens (named ▸ fresh) span
      rw [named] at opens
      refine ⟨opened, open_eq, reads_fields opens fields distinctFields (by omega)
        (by rw [List.length_append]; omega) fun extended lines opensExtended enoughLines => ?_⟩
      have next := ih (opensExtended.closes fresh)
        (fun other member => canWrite other (by simp [member])) (by simpa using distinct)
        (by omega) enoughLines
      simpa using next

theorem closes_start : Closes [] Draft.start :=
  ⟨Draft.start.current, rfl, .nil⟩

/-- Sections that are written down are read back as a document. -/
theorem exists_parse?_spellSections {sections : List Section}
    (canWrite : ∀ part ∈ sections, CanWriteSection part)
    (distinct : (sections.map Prod.fst).Nodup) :
    ∃ entries, Toml.parse? (String.ofList (spellSections sections)) = some entries ∧
      List.Forall₂ IsSection sections entries := by
  let length := (spellSections sections).length
  have reads : Reads (documentLines (2 * length + 1 + 1) (2 * length + 2) Draft.start)
      (spellSections sections) [] (Closes sections) :=
    reads_sections closes_start canWrite distinct (by omega) (by omega)
  obtain ⟨draft, after, read, closed, close, are⟩ := reads 0
  rw [List.append_nil] at read
  refine ⟨closed.entries, parse?_ofList ?_ read close, are⟩
  cases sections with
  | nil => exact nofun
  | cons part sections => simp [spellSections, spellSection]

end

end QueryFoundry.Config
