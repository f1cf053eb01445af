import Mathlib.Algebra.Group.Int.Defs
import Mathlib.Algebra.Group.Nat.Defs
import QueryFoundry.Toml.Document

/-!
# The form of documents

What every document that was read keeps to: no table in it names a key twice, and its whole numbers
are signed numbers of 64 bits. Readers are followed value by value. An action on a table keeps the
form of the table, and so does the same action at the end of a path of keys.
-/

namespace QueryFoundry.Toml

variable {α β : Type}

/-- No table in a tree names a key twice, and whole numbers are signed ones of 64 bits. -/
inductive Node.WellFormed : Node → Prop
  | text (span : Span) (value : String) : WellFormed (.text span value)
  | integer (span : Span) {value : Int} (least : -(2 ^ 63) ≤ value) (greatest : value < 2 ^ 63) :
      WellFormed (.integer span value)
  | float (span : Span) (value : Binary64) : WellFormed (.float span value)
  | boolean (span : Span) (value : Bool) : WellFormed (.boolean span value)
  | datetime (span : Span) : WellFormed (.datetime span)
  | array (span : Span) {items : List Node} (each : ∀ item ∈ items, WellFormed item) :
      WellFormed (.array span items)
  | tables (span : Option Span) {items : List Node} (each : ∀ item ∈ items, WellFormed item) :
      WellFormed (.tables span items)
  | table (form : TableForm) (span : Option Span) {entries : List (Key × Node)}
      (distinct : (entries.map fun entry => entry.1.text).Nodup)
      (values : ∀ entry ∈ entries, WellFormed entry.2) : WellFormed (.table form span entries)

/-- The entries of a well-formed table: distinct keys with well-formed values. -/
structure WellFormed (entries : List (Key × Node)) : Prop where
  distinct : (entries.map fun entry => entry.1.text).Nodup
  values : ∀ entry ∈ entries, entry.2.WellFormed

theorem Node.WellFormed.entries {form : TableForm} {span : Option Span}
    {entries : List (Key × Node)} (wellFormed : (Node.table form span entries).WellFormed) :
    Toml.WellFormed entries := by
  cases wellFormed with
  | table _ _ distinct values => exact ⟨distinct, values⟩

theorem Node.WellFormed.items {span : Option Span} {items : List Node}
    (wellFormed : (Node.tables span items).WellFormed) : ∀ item ∈ items, item.WellFormed := by
  cases wellFormed with
  | tables _ each => exact each

theorem WellFormed.node {entries : List (Key × Node)} (wellFormed : WellFormed entries)
    (form : TableForm) (span : Option Span) : (Node.table form span entries).WellFormed :=
  .table form span wellFormed.distinct wellFormed.values

theorem WellFormed.nil : WellFormed [] :=
  ⟨List.nodup_nil, by simp⟩

/-! ## Actions on tables -/

namespace Table

theorem exists_mem_of_get? {table : Table} {key : String} {node : Node}
    (found : table.get? key = some node) : ∃ entry ∈ table.entries, entry.2 = node := by
  obtain ⟨entry, hit, rfl⟩ := Option.map_eq_some_iff.mp found
  exact ⟨entry, List.mem_of_find?_eq_some hit, rfl⟩

theorem wellFormed_get? {table : Table} {key : String} {node : Node}
    (wellFormed : WellFormed table.entries) (found : table.get? key = some node) :
    node.WellFormed := by
  obtain ⟨entry, member, rfl⟩ := exists_mem_of_get? found
  exact wellFormed.values entry member

theorem wellFormed_push {table : Table} {key : Key} {node : Node}
    (wellFormed : WellFormed table.entries) (fresh : table.get? key.text = none)
    (value : node.WellFormed) : WellFormed (table.push key node).entries where
  distinct := by
    have absent : ∀ entry ∈ table.entries, entry.1.text ≠ key.text := by
      simpa only [get?, Option.map_eq_none_iff, List.find?_eq_none, beq_iff_eq] using fresh
    simp only [push, List.map_append, List.map_cons, List.map_nil]
    refine List.nodup_append.mpr ⟨wellFormed.distinct, by simp, ?_⟩
    rintro _ old _ new
    obtain ⟨entry, member, rfl⟩ := List.mem_map.mp old
    obtain rfl := List.mem_singleton.mp new
    exact absent entry member
  values := by
    intro entry member
    rcases List.mem_append.mp member with old | new
    · exact wellFormed.values entry old
    · obtain rfl : entry = (key, node) := by simpa using new
      exact value

theorem wellFormed_replace {table : Table} {key : String} {node : Node}
    (wellFormed : WellFormed table.entries) (value : node.WellFormed) :
    WellFormed (table.replace key node).entries where
  distinct := by
    have sameKeys : (table.replace key node).entries.map (fun entry => entry.1.text) =
        table.entries.map fun entry => entry.1.text := by
      simp only [replace, List.map_map]
      refine List.map_congr_left fun entry _ => ?_
      exact apply_ite (fun entry : Key × Node => entry.1.text) _ _ _ |>.trans (ite_self _)
    rw [sameKeys]
    exact wellFormed.distinct
  values := by
    intro entry member
    obtain ⟨old, oldMember, rfl⟩ := List.mem_map.mp member
    by_cases hit : (old.1.text == key) = true
    · simpa [hit] using value
    · simpa [hit] using wellFormed.values old oldMember

theorem wellFormed_erase {table : Table} (key : String) (wellFormed : WellFormed table.entries) :
    WellFormed (table.erase key).entries where
  distinct := wellFormed.distinct.sublist (List.filter_sublist.map _)
  values entry member := wellFormed.values entry (List.mem_filter.mp member).1

/-- What an action makes of a table is well formed, and what it answers has a property. -/
def KeepsAt (table : Table) (action : StateT Table Option α) (property : α → Prop) : Prop :=
  ∀ (answer : α) (after : Table), action table = some (answer, after) →
    WellFormed after.entries ∧ property answer

/-- The same for every well-formed table. -/
def Keeps (action : StateT Table Option α) (property : α → Prop) : Prop :=
  ∀ table : Table, WellFormed table.entries → KeepsAt table action property

section

variable {table after : Table} {property : α → Prop}

theorem keepsAt_failure : KeepsAt table failure property := by
  rintro _ _ ⟨⟩

theorem keepsAt_pure {answer : α} (wellFormed : WellFormed table.entries)
    (holds : property answer) : KeepsAt table (pure answer) property := by
  rintro _ _ ⟨⟩
  exact ⟨wellFormed, holds⟩

theorem keepsAt_set (wellFormed : WellFormed after.entries) :
    KeepsAt table (set after) fun _ => True := by
  rintro _ _ ⟨⟩
  exact ⟨wellFormed, trivial⟩

theorem KeepsAt.look {next : Table → StateT Table Option α}
    (keeps : KeepsAt table (next table) property) : KeepsAt table (get >>= next) property :=
  keeps

end

/-- What an action keeps in a table, it keeps at the end of a path. -/
theorem keeps_actAt {dotted : Bool} {action : StateT Table Option α} {property : α → Prop}
    (keeps : Keeps action property) (path : List Key) :
    Keeps (actAt dotted action path) property := by
  induction path with
  | nil => exact keeps
  | cons key path ih =>
      -- The path goes on in a new table, in the one that is there or in the last one of a list.
      intro table wellFormed answer after acted
      simp only [actAt] at acted
      split at acted
      · rename_i fresh
        obtain ⟨⟨result, child⟩, below, rest⟩ := Option.bind_eq_some_iff.mp acted
        obtain ⟨rfl, rfl⟩ : result = answer ∧ table.push key child.toNode = after := by
          simpa using rest
        obtain ⟨childWellFormed, holds⟩ := ih _ .nil _ _ below
        exact ⟨wellFormed_push wellFormed fresh (childWellFormed.node _ _), holds⟩
      · rename_i form span entries found
        split at acted
        · cases acted
        · obtain ⟨⟨result, child⟩, below, rest⟩ := Option.bind_eq_some_iff.mp acted
          obtain ⟨rfl, rfl⟩ : result = answer ∧ table.replace key.text child.toNode = after := by
            simpa using rest
          obtain ⟨childWellFormed, holds⟩ :=
            ih _ (wellFormed_get? wellFormed found).entries _ _ below
          exact ⟨wellFormed_replace wellFormed (childWellFormed.node _ _), holds⟩
      · rename_i span items found
        have each := (wellFormed_get? wellFormed found).items
        split at acted
        · rename_i form itemSpan entries last
          obtain ⟨⟨result, child⟩, below, rest⟩ := Option.bind_eq_some_iff.mp acted
          obtain ⟨rfl, rfl⟩ : result = answer ∧ table.replace key.text
              (.tables span (items.dropLast ++ [child.toNode])) = after := by simpa using rest
          obtain ⟨childWellFormed, holds⟩ :=
            ih _ (each _ (List.mem_of_getLast? last)).entries _ _ below
          refine ⟨wellFormed_replace wellFormed (.tables span ?_), holds⟩
          intro item member
          rcases List.mem_append.mp member with old | new
          · exact each item (List.dropLast_subset items old)
          · obtain rfl : item = child.toNode := by simpa using new
            exact childWellFormed.node _ _
        · cases acted
      · cases acted

theorem keeps_putDotted (path : List Key) (key : Key) {node : Node} (value : node.WellFormed) :
    Keeps (putDotted path key node) fun _ => True := by
  refine keeps_actAt (fun target wellFormed => ?_) path
  refine .look ?_
  split
  · exact keepsAt_failure
  · rename_i admitted
    have fresh : target.get? key.text = none := by
      simp only [Bool.or_eq_true, not_or, Option.not_isSome_iff_eq_none] at admitted
      exact admitted.2
    exact keepsAt_set (wellFormed_push wellFormed fresh value)

end Table

/-! ## Values -/

def Yields (reader : Reader α) (property : α → Prop) : Prop :=
  ∀ (cursor after : Cursor) (answer : α), reader cursor = some (answer, after) → property answer

namespace Yields

variable {reader : Reader α} {next : α → Reader β} {property : β → Prop}

protected theorem pure {answer : β} (holds : property answer) : Yields (pure answer) property := by
  rintro cursor after _ read
  obtain ⟨rfl, -⟩ := Prod.mk.inj (Option.some.inj read)
  exact holds

protected theorem failure : Yields (failure : Reader β) property := by
  rintro _ _ _ ⟨⟩

theorem bind_of {known : α → Prop} (first : Yields reader known)
    (second : ∀ answer, known answer → Yields (next answer) property) :
    Yields (reader >>= next) property := by
  intro cursor after last read
  obtain ⟨⟨answer, between⟩, readFirst, readSecond⟩ := Option.bind_eq_some_iff.mp read
  exact second answer (first _ _ _ readFirst) _ _ _ readSecond

protected theorem bind (second : ∀ answer, Yields (next answer) property) :
    Yields (reader >>= next) property := by
  have first : Yields reader fun _ => True := fun _ _ _ _ => trivial
  exact bind_of first fun answer _ => second answer

theorem orElse {first second : Reader β} (left : Yields first property)
    (right : Yields second property) : Yields (first <|> second) property := by
  intro cursor after answer read
  rcases tried : first cursor with _ | ⟨value, behind⟩
  · refine right cursor after answer ?_
    simpa [HOrElse.hOrElse, OrElse.orElse, Alternative.orElse, StateT.orElse, tried] using read
  · refine left cursor after answer ?_
    simpa [HOrElse.hOrElse, OrElse.orElse, Alternative.orElse, StateT.orElse, tried] using read

theorem ite {condition : Prop} [Decidable condition] {first second : Reader β}
    (left : condition → Yields first property) (right : ¬condition → Yields second property) :
    Yields (if condition then first else second) property := by
  split
  · exact left ‹_›
  · exact right ‹_›

theorem spanned (known : β → Prop) {reader : Reader β} (yields : Yields reader known) :
    Yields (Reader.spanned reader) fun answer => known answer.1 :=
  .bind fun _ => bind_of yields fun _ holds => .bind fun _ => .pure holds

end Yields

theorem yields_signed64 (negative : Bool) (value : Nat) :
    Yields (signed64 negative value) fun number => -(2 ^ 63) ≤ number ∧ number < 2 ^ 63 := by
  have half : UInt64.size / 2 = 2 ^ 63 := by decide
  unfold signed64
  refine .ite (fun _ => .ite (fun fits => .pure ?_) fun _ => .failure) fun _ =>
    .ite (fun fits => .pure ?_) fun _ => .failure <;> omega

theorem yields_integer : Yields integer fun number => -(2 ^ 63) ≤ number ∧ number < 2 ^ 63 := by
  have based : ∀ (mark : String) (base : Nat) (isDigit : Char → Bool),
      Yields (do Reader.expect mark; signed64 false (digitsValue base (← digits isDigit)))
        fun number => -(2 ^ 63) ≤ number ∧ number < 2 ^ 63 :=
    fun _ _ _ => .bind fun _ => .bind fun _ => yields_signed64 _ _
  unfold integer
  refine .bind fun _ => .ite (fun _ => based _ _ _) fun _ => ?_
  refine .bind fun _ => .ite (fun _ => based _ _ _) fun _ => ?_
  refine .bind fun _ => .ite (fun _ => based _ _ _) fun _ => ?_
  exact .bind fun _ => .bind fun _ => yields_signed64 _ _

theorem yields_scalar : Yields scalar Node.WellFormed := by
  unfold scalar
  refine .bind fun next => ?_
  split
  · exact .bind fun _ => .pure (.text _ _)
  · exact .bind fun _ => .pure (.text _ _)
  · exact .bind fun _ => .pure (.boolean _ true)
  · exact .bind fun _ => .pure (.boolean _ false)
  · refine .orElse (.bind fun _ => .pure (.datetime _)) (.orElse ?_ ?_)
    · exact .bind fun _ => .pure (.float _ _)
    · refine .bind_of (.spanned _ yields_integer) fun _ bounds => ?_
      exact .pure (.integer _ bounds.1 bounds.2)

section

variable {fuel : Nat}

/-- Items of an array that are read behind well formed items are well formed with them. -/
def ItemsAreWellFormed (fuel : Nat) : Prop :=
  ∀ level read, (∀ item ∈ read, item.WellFormed) →
    Yields (arrayItems fuel level read) fun items => ∀ item ∈ items, item.WellFormed

/-- An inline table stays well formed with the entries that are read behind its own. -/
def EntriesAreWellFormed (fuel : Nat) : Prop :=
  ∀ level table, WellFormed table.entries →
    Yields (inlineEntries fuel level table) fun complete => WellFormed complete.entries

theorem yields_value (items : ItemsAreWellFormed fuel) (entries : EntriesAreWellFormed fuel)
    (level : Nat) : Yields (value (fuel + 1) level) Node.WellFormed := by
  unfold value
  refine .bind fun next => ?_
  split
  · refine .ite (fun _ => ?_) fun _ => .failure
    refine .bind_of (.spanned (fun items => ∀ item ∈ items, item.WellFormed) ?_)
      fun _ each => .pure (.array _ each)
    refine .bind fun _ => .bind fun _ => .bind fun _ => .ite (fun _ => ?_) fun _ => ?_
    · exact .bind fun _ => .pure (by simp)
    · exact items _ _ (by simp)
  · refine .ite (fun _ => ?_) fun _ => .failure
    refine .bind_of (.spanned (fun table => WellFormed table.entries) ?_)
      fun _ wellFormed => .pure (wellFormed.node _ _)
    refine .bind fun _ => .bind fun _ => .bind fun _ => .ite (fun _ => ?_) fun _ => ?_
    · exact .bind fun _ => .pure .nil
    · exact entries _ _ .nil
  · exact yields_scalar

theorem yields_arrayItems (values : ∀ level, Yields (value fuel level) Node.WellFormed)
    (items : ItemsAreWellFormed fuel) : ItemsAreWellFormed (fuel + 1) := by
  intro level read each
  unfold arrayItems
  refine .bind fun _ => .bind_of (values level) fun item itemWellFormed => ?_
  have extended : ∀ member ∈ item :: read, member.WellFormed := by
    simpa using ⟨itemWellFormed, each⟩
  have complete : ∀ member ∈ (item :: read).reverse, member.WellFormed := by
    simpa only [List.mem_reverse] using extended
  refine .bind fun _ => .bind fun next => ?_
  split
  · exact .pure complete
  · refine .bind fun _ => .bind fun _ => .ite (fun _ => ?_) fun _ => ?_
    · exact .bind fun _ => .pure complete
    · exact items level _ extended
  · exact .failure

theorem yields_inlineEntries (values : ∀ level, Yields (value fuel level) Node.WellFormed)
    (entries : EntriesAreWellFormed fuel) : EntriesAreWellFormed (fuel + 1) := by
  intro level table wellFormed
  unfold inlineEntries
  refine .bind fun keys => .bind fun _ => .bind fun _ => ?_
  refine .bind_of (values level) fun node nodeWellFormed => .bind fun _ => ?_
  split
  · exact .failure
  · rename_i path key _
    split
    · exact .failure
    · rename_i extended put
      have kept := (Table.keeps_putDotted path key nodeWellFormed _ wellFormed _ _ put).1
      refine .bind fun next => ?_
      split
      · exact .pure kept
      · exact entries level _ kept
      · exact .failure

/-- By induction on the fuel, at once for values, for the items of an array and for the entries of
an inline table, because each of them is read with those of less fuel. -/
theorem yields_values (fuel : Nat) :
    (∀ level, Yields (value fuel level) Node.WellFormed) ∧ ItemsAreWellFormed fuel ∧
      EntriesAreWellFormed fuel := by
  induction fuel with
  | zero => exact ⟨fun _ => .failure, fun _ _ _ => .failure, fun _ _ _ => .failure⟩
  | succ fuel ih =>
      obtain ⟨values, items, entries⟩ := ih
      exact ⟨yields_value items entries, yields_arrayItems values items,
        yields_inlineEntries values entries⟩

end

/-! ## Documents -/

namespace Draft

/-- The tables of a draft are well formed. -/
structure WellFormed (draft : Draft) : Prop where
  root : Toml.WellFormed draft.root.entries
  current : Toml.WellFormed draft.current.entries

theorem wellFormed_start : start.WellFormed :=
  ⟨.nil, .nil⟩

theorem entries_extendSpan (table : Table) (node : Node) :
    (extendSpan table node).entries = table.entries := by
  unfold extendSpan
  split <;> rfl

theorem wellFormed_putEntry {draft extended : Draft} {keys : List Key} {node : Node}
    (wellFormed : draft.WellFormed) (value : node.WellFormed)
    (put : draft.putEntry keys node = some extended) : extended.WellFormed := by
  obtain ⟨⟨path, key⟩, -, rest⟩ := Option.bind_eq_some_iff.mp put
  obtain ⟨⟨_, current⟩, putDotted, same⟩ := Option.bind_eq_some_iff.mp rest
  obtain rfl := Option.some.inj same
  refine ⟨wellFormed.root, (Table.keeps_putDotted path key value _ ?_ _ _ putDotted).1⟩
  rw [entries_extendSpan]
  exact wellFormed.current

theorem keeps_settle (isArrayItem : Bool) (key : Key) {node : Node} (value : node.WellFormed) :
    Table.Keeps (settle isArrayItem key node) fun _ => True := by
  intro parent wellFormed
  refine .look ?_
  split
  · rename_i fresh
    exact Table.keepsAt_set
      (Table.wellFormed_push wellFormed fresh (.tables _ (by simpa using value)))
  · rename_i items found
    have each := (Table.wellFormed_get? wellFormed found).items
    refine Table.keepsAt_set (Table.wellFormed_replace wellFormed (.tables _ ?_))
    intro item member
    rcases List.mem_append.mp member with old | new
    · exact each item old
    · obtain rfl := List.mem_singleton.mp new
      exact value
  · rename_i fresh
    exact Table.keepsAt_set (Table.wellFormed_push wellFormed fresh value)
  · exact Table.keepsAt_failure

theorem wellFormed_close {draft : Draft} {complete : Table} (wellFormed : draft.WellFormed)
    (closed : draft.close = some complete) : Toml.WellFormed complete.entries := by
  unfold close at closed
  split at closed
  · obtain rfl := Option.some.inj closed
    exact wellFormed.current
  · rename_i path key _
    obtain ⟨⟨_, after⟩, acted, rfl⟩ := Option.map_eq_some_iff.mp closed
    have value : draft.current.toNode.WellFormed := wellFormed.current.node _ _
    exact (Table.keeps_actAt (keeps_settle _ key value) path _ wellFormed.root _ _ acted).1

theorem keeps_claimTable (key : Key) : Table.Keeps (claimTable key) Toml.WellFormed := by
  intro parent wellFormed
  refine .look ?_
  split
  · exact Table.keepsAt_pure wellFormed .nil
  · rename_i entries found
    rintro _ _ ⟨⟩
    exact ⟨Table.wellFormed_erase _ wellFormed, (Table.wellFormed_get? wellFormed found).entries⟩
  · exact Table.keepsAt_failure

theorem keeps_admitTables (key : Key) : Table.Keeps (admitTables key) Toml.WellFormed := by
  intro parent wellFormed
  refine .look ?_
  split
  · exact Table.keepsAt_pure wellFormed .nil
  · exact Table.keepsAt_pure wellFormed .nil
  · exact Table.keepsAt_failure

theorem wellFormed_openTable {draft opened : Draft} {isArrayItem : Bool} {keys : List Key}
    {span : Span} (wellFormed : draft.WellFormed)
    (opens : draft.openTable isArrayItem keys span = some opened) : opened.WellFormed := by
  obtain ⟨complete, closed, rest⟩ := Option.bind_eq_some_iff.mp opens
  obtain ⟨⟨path, key⟩, -, claimed⟩ := Option.bind_eq_some_iff.mp rest
  obtain ⟨⟨entries, root⟩, acted, same⟩ := Option.bind_eq_some_iff.mp claimed
  obtain rfl := Option.some.inj same
  have claims : Table.Keeps (if isArrayItem then admitTables key else claimTable key)
      Toml.WellFormed := by
    cases isArrayItem with
    | false => exact keeps_claimTable key
    | true => exact keeps_admitTables key
  obtain ⟨rootWellFormed, entriesWellFormed⟩ :=
    Table.keeps_actAt claims path _ (wellFormed_close wellFormed closed) _ _ acted
  exact ⟨rootWellFormed, entriesWellFormed⟩

end Draft

theorem yields_documentLines (fuel lines : Nat) (draft : Draft) (wellFormed : draft.WellFormed) :
    Yields (documentLines fuel lines draft) Draft.WellFormed := by
  induction lines generalizing draft with
  | zero => exact .failure
  | succ lines ih =>
      unfold documentLines
      refine .bind fun _ => .bind fun next => ?_
      split
      · exact .pure wellFormed
      · exact .bind fun _ => .bind fun _ => ih draft wellFormed
      · exact .bind fun _ => ih draft wellFormed
      · exact .bind fun _ => ih draft wellFormed
      · refine .bind fun _ => .bind fun _ => ?_
        split
        · rename_i opened opens
          exact ih opened (Draft.wellFormed_openTable wellFormed opens)
        · exact .failure
      · have value : Yields (entry fuel) fun entry => entry.2.WellFormed :=
          .bind fun _ => .bind fun _ => .bind fun _ =>
            .bind_of ((yields_values fuel).1 0) fun _ wellFormed => .pure wellFormed
        refine .bind_of value fun entry entryWellFormed => .bind fun _ => ?_
        split
        · rename_i extended put
          exact ih extended (Draft.wellFormed_putEntry wellFormed entryWellFormed put)
        · exact .failure

/-- Every document that is read names no key twice, and its whole numbers are signed ones of 64
bits. -/
theorem wellFormed_of_parse? {text : String} {entries : List (Key × Node)}
    (read : parse? text = some entries) : WellFormed entries := by
  obtain ⟨⟨draft, _⟩, lines, rest⟩ := Option.bind_eq_some_iff.mp read
  obtain ⟨complete, closed, same⟩ := Option.bind_eq_some_iff.mp rest
  obtain rfl := Option.some.inj same
  exact Draft.wellFormed_close
    (yields_documentLines _ _ _ Draft.wellFormed_start _ _ _ lines) closed

end QueryFoundry.Toml
