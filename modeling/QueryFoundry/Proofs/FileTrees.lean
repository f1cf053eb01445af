import Mathlib.Data.List.Infix
import Mathlib.Order.Defs.Unbundled
import QueryFoundry.Sandbox.FileTree

/-!
# How file trees change

A file tree is known by what lies at its places. Resolving a path looks at places one after the
other, all of them directories but the last one, so what a path leads to in a tree is what it leads
to in every other tree that keeps the directories of the first. From this follows what is found
after a directory was made or a file was written, and that nothing else is different then.
-/

namespace QueryFoundry.Sandbox

open Text (Octets)

theorem notMem_of_mem_splitOn {separator : Char} {text piece : List Char}
    (member : piece ∈ text.splitOn separator) : separator ∉ piece := by
  induction text generalizing piece with
  | nil =>
      rw [List.splitOn_nil, List.mem_singleton] at member
      simp [member]
  | cons first text ih =>
      rw [List.splitOn_cons_eq_if_modifyHead] at member
      split at member
      · rcases List.mem_cons.mp member with rfl | later
        · exact List.not_mem_nil
        · exact ih later
      · rename_i differs
        obtain ⟨head, tail, pieces⟩ := List.exists_cons_of_ne_nil (text.splitOn_ne_nil separator)
        rw [pieces] at ih member
        rcases List.mem_cons.mp member with rfl | later
        · rw [List.mem_cons, not_or]
          exact ⟨fun same => differs (by simp [same]), ih List.mem_cons_self⟩
        · exact ih (List.mem_cons_of_mem head later)

theorem lookup_map_update {κ α : Type} [BEq κ] [LawfulBEq κ] (entries : List (κ × α))
    (changed key : κ) (change : α → α) :
    (entries.map fun entry =>
        if entry.1 == changed then (changed, change entry.2) else entry).lookup key =
      (entries.lookup key).map fun value =>
        if key == changed then change value else value := by
  induction entries with
  | nil => rfl
  | cons entry entries ih =>
      obtain ⟨own, value⟩ := entry
      by_cases isChanged : own = changed
      · subst isChanged
        by_cases isKey : key = own
        · subst isKey
          simp
        · simp [List.lookup_cons, beq_false_of_ne isKey, ih]
      · by_cases isKey : key = own
        · subst isKey
          simp [isChanged]
        · simp [List.lookup_cons, beq_false_of_ne isKey, ih, isChanged]

namespace FileTree

variable {tree before between after : FileTree} {location place : Location} {base : Location}
variable {path : Octets}

@[simp]
theorem lookup_setTime (tree : FileTree) (location : Location) (time : Nat) :
    (tree.setTime location time).lookup = tree.lookup :=
  rfl

@[simp]
theorem lookup_atTime (tree : FileTree) (time : Nat) : (tree.atTime time).lookup = tree.lookup :=
  rfl

theorem lookup_entries_insert (tree : FileTree) (location place : Location) (entry : Entry) :
    (tree.insert location entry).entries.lookup place =
      if place == location then some entry else tree.entries.lookup place := by
  unfold insert
  split
  · rename_i present
    obtain ⟨old, found⟩ := Option.isSome_iff_exists.mp present
    refine (lookup_map_update tree.entries location place fun _ => entry).trans ?_
    by_cases same : place = location
    · simp [same, found]
    · simp [same]
  · rename_i missing
    have free := Option.not_isSome_iff_eq_none.mp missing
    refine List.lookup_append.trans ?_
    by_cases same : place = location
    · simp [same, free]
    · simp [List.lookup_cons, beq_false_of_ne same]

theorem lookup_insert (tree : FileTree) (inside : location ≠ []) (entry : Entry) :
    (tree.insert location entry).lookup =
      Function.update tree.lookup location (some entry) := by
  funext place
  rw [lookup, lookup_entries_insert]
  by_cases same : place = location
  · subst same
    simp [inside]
  · simp [lookup, same]

/-- Directories stay directories, and nothing is missing that was there. -/
structure Keeps (before after : FileTree) : Prop where
  directory : ∀ {place}, before.lookup place = some .directory →
    after.lookup place = some .directory
  present : ∀ {place}, (before.lookup place).isSome → (after.lookup place).isSome

instance : IsPreorder FileTree Keeps where
  refl _ := ⟨id, id⟩
  trans _ _ _ first second :=
    ⟨fun there => second.directory (first.directory there),
      fun there => second.present (first.present there)⟩

/-- Whatever is put in the place of a file or of nothing, the directories stay as they are. -/
theorem keeps_of_update {entry : Entry} (other : before.lookup place ≠ some .directory)
    (changed : after.lookup = Function.update before.lookup place (some entry)) :
    Keeps before after where
  directory {elsewhere} there := by
    have differs : elsewhere ≠ place := by
      rintro rfl
      exact other there
    rwa [changed, Function.update_of_ne differs]
  present {elsewhere} there := by
    rw [changed]
    by_cases same : elsewhere = place
    · subst same
      rw [Function.update_self]
      rfl
    · rwa [Function.update_of_ne same]

/-- What a path comes to whose last name leads to a place. -/
def arrive (tree : FileTree) (asDirectory : Bool) (location : Location) : Except IoError Target :=
  match tree.lookup location with
  | none => .ok ⟨location, none, asDirectory⟩
  | some .directory => .ok ⟨location, some .directory, asDirectory⟩
  | some entry =>
      if asDirectory then .error .notADirectory else .ok ⟨location, some entry, asDirectory⟩

theorem follow_cons (tree : FileTree) (asDirectory : Bool) (current : Location) (name : Octets)
    (rest : List Octets) :
    tree.follow asDirectory current (name :: rest) =
      if name == "." then tree.follow asDirectory current rest
      else if name == ".." then tree.follow asDirectory current.dropLast rest
      else if longestName < name.length then .error .nameTooLong
      else if rest = [] then tree.arrive asDirectory (current ++ [name])
      else match tree.lookup (current ++ [name]) with
        | none => .error .notFound
        | some .directory => tree.follow asDirectory (current ++ [name]) rest
        | some _ => .error .notADirectory := by
  rw [follow]
  cases rest with
  | nil =>
      simp only [arrive]
      rcases tree.lookup (current ++ [name]) with _ | _ | _ | _ <;> rfl
  | cons next rest =>
      rw [if_neg (List.cons_ne_nil next rest)]
      dsimp only
      rcases tree.lookup (current ++ [name]) with _ | _ | _ | _ <;> rfl

/-- A path leads to a target by a way through directories: to a directory that it only goes back to,
or to a place that is looked at last. -/
def Leads (tree : FileTree) (search : FileTree → Except IoError Target) (target : Target) : Prop :=
  (target.entry = some .directory ∧ ∀ after, Keeps tree after → search after = .ok target) ∨
    target.entry = tree.lookup target.location ∧ target.location ≠ [] ∧
      ∀ after, Keeps tree after → search after = after.arrive target.asDirectory target.location

theorem Leads.congr {search other : FileTree → Except IoError Target} {target : Target}
    (leads : Leads tree other target)
    (same : ∀ after, Keeps tree after → search after = other after) :
    Leads tree search target := by
  rcases leads with ⟨directory, stays⟩ | ⟨entry, inside, arrives⟩
  · exact .inl ⟨directory, fun after keeps => (same after keeps).trans (stays after keeps)⟩
  · exact .inr ⟨entry, inside, fun after keeps => (same after keeps).trans (arrives after keeps)⟩

theorem leads_arrive {asDirectory : Bool} {target : Target} (inside : location ≠ [])
    (arrived : tree.arrive asDirectory location = .ok target) :
    Leads tree (·.arrive asDirectory location) target := by
  have parts : target = ⟨location, tree.lookup location, asDirectory⟩ := by
    rw [arrive] at arrived
    split at arrived
    · rename_i missing
      rw [missing]
      exact (Except.ok.inj arrived).symm
    · rename_i directory
      rw [directory]
      exact (Except.ok.inj arrived).symm
    · rename_i entry _ there
      rw [there]
      split at arrived
      · cases arrived
      · exact (Except.ok.inj arrived).symm
  subst parts
  exact .inr ⟨rfl, inside, fun _ _ => rfl⟩

theorem leads_follow {asDirectory : Bool} {current : Location} {names : List Octets}
    {target : Target} (followed : tree.follow asDirectory current names = .ok target) :
    Leads tree (·.follow asDirectory current names) target := by
  induction names generalizing current with
  | nil =>
      cases followed
      exact .inl ⟨rfl, fun _ _ => rfl⟩
  | cons name rest ih =>
      rw [follow_cons] at followed
      split at followed
      · rename_i isHere
        refine (ih followed).congr fun after _ => ?_
        rw [follow_cons, if_pos isHere]
      split at followed
      · rename_i notHere isAbove
        refine (ih followed).congr fun after _ => ?_
        rw [follow_cons, if_neg notHere, if_pos isAbove]
      split at followed
      · cases followed
      rename_i notHere notAbove fits
      split at followed
      · rename_i isLast
        refine (leads_arrive (by simp) followed).congr fun after _ => ?_
        rw [follow_cons, if_neg notHere, if_neg notAbove, if_neg fits, if_pos isLast]
      rename_i goesOn
      split at followed
      · cases followed
      · -- The way goes on through a directory, which every such tree has too.
        rename_i directory
        refine (ih followed).congr fun after keeps => ?_
        rw [follow_cons, if_neg notHere, if_neg notAbove, if_neg fits, if_neg goesOn,
          keeps.directory directory]
      · cases followed

theorem leads_resolve {target : Target} (resolved : tree.resolve base path = .ok target) :
    Leads tree (·.resolve base path) target := by
  unfold resolve at resolved ⊢
  dsimp only at resolved ⊢
  split at resolved
  · cases resolved
  rename_i nonempty
  split at resolved
  · cases resolved
  rename_i fits
  split at resolved
  · cases resolved
  rename_i entry start
  refine (leads_follow resolved).congr fun after keeps => ?_
  obtain ⟨still, present⟩ := Option.isSome_iff_exists.mp (keeps.present (by rw [start]; rfl))
  simp only [if_neg nonempty, if_neg fits, present]

/-- A path that leads to no directory is resolved by a look at its last place. -/
theorem arrives_of_resolve {entry : Option Entry} {asDirectory : Bool}
    (resolved : tree.resolve base path = .ok ⟨place, entry, asDirectory⟩)
    (other : entry ≠ some .directory) :
    place ≠ [] ∧ tree.lookup place = entry ∧
      ∀ after, Keeps tree after → after.resolve base path = after.arrive asDirectory place := by
  rcases leads_resolve resolved with ⟨directory, -⟩ | ⟨same, inside, arrives⟩
  · exact absurd directory other
  · exact ⟨inside, same.symm, arrives⟩

theorem find_eq_ok_iff {entry : Entry} :
    tree.find base path = .ok (place, entry) ↔
      ∃ asDirectory, tree.resolve base path = .ok ⟨place, some entry, asDirectory⟩ := by
  unfold find
  rcases tree.resolve base path with error | ⟨location, found, asDirectory⟩
  · simp [bind, Except.bind]
  · cases found with
    | none => simp [bind, Except.bind, throw, throwThe, MonadExceptOf.throw]
    | some found => simp [bind, Except.bind, pure, Except.pure, and_comm]

/-- A directory that a path leads to stays where it is found. -/
theorem Keeps.find_directory (keeps : Keeps before after)
    (found : before.find base path = .ok (place, .directory)) :
    after.find base path = .ok (place, .directory) := by
  obtain ⟨asDirectory, resolved⟩ := find_eq_ok_iff.mp found
  refine find_eq_ok_iff.mpr ⟨asDirectory, ?_⟩
  rcases leads_resolve resolved with ⟨-, stays⟩ | ⟨entry, -, arrives⟩
  · exact stays after keeps
  · refine (arrives after keeps).trans ?_
    rw [arrive, keeps.directory entry.symm]

/-- A directory that is made at a path is new, and the path leads to it from then on. -/
theorem createDirectory_eq_ok {made : FileTree} (unended : path.toList.getLast? ≠ some '/')
    (creates : tree.createDirectory base path = .ok made) :
    ∃ place, place ≠ [] ∧ tree.lookup place = none ∧ made = tree.insert place .directory ∧
      made.find base path = .ok (place, .directory) := by
  have whole : (path.toList.reverse.dropWhile (· == '/')).reverse = path.toList := by
    rw [← List.reverse_inj, List.reverse_reverse]
    cases backwards : path.toList.reverse with
    | nil => rfl
    | cons last rest =>
        have differs : last ≠ '/' := by
          rintro rfl
          rw [← List.head?_reverse, backwards] at unended
          exact unended rfl
        simp [differs]
  have resolved : ∃ place asDirectory,
      tree.resolve base path = .ok ⟨place, none, asDirectory⟩ ∧
        made = tree.insert place .directory := by
    unfold createDirectory at creates
    rcases resolves : tree.resolve base path with error | ⟨place, entry, asDirectory⟩
    · simp only [resolves, whole, String.ofList_toList] at creates
      split at creates
      · cases creates
      · cases creates
    · simp only [resolves] at creates
      cases entry with
      | some entry => cases creates
      | none => exact ⟨place, asDirectory, rfl, (Except.ok.inj creates).symm⟩
  obtain ⟨place, asDirectory, resolved, rfl⟩ := resolved
  obtain ⟨inside, free, arrives⟩ := arrives_of_resolve resolved (by simp)
  refine ⟨place, inside, free, rfl, find_eq_ok_iff.mpr ⟨asDirectory, ?_⟩⟩
  have made := lookup_insert tree inside .directory
  rw [arrives _ (keeps_of_update (by simp [free]) made), arrive, made, Function.update_self]

/-- Where nothing was there is a directory, and one of some paths leads to it. -/
structure IsMade (base : Location) (paths : List Octets) (before after : FileTree)
    (place : Location) : Prop where
  missing : before.lookup place = none
  made : after.lookup place = some .directory
  reached : ∃ path ∈ paths, after.find base path = .ok (place, .directory)

theorem IsMade.later {paths : List Octets} (isMade : IsMade base paths before between place)
    (keeps : Keeps between after) : IsMade base paths before after place where
  missing := isMade.missing
  made := keeps.directory isMade.made
  reached := by
    obtain ⟨path, member, found⟩ := isMade.reached
    exact ⟨path, member, keeps.find_directory found⟩

/-- A tree has more directories than before, where some paths lead, and is otherwise as it was. -/
def Gains (base : Location) (paths : List Octets) (before after : FileTree) : Prop :=
  ∀ place, after.lookup place = before.lookup place ∨ IsMade base paths before after place

namespace Gains

variable {paths more : List Octets}

theorem refl (base : Location) (paths : List Octets) (tree : FileTree) :
    Gains base paths tree tree :=
  fun _ => .inl rfl

theorem keeps (gains : Gains base paths before after) : Keeps before after where
  directory {place} there := by
    rcases gains place with same | isMade
    · exact same.trans there
    · exact isMade.made
  present {place} there := by
    rcases gains place with same | isMade
    · rwa [same]
    · rw [isMade.made]
      rfl

theorem mono (gains : Gains base paths before after) (included : paths ⊆ more) :
    Gains base more before after := by
  intro place
  rcases gains place with same | ⟨missing, made, path, member, found⟩
  · exact .inl same
  · exact .inr ⟨missing, made, path, included member, found⟩

theorem trans (first : Gains base paths before between) (second : Gains base paths between after) :
    Gains base paths before after := by
  intro place
  rcases second place with same | isMade
  · rcases first place with unchanged | isMade
    · exact .inl (same.trans unchanged)
    · exact .inr (isMade.later second.keeps)
  · rcases first place with unchanged | isThere
    · exact .inr ⟨unchanged.symm.trans isMade.missing, isMade.made, isMade.reached⟩
    · exact absurd (isThere.made.symm.trans isMade.missing) (by simp)

theorem of_atTime (time : Nat) (gains : Gains base paths (before.atTime time) after) :
    Gains base paths before after := by
  intro place
  rcases gains place with same | isMade
  · exact .inl same
  · exact .inr ⟨isMade.missing, isMade.made, isMade.reached⟩

end Gains

theorem gains_createDirectory {made : FileTree} (unended : path.toList.getLast? ≠ some '/')
    (creates : tree.createDirectory base path = .ok made) : Gains base [path] tree made := by
  obtain ⟨place, inside, free, rfl, found⟩ := createDirectory_eq_ok unended creates
  have changed := lookup_insert tree inside .directory
  intro other
  by_cases same : other = place
  · subst same
    refine .inr ⟨free, ?_, path, List.mem_singleton_self path, found⟩
    rw [changed, Function.update_self]
  · refine .inl ?_
    rw [changed, Function.update_of_ne same]

def IsName (name : Octets) : Prop :=
  name ≠ "" ∧ '/' ∉ name.toList

theorem isName_of_mem_namesOf {name : Octets} (member : name ∈ namesOf path) : IsName name := by
  obtain ⟨piece, named⟩ := List.mem_filter.mp member
  simp only [Bool.and_eq_true, bne_iff_ne] at named
  refine ⟨named.1, ?_⟩
  obtain ⟨characters, split, rfl⟩ := List.mem_map.mp piece
  rw [String.toList_ofList]
  exact notMem_of_mem_splitOn split

theorem exists_intercalate_eq (front : List Octets) (last : Octets) :
    ∃ start, "/".intercalate (front ++ [last]) = start ++ last := by
  induction front with
  | nil => exact ⟨"", by simp⟩
  | cons first front ih =>
      obtain ⟨start, joined⟩ := ih
      obtain ⟨next, rest, shape⟩ := List.exists_cons_of_ne_nil
        (List.append_ne_nil_of_right_ne_nil front (List.cons_ne_nil last []))
      rw [shape] at joined
      refine ⟨first ++ "/" ++ start, ?_⟩
      rw [List.cons_append, shape, String.intercalate_cons_cons, joined]
      simp only [String.append_assoc]

theorem getLast?_pathThrough (root : Octets) (front : List Octets) {last : Octets}
    (named : IsName last) : (pathThrough root (front ++ [last])).toList.getLast? ≠ some '/' := by
  obtain ⟨start, joined⟩ := exists_intercalate_eq front last
  have nonempty : last.toList ≠ [] := by
    intro empty
    exact named.1 (String.toList_eq_nil_iff.mp empty)
  rw [pathThrough, joined, ← String.append_assoc, String.toList_append,
    List.getLast?_append_of_ne_nil _ nonempty]
  exact fun ends => named.2 (List.mem_of_getLast? ends)

/-- Whatever comes of it, making a directory and those above it makes directories only, and only
there. -/
theorem gains_makeDirectoriesFrom (base : Location) (root : Octets) {names : List Octets}
    (named : ∀ name ∈ names, IsName name) (tree : FileTree) :
    Gains base (names.tails.map fun above => pathThrough root above.reverse) tree
      (makeDirectoriesFrom base root names tree).2 := by
  induction names generalizing tree with
  | nil => exact .refl _ _ _
  | cons name above ih =>
      have unended : (pathThrough root (name :: above).reverse).toList.getLast? ≠ some '/' := by
        rw [List.reverse_cons]
        exact getLast?_pathThrough root above.reverse (named name List.mem_cons_self)
      have createsGain {before made : FileTree} (creates : before.createDirectory base
          (pathThrough root (name :: above).reverse) = .ok made) :
          Gains base ((name :: above).tails.map fun above => pathThrough root above.reverse) before
            made :=
        (gains_createDirectory unended creates).mono (by simp)
      have aboveNamed : ∀ name ∈ above, IsName name :=
        fun other member => named other (List.mem_cons_of_mem name member)
      have aboveGains :
          Gains base ((name :: above).tails.map fun above => pathThrough root above.reverse) tree
            (makeDirectoriesFrom base root above tree).2 :=
        (ih aboveNamed tree).mono (by simp)
      -- The directory is tried again only once those above it have been made.
      rw [makeDirectoriesFrom]
      split
      · rename_i made creates
        exact createsGain creates
      · split
        · rename_i left failed
          rw [failed] at aboveGains
          exact aboveGains
        · rename_i made done
          rw [done] at aboveGains
          split
          · rename_i complete creates
            exact aboveGains.trans (createsGain creates)
          · exact aboveGains
      · exact .refl _ _ _

/-- The paths through the first names of a path: the path itself and those above it. -/
def ancestorsOf (path : Octets) : List Octets :=
  (namesOf path).inits.map (pathThrough (rootOf path))

theorem gains_makeDirectories (tree : FileTree) (base : Location) (path : Octets) :
    Gains base (ancestorsOf path) tree (tree.makeDirectories base path).2 := by
  refine (gains_makeDirectoriesFrom base (rootOf path) (fun name member =>
    isName_of_mem_namesOf (List.mem_reverse.mp member)) tree).mono fun ancestor member => ?_
  obtain ⟨above, suffix, rfl⟩ := List.mem_map.mp member
  refine List.mem_map.mpr ⟨above.reverse, ?_, rfl⟩
  rw [List.mem_tails] at suffix
  rw [List.mem_inits]
  simpa using List.reverse_prefix.mpr suffix

theorem create_eq_ok {created : FileTree} (creates : tree.create base path = .ok (place, created)) :
    (∃ entry asDirectory, entry ≠ .directory ∧
      tree.resolve base path = .ok ⟨place, some entry, asDirectory⟩ ∧ created = tree) ∨
    tree.resolve base path = .ok ⟨place, none, false⟩ ∧
      created = tree.insert place (.file "" false) := by
  unfold create at creates
  dsimp only at creates
  rcases resolves : tree.resolve base path with error | ⟨location, entry, asDirectory⟩
  · simp only [resolves] at creates
    split at creates
    · cases creates
    · cases creates
  · simp only [resolves] at creates
    cases entry with
    | none =>
        cases asDirectory with
        | true => cases creates
        | false =>
            cases creates
            exact .inr ⟨rfl, rfl⟩
    | some entry =>
        cases entry with
        | directory => cases creates
        | file content executable =>
            cases creates
            exact .inl ⟨_, _, by simp, rfl, rfl⟩
        | device kind =>
            cases creates
            exact .inl ⟨_, _, by simp, rfl, rfl⟩

theorem lookup_setContent {old : Octets} {executable : Bool} (content : Octets)
    (inside : place ≠ []) (there : tree.lookup place = some (.file old executable)) :
    (tree.setContent place content).lookup =
      Function.update tree.lookup place (some (.file content executable)) := by
  rw [setContent, there]
  exact lookup_insert tree inside _

theorem find_file {entry : Option Entry} {content : Octets} {executable : Bool}
    (resolved : tree.resolve base path = .ok ⟨place, entry, false⟩)
    (other : entry ≠ some .directory)
    (changed : after.lookup =
      Function.update tree.lookup place (some (.file content executable))) :
    Keeps tree after ∧ after.find base path = .ok (place, .file content executable) := by
  obtain ⟨-, there, arrives⟩ := arrives_of_resolve resolved other
  have keeps : Keeps tree after := keeps_of_update (by rwa [there]) changed
  refine ⟨keeps, find_eq_ok_iff.mpr ⟨false, ?_⟩⟩
  rw [arrives after keeps, arrive, changed, Function.update_self]
  rfl

/-- The content of the file at a path is new, and nothing else is different. A device takes what is
written to it. -/
theorem write_eq_ok {content : Octets} (writes : tree.write base path content = .ok after) :
    Keeps tree after ∧ ∃ place, (∀ other, other ≠ place → after.lookup other = tree.lookup other) ∧
      ((∃ executable, after.find base path = .ok (place, .file content executable)) ∨
        ∃ kind, tree.lookup place = some (.device kind) ∧
          tree.find base path = .ok (place, .device kind) ∧ after = tree) := by
  rcases creates : tree.create base path with error | ⟨place, created⟩
  · rw [write, creates] at writes
    cases writes
  rw [write, creates] at writes
  obtain rfl : created.setContent place content = after := Except.ok.inj writes
  rcases create_eq_ok creates with ⟨entry, asDirectory, other, resolved, rfl⟩ | ⟨resolved, rfl⟩
  · have notDirectory : some entry ≠ some Entry.directory := by simpa using other
    obtain ⟨inside, there, arrives⟩ := arrives_of_resolve resolved notDirectory
    cases entry with
    | directory => exact absurd rfl other
    | device kind =>
        have same : created.setContent place content = created := by rw [setContent, there]
        rw [same]
        have found : created.find base path = .ok (place, .device kind) :=
          find_eq_ok_iff.mpr ⟨asDirectory, resolved⟩
        exact ⟨refl_of Keeps created, place, fun _ _ => rfl, .inr ⟨kind, there, found, rfl⟩⟩
    | file old executable =>
        -- A path that can only lead to a directory does not lead to this file.
        cases asDirectory with
        | true =>
            rw [arrives created (refl_of Keeps created), arrive, there] at resolved
            cases resolved
        | false =>
            have changed := lookup_setContent content inside there
            obtain ⟨keeps, found⟩ := find_file resolved notDirectory changed
            refine ⟨keeps, place, fun other differs => ?_, .inl ⟨executable, found⟩⟩
            rw [changed, Function.update_of_ne differs]
  · obtain ⟨inside, -, -⟩ := arrives_of_resolve resolved (by simp)
    have made := lookup_insert tree inside (.file "" false)
    have changed := lookup_setContent content inside
      (by rw [made, Function.update_self])
    rw [made, Function.update_idem] at changed
    obtain ⟨keeps, found⟩ := find_file resolved (by simp) changed
    refine ⟨keeps, place, fun other differs => ?_, .inl ⟨false, found⟩⟩
    rw [changed, Function.update_of_ne differs]

end FileTree

end QueryFoundry.Sandbox
