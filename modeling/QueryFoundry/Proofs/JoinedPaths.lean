import QueryFoundry.Path
import QueryFoundry.Proofs.FileTrees

/-!
# Joined paths

Joining is associative, whether its pieces are absolute, empty or ended by a separator: an absolute
piece discards all that is in front of it on either side, and a separator is put behind a piece that
the next one is joined to, however that piece was joined to others before.

A path that is joined to a directory leads to where the path alone leads from that directory. The
names that a joined path goes through are those of its pieces, and a way that reaches a directory
goes on from there.
-/

namespace QueryFoundry.Path

variable {path left middle right other : Path}

theorem isAbsolute_iff : isAbsolute path ↔ path.toList.head? = some '/' := by
  unfold isAbsolute
  split
  · rename_i rest starts
    simp [starts]
  · rename_i differs
    cases characters : path.toList with
    | nil => simp
    | cons first rest =>
        have unlike : first ≠ '/' := by
          rintro rfl
          exact differs rest characters
        simp [unlike]

/-- What joining puts behind a directory, in front of a path that is not absolute. -/
def separatorBehind (directory : Path) : String :=
  if directory = "" ∨ directory.toList.getLast? = some '/' then "" else "/"

theorem separatorBehind_eq (directory : Path) :
    separatorBehind directory = if needsSeparator directory then "/" else "" := by
  unfold separatorBehind needsSeparator
  cases ends : directory.toList.getLast? with
  | none =>
      have empty : directory = "" := String.toList_eq_nil_iff.mp (List.getLast?_eq_none_iff.mp ends)
      simp [empty]
  | some last =>
      have nonempty : directory ≠ "" := by
        rintro rfl
        cases ends
      by_cases ended : last = '/'
      · simp [ended]
      · simp [nonempty, ended]

theorem join_of_absolute (absolute : isAbsolute right) : join left right = right :=
  if_pos absolute

theorem join_of_relative (relative : ¬isAbsolute right) :
    join left right = left ++ separatorBehind left ++ right := by
  rw [join, if_neg relative, separatorBehind_eq]
  split
  · rfl
  · rw [String.append_empty]

theorem isAbsolute_append (nonempty : left ≠ "") (rest : String) :
    isAbsolute (left ++ rest) ↔ isAbsolute left := by
  have present : left.toList ≠ [] := fun empty => nonempty (String.toList_eq_nil_iff.mp empty)
  rw [isAbsolute_iff, isAbsolute_iff, String.toList_append,
    List.head?_append_of_ne_nil _ present]

theorem separatorBehind_empty : separatorBehind "" = "" := rfl

theorem isAbsolute_join : isAbsolute (join left right) ↔ isAbsolute left ∨ isAbsolute right := by
  by_cases absolute : isAbsolute right
  · simp [join_of_absolute absolute, absolute]
  · rw [join_of_relative absolute]
    by_cases empty : left = ""
    · subst empty
      simp [separatorBehind_empty, absolute, isAbsolute_iff]
    · rw [String.append_assoc, isAbsolute_append empty]
      simp [absolute]

theorem separatorBehind_append (nonempty : right ≠ "") (front : String) :
    separatorBehind (front ++ right) = separatorBehind right := by
  have present : right.toList ≠ [] := fun empty => nonempty (String.toList_eq_nil_iff.mp empty)
  unfold separatorBehind
  rw [String.toList_append, List.getLast?_append_of_ne_nil _ present]
  simp [nonempty]

theorem separatorBehind_ended (directory : Path) :
    separatorBehind (directory ++ separatorBehind directory) = "" := by
  by_cases ended : directory = "" ∨ directory.toList.getLast? = some '/'
  · have nothing : separatorBehind directory = "" := if_pos ended
    rw [nothing, String.append_empty, nothing]
  · have separator : separatorBehind directory = "/" := if_neg ended
    rw [separator, separatorBehind_append (by decide)]
    rfl

/-- What is put behind a joined path is what is put behind its last piece. -/
theorem separatorBehind_join : separatorBehind (join left right) = separatorBehind right := by
  by_cases absolute : isAbsolute right
  · rw [join_of_absolute absolute]
  · rw [join_of_relative absolute]
    by_cases empty : right = ""
    · subst empty
      rw [String.append_empty, separatorBehind_ended, separatorBehind_empty]
    · rw [separatorBehind_append empty]

theorem join_assoc (left middle right : Path) :
    join (join left middle) right = join left (join middle right) := by
  by_cases absolute : isAbsolute right
  · -- Nothing in front of the last piece is kept.
    rw [join_of_absolute absolute, join_of_absolute absolute, join_of_absolute absolute]
  · by_cases rooted : isAbsolute middle
    · have behind : isAbsolute (join middle right) := isAbsolute_join.mpr (.inl rooted)
      rw [join_of_absolute rooted, join_of_absolute behind]
    · have behind : ¬isAbsolute (join middle right) := by
        rw [isAbsolute_join, not_or]
        exact ⟨rooted, absolute⟩
      rw [join_of_relative behind, join_of_relative absolute, join_of_relative absolute,
        separatorBehind_join, join_of_relative rooted]
      simp only [String.append_assoc]

theorem not_isAbsolute_empty : ¬isAbsolute "" := by
  simp [isAbsolute_iff]

theorem join_eq_empty_iff : join left right = "" ↔ left = "" ∧ right = "" := by
  by_cases absolute : isAbsolute right
  · have nonempty : right ≠ "" := by
      rintro rfl
      exact not_isAbsolute_empty absolute
    simp [join_of_absolute absolute, nonempty]
  · rw [join_of_relative absolute, String.append_eq_empty_iff, String.append_eq_empty_iff]
    constructor
    · exact fun empty => ⟨empty.1.1, empty.2⟩
    · rintro ⟨rfl, rfl⟩
      exact ⟨⟨rfl, separatorBehind_empty⟩, rfl⟩

/-- A nonempty directory ends in a separator once one is put behind it where it is needed. -/
theorem separator_mem_ended (nonempty : left ≠ "") :
    '/' ∈ (left ++ separatorBehind left).toList := by
  rw [String.toList_append, List.mem_append]
  by_cases ended : left.toList.getLast? = some '/'
  · exact .inl (List.mem_of_getLast? ended)
  · have separator : separatorBehind left = "/" := if_neg (not_or.mpr ⟨nonempty, ended⟩)
    exact .inr (by simp [separator])

/-- A joined path holds a separator unless nothing is in front of its last piece, which then has to
hold one itself. -/
theorem separator_mem_join_iff :
    '/' ∈ (join left right).toList ↔ left ≠ "" ∨ '/' ∈ right.toList := by
  by_cases absolute : isAbsolute right
  · have inside : '/' ∈ right.toList := List.mem_of_mem_head? (isAbsolute_iff.mp absolute)
    simp [join_of_absolute absolute, inside]
  · rw [join_of_relative absolute]
    by_cases empty : left = ""
    · simp [empty, separatorBehind_empty]
    · rw [String.toList_append, List.mem_append]
      exact iff_of_true (.inl (separator_mem_ended empty)) (.inl empty)

theorem join_right_inj (relative : ¬isAbsolute right) (otherRelative : ¬isAbsolute other) :
    join left right = join left other ↔ right = other := by
  rw [join_of_relative relative, join_of_relative otherRelative, String.append_right_inj]

theorem getLast?_join (nonempty : right ≠ "") :
    (join left right).toList.getLast? = right.toList.getLast? := by
  have present : right.toList ≠ [] := fun empty => nonempty (String.toList_eq_nil_iff.mp empty)
  by_cases absolute : isAbsolute right
  · rw [join_of_absolute absolute]
  · rw [join_of_relative absolute, String.toList_append, List.getLast?_append_of_ne_nil _ present]

end QueryFoundry.Path

namespace QueryFoundry.Sandbox.FileTree

open Text (Octets)

variable {tree : FileTree} {base current place : Location} {directory path name : Octets}

theorem piecesOf_append (first second : Octets) :
    piecesOf (first ++ "/" ++ second) = piecesOf first ++ piecesOf second := by
  have characters : (first ++ "/" ++ second).toList = first.toList ++ '/' :: second.toList := by
    simp
  rw [piecesOf, characters, List.splitOn, List.splitOnP_append_cons _ _ (by rfl), List.map_append]
  rfl

/-- The names that the resolution of a path goes through. -/
def stepsOf (path : Octets) : List Octets :=
  (piecesOf path).filter (· != "")

theorem stepsOf_empty : stepsOf "" = [] := by
  decide

theorem piecesOf_ne_nil (path : Octets) : piecesOf path ≠ [] := by
  simp [piecesOf]

/-- The pieces of a joined path are those of the path that is joined behind pieces with the names of
the directory. -/
theorem exists_piecesOf_join (directory : Octets) (relative : ¬Path.isAbsolute path) :
    ∃ front, piecesOf (Path.join directory path) = front ++ piecesOf path ∧
      front.filter (· != "") = stepsOf directory := by
  rw [Path.join_of_relative relative]
  by_cases empty : directory = ""
  · refine ⟨[], ?_, ?_⟩
    · rw [empty, Path.separatorBehind_empty]
      rfl
    · rw [empty, stepsOf_empty]
      rfl
  by_cases ended : directory.toList.getLast? = some '/'
  · -- Behind the last separator of the directory is an empty piece, which is not a name.
    obtain ⟨start, shape⟩ := List.getLast?_eq_some_iff.mp ended
    have whole : directory = String.ofList start ++ "/" ++ "" := by
      rw [← String.toList_inj, shape, String.append_empty, String.toList_append,
        String.toList_ofList]
      rfl
    have nothing : Path.separatorBehind directory = "" := if_pos (.inr ended)
    refine ⟨piecesOf (String.ofList start), ?_, ?_⟩
    · rw [nothing, String.append_empty, whole, String.append_empty, piecesOf_append]
    · rw [stepsOf, whole, piecesOf_append, List.filter_append]
      exact (List.append_nil _).symm
  · have separator : Path.separatorBehind directory = "/" := if_neg (not_or.mpr ⟨empty, ended⟩)
    exact ⟨piecesOf directory, by rw [separator, piecesOf_append], rfl⟩

theorem head?_piecesOf (nonempty : path ≠ "") :
    ((piecesOf path).head? == some "") = Path.isAbsolute path := by
  unfold piecesOf Path.isAbsolute
  cases characters : path.toList with
  | nil => exact absurd (String.toList_eq_nil_iff.mp characters) nonempty
  | cons first rest =>
      rw [List.splitOn_cons_eq_if_modifyHead]
      by_cases separates : first = '/'
      · subst separates
        rfl
      · obtain ⟨piece, pieces, split⟩ := List.exists_cons_of_ne_nil (rest.splitOn_ne_nil '/')
        rw [if_neg (by simpa using separates), split]
        simp [separates]

/-- Where the resolution of a path starts. -/
def startOf (base : Location) (path : Octets) : Location :=
  if Path.isAbsolute path then [] else base

theorem startOf_join (relative : ¬Path.isAbsolute path) :
    startOf base (Path.join directory path) = startOf base directory := by
  have same : Path.isAbsolute (Path.join directory path) = Path.isAbsolute directory := by
    rw [Bool.eq_iff_iff, Path.isAbsolute_join, or_iff_left relative]
  rw [startOf, startOf, same]

/-- Whether a path asks for a directory by its form. -/
def asksForDirectory (path : Octets) : Bool :=
  (piecesOf path).getLast? == some ""

theorem resolve_eq (nonempty : path ≠ "") (fits : path.length < pathLimit) :
    tree.resolve base path =
      match tree.lookup (startOf base path) with
      | none => .error .notFound
      | some _ => tree.follow (asksForDirectory path) (startOf base path) (stepsOf path) := by
  have present : ¬path.isEmpty := fun empty => nonempty (String.isEmpty_iff.mp empty)
  rw [resolve]
  simp only [if_neg present, if_neg (Nat.not_le_of_lt fits), head?_piecesOf nonempty]
  rfl

theorem eq_of_arrive {location : Location} {asDirectory : Bool} {target : Target}
    (arrived : tree.arrive asDirectory location = .ok target) :
    target = ⟨location, tree.lookup location, asDirectory⟩ := by
  unfold arrive at arrived
  split at arrived
  · rename_i there
    cases arrived
    rw [there]
  · rename_i there
    cases arrived
    rw [there]
  · rename_i there
    split at arrived
    · cases arrived
    · cases arrived
      rw [there]

/-- A way that reaches a directory goes on from there. Where it goes no further, it is a way to a
directory in any case. -/
theorem follow_append {asDirectory goesOn : Bool} {names rest : List Octets} {asked : Bool}
    (followed : tree.follow asDirectory current names = .ok ⟨place, some .directory, asked⟩)
    (ends : rest ≠ [] ∨ goesOn = true) :
    tree.follow goesOn current (names ++ rest) = tree.follow goesOn place rest := by
  induction names generalizing current with
  | nil =>
      cases followed
      rfl
  | cons name names ih =>
      rw [follow_cons] at followed
      rw [List.cons_append, follow_cons]
      split at followed
      · rename_i isHere
        rw [if_pos isHere, ih followed]
      rename_i notHere
      rw [if_neg notHere]
      split at followed
      · rename_i isAbove
        rw [if_pos isAbove, ih followed]
      rename_i notAbove
      rw [if_neg notAbove]
      split at followed
      · cases followed
      rename_i fits
      rw [if_neg fits]
      split at followed
      · -- This is where the way ended, in the directory that the other names go on from.
        rename_i isLast
        obtain ⟨rfl, there, -⟩ := Target.mk.inj (eq_of_arrive followed)
        subst isLast
        rw [List.nil_append]
        by_cases stops : rest = []
        · rw [if_pos stops, arrive, ← there, stops, ends.resolve_left (not_not.mpr stops)]
          rfl
        · rw [if_neg stops, ← there]
      · rename_i later
        rw [if_neg (List.append_ne_nil_of_left_ne_nil later rest)]
        split at followed
        · cases followed
        · exact ih followed
        · cases followed

/-- What a path leads to. The empty path, which names no file, stands for the directory that paths
are resolved against, as it does where paths are joined. -/
def seek (tree : FileTree) (base : Location) (path : Octets) : Except IoError Target :=
  if path = "" then .ok ⟨base, some .directory, true⟩ else tree.resolve base path

/-- A path leads to a directory. -/
structure Reaches (tree : FileTree) (base : Location) (path : Octets) (place : Location) :
    Prop where
  sought : ∃ asked, tree.seek base path = .ok ⟨place, some .directory, asked⟩
  directory : tree.lookup place = some .directory

theorem stepsOf_ne_nil (relative : ¬Path.isAbsolute path) (nonempty : path ≠ "") :
    stepsOf path ≠ [] := by
  have starts := head?_piecesOf nonempty
  obtain ⟨piece, pieces, split⟩ := List.exists_cons_of_ne_nil (piecesOf_ne_nil path)
  have named : piece ≠ "" := by
    rintro rfl
    rw [split] at starts
    exact relative starts.symm
  simp [stepsOf, split, named]

theorem fits_of_resolve {target : Target} (resolved : tree.resolve base path = .ok target) :
    path ≠ "" ∧ path.length < pathLimit := by
  unfold resolve at resolved
  dsimp only at resolved
  split at resolved
  · cases resolved
  rename_i nonempty
  split at resolved
  · cases resolved
  rename_i fits
  exact ⟨fun empty => nonempty (String.isEmpty_iff.mpr empty), Nat.lt_of_not_le fits⟩

theorem length_le_join : path.length ≤ (Path.join directory path).length := by
  by_cases absolute : Path.isAbsolute path
  · rw [Path.join_of_absolute absolute]
  · rw [Path.join_of_relative absolute, String.length_append]
    exact Nat.le_add_left ..

/-- The names of a directory stay in front when a path is joined to it, and the form of the whole is
that of the path. -/
theorem steps_join (directory : Octets) (relative : ¬Path.isAbsolute path) :
    stepsOf (Path.join directory path) = stepsOf directory ++ stepsOf path ∧
      asksForDirectory (Path.join directory path) = asksForDirectory path := by
  obtain ⟨front, pieces, names⟩ := exists_piecesOf_join directory relative
  constructor
  · rw [stepsOf, pieces, List.filter_append, names]
    rfl
  · rw [asksForDirectory, pieces, List.getLast?_append_of_ne_nil _ (piecesOf_ne_nil path)]
    rfl

/-- A path that is joined to a directory leads to where it leads from that directory. -/
theorem seek_join (reaches : tree.Reaches base directory place)
    (fits : (Path.join directory path).length < pathLimit) :
    tree.seek base (Path.join directory path) = tree.seek place path := by
  by_cases absolute : Path.isAbsolute path
  · have nonempty : path ≠ "" := by
      rintro rfl
      exact Path.not_isAbsolute_empty absolute
    rw [Path.join_of_absolute absolute] at fits ⊢
    simp only [seek, if_neg nonempty, resolve_eq nonempty fits, startOf, if_pos absolute]
  obtain ⟨asked, sought⟩ := reaches.sought
  by_cases empty : directory = ""
  · rw [seek, if_pos empty] at sought
    cases sought
    rw [empty, Path.join_of_relative absolute, Path.separatorBehind_empty]
    rfl
  have nonempty : Path.join directory path ≠ "" := fun none =>
    empty (Path.join_eq_empty_iff.mp none).1
  obtain ⟨steps, form⟩ := steps_join directory absolute
  rw [seek, if_neg empty] at sought
  rw [resolve_eq empty (fits_of_resolve sought).2] at sought
  rw [seek, if_neg nonempty, resolve_eq nonempty fits, startOf_join absolute, steps, form]
  split at sought
  · cases sought
  by_cases stops : path = ""
  · subst stops
    exact follow_append sought (.inr (by decide))
  · have named := stepsOf_ne_nil absolute stops
    have within : path.length < pathLimit := Nat.lt_of_le_of_lt length_le_join fits
    have start : startOf place path = place := if_neg absolute
    rw [seek, if_neg stops, resolve_eq stops within, start, reaches.directory]
    exact follow_append sought (.inl named)

/-- What is sought under a name lies under that name in the directory. -/
theorem location_of_seek_name {target : Target} (named : IsName name) (notHere : name ≠ ".")
    (notAbove : name ≠ "..") (sought : tree.seek base name = .ok target) :
    target.location = base ++ [name] := by
  obtain ⟨nonempty, unseparated⟩ := named
  rw [seek, if_neg nonempty] at sought
  have relative : ¬Path.isAbsolute name := fun absolute =>
    unseparated (List.mem_of_mem_head? (Path.isAbsolute_iff.mp absolute))
  have steps : stepsOf name = [name] := by
    have whole : name.toList.splitOn '/' = [name.toList] :=
      List.splitOn_eq_singleton unseparated
    simp [stepsOf, piecesOf, whole, nonempty]
  have start : startOf base name = base := if_neg relative
  rw [resolve_eq nonempty (fits_of_resolve sought).2, steps, start] at sought
  split at sought
  · cases sought
  rw [follow_cons, if_neg (by simpa using notHere), if_neg (by simpa using notAbove)] at sought
  split at sought
  · cases sought
  · rw [if_pos rfl] at sought
    rw [eq_of_arrive sought]

end QueryFoundry.Sandbox.FileTree
