import Mathlib
import QueryFoundry.Native.Loader
import QueryFoundry.Proofs.JoinedPaths
import QueryFoundry.Proofs.ModuleExecution
import QueryFoundry.Proofs.OctetTexts
import QueryFoundry.Proofs.SourceStore

/-!
# Where the engine's files lie

The paths of a layout are joined from the texts of its configuration. For an artifact whose name is
an identifier they lead to entries of the layout's directories, one for each artifact, and the name
is a harmless argument of the build tool. When the root is resolved against another directory, all
paths of the layout are. The library that a run finds at its path is the one that is loaded where
the path holds a separator, and it does unless nothing is in front of the library.
-/

namespace QueryFoundry

open Sandbox
open Text (toOctets)

variable {σ : Type}

namespace Path

variable {path left right directory entry : Path}

theorem separator_ascii : '/'.toNat ≤ 0x7F := by
  decide

theorem toOctets_eq_empty_iff : toOctets path = "" ↔ path = "" := by
  constructor
  · exact fun same => Text.toOctets_injective (same.trans Text.toOctets_empty.symm)
  · rintro rfl
    exact Text.toOctets_empty

theorem isAbsolute_toOctets : isAbsolute (toOctets path) ↔ isAbsolute path := by
  rw [isAbsolute_iff, isAbsolute_iff, Text.head?_toOctets_eq_iff separator_ascii]

theorem separatorBehind_toOctets : separatorBehind (toOctets path) = separatorBehind path := by
  simp only [separatorBehind, toOctets_eq_empty_iff, Text.getLast?_toOctets_eq_iff separator_ascii]

theorem toOctets_separatorBehind : toOctets (separatorBehind path) = separatorBehind path := by
  refine Text.toOctets_ascii fun character member => ?_
  unfold separatorBehind at member
  split at member
  · simp at member
  · obtain rfl : character = '/' := by simpa using member
    exact separator_ascii

theorem toOctets_join : toOctets (join left right) = join (toOctets left) (toOctets right) := by
  by_cases absolute : isAbsolute right
  · rw [join_of_absolute absolute, join_of_absolute (isAbsolute_toOctets.mpr absolute)]
  · rw [join_of_relative absolute, join_of_relative (mt isAbsolute_toOctets.mp absolute),
      Text.toOctets_append, Text.toOctets_append, separatorBehind_toOctets,
      toOctets_separatorBehind]

/-- A path leads to an entry of a directory: it is the directory, a separator where the directory is
nonempty and does not end in one already, and the name of the entry. Where the directory is found in
a file tree, nothing but that entry is found at the path. -/
structure NamesEntry (directory : Path) (entry : String) (path : Path) : Prop where
  joined : path = directory ++ separatorBehind directory ++ entry
  isEntry : IsEntry entry
  location_eq : ∀ (tree : FileTree) (base place : Location) (target : Target),
    tree.Reaches base (toOctets directory) place →
      tree.resolve base (toOctets path) = .ok target → target.location = place ++ [toOctets entry]

theorem not_isAbsolute_of_isEntry (isEntry : IsEntry entry) : ¬isAbsolute entry := fun absolute =>
  isEntry.2.2.2 (List.mem_of_mem_head? (isAbsolute_iff.mp absolute))

theorem isEntry_toOctets (isEntry : IsEntry entry) : IsEntry (toOctets entry) := by
  obtain ⟨nonempty, notHere, notAbove, unseparated⟩ := isEntry
  have kept {text : String} (ascii : toOctets text = text) (differs : entry ≠ text) :
      toOctets entry ≠ text := fun same =>
    differs (Text.toOctets_injective (same.trans ascii.symm))
  refine ⟨mt toOctets_eq_empty_iff.mp nonempty, kept ?_ notHere, kept ?_ notAbove,
    mt (Text.mem_toOctets_iff separator_ascii).mp unseparated⟩
  · exact Text.toOctets_ascii (by simp)
  · exact Text.toOctets_ascii (by simp)

theorem namesEntry_join (directory : Path) (isEntry : IsEntry entry) :
    NamesEntry directory entry (join directory entry) where
  joined := join_of_relative (not_isAbsolute_of_isEntry isEntry)
  isEntry := isEntry
  location_eq := by
    intro tree base place target reaches resolved
    obtain ⟨nonempty, fits⟩ := FileTree.fits_of_resolve resolved
    have sought : tree.seek base (toOctets (join directory entry)) = .ok target := by
      rwa [FileTree.seek, if_neg nonempty]
    rw [toOctets_join] at sought fits
    rw [FileTree.seek_join reaches fits] at sought
    obtain ⟨named, notHere, notAbove, unseparated⟩ := isEntry_toOctets isEntry
    exact FileTree.location_of_seek_name ⟨named, unseparated⟩ notHere notAbove sought

end Path

namespace ArtifactName

theorem isBlank_of_continues {character : Char} (continues : continuesIdentifier character) :
    Text.isBlank character = false := by
  have word : character = '_' ∨ 65 ≤ character.toNat ∧ character.toNat ≤ 90 ∨
      97 ≤ character.toNat ∧ character.toNat ≤ 122 ∨
        48 ≤ character.toNat ∧ character.toNat ≤ 57 := by
    simp only [continuesIdentifier, Char.isAlphanum, Char.isAlpha, Char.isUpper, Char.isLower,
      Char.isDigit, Bool.or_eq_true, Bool.and_eq_true, beq_iff_eq, decide_eq_true_eq,
      ge_iff_le, UInt32.le_iff_toNat_le, or_assoc] at continues
    exact continues
  rcases word with rfl | inside
  · decide
  · rw [Bool.eq_false_iff]
    intro blank
    simp only [Text.isBlank, Text.blankRanges, List.any_cons, List.any_nil, Bool.or_eq_true,
      Bool.and_eq_true, decide_eq_true_eq, Bool.false_eq_true, or_false] at blank
    omega

end ArtifactName

/-- A text that a tool takes as it stands for the name of a target: neither an option nor an
assignment, no path, no words and nothing that ends it early. -/
structure IsTargetArgument (text : String) : Prop where
  notOption : text.toList.head? ≠ some '-'
  notAssignment : '=' ∉ text.toList
  notPath : '/' ∉ text.toList
  notBlank : ∀ character ∈ text.toList, Text.isBlank character = false
  notEnded : '\x00' ∉ text.toList

theorem isTargetArgument_of_identifier {name : ArtifactName} (identifier : name.isIdentifier) :
    IsTargetArgument name.text where
  notOption := by
    have foreign : '-' ∉ name.text.toList :=
      ArtifactName.not_mem_of_identifier identifier (by decide)
    exact fun starts => foreign (List.mem_of_mem_head? starts)
  notAssignment := ArtifactName.not_mem_of_identifier identifier (by decide)
  notPath := ArtifactName.not_mem_of_identifier identifier (by decide)
  notBlank := fun character member =>
    ArtifactName.isBlank_of_continues (ArtifactName.continues_of_mem identifier character member)
  notEnded := ArtifactName.not_mem_of_identifier identifier (by decide)

/-- Whatever comes of a build, the tool is started with the name of the artifact behind the
configured arguments, and with nothing else. -/
theorem Builder.records_arguments (host : Host σ) (builder : Builder) (name : ArtifactName) :
    Records (builder.compile host.recorded name) (builder.compile host name) fun _ events =>
      ∀ command answer, .spawned command answer ∈ events →
        command.arguments = builder.arguments ++ [name.text] := by
  refine (records_compile host builder name).mono fun answer events ends => ?_
  intro command child spawned
  have effect : Effect.spawn command ∈ effects events :=
    List.mem_filterMap.mpr ⟨_, spawned, rfl⟩
  have only : effects events <+: [(Step.building host builder name).effect] := by
    cases verdict : answer.map fun _ => () with
    | error error =>
        rw [verdict] at ends
        exact (Step.building host builder name).effects_of_error ends
    | ok _ =>
        rw [verdict] at ends
        rw [(Step.building host builder name).effects_of_ok ends]
  obtain rfl : command = Supervision.started (builder.command name) builder.timeout := by
    simpa [Step.building] using only.subset effect
  rfl

namespace EngineLayout

variable {layout : EngineLayout} {name other : ArtifactName} {start : String}

def libraryEntry (name : ArtifactName) (start : String) : String :=
  start ++ name.text ++ ".so"

theorem libraryPath_eq (layout : EngineLayout) (name : ArtifactName) (start : String) :
    layout.libraryPath name.text start =
      Path.join layout.artifactDir (libraryEntry name start) := by
  have extension : "." ++ libraryExtension = ".so" := by decide
  rw [libraryPath, String.append_assoc, extension]
  rfl

theorem isEntry_libraryEntry (identifier : name.isIdentifier) (unseparated : '/' ∉ start.toList) :
    IsEntry (libraryEntry name start) := by
  have ends : (libraryEntry name start).toList.getLast? = some 'o' := by
    simp [libraryEntry]
  refine isEntry_of_getLast? ends (by decide) ?_
  rw [libraryEntry, String.toList_append, String.toList_append, List.mem_append, List.mem_append]
  rintro ((inStart | inName) | inEnding)
  · exact unseparated inStart
  · exact ArtifactName.not_mem_of_identifier identifier (by decide) inName
  · exact absurd inEnding (by decide)

theorem libraryEntry_injective (start : String) :
    Function.Injective fun name => libraryEntry name start := by
  rintro ⟨first⟩ ⟨second⟩ same
  simpa [libraryEntry] using same

/-- A source ends in another way than a library, whatever their names and directories. -/
theorem sourcePath_ne_libraryPath (layout : EngineLayout) (name other start : String) :
    layout.sourcePath name ≠ layout.libraryPath other start := by
  intro same
  have ends := congrArg (fun path : Path => path.toList.getLast?) same
  have source : (name ++ ".cpp").toList.getLast? = some 'p' := by simp
  have library : (start ++ other ++ "." ++ libraryExtension).toList.getLast? = some 'o' := by
    simp [libraryExtension]
  have nonempty {text : String} {last : Char} (ended : text.toList.getLast? = some last) :
      text ≠ "" := by
    rintro rfl
    cases ended
  rw [sourcePath, libraryPath, Path.getLast?_join (nonempty source),
    Path.getLast?_join (nonempty library), source, library] at ends
  exact absurd ends (by decide)

/-- The source and the library of an artifact whose name is an identifier are entries of their
directories, one for each artifact, and the build tool is given the name behind its configured
arguments as nothing but the name of a target. No source lies where a library does, whatever the
names are. -/
theorem identifier_paths (host : Host σ) (builder : Builder) (layout : EngineLayout) :
    (∀ name : ArtifactName, name.isIdentifier →
      Path.NamesEntry layout.generatedDir (name.text ++ ".cpp") (layout.sourcePath name.text) ∧
      (∀ start : String, '/' ∉ start.toList →
        Path.NamesEntry layout.artifactDir (start ++ name.text ++ ".so")
          (layout.libraryPath name.text start)) ∧
      (∀ other : ArtifactName, other.isIdentifier → name ≠ other →
        layout.sourcePath name.text ≠ layout.sourcePath other.text ∧
        ∀ start : String, '/' ∉ start.toList →
          layout.libraryPath name.text start ≠ layout.libraryPath other.text start) ∧
      IsTargetArgument name.text ∧
      Records (builder.compile host.recorded name) (builder.compile host name) fun _ events =>
        ∀ command answer, .spawned command answer ∈ events →
          command.arguments = builder.arguments ++ [name.text]) ∧
    ∀ name other start : String, layout.sourcePath name ≠ layout.libraryPath other start := by
  refine ⟨fun name identifier => ?_, layout.sourcePath_ne_libraryPath⟩
  have isSource := isEntry_sourceEntry identifier
  have isLibrary := fun {start : String} (unseparated : '/' ∉ start.toList) =>
    isEntry_libraryEntry identifier unseparated
  refine ⟨Path.namesEntry_join _ isSource, fun start unseparated => ?_,
    fun other otherIdentifier differs => ⟨?_, fun start unseparated => ?_⟩,
    isTargetArgument_of_identifier identifier, builder.records_arguments host name⟩
  · rw [libraryPath_eq]
    exact Path.namesEntry_join _ (isLibrary unseparated)
  · refine mt (Path.join_right_inj ?_ ?_).mp (sourceEntry_injective.ne differs)
    · exact Path.not_isAbsolute_of_isEntry isSource
    · exact Path.not_isAbsolute_of_isEntry (isEntry_sourceEntry otherIdentifier)
  · rw [libraryPath_eq, libraryPath_eq]
    refine mt (Path.join_right_inj ?_ ?_).mp ((libraryEntry_injective start).ne differs)
    · exact Path.not_isAbsolute_of_isEntry (isLibrary unseparated)
    · exact Path.not_isAbsolute_of_isEntry (isEntry_libraryEntry otherIdentifier unseparated)

/-- A tree with a working directory that holds a directory of libraries with one library in it. -/
def shelf : FileTree where
  entries := [(["w"], .directory), (["w", "l"], .directory),
    (["w", "l", "q_.so"], .file "" false)]

theorem reaches_shelf : shelf.Reaches ["w"] (toOctets "l/") ["w", "l"] where
  sought := ⟨true, by cbv⟩
  directory := by cbv

theorem identifier_paths_underscored :
    (⟨"_"⟩ : ArtifactName).isIdentifier ∧
      sourcePath ⟨"", "", "", "l/"⟩ "_" = "_.cpp" ∧
      libraryPath ⟨"", "", "", "l/"⟩ "_" "q" = "l/q_.so" ∧
      libraryPath ⟨"", "", "", "l/"⟩ "_" "q" ≠ libraryPath ⟨"", "", "", "l/"⟩ "t" "q" ∧
      IsTargetArgument "_" ∧
      ∃ target, shelf.resolve ["w"] (toOctets "l/q_.so") = .ok target ∧
        target.location = ["w", "l", toOctets "q_.so"] := by
  obtain ⟨entries, -⟩ := identifier_paths Host.endless ⟨"/", "make", [], none⟩ ⟨"", "", "", "l/"⟩
  obtain ⟨source, library, distinct, argument, -⟩ := entries ⟨"_"⟩ (by decide)
  have inside := library "q" (by decide)
  have path : libraryPath ⟨"", "", "", "l/"⟩ "_" "q" = "l/q_.so" := by decide
  refine ⟨by decide, source.joined, path, ?_, argument, ?_⟩
  · exact (distinct ⟨"t"⟩ (by decide) (by decide)).2 "q" (by decide)
  · have found : shelf.resolve ["w"] (toOctets "l/q_.so") =
        .ok ⟨["w", "l", "q_.so"], some (.file "" false), false⟩ := by cbv
    refine ⟨_, found, inside.location_eq shelf ["w"] ["w", "l"] _ reaches_shelf ?_⟩
    rw [path]
    exact found

end EngineLayout

namespace Path

/-- A path is another one seen from elsewhere: it is the other path joined to a directory, and where
this directory is found in a file tree, it leads to where the other leads from that directory,
unless it is too long to lead anywhere. -/
structure SeenFrom (directory near far : Path) : Prop where
  joined : far = join directory near
  seek_eq : ∀ (tree : FileTree) (base place : Location),
    tree.Reaches base (toOctets directory) place → (toOctets far).length < pathLimit →
      tree.seek base (toOctets far) = tree.seek place (toOctets near)

theorem seenFrom_join (directory near : Path) : SeenFrom directory near (join directory near) where
  joined := rfl
  seek_eq := by
    intro tree base place reaches fits
    rw [toOctets_join] at fits ⊢
    exact FileTree.seek_join reaches fits

theorem SeenFrom.join {directory near far : Path} (seen : SeenFrom directory near far)
    (path : Path) : SeenFrom directory (join near path) (join far path) := by
  rw [seen.joined, join_assoc]
  exact seenFrom_join directory _

end Path

namespace EngineLayout

/-- Where the root of a layout is joined to a directory, every path of the layout is seen from that
directory, whichever of its texts are absolute, empty or ended by a separator. -/
theorem ofConfig_join (directory root : Path) (paths : PathsConfig) (name start : String) :
    Path.SeenFrom directory (ofConfig root paths).root
      (ofConfig (Path.join directory root) paths).root ∧
    Path.SeenFrom directory (ofConfig root paths).engineDir
      (ofConfig (Path.join directory root) paths).engineDir ∧
    Path.SeenFrom directory (ofConfig root paths).generatedDir
      (ofConfig (Path.join directory root) paths).generatedDir ∧
    Path.SeenFrom directory (ofConfig root paths).artifactDir
      (ofConfig (Path.join directory root) paths).artifactDir ∧
    Path.SeenFrom directory ((ofConfig root paths).sourcePath name)
      ((ofConfig (Path.join directory root) paths).sourcePath name) ∧
    Path.SeenFrom directory ((ofConfig root paths).libraryPath name start)
      ((ofConfig (Path.join directory root) paths).libraryPath name start) := by
  have rootSeen := Path.seenFrom_join directory root
  have engineSeen := rootSeen.join paths.engineDir
  have generatedSeen := engineSeen.join paths.generatedDir
  have artifactSeen : Path.SeenFrom directory (ofConfig root paths).artifactDir
      (ofConfig (Path.join directory root) paths).artifactDir := by
    unfold ofConfig
    cases paths.artifactDir with
    | none => exact engineSeen
    | some artifactDir => exact engineSeen.join artifactDir
  exact ⟨rootSeen, engineSeen, generatedSeen, artifactSeen, generatedSeen.join _,
    artifactSeen.join _⟩

/-- From the working directory, a layout whose root is joined to the directory of libraries leads to
the library that the layout alone leads to from there. -/
theorem ofConfig_join_shelf :
    shelf.seek ["w"] (toOctets "l/q_.so") = shelf.seek ["w", "l"] (toOctets "q_.so") := by
  obtain ⟨-, -, -, -, -, seen⟩ := ofConfig_join "l/" "" ⟨"", "", none⟩ "_" "q"
  have near : libraryPath (ofConfig "" ⟨"", "", none⟩) "_" "q" = "q_.so" := by decide
  have far : libraryPath (ofConfig (Path.join "l/" "") ⟨"", "", none⟩) "_" "q" =
      "l/q_.so" := by decide
  rw [near, far] at seen
  have octets : toOctets "l/q_.so" = "l/q_.so" := Text.toOctets_ascii (by simp)
  exact seen.seek_eq shelf ["w"] ["w", "l"] reaches_shelf (by rw [octets]; decide)

theorem artifactDir_ofConfig_eq_empty_iff (root : Path) (paths : PathsConfig) :
    (ofConfig root paths).artifactDir = "" ↔ root = "" ∧ paths.engineDir = "" ∧
      ∀ directory, paths.artifactDir = some directory → directory = "" := by
  unfold ofConfig
  cases paths.artifactDir with
  | none => simp [Path.join_eq_empty_iff]
  | some directory => simp [Path.join_eq_empty_iff, and_assoc]

theorem separator_mem_libraryPath_iff (layout : EngineLayout) (name start : String) :
    '/' ∈ (layout.libraryPath name start).toList ↔
      layout.artifactDir ≠ "" ∨ '/' ∈ start.toList ∨ '/' ∈ name.toList := by
  have ending : '/' ∉ ("." ++ libraryExtension).toList := by decide
  rw [libraryPath, Path.separator_mem_join_iff, String.append_assoc, String.toList_append,
    String.toList_append, List.mem_append, List.mem_append, or_iff_left ending]

end EngineLayout

namespace Native

/-- The loader of the machine takes no library for a path without a separator, whatever file is
there. -/
theorem unitsAt?_of_unseparated (bench : NativeBench) {path : Path}
    (unseparated : '/' ∉ path.toList) : unitsAt? bench path = none := by
  have octets : '/' ∉ (toOctets path).toList :=
    mt (Text.mem_toOctets_iff Path.separator_ascii).mp unseparated
  simp [unitsAt?, octets]

theorem openLibrary_of_unseparated (bench : NativeBench) {path : Path}
    (unseparated : '/' ∉ path.toList)
    (unloaded : ∀ entry ∈ bench.modules.libraries, entry.2.path ≠ path) :
    openLibrary path bench = (.error .openFailed, bench) := by
  have unknown : bench.modules.libraries.find? (·.2.path == path) = none := by
    simpa using unloaded
  have looked : (get : StateM NativeBench NativeBench) bench = (bench, bench) := rfl
  rw [openLibrary, bind_of_eq looked, unknown, unitsAt?_of_unseparated bench unseparated]
  rfl

end Native

namespace ModuleExecutor

theorem Ran.opens {host : Host σ} {state : σ} {path opened : Path} {symbol : String}
    {answer : Except PipelineError ExecutionReport} {events : List Event}
    {library : Except LoadError Library} (ran : Ran host state path symbol answer events)
    (member : .libraryOpened opened library ∈ events) :
    opened = path ∧ host.pathExists state path := by
  cases ran with
  | absent missing error => cases member
  | refused present cause => exact ⟨by simp_all, present⟩
  | entered present entered =>
      refine ⟨?_, present⟩
      cases entered with
      | missing | empty | foreign => simp_all
      | queried fits queried => cases queried <;> simp_all

/-- On the machine, a run whose library path has no separator fails to load it for the first time,
though a file is there. -/
theorem run_unseparated (executor : ModuleExecutor) (name : ArtifactName)
    (bench : Native.NativeBench) (unseparated : '/' ∉ (executor.libraryPath name).toList)
    (present : (Workbench.host Native.loader).pathExists bench (executor.libraryPath name))
    (unloaded : ∀ entry ∈ bench.modules.libraries, entry.2.path ≠ executor.libraryPath name) :
    (executor.run (Workbench.host Native.loader) name bench).1 =
      .error (.libraryLoad .openFailed) := by
  obtain ⟨told, informed, kept⟩ : ∃ told, (Workbench.host Native.loader).inform .executing
      ("Loading " ++ executor.libraryPath name) bench = ((), told) ∧
        told.modules = bench.modules := ⟨_, rfl, rfl⟩
  rw [← kept] at unloaded
  have refused :
      (Workbench.host Native.loader).loader.openLibrary (executor.libraryPath name) told =
        (.error .openFailed, told) := Native.openLibrary_of_unseparated told unseparated unloaded
  have looked : (get : StateM Native.NativeBench Native.NativeBench) bench = (bench, bench) := rfl
  rw [run, bind_of_eq looked, if_pos present, bind_of_eq informed, bind_of_eq refused]
  rfl

/-- The path that the library of an artifact is loaded from holds a separator exactly when one of
the texts in front of its last piece is nonempty, or the start of the library's name or the name of
the artifact holds one. A run asks the loader for this path only, behind a look at what is there.
Without a separator, the file that was found is not the one that the loader would take: on the
machine the run fails. -/
theorem libraryPath_separated_iff (root : Path) (paths : PathsConfig) (config : ExecuteConfig)
    (name : ArtifactName) :
    ('/' ∈ (libraryPath ⟨.ofConfig root paths, config⟩ name).toList ↔
      (root ≠ "" ∨ paths.engineDir ≠ "" ∨
        ∃ directory, paths.artifactDir = some directory ∧ directory ≠ "") ∨
      '/' ∈ config.libraryStart.toList ∨ '/' ∈ name.text.toList) ∧
    (∀ (σ : Type) (host : Host σ) (state : σ),
      RecordsAt state (run host.recorded ⟨.ofConfig root paths, config⟩ name)
        (run host ⟨.ofConfig root paths, config⟩ name) fun _ events =>
          ∀ opened library, .libraryOpened opened library ∈ events →
            opened = libraryPath ⟨.ofConfig root paths, config⟩ name ∧
              host.pathExists state opened) ∧
    ∀ bench : Native.NativeBench,
      '/' ∉ (libraryPath ⟨.ofConfig root paths, config⟩ name).toList →
      (Workbench.host Native.loader).pathExists bench
        (libraryPath ⟨.ofConfig root paths, config⟩ name) →
      (∀ entry ∈ bench.modules.libraries,
        entry.2.path ≠ libraryPath ⟨.ofConfig root paths, config⟩ name) →
      (run (Workbench.host Native.loader) ⟨.ofConfig root paths, config⟩ name bench).1 =
        .error (.libraryLoad .openFailed) := by
  refine ⟨?_, fun σ host state => ?_, fun bench => run_unseparated _ name bench⟩
  · rw [libraryPath, EngineLayout.separator_mem_libraryPath_iff, ne_eq,
      EngineLayout.artifactDir_ofConfig_eq_empty_iff]
    simp only [not_and_or, not_forall, exists_prop, ne_eq]
  · refine (recordsAt_run host ⟨.ofConfig root paths, config⟩ name state).mono ?_
    intro events ran opened library member
    obtain ⟨rfl, present⟩ := ran.opens member
    exact ⟨rfl, present⟩

/-- In a working directory that holds the library, it is found and not loaded where the root and the
directory of the engine are empty. -/
theorem run_unseparated_shelf :
    ∃ bench : Native.NativeBench,
      (Workbench.host Native.loader).pathExists bench "q_.so" ∧
      (run (Workbench.host Native.loader) ⟨.ofConfig "" ⟨"", "", none⟩, { libraryStart := "q" }⟩
        ⟨"_"⟩ bench).1 = .error (.libraryLoad .openFailed) := by
  let bench : Native.NativeBench :=
    { machine := { programs := System.programs [], tree := EngineLayout.shelf }
      directory := ["w", "l"], searchPath := [], environment := [], modules := {} }
  have path : libraryPath ⟨.ofConfig "" ⟨"", "", none⟩, { libraryStart := "q" }⟩ ⟨"_"⟩ =
      "q_.so" := by decide
  have resolved : EngineLayout.shelf.resolve ["w", "l"] (toOctets "q_.so") =
      .ok ⟨["w", "l", "q_.so"], some (.file "" false), false⟩ := by cbv
  have found : EngineLayout.shelf.find ["w", "l"] (toOctets "q_.so") =
      .ok (["w", "l", "q_.so"], .file "" false) := by
    rw [FileTree.find, resolved]
    rfl
  have nulless : Workbench.holdsNul "q_.so" = false := by decide
  have present : (Workbench.host Native.loader).pathExists bench "q_.so" := by
    simp [Workbench.host, Workbench.entry?, Workbench.withPath, nulless, bench, found]
  obtain ⟨-, -, unloadable⟩ :=
    libraryPath_separated_iff "" ⟨"", "", none⟩ { libraryStart := "q" } ⟨"_"⟩
  rw [path] at unloadable
  exact ⟨bench, present, unloadable bench (by decide) present (by simp [bench])⟩

/-- Nothing is in front of the library where the root and the directory of the engine are empty. -/
theorem libraryPath_unseparated :
    ¬∀ (root : Path) (paths : PathsConfig) (config : ExecuteConfig) (name : ArtifactName),
      '/' ∈ (libraryPath ⟨.ofConfig root paths, config⟩ name).toList := by
  intro separated
  exact absurd (separated "" { engineDir := "" } {} ⟨"t1"⟩) (by decide)

end ModuleExecutor

end QueryFoundry
