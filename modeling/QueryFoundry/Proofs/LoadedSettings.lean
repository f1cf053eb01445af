import QueryFoundry.Native.Loader
import QueryFoundry.Proofs.CommandCourses
import QueryFoundry.Proofs.GeneratedFiles

/-!
# Where the settings come from

Which file the configuration of a command is taken from, and what becomes of it. A file that is
named goes before the one in the root directory, and that one before the defaults. Which of them it
is, is settled before anything is read: one file is read at most, and where that fails or the text
is no configuration, nothing else takes its place.
-/

namespace QueryFoundry

open Sandbox

variable {σ μ : Type}

namespace Config

/-! ## Reading one file -/

/-- What a file comes to as a configuration, once it was read. -/
def ofReading (path : Path) : Except IoError String → Except LoadFailure Config
  | .error cause => .error (.unreadable path cause)
  | .ok text => (parse text).mapError (.invalid path)

/-- To load a configuration is to read its file once. -/
theorem recordsAt_load (host : Host σ) (path : Path) (state : σ) :
    RecordsAt state (load host.recorded path) (load host path) fun answer added =>
      answer = ofReading path (host.readText path state).1 ∧
        added = [.textRead path (host.readText path state).1] := by
  rcases reads : host.readText path state with ⟨reading, after⟩
  refine (records_recording (.textRead path) (host.readText path) state).bind reads ?_
  rintro _ ⟨rfl, -⟩
  cases reading with
  | error cause => exact .pure ⟨rfl, rfl⟩
  | ok text => exact .pure ⟨rfl, rfl⟩

/-- The host when the file in the root directory is read: it tells first which file that is. -/
def told (host : Host σ) (candidate : Path) (state : σ) : σ :=
  (host.tellDetail .config ("Loading configuration from " ++ candidate) state).2

theorem recordsAt_discover (host : Host σ) (root : Path) (state : σ) :
    RecordsAt state (discover host.recorded root) (discover host root) fun answer added =>
      let candidate := Path.join root configFileName
      let reading := (host.readText candidate (told host candidate state)).1
      if host.isFile state candidate then
        answer = ofReading candidate reading ∧ added = [.textRead candidate reading]
      else answer = .ok {} ∧ added = [] := by
  refine RecordsAt.look fun events => RecordsAt.branch rfl (fun present => ?_) fun absent => ?_
  · dsimp only
    simp only [if_pos present]
    refine (records_besides _ state).bind rfl ?_
    rintro _ rfl
    exact recordsAt_load host _ _
  · refine .pure ?_
    dsimp only
    rw [if_neg (Bool.eq_false_iff.mp absent)]
    exact ⟨rfl, rfl⟩

end Config

namespace CommandLine

/-! ## The file that is picked -/

def rootOf (host : Host σ) (invocation : Invocation) (state : σ) : Path :=
  invocation.root.getD (host.workingDirectory state)

/-- The file that the configuration is taken from: the one that is named, else the one in the root
directory where this is a file. There is none where the defaults hold. -/
def configFile? (host : Host σ) (invocation : Invocation) (state : σ) : Option Path :=
  match invocation.config with
  | some path => some path
  | none =>
      let candidate := Path.join (rootOf host invocation state) configFileName
      if host.isFile state candidate then some candidate else none

/-- What is read from the file that the configuration is taken from. -/
def readingOf (host : Host σ) (invocation : Invocation) (state : σ) (path : Path) :
    Except IoError String :=
  (host.readText path (if invocation.config.isSome then state else Config.told host path state)).1

/-- A configuration as the options of an invocation let it stand. -/
def Invocation.adjusted (invocation : Invocation) (config : Config) : Config :=
  if invocation.skipsFormatter then
    { config with format := { config.format with enabled := false } }
  else config

namespace Settings

/-- The settings that a configuration file comes to, once it was read. -/
def ofReading (invocation : Invocation) (root path : Path) :
    Except IoError String → Except PipelineError Settings
  | .error cause => .error (.config ("cannot read " ++ path ++ ": " ++ cause.message))
  | .ok text =>
      match Config.parse text with
      | .error cause => .error (.config (path ++ ": " ++ cause.message))
      | .ok config => .ok ⟨root, invocation.adjusted config, invocation.json⟩

theorem settle_ok (invocation : Invocation) (root : Path) (config : Config) :
    settle invocation root (.ok config) =
      .ok ⟨root, invocation.adjusted config, invocation.json⟩ := by
  rw [settle, Invocation.adjusted]
  cases invocation.skipsFormatter with
  | true => simp
  | false => simp

theorem settle_ofReading (invocation : Invocation) (root path : Path)
    (reading : Except IoError String) :
    settle invocation root (Config.ofReading path reading) =
      ofReading invocation root path reading := by
  cases reading with
  | error cause => rfl
  | ok text =>
      rw [Config.ofReading, ofReading]
      cases Config.parse text with
      | error cause => rfl
      | ok config => exact settle_ok invocation root config

/-- The settings come from one file that is read once, or from none. -/
inductive Loads (host : Host σ) (invocation : Invocation) (state : σ) :
    Except PipelineError Settings → List Event → Prop
  | defaults (picked : configFile? host invocation state = none) :
      Loads host invocation state
        (.ok ⟨rootOf host invocation state, invocation.adjusted {}, invocation.json⟩) []
  | read {path : Path} (picked : configFile? host invocation state = some path) :
      Loads host invocation state
        (ofReading invocation (rootOf host invocation state) path
          (readingOf host invocation state path))
        [.textRead path (readingOf host invocation state path)]

theorem recordsAt_loadConfig (host : Host σ) (invocation : Invocation) (state : σ) :
    RecordsAt state (loadConfig host.recorded invocation) (loadConfig host invocation)
      fun loaded added => Loads host invocation state
        (settle invocation (rootOf host invocation state) loaded) added := by
  refine RecordsAt.look fun events => ?_
  cases named : invocation.config with
  | some path =>
      have picked : configFile? host invocation state = some path := by
        rw [configFile?, named]
      have source := Loads.read picked
      rw [← settle_ofReading, readingOf, named] at source
      refine (Config.recordsAt_load host path state).mono ?_
      rintro added ⟨loaded, rfl⟩
      rw [loaded]
      exact source
  | none =>
      -- Only here does it matter what lies in the root directory.
      let candidate := Path.join (rootOf host invocation state) configFileName
      refine (Config.recordsAt_discover host (rootOf host invocation state) state).mono ?_
      intro added discovered
      dsimp only at discovered
      split at discovered
      · rename_i present
        have picked : configFile? host invocation state = some candidate := by
          rw [configFile?, named]
          exact if_pos present
        have source := Loads.read picked
        rw [← settle_ofReading, readingOf, named] at source
        obtain ⟨loaded, rfl⟩ := discovered
        rw [loaded]
        exact source
      · rename_i absent
        have picked : configFile? host invocation state = none := by
          rw [configFile?, named]
          exact if_neg absent
        have source := Loads.defaults picked
        rw [← settle_ok] at source
        obtain ⟨loaded, rfl⟩ := discovered
        rw [loaded]
        exact source

/-- Whatever was loaded, it is settled without another question to the host. -/
theorem recordsAt_load (host : Host σ) (invocation : Invocation) (state : σ) :
    RecordsAt state (load host.recorded invocation) (load host invocation)
      (Loads host invocation state) := by
  intro events
  obtain ⟨added, equal, loads⟩ := recordsAt_loadConfig host invocation state events
  refine ⟨added, ?_, ?_⟩
  · rw [load_eq, load_eq, equal]
    rfl
  · rw [load_eq]
    exact loads

/-! ## What lies at the path -/

variable {bench : Workbench μ} {path : Path} (loader : ModuleLoader (Workbench μ))
variable (invocation : Invocation)

/-- To tell which file is read changes nothing of what it holds. -/
theorem readingOf_of_found {entry : Entry} (there : bench.entry? path = some entry) :
    readingOf (Workbench.host loader) invocation bench path = bench.textOf entry := by
  rw [readingOf]
  cases invocation.config with
  | some named =>
      exact congrArg Prod.fst (Workbench.readText_of_found loader there)
  | none =>
      have stays : Workbench.entry? (Config.told (Workbench.host loader) path bench) path =
          some entry := there
      exact congrArg Prod.fst (Workbench.readText_of_found loader stays)

theorem exists_readingOf_of_missing (missing : bench.entry? path = none) :
    ∃ cause, readingOf (Workbench.host loader) invocation bench path = .error cause := by
  rw [readingOf]
  cases invocation.config with
  | some named =>
      obtain ⟨cause, reads⟩ := Workbench.exists_readText_of_missing loader missing
      exact ⟨cause, congrArg Prod.fst reads⟩
  | none =>
      have stays : Workbench.entry? (Config.told (Workbench.host loader) path bench) path =
          none := missing
      obtain ⟨cause, reads⟩ := Workbench.exists_readText_of_missing loader stays
      exact ⟨cause, congrArg Prod.fst reads⟩

theorem load_of_picked {host : Host σ} {state : σ}
    (picked : configFile? host invocation state = some path) :
    (load host invocation state).1 = ofReading invocation (rootOf host invocation state) path
      (readingOf host invocation state path) := by
  obtain ⟨added, -, loads⟩ := recordsAt_load host invocation state []
  generalize (load host invocation state).1 = answer at loads
  cases loads with
  | defaults absent => cases absent.symm.trans picked
  | read present =>
      obtain rfl := Option.some.inj (present.symm.trans picked)
      rfl

theorem load_of_unpicked {host : Host σ} {state : σ}
    (unpicked : configFile? host invocation state = none) :
    (load host invocation state).1 =
      .ok ⟨rootOf host invocation state, invocation.adjusted {}, invocation.json⟩ := by
  obtain ⟨added, -, loads⟩ := recordsAt_load host invocation state []
  generalize (load host invocation state).1 = answer at loads
  cases loads with
  | defaults absent => rfl
  | read present => cases present.symm.trans unpicked

/-- A file gives settings exactly if it can be read and its text is a configuration. -/
theorem ofReading_eq_ok_iff {root path : Path} {reading : Except IoError String} :
    (∃ settings, ofReading invocation root path reading = .ok settings) ↔
      ∃ text config, reading = .ok text ∧ Config.parse text = .ok config := by
  cases reading with
  | error cause => simp [ofReading]
  | ok text =>
      cases parses : Config.parse text with
      | error cause => simp [ofReading, parses]
      | ok config => simp [ofReading, parses]

theorem isFile_iff : (Workbench.host loader).isFile bench path = true ↔
    ∃ content executable, bench.entry? path = some (.file content executable) := by
  have asked : (Workbench.host loader).isFile bench path =
      (bench.entry? path).any Entry.isFile := rfl
  rw [asked]
  rcases bench.entry? path with - | directory | file | device
  · simp
  · simp [Entry.isFile]
  · simp [Entry.isFile]
  · simp [Entry.isFile]

theorem configFile?_eq_none_iff : configFile? (Workbench.host loader) invocation bench = none ↔
    invocation.config = none ∧ ∀ content executable,
      bench.entry? (Path.join (rootOf (Workbench.host loader) invocation bench) configFileName) ≠
        some (.file content executable) := by
  rw [configFile?]
  cases invocation.config with
  | some named => simp
  | none =>
      dsimp only
      rw [ite_eq_right_iff, isFile_iff]
      simp

/-- The settings come from the file that is named, else from the one in the root directory where
this is a file, else from the defaults; the file is read once and no other is read. They are those
that the text of the file says, but for the formatter where the options skip it. Where the file
cannot be read or its text is no configuration, there are no settings. On an in-memory machine, what
is read is what lies at the path. -/
theorem load_takes_one_source (host : Host σ) :
    (∀ state, RecordsAt state (load host.recorded invocation) (load host invocation)
      (Loads host invocation state)) ∧
    (∀ state, (∃ settings, (load host invocation state).1 = .ok settings) ↔
      ∀ path, configFile? host invocation state = some path → ∃ text config,
        readingOf host invocation state path = .ok text ∧ Config.parse text = .ok config) ∧
    ∀ bench : Workbench μ,
      (configFile? (Workbench.host loader) invocation bench = none ↔
        invocation.config = none ∧ ∀ content executable,
          bench.entry? (Path.join (rootOf (Workbench.host loader) invocation bench)
            configFileName) ≠ some (.file content executable)) ∧
      ∀ path, configFile? (Workbench.host loader) invocation bench = some path →
        (∀ entry, bench.entry? path = some entry →
          (load (Workbench.host loader) invocation bench).1 = ofReading invocation
            (rootOf (Workbench.host loader) invocation bench) path (bench.textOf entry)) ∧
        (bench.entry? path = none → ∃ cause : IoError,
          (load (Workbench.host loader) invocation bench).1 =
            .error (.config ("cannot read " ++ path ++ ": " ++ cause.message))) := by
  refine ⟨recordsAt_load host invocation, fun state => ?_, fun bench =>
    ⟨configFile?_eq_none_iff loader invocation, fun path picked => ⟨fun entry there => ?_,
      fun missing => ?_⟩⟩⟩
  · cases picked : configFile? host invocation state with
    | none => simp [load_of_unpicked invocation picked]
    | some path =>
        rw [load_of_picked invocation picked, ofReading_eq_ok_iff]
        simp
  · rw [load_of_picked invocation picked, readingOf_of_found loader invocation there]
  · obtain ⟨cause, reads⟩ := exists_readingOf_of_missing loader invocation missing
    rw [load_of_picked invocation picked, reads]
    exact ⟨cause, rfl⟩

/-- A machine with a configuration file that is not UTF-8 and a directory that holds none. -/
def undecodableBench : Native.NativeBench where
  machine :=
    { programs := System.programs []
      tree := ⟨[(["querygen.toml"], .file "\xFF" false), (["g"], .directory)], [], 0⟩ }
  directory := []
  searchPath := []
  environment := []
  modules := {}

/-- The file in the root directory cannot be read, nor can the one that is named, and neither is
passed over for the defaults. They hold where no file is there. -/
theorem load_takes_one_source_undecodable :
    (load (Workbench.host Native.loader) { action := .build ⟨"t1"⟩, root := some "" }
      undecodableBench).1 = .error
        (.config "cannot read querygen.toml: stream did not contain valid UTF-8") ∧
    (load (Workbench.host Native.loader)
      { action := .build ⟨"t1"⟩, root := some "g", config := some "g" } undecodableBench).1 =
        .error (.config "cannot read g: Is a directory (os error 21)") ∧
    (load (Workbench.host Native.loader)
      { action := .build ⟨"t1"⟩, root := some "g", skipsFormatter := true } undecodableBench).1 =
        .ok ⟨"g", { format := { enabled := false } }, false⟩ := by
  have file : undecodableBench.entry? "querygen.toml" = some (.file "\xFF" false) :=
    Workbench.entry?_of_ascii (by decide) (by simp)
  have directory : undecodableBench.entry? "g" = some .directory :=
    Workbench.entry?_of_ascii (by decide) (by simp)
  have missing : undecodableBench.entry? "g/querygen.toml" = none :=
    Workbench.entry?_of_ascii (by decide) (by simp)
  have undecodable : Workbench.decode "\xFF" = .error .invalidUtf8 := by
    have malformed : Text.ofOctets? "\xFF" = none := by decide +kernel
    rw [Workbench.decode, malformed]
  have sources (invocation : Invocation) :=
    (load_takes_one_source Native.loader invocation (Workbench.host Native.loader)).2.2
      undecodableBench
  refine ⟨?_, ?_, ?_⟩
  · obtain ⟨-, picked⟩ := sources { action := .build ⟨"t1"⟩, root := some "" }
    obtain ⟨reads, -⟩ := picked "querygen.toml"
      (if_pos ((isFile_iff Native.loader).mpr ⟨_, _, file⟩))
    rw [reads _ file, Workbench.textOf, undecodable]
    decide
  · obtain ⟨-, picked⟩ :=
      sources { action := .build ⟨"t1"⟩, root := some "g", config := some "g" }
    obtain ⟨reads, -⟩ := picked "g" rfl
    rw [reads _ directory]
    decide
  · obtain ⟨unpicked, -⟩ :=
      sources { action := .build ⟨"t1"⟩, root := some "g", skipsFormatter := true }
    refine load_of_unpicked _ (unpicked.mpr ⟨rfl, fun content executable there => ?_⟩)
    cases missing.symm.trans there

end Settings

end CommandLine

end QueryFoundry
