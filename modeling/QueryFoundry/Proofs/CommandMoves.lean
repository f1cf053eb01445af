import QueryFoundry.CommandLine.Commands
import QueryFoundry.Proofs.HostChanges

/-!
# How the parts of a command change a host

Where a relation between the states of a host is a preorder and the operations of the host keep to
it, so do the parts that a command is made of: loading the settings, finding the tools, reading a
source, generating and executing. What a command prints is not among these operations, nor are the
tools that it starts.
-/

namespace QueryFoundry

variable {σ : Type}

def Tool.versionCommand (path : Path) : Command :=
  { program := path, arguments := ["--version"] }

/-- What is told to the log, reading a file and asking a tool for its version keep to a relation. -/
structure Host.AsksIn (relation : σ → σ → Prop) (host : Host σ) : Prop where
  log : ∀ entry, Moves relation (host.log entry)
  readText : ∀ path, Moves relation (host.readText path)
  version : ∀ path, Moves relation (host.capture (Tool.versionCommand path))

/-- So do the other operations that generation and building are made of, but for the start of a
tool. -/
structure Host.WorksIn (relation : σ → σ → Prop) (host : Host σ) : Prop
    extends Host.AsksIn relation host where
  readInput : Moves relation host.readInput
  createDirectories : ∀ path, Moves relation (host.createDirectories path)
  writeText : ∀ path text, Moves relation (host.writeText path text)
  pause : ∀ delay, Moves relation (host.pause delay)
  poll : ∀ child, Moves relation (host.poll child)
  wait : ∀ child, Moves relation (host.wait child)
  killGroup : ∀ child, Moves relation (host.killGroup child)

/-- So do reading and writing alone, for which no program is started. -/
structure Host.WritesIn (relation : σ → σ → Prop) (host : Host σ) : Prop where
  log : ∀ entry, Moves relation (host.log entry)
  readText : ∀ path, Moves relation (host.readText path)
  readInput : Moves relation host.readInput
  createDirectories : ∀ path, Moves relation (host.createDirectories path)
  writeText : ∀ path text, Moves relation (host.writeText path text)

/-- What is done with libraries keeps to a relation. -/
structure ModuleLoader.MovesIn (relation : σ → σ → Prop) (loader : ModuleLoader σ) : Prop where
  openLibrary : ∀ path, Moves relation (loader.openLibrary path)
  callInit : ∀ library symbol, Moves relation (loader.callInit library symbol)
  callRun : ∀ table, Moves relation (loader.callRun table)
  callRowCount : ∀ table handle, Moves relation (loader.callRowCount table handle)
  callFetch : ∀ table handle, Moves relation (loader.callFetch table handle)
  callRelease : ∀ table handle, Moves relation (loader.callRelease table handle)
  closeLibrary : ∀ library, Moves relation (loader.closeLibrary library)

variable {relation : σ → σ → Prop} {host : Host σ}

theorem Host.WorksIn.writes (works : host.WorksIn relation) : host.WritesIn relation where
  log := works.log
  readText := works.readText
  readInput := works.readInput
  createDirectories := works.createDirectories
  writeText := works.writeText

/-- The supervision of a tool keeps to a relation when its start does. -/
theorem Host.WorksIn.supervision (works : host.WorksIn relation) {command : Command}
    (starts : Moves relation (host.spawn command)) :
    Supervision.MovesIn relation host command where
  log := works.log
  pause := works.pause
  spawn := starts
  poll := works.poll
  wait := works.wait
  killGroup := works.killGroup

variable [IsPreorder σ relation]

namespace Tool

theorem moves_version (asks : host.AsksIn relation) (path : Path) :
    Moves relation (version host path) := by
  refine .bind (asks.version path) fun captured => ?_
  cases captured with
  | error error => exact .pure _
  | ok captured => exact .pure _

theorem moves_resolve (asks : host.AsksIn relation) (origin : LogOrigin) (job program : String) :
    Moves relation (resolve host origin job program) := by
  refine Moves.bind (.bind .get fun state => ?_) fun answer => ?_
  · cases find? host state program with
    | none => exact .pure _
    | some path => exact .pure _
  · cases answer with
    | error error => exact .pure _
    | ok path =>
        refine .bind (moves_version asks path) fun told => ?_
        cases told with
        | none => exact .pure _
        | some told => exact .bind (asks.log _) fun _ => .pure _

end Tool

namespace Config

theorem moves_load (asks : host.AsksIn relation) (path : Path) :
    Moves relation (load host path) := by
  refine .bind (asks.readText path) fun text => ?_
  cases text with
  | error error => exact .pure _
  | ok text => exact .pure _

theorem moves_discover (asks : host.AsksIn relation) (root : Path) :
    Moves relation (discover host root) := by
  refine .bind .get fun state => ?_
  split
  · exact .bind (asks.log _) fun _ => moves_load asks _
  · exact .pure _

end Config

theorem CommandLine.Settings.moves_load (asks : host.AsksIn relation) (invocation : Invocation) :
    Moves relation (load host invocation) := by
  refine .bind .get fun state => ?_
  cases named : invocation.config with
  | none =>
      refine .bind (Config.moves_discover asks _) fun loaded => ?_
      cases loaded with
      | error failure => exact .pure _
      | ok config => exact .pure _
  | some path =>
      refine .bind (Config.moves_load asks path) fun loaded => ?_
      cases loaded with
      | error failure => exact .pure _
      | ok config => exact .pure _

theorem Builder.moves_ofConfig (asks : host.AsksIn relation) (layout : EngineLayout)
    (config : BuildConfig) : Moves relation (ofConfig host layout config) := by
  refine .bind (Tool.moves_resolve asks _ _ _) fun answer => ?_
  cases answer with
  | error error => exact .pure _
  | ok program => exact .pure _

namespace Formatter

theorem moves_ofConfig (asks : host.AsksIn relation) (config : FormatConfig) :
    Moves relation (ofConfig host config) := by
  unfold ofConfig
  split
  · refine .bind (Tool.moves_resolve asks _ _ _) fun answer => ?_
    cases answer with
    | error error => exact .pure _
    | ok program => exact .pure _
  · exact .pure _

omit [IsPreorder σ relation] in
theorem enabled_of_ofConfig {config : FormatConfig} {formatter : Formatter} {state after : σ}
    (equips : ofConfig host config state = (.ok (some formatter), after)) :
    config.enabled = true := by
  cases enabled : config.enabled with
  | true => rfl
  | false =>
      rw [ofConfig, if_neg (by simp [enabled])] at equips
      cases equips

theorem moves_formatInPlace (works : host.WorksIn relation) {formatter : Formatter} {path : Path}
    (starts : Moves relation
      (host.spawn (Supervision.started (formatter.command path) formatter.timeout))) :
    Moves relation (formatter.formatInPlace host path) := by
  refine .bind (Supervision.moves_run (works.supervision starts)) fun answer => ?_
  cases answer with
  | error error => exact .pure _
  | ok outcome => exact .pure _

end Formatter

namespace SourceGenerator

theorem moves_ofConfig (asks : host.AsksIn relation) (layout : EngineLayout) (config : Config) :
    Moves relation (ofConfig host layout config) := by
  refine .bind (Formatter.moves_ofConfig asks config.format) fun answer => ?_
  cases answer with
  | error error => exact .pure _
  | ok formatter => exact .pure _

variable {generator : SourceGenerator}

omit [IsPreorder σ relation] in
theorem enabled_of_ofConfig {layout : EngineLayout} {config : Config} {formatter : Formatter}
    {state equipped : σ} (equips : ofConfig host layout config state = (.ok generator, equipped))
    (present : generator.formatter = some formatter) : config.format.enabled = true := by
  rcases formats : Formatter.ofConfig host config.format state with ⟨answer, after⟩
  rw [ofConfig, bind_of_eq formats] at equips
  cases answer with
  | error error => cases equips
  | ok found =>
      cases equips
      obtain rfl : found = some formatter := present
      exact Formatter.enabled_of_ofConfig formats

theorem moves_write (writes : host.WritesIn relation) (name : ArtifactName) (text : String) :
    Moves relation (generator.write host name text) := by
  refine .bind (writes.createDirectories _) fun created => ?_
  cases created with
  | error error => exact .pure _
  | ok _ =>
      refine .bind (writes.writeText _ _) fun written => ?_
      cases written with
      | error error => exact .pure _
      | ok _ => exact .bind (writes.log _) fun _ => .pure _

/-- The formatter of a generator, where there is one, is started on any file within a relation. -/
def FormatsIn (relation : σ → σ → Prop) (host : Host σ) (generator : SourceGenerator) : Prop :=
  ∀ formatter, generator.formatter = some formatter → ∀ path,
    Moves relation (host.spawn (Supervision.started (formatter.command path) formatter.timeout))

theorem moves_format (works : host.WorksIn relation) (formats : FormatsIn relation host generator)
    (path : Path) : Moves relation (generator.format host path) := by
  unfold format
  cases present : generator.formatter with
  | none => exact .pure _
  | some formatter =>
      have starts := formats formatter present path
      refine .bind (Formatter.moves_formatInPlace works starts) fun formatted => ?_
      cases formatted with
      | error error => exact .pure _
      | ok _ => exact .bind (works.log _) fun _ => .pure _

theorem moves_generate (writes : host.WritesIn relation)
    (formats : ∀ path, Moves relation (generator.format host path)) {producer : Producer σ}
    (produces : Moves relation producer) (name : ArtifactName) :
    Moves relation (generator.generate host producer name) := by
  refine .bind produces fun produced => ?_
  cases produced with
  | error causes => exact .pure _
  | ok text =>
      refine .bind (moves_write writes name text) fun written => ?_
      cases written with
      | error error => exact .pure _
      | ok path => exact formats path

end SourceGenerator

namespace CommandLine

theorem moves_readSource (writes : host.WritesIn relation) (path : Path) :
    Moves relation (readSource host path) := by
  unfold readSource
  split
  · refine .bind writes.readInput fun text => ?_
    cases text with
    | error error => exact .pure _
    | ok text => exact .pure _
  · refine .bind (writes.readText path) fun text => ?_
    cases text with
    | error error => exact .pure _
    | ok text => exact .pure _

theorem moves_sourceProducer (writes : host.WritesIn relation) (path : Path)
    (bridge : Option String) : Moves relation (sourceProducer host path bridge) := by
  intro state
  have read := moves_readSource writes path state
  cases bridge with
  | none => exact read
  | some name => exact read

end CommandLine

namespace ModuleExecutor

variable {executor : ModuleExecutor}

theorem moves_query (loads : host.loader.MovesIn relation) (table : ModuleTable)
    (name : ArtifactName) : Moves relation (query host table name) := by
  refine .bind (loads.callRun table) fun handle => ?_
  cases handle with
  | none => exact .pure _
  | some handle =>
      refine .bind (loads.callRowCount table handle) fun _ => ?_
      refine .bind (loads.callFetch table handle) fun _ => ?_
      exact .bind (loads.callRelease table handle) fun _ => .pure _

theorem moves_enter (loads : host.loader.MovesIn relation) (library : Library)
    (name : ArtifactName) : Moves relation (executor.enter host library name) := by
  refine .bind (loads.callInit library _) fun answer => ?_
  cases answer with
  | error cause => exact .pure _
  | ok found =>
      cases found with
      | none => exact .pure _
      | some table =>
          dsimp only
          split
          · exact moves_query loads table name
          · exact .pure _

theorem moves_run (logs : ∀ entry, Moves relation (host.log entry))
    (loads : host.loader.MovesIn relation) (name : ArtifactName) :
    Moves relation (executor.run host name) := by
  refine .bind .get fun state => ?_
  split
  · refine Moves.bind (logs _) fun _ => Moves.bind (loads.openLibrary _) fun opened => ?_
    cases opened with
    | error cause => exact .pure _
    | ok library =>
        refine .bind (moves_enter loads library name) fun result => ?_
        refine .bind (loads.closeLibrary library) fun _ => ?_
        cases result with
        | error error => exact .pure _
        | ok report => exact .bind (logs _) fun _ => .pure _
  · exact .pure _

theorem moves_execute (logs : ∀ entry, Moves relation (host.log entry))
    (loads : host.loader.MovesIn relation) (name : ArtifactName)
    (memory : Option ExecutionReport) :
    Moves relation (executor.execute host name memory) := by
  refine .bind (moves_run logs loads name) fun answer => ?_
  cases answer with
  | error error => exact .pure _
  | ok report => exact .pure _

end ModuleExecutor

end QueryFoundry
