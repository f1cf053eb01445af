import QueryFoundry.Proofs.LoadedSettings
import QueryFoundry.Proofs.SeparateCommands
import QueryFoundry.Proofs.TimeLimit

/-!
# Missing tools

A tool that is missing is noticed before anything is done. The tools that an action needs are looked
for one after the other, and the first one that is not found ends the action with its name, as it
stands in the configuration. Until then nothing was asked of the host but the text of the
configuration file and, where the build tool was found, its version.
-/

namespace QueryFoundry

variable {σ ε : Type}

namespace Tool

theorem resolve_of_missing {host : Host σ} {program : String} {state : σ}
    (missing : find? host state program = none) (origin : LogOrigin) (job : String) :
    resolve host origin job program state = (.error (.toolNotFound program), state) := by
  have found := find_eq host program state
  rw [missing] at found
  rw [resolve, bind_of_eq found]
  rfl

theorem records_version (host : Host σ) (path : Path) :
    Records (version host.recorded path) (version host path) fun _ added =>
      ∃ answer, added = [.captured (versionCommand path) answer] := by
  refine (records_recording (.captured (versionCommand path)) _).bind ?_
  rintro captured _ ⟨rfl, -⟩
  cases captured with
  | error error => exact .pure ⟨_, rfl⟩
  | ok captured => exact .pure ⟨_, rfl⟩

/-- A program is asked for its version at the place where it is found, once or not at all. -/
inductive Probes (host : Host σ) (program : String) (state : σ) : List Event → Prop
  | unasked : Probes host program state []
  | asked {tool : Path} {answer : Except IoError (WaitStatus × String)}
      (found : find? host state program = some tool) :
      Probes host program state [.captured (versionCommand tool) answer]

theorem recordsAt_find (host : Host σ) (program : String) (state : σ) :
    RecordsAt state (find host.recorded program) (find host program) fun _ added => added = [] := by
  intro events
  refine ⟨[], ?_, rfl⟩
  rw [find_eq, find_eq, List.append_nil]
  rfl

/-- To look for a tool is no more than to ask it for its version, if it is there. -/
theorem recordsAt_resolve (host : Host σ) (origin : LogOrigin) (job program : String) (state : σ) :
    RecordsAt state (resolve host.recorded origin job program) (resolve host origin job program)
      fun _ added => Probes host program state added := by
  have finds := find_eq host program state
  refine (recordsAt_find host program state).bind finds ?_
  rintro _ rfl
  cases found : find? host state program with
  | none => exact .pure .unasked
  | some tool =>
      refine (records_version host tool).bind ?_ state
      rintro version _ ⟨told, rfl⟩
      cases version with
      | none => exact .pure (.asked found)
      | some version =>
          refine (records_besides _).bind ?_
          rintro _ _ rfl
          exact .pure (.asked found)

/-- What the host is after a tool was looked for is written down with the question for its
version. -/
theorem exists_resolved_recorded (host : Host σ) (origin : LogOrigin) (job program : String)
    (state : σ) (events : List Event) :
    ∃ probes, resolved host.recorded origin job program (state, events) =
        (resolved host origin job program state, events ++ probes) ∧
      Probes host program state probes := by
  obtain ⟨probes, equal, isProbes⟩ := recordsAt_resolve host origin job program state events
  exact ⟨probes, congrArg Prod.snd equal, isProbes⟩

end Tool

/-- The first of some programs that is not found. Each stands with the state of the host that it is
looked for in. -/
def firstMissing? (host : Host σ) (tools : List (String × σ)) : Option String :=
  (tools.find? fun tool => (Tool.find? host tool.2 tool.1).isNone).map Prod.fst

section

variable {host : Host σ} {program : String} {state : σ} {tools : List (String × σ)}

theorem firstMissing?_of_missing (missing : Tool.find? host state program = none) :
    firstMissing? host ((program, state) :: tools) = some program := by
  simp [firstMissing?, missing]

theorem firstMissing?_of_found {tool : Path} (found : Tool.find? host state program = some tool) :
    firstMissing? host ((program, state) :: tools) = firstMissing? host tools := by
  simp [firstMissing?, found]

theorem of_firstMissing?_ite {name : String} (needed : Bool)
    (missing : firstMissing? host (if needed then [(program, state)] else []) = some name) :
    needed = true ∧ Tool.find? host state program = none ∧ name = program := by
  cases needed with
  | false => cases missing
  | true =>
      rw [if_pos rfl] at missing
      cases found : Tool.find? host state program with
      | none =>
          rw [firstMissing?_of_missing found] at missing
          exact ⟨rfl, rfl, (Option.some.inj missing).symm⟩
      | some tool =>
          rw [firstMissing?_of_found found] at missing
          cases missing

end

/-- Which program is missing does not depend on what is written down. -/
theorem firstMissing?_recorded (host : Host σ) (tools : List (String × (σ × List Event))) :
    firstMissing? host.recorded tools =
      firstMissing? host (tools.map fun tool => (tool.1, tool.2.1)) := by
  rw [firstMissing?, firstMissing?, List.find?_map, Option.map_map]
  rfl

theorem SourceGenerator.ofConfig_of_missing {host : Host σ} {config : Config}
    {state : σ} (enabled : config.format.enabled = true)
    (missing : Tool.find? host state config.format.program = none) (layout : EngineLayout) :
    SourceGenerator.ofConfig host layout config state =
      (.error (.toolNotFound config.format.program), state) := by
  have formats : Formatter.ofConfig host config.format state =
      (.error (.toolNotFound config.format.program), state) := by
    rw [Formatter.ofConfig, if_pos enabled]
    exact bind_of_eq (Tool.resolve_of_missing missing _ _) _
  exact bind_of_eq formats _

namespace Pipeline

/-- The programs that a pipeline needs, in the order in which they are looked for, each with the
state of the host that it is looked for in. -/
def toolsOf (host : Host σ) (config : Config) (state : σ) : List (String × σ) :=
  (config.build.program, state) ::
    if config.format.enabled then
      [(config.format.program,
        Tool.resolved host .building "build tool" config.build.program state)]
    else []

/-- A pipeline that lacks a tool is not made, whatever it was to be made for. -/
theorem ofConfig_of_missing {host : Host σ} {config : Config} {state : σ} {program : String}
    (missing : firstMissing? host (toolsOf host config state) = some program) (root : Path)
    (executor : Executor σ ε) (memory : ε) :
    ofConfig host root config executor memory state =
      (.error (.toolNotFound program),
        Tool.resolved host .building "build tool" config.build.program state) := by
  have builds :=
    Builder.ofConfig_eq host (EngineLayout.ofConfig root config.paths) config.build state
  have resolves := Tool.resolve_fst host .building "build tool" config.build.program state
  unfold toolsOf at missing
  cases found : Tool.find? host state config.build.program with
  | none =>
      rw [firstMissing?_of_missing found] at missing
      cases missing
      rw [resolves, found] at builds
      exact bind_of_eq builds _
  | some tool =>
      rw [firstMissing?_of_found found] at missing
      rw [resolves, found] at builds
      obtain ⟨enabled, unformatted, rfl⟩ := of_firstMissing?_ite _ missing
      refine (bind_of_eq builds _).trans ?_
      exact bind_of_eq (SourceGenerator.ofConfig_of_missing enabled unformatted _) _

theorem toolsOf_recorded (host : Host σ) (config : Config) (state : σ) (events : List Event) :
    (toolsOf host.recorded config (state, events)).map (fun tool => (tool.1, tool.2.1)) =
      toolsOf host config state := by
  obtain ⟨probes, resolved, -⟩ := Tool.exists_resolved_recorded host .building "build tool"
    config.build.program state events
  unfold toolsOf
  rw [resolved]
  cases config.format.enabled with
  | false => rfl
  | true => rfl

end Pipeline

namespace Config

/-- Events that only read the file at a path. -/
def Reads (path : Path) (events : List Event) : Prop :=
  ∀ event ∈ events, ∃ answer, event = .textRead path answer

end Config

namespace CommandLine

/-- The host when the command that builds an artifact looks for its tool: it warns first where there
is no source. -/
def warned (host : Host σ) (settings : Settings) (name : ArtifactName) (state : σ) : σ :=
  if host.pathExists state (settings.layout.sourcePath name.text) then state
  else
    (host.warn .buildCommand ("No generated source at " ++ settings.layout.sourcePath name.text ++
      "; building '" ++ name.text ++ "' anyway") state).2

theorem warned_recorded (host : Host σ) (settings : Settings) (name : ArtifactName) (state : σ)
    (events : List Event) :
    warned host.recorded settings name (state, events) =
      (warned host settings name state, events) := by
  have same : host.recorded.pathExists (state, events) = host.pathExists state := rfl
  rw [warned, warned, same]
  split
  · rfl
  · rfl

/-- The programs that an action needs, in the order in which they are looked for, each with the
state of the host that it is looked for in, once the settings are loaded. -/
def toolsFor (host : Host σ) (settings : Settings) (state : σ) : Action → List (String × σ)
  | .generate .. =>
      if settings.config.format.enabled then [(settings.config.format.program, state)] else []
  | .build name =>
      [(settings.config.build.program, warned host settings name state)]
  | .run .. => Pipeline.toolsOf host settings.config state
  | .bridge .. | .header _ => []

/-- The configuration file that an invocation names, or the one that is looked for. -/
def configPath (host : Host σ) (invocation : Invocation) (state : σ) : Path :=
  invocation.config.getD
    (Path.join (invocation.root.getD (host.workingDirectory state)) configFileName)

theorem eq_configPath_of_configFile? {host : Host σ} {invocation : Invocation} {state : σ}
    {path : Path} (picked : configFile? host invocation state = some path) :
    path = configPath host invocation state := by
  rw [configFile?] at picked
  rw [configPath]
  cases named : invocation.config with
  | some path =>
      rw [named] at picked
      exact (Option.some.inj picked).symm
  | none =>
      rw [named] at picked
      dsimp only at picked
      split at picked
      · exact (Option.some.inj picked).symm
      · cases picked

theorem Settings.Loads.reads {host : Host σ} {invocation : Invocation} {state : σ}
    {answer : Except PipelineError Settings} {added : List Event}
    (loads : Loads host invocation state answer added) :
    Config.Reads (configPath host invocation state) added := by
  cases loads with
  | defaults unpicked => exact fun _ member => absurd member List.not_mem_nil
  | read picked =>
      rw [← eq_configPath_of_configFile? picked]
      exact fun event member => ⟨_, List.mem_singleton.mp member⟩

/-- Nothing is done to load the settings but that the configuration file is read. -/
theorem recordsAt_load (host : Host σ) (invocation : Invocation) (state : σ) :
    RecordsAt state (Settings.load host.recorded invocation) (Settings.load host invocation)
      fun _ added => Config.Reads (configPath host invocation state) added :=
  (Settings.recordsAt_load host invocation state).mono fun _ loads => loads.reads

theorem toolsFor_recorded (host : Host σ) (settings : Settings) (action : Action) (state : σ)
    (events : List Event) :
    (toolsFor host.recorded settings (state, events) action).map
        (fun tool => (tool.1, tool.2.1)) =
      toolsFor host settings state action := by
  cases action with
  | generate name source withBridge =>
      unfold toolsFor
      cases settings.config.format.enabled with
      | false => rfl
      | true => rfl
  | build name =>
      dsimp only [toolsFor]
      rw [warned_recorded]
      rfl
  | run name source withBridge => exact Pipeline.toolsOf_recorded host settings.config state events
  | bridge name shape => rfl
  | header hash => rfl

/-- The host when an action has ended because a tool is missing. -/
def stopped (host : Host σ) (settings : Settings) (state : σ) : Action → σ
  | .build name => warned host settings name state
  | .run .. => Tool.resolved host .building "build tool" settings.config.build.program state
  | _ => state

/-- An action that lacks a tool is that of a command, and it ends with the name of the tool. -/
theorem performWith_of_missing {host : Host σ} {settings : Settings} {action : Action} {state : σ}
    {program : String}
    (missing : firstMissing? host (toolsFor host settings state action) = some program) :
    action.IsCommand ∧ performWith host settings action state =
      (.error (.pipeline (.toolNotFound program)), stopped host settings state action) := by
  cases action with
  | generate name source withBridge =>
      obtain ⟨enabled, unformatted, rfl⟩ := of_firstMissing?_ite _ missing
      exact ⟨trivial, bind_of_eq (SourceGenerator.ofConfig_of_missing enabled unformatted _) _⟩
  | build name =>
      obtain ⟨-, unbuilt, rfl⟩ := of_firstMissing?_ite true missing
      have builds := Builder.ofConfig_eq host settings.layout settings.config.build
        (warned host settings name state)
      rw [Tool.resolved, Tool.resolve_of_missing unbuilt] at builds
      refine ⟨trivial, ?_⟩
      rw [performWith, build_eq, buildAnyway]
      exact bind_of_eq builds _
  | run name source withBridge =>
      exact ⟨trivial, bind_of_eq (Pipeline.ofConfig_of_missing missing _ _ _) _⟩
  | bridge name shape => cases missing
  | header hash => cases missing

theorem perform_of_missing {host : Host σ} {invocation : Invocation} {settings : Settings}
    {state loaded : σ} {program : String}
    (loads : Settings.load host invocation state = (.ok settings, loaded))
    (missing : firstMissing? host (toolsFor host settings loaded invocation.action) =
      some program) :
    perform host invocation state =
      (.error (.pipeline (.toolNotFound program)),
        stopped host settings loaded invocation.action) := by
  obtain ⟨isCommand, ends⟩ := performWith_of_missing missing
  rw [perform_of_load isCommand loads, ends]

theorem exists_stopped_recorded (host : Host σ) (settings : Settings) (state : σ)
    (events : List Event) (action : Action) :
    ∃ probes, stopped host.recorded settings (state, events) action =
        (stopped host settings state action, events ++ probes) ∧
      Tool.Probes host settings.config.build.program state probes := by
  cases action with
  | run name source withBridge => exact Tool.exists_resolved_recorded host _ _ _ state events
  | build name =>
      refine ⟨[], ?_, .unasked⟩
      rw [List.append_nil]
      exact warned_recorded host settings name state events
  | generate name source withBridge => exact ⟨[], by rw [List.append_nil]; rfl, .unasked⟩
  | bridge name shape => exact ⟨[], by rw [List.append_nil]; rfl, .unasked⟩
  | header hash => exact ⟨[], by rw [List.append_nil]; rfl, .unasked⟩

end CommandLine

open CommandLine

/-- The first tool that is missing, the build tool before the formatter, ends what it is needed for
with its program as it is configured: the making of a pipeline, whatever its executor, and each of
the commands, with those of the two tools that it needs. Until then no more has happened than that
the configuration file was read and that the build tool was asked for its version. -/
theorem missing_tool_ends (host : Host σ) (state : σ) :
    (∀ (config : Config) (program : String),
      firstMissing? host (Pipeline.toolsOf host config state) = some program →
        ∃ after, (∀ (root : Path) (executor : Executor σ ε) (memory : ε),
            Pipeline.ofConfig host root config executor memory state =
              (.error (.toolNotFound program), after)) ∧
          ∀ events, ∃ probes, Tool.Probes host config.build.program state probes ∧
            ∀ (root : Path) (executor : Executor (σ × List Event) ε) (memory : ε),
              Pipeline.ofConfig host.recorded root config executor memory (state, events) =
                (.error (.toolNotFound program), (after, events ++ probes))) ∧
    ∀ (invocation : Invocation) (settings : Settings) (loaded : σ) (program : String),
      Settings.load host invocation state = (.ok settings, loaded) →
        firstMissing? host (toolsFor host settings loaded invocation.action) = some program →
          RecordsAt state (perform host.recorded invocation) (perform host invocation)
            fun answer added => answer = .error (.pipeline (.toolNotFound program)) ∧
              ∃ reads probes, added = reads ++ probes ∧
                Config.Reads (configPath host invocation state) reads ∧
                  Tool.Probes host settings.config.build.program loaded probes := by
  constructor
  · intro config program missing
    refine ⟨_, Pipeline.ofConfig_of_missing missing, fun events => ?_⟩
    obtain ⟨probes, resolved, isProbes⟩ := Tool.exists_resolved_recorded host .building
      "build tool" config.build.program state events
    -- What is written down has no part in which tool is missing.
    have missingToo : firstMissing? host.recorded (Pipeline.toolsOf host.recorded config
        (state, events)) = some program := by
      rw [firstMissing?_recorded, Pipeline.toolsOf_recorded]
      exact missing
    refine ⟨probes, isProbes, fun root executor memory => ?_⟩
    rw [← resolved]
    exact Pipeline.ofConfig_of_missing missingToo root executor memory
  · intro invocation settings loaded program loads missing events
    obtain ⟨reads, loadsToo, isReads⟩ := recordsAt_load host invocation state events
    rw [loads] at loadsToo
    obtain ⟨probes, ends, isProbes⟩ := exists_stopped_recorded host settings loaded
      (events ++ reads) invocation.action
    have missingToo : firstMissing? host.recorded (toolsFor host.recorded settings
        (loaded, events ++ reads) invocation.action) = some program := by
      rw [firstMissing?_recorded, toolsFor_recorded]
      exact missing
    rw [perform_of_missing loads missing, perform_of_missing loadsToo missingToo, ends,
      List.append_assoc]
    exact ⟨_, rfl, rfl, reads, probes, rfl, isReads, isProbes⟩

theorem Tool.find?_endless (program : String) (state : Nat) :
    find? Host.endless state program = none :=
  List.find?_eq_none.mpr fun _ _ => Bool.false_ne_true

/-- Where no program is there at all, a pipeline lacks the build tool before the formatter, and the
command that generates a source lacks the formatter. -/
theorem missing_tool_ends_endless :
    (∃ after probes, Tool.Probes Host.endless "make" 0 probes ∧
      Pipeline.ofConfig Host.endless.recorded "/" {} (fun _ _ => pure (.ok (), ())) () (0, []) =
        (.error (.toolNotFound "make"), (after, probes))) ∧
      (perform Host.endless { action := .generate ⟨"t1"⟩ "t1.query" false } 0).1 =
        .error (.pipeline (.toolNotFound "clang-format")) := by
  obtain ⟨pipelines, commands⟩ := missing_tool_ends (ε := Unit) Host.endless 0
  constructor
  · obtain ⟨after, -, watched⟩ := pipelines {} "make"
      (firstMissing?_of_missing (Tool.find?_endless "make" 0))
    obtain ⟨probes, isProbes, ends⟩ := watched []
    exact ⟨after, probes, isProbes, ends "/" _ ()⟩
  · obtain ⟨added, -, ends, -⟩ := commands { action := .generate ⟨"t1"⟩ "t1.query" false }
      ⟨"/", {}, false⟩ 0 "clang-format" rfl
      (firstMissing?_of_missing (Tool.find?_endless "clang-format" 0)) []
    exact ends

end QueryFoundry
