import QueryFoundry.Proofs.MissingTools
import QueryFoundry.Proofs.RunEffects
import QueryFoundry.Proofs.SourceStore

/-!
# Working without a formatter

Where a configuration disables the formatter, nothing else that it says of the formatter counts. The
generator that it asks for has none, and it is made without a question to the host. Two such
configurations lead to the same actions, and the build tool is the only program that they start. The
option that skips the formatter makes any configuration such a one.
-/

namespace QueryFoundry

open CommandLine

variable {σ : Type}

def Event.child? : Event → Option Command
  | spawned command _ | captured command _ => some command
  | _ => none

/-- An event starts a child only with one of some commands. -/
def Event.StartsOf (commands : List Command) (event : Event) : Prop :=
  ∀ command, event.child? = some command → command ∈ commands

theorem Event.StartsOf.of_none {commands : List Command} {event : Event}
    (childless : event.child? = none) : event.StartsOf commands := by
  intro command starts
  rw [childless] at starts
  cases starts

theorem Event.StartsOf.of_mem {commands : List Command} {event : Event} {command : Command}
    (starts : event.child? = some command) (member : command ∈ commands) :
    event.StartsOf commands := by
  intro other startsToo
  cases starts.symm.trans startsToo
  exact member

namespace Adds

variable (commands : List Command) (host : Host σ)

theorem logs (entry : LogEntry) :
    Moves (Adds (Event.StartsOf commands)) (host.recorded.log entry) :=
  besides _

theorem prints (text : String) :
    Moves (Adds (Event.StartsOf commands)) (host.recorded.print text) :=
  print (.of_none rfl) host

theorem writesIn : host.recorded.WritesIn (Adds (Event.StartsOf commands)) where
  log := logs commands host
  readText _ := recording (fun _ => .of_none rfl) _
  readInput := recording (fun _ => .of_none rfl) _
  createDirectories _ := recording (fun _ => .of_none rfl) _
  writeText _ _ := recording (fun _ => .of_none rfl) _

theorem supervision {command : Command} (member : command ∈ commands) :
    Supervision.MovesIn (Adds (Event.StartsOf commands)) host.recorded command where
  log := logs commands host
  pause _ := recording (fun _ => .of_none rfl) _
  spawn := recording (fun _ => .of_mem rfl member) _
  poll _ := recording (fun _ => .of_none rfl) _
  wait _ := recording (fun _ => .of_none rfl) _
  killGroup _ := recording (fun _ => .of_none rfl) _

theorem loading : host.recorded.loader.MovesIn (Adds (Event.StartsOf commands)) := by
  refine loader (fun event isLoading => .of_none ?_) host
  cases event <;> first | rfl | exact isLoading.elim

end Adds

/-- Both configurations disable the formatter. They are the same but for what else they say of it.
-/
structure Config.SameUnformatted (first second : Config) : Prop where
  paths_eq : first.paths = second.paths
  build_eq : first.build = second.build
  execute_eq : first.execute = second.execute
  first_disabled : first.format.enabled = false
  second_disabled : second.format.enabled = false

section

variable {host : Host σ} {config : Config} (disabled : config.format.enabled = false)

include disabled

theorem SourceGenerator.ofConfig_of_disabled (layout : EngineLayout) :
    ofConfig host layout config = pure (.ok ⟨layout, none⟩) := by
  have unformatted : Formatter.ofConfig host config.format = pure (.ok none) := by
    rw [Formatter.ofConfig, disabled]
    rfl
  rw [ofConfig, unformatted]
  rfl

/-- The pipeline of a builder and an executor, without a formatter. -/
def Pipeline.unformatted {ε : Type} (layout : EngineLayout) (executor : Executor σ ε) (memory : ε)
    (builder : Builder) : Pipeline σ ε :=
  { generator := ⟨layout, none⟩, builder, executor, memory }

/-- For a pipeline without a formatter only the build tool is looked for. -/
theorem Pipeline.ofConfig_of_disabled {ε : Type} (root : Path) (executor : Executor σ ε)
    (memory : ε) :
    ofConfig host root config executor memory = (do
      return (← Builder.ofConfig host (EngineLayout.ofConfig root config.paths) config.build).map
        (unformatted (EngineLayout.ofConfig root config.paths) executor memory)) := by
  funext state
  rcases equips : Builder.ofConfig host (EngineLayout.ofConfig root config.paths) config.build state
    with ⟨answer, found⟩
  rw [ofConfig, bind_of_eq equips, bind_of_eq equips]
  cases answer with
  | error error => rfl
  | ok builder =>
      dsimp only
      rw [SourceGenerator.ofConfig_of_disabled disabled]
      rfl

end

namespace Pipeline

/-- Make the pipeline that a configuration asks for and take requests through it, one after the
other: the results, with the stages that the runs leave. -/
def session {ε : Type} (host : Host σ) (root : Path) (config : Config) (executor : Executor σ ε)
    (memory : ε) (callback : Callback σ) (requests : List (Request σ)) :
    StateM σ (Except PipelineError (List (Except PipelineError Report × Stage))) := do
  match ← ofConfig host root config executor memory with
  | .error error => return .error error
  | .ok pipeline => fun state =>
      (.ok (history host requests { pipeline with callback } state),
        leave host requests { pipeline with callback } state)

/-- Without a formatter a run starts no child but the build tool. -/
theorem Stepwise.startsOf {ε : Type} {host : Host σ} {pipeline : Pipeline σ ε}
    {request : Request σ} {visit : Visit} {text : String}
    (stepwise : Stepwise host pipeline request visit text)
    (absent : pipeline.generator.formatter = none) {event : Event} (member : event ∈ visit.events) :
    event.StartsOf
      [Supervision.started (pipeline.builder.command request.name) pipeline.builder.timeout] := by
  have happens (effect : Effect) (effect_eq : event.effect? = some effect) :
      effect ∈ row pipeline.generator pipeline.builder request.name text :=
    stepwise.effects_prefix.subset (List.mem_filterMap.mpr ⟨event, member, effect_eq⟩)
  simp only [row, absent, Option.toList_none, List.map_nil, List.append_nil, List.cons_append,
    List.nil_append, List.mem_cons, List.not_mem_nil, or_false] at happens
  intro command starts
  cases event with
  | spawned started answer =>
      cases starts
      have effect := happens (.spawn command) rfl
      simp only [reduceCtorEq, false_or, or_false, Effect.spawn.injEq] at effect
      subst effect
      exact List.mem_singleton_self _
  | captured started answer =>
      have effect := happens (.other (.captured started answer)) rfl
      simp only [reduceCtorEq, or_false] at effect
  | _ => cases starts

end Pipeline

namespace CommandLine

/-- The commands that a run without a formatter may start where its build tool is found: that tool
is asked for its version and builds the artifact. -/
def buildCommands (settings : Settings) (name : ArtifactName) (tool : Path) : List Command :=
  [Tool.versionCommand tool,
    Supervision.started ((Builder.equipped settings.layout settings.config.build tool).command name)
      settings.config.build.timeout]

/-- These commands, if the build tool is found. -/
def commandsOfRun (host : Host σ) (settings : Settings) (name : ArtifactName) (state : σ) :
    List Command :=
  (Tool.find? host state settings.config.build.program).toList.flatMap (buildCommands settings name)

theorem mem_commandsOfRun {host : Host σ} {settings : Settings} {state : σ} {tool : Path}
    (found : Tool.find? host state settings.config.build.program = some tool) (name : ArtifactName)
    {command : Command} (member : command ∈ buildCommands settings name tool) :
    command ∈ commandsOfRun host settings name state := by
  rw [commandsOfRun, found]
  simpa using member

section

variable {host : Host σ} {settings : Settings}

/-- The search for the build tool starts no more than the question for its version. -/
theorem adds_ofConfig (name : ArtifactName) {state : σ} {events : List Event}
    {answer : Except PipelineError Builder} {found : σ × List Event}
    (finds : Builder.ofConfig host.recorded settings.layout settings.config.build (state, events) =
      (answer, found)) :
    Adds (Event.StartsOf (commandsOfRun host settings name state)) (state, events) found ∧
      ∀ builder, answer = .ok builder →
        Moves (Adds (Event.StartsOf (commandsOfRun host settings name state)))
          (builder.compile host.recorded name) := by
  obtain ⟨probes, resolved, isProbes⟩ := Tool.exists_resolved_recorded host .building "build tool"
    settings.config.build.program state events
  have answers := Tool.resolve_fst host.recorded .building "build tool"
    settings.config.build.program (state, events)
  rw [Builder.ofConfig_eq, resolved, answers] at finds
  cases finds
  constructor
  · refine ⟨probes, rfl, fun event member => ?_⟩
    cases isProbes with
    | unasked => cases member
    | @asked tool told isFound =>
        obtain rfl := List.mem_singleton.mp member
        exact .of_mem rfl (mem_commandsOfRun isFound name List.mem_cons_self)
  · intro builder equips
    have same : Tool.find? host.recorded (state, events) settings.config.build.program =
        Tool.find? host state settings.config.build.program := rfl
    rw [same] at equips
    cases isFound : Tool.find? host state settings.config.build.program with
    | none =>
        rw [isFound] at equips
        cases equips
    | some tool =>
        rw [isFound] at equips
        cases equips
        exact moves_compile (Adds.supervision _ host
          (mem_commandsOfRun isFound name (List.mem_cons_of_mem _ List.mem_cons_self)))

end

section

variable (host : Host σ) {settings : Settings} (name : ArtifactName) (source : Path)
variable (withBridge : Bool)

theorem moves_unformatted (commands : List Command) (layout : EngineLayout) :
    Moves (Adds (Event.StartsOf commands))
      (SourceGenerator.generate host.recorded ⟨layout, none⟩
        (producerOf host.recorded name source withBridge) name) := by
  have writes := Adds.writesIn commands host
  refine SourceGenerator.moves_generate writes (fun path => ?_)
    (moves_sourceProducer writes source _) name
  rw [SourceGenerator.format_eq_pure rfl]
  exact .pure _

variable (disabled : settings.config.format.enabled = false)

include disabled

theorem moves_generate_of_disabled :
    Moves (Adds (Event.StartsOf []))
      (generate host.recorded settings name (producerOf host.recorded name source withBridge)) := by
  rw [generate, SourceGenerator.ofConfig_of_disabled disabled, pure_bind]
  refine .bind (moves_unformatted host name source withBridge [] settings.layout) fun answer => ?_
  cases answer with
  | error error => exact .pure _
  | ok path =>
      dsimp only
      split
      · exact .bind (Adds.prints [] host _) fun _ => .pure _
      · exact .pure _

/-- Without a formatter the command that runs an artifact starts no child but the build tool. -/
theorem adds_run_of_disabled (state : σ) (events : List Event) :
    Adds (Event.StartsOf (commandsOfRun host settings name state)) (state, events)
      (run host.recorded settings name (producerOf host.recorded name source withBridge)
        (state, events)).2 := by
  have logs := Adds.logs (commandsOfRun host settings name state) host
  have prints := Adds.prints (commandsOfRun host settings name state) host
  have generation := moves_unformatted host name source withBridge
    (commandsOfRun host settings name state) settings.layout
  have execution (memory : Option ExecutionReport) :
      Moves (Adds (Event.StartsOf (commandsOfRun host settings name state)))
        (executorOf host.recorded settings name memory) :=
    ModuleExecutor.moves_execute logs (Adds.loading _ host) name memory
  have course := runCourse_runWith logs (fun (_ : settings.json = false) text _ => prints text) name
    (producerOf host.recorded name source withBridge) (executorOf host.recorded settings)
    (state, events)
  have runs : run host.recorded settings name (producerOf host.recorded name source withBridge) =
      runWith host.recorded settings name (producerOf host.recorded name source withBridge)
        (executorOf host.recorded settings) := rfl
  rw [runs]
  rcases ran : runWith host.recorded settings name (producerOf host.recorded name source withBridge)
    (executorOf host.recorded settings) (state, events) with ⟨answer, after⟩
  rw [ran] at course
  cases course with
  | noBuildTool finds => exact (adds_ofConfig name finds).1
  | noFormatter finds equips =>
      -- Without a formatter there is nothing that a generator could lack.
      rw [SourceGenerator.ofConfig_of_disabled disabled] at equips
      cases equips
  | failed finds equips begins course | untold finds equips begins course =>
      rw [SourceGenerator.ofConfig_of_disabled disabled] at equips
      cases equips
      obtain ⟨found, building⟩ := adds_ofConfig name finds
      have moved := course.moves generation (building _ rfl) execution
      exact trans_of (Adds _) found (trans_of (Adds _) begins moved)
  | finished finds equips begins course =>
      rw [SourceGenerator.ofConfig_of_disabled disabled] at equips
      cases equips
      obtain ⟨found, building⟩ := adds_ofConfig name finds
      have moved := course.moves generation (building _ rfl) execution
      have told := moves_tellResults prints settings.json
      exact trans_of (Adds _) found (trans_of (Adds _) begins (trans_of (Adds _) moved (told ..)))

end

end CommandLine

/-- The same is done under both configurations, whatever the host, the producer and the executor
are. -/
structure Config.ActsAs (host : Host σ) (first second : Config) : Prop where
  generate_eq : ∀ (root : Path) (json : Bool) (name : ArtifactName) (producer : Producer σ),
    generate host ⟨root, first, json⟩ name producer =
      generate host ⟨root, second, json⟩ name producer
  run_eq : ∀ (root : Path) (json : Bool) (name : ArtifactName) (producer : Producer σ),
    run host ⟨root, first, json⟩ name producer = run host ⟨root, second, json⟩ name producer
  session_eq : ∀ {ε : Type} (root : Path) (executor : Executor σ ε) (memory : ε)
    (callback : Callback σ) (requests : List (Pipeline.Request σ)),
    Pipeline.session host root first executor memory callback requests =
      Pipeline.session host root second executor memory callback requests

/-- Under a configuration no formatter is looked for, asked for its version or started. -/
structure Config.NeverFormats (host : Host σ) (config : Config) : Prop where
  generator_eq : ∀ layout, SourceGenerator.ofConfig host layout config = pure (.ok ⟨layout, none⟩)
  pipeline_eq : ∀ {ε : Type} (root : Path) (executor : Executor σ ε) (memory : ε),
    Pipeline.ofConfig host root config executor memory = (do
      return (← Builder.ofConfig host (EngineLayout.ofConfig root config.paths) config.build).map
        (Pipeline.unformatted (EngineLayout.ofConfig root config.paths) executor memory))
  generation : ∀ (root : Path) (json : Bool) (name : ArtifactName) (source : Path)
    (withBridge : Bool),
    Moves (Adds (Event.StartsOf [])) (generate host.recorded ⟨root, config, json⟩ name
      (producerOf host.recorded name source withBridge))
  running : ∀ (root : Path) (json : Bool) (name : ArtifactName) (source : Path)
    (withBridge : Bool) (state : σ) (events : List Event),
    Adds (Event.StartsOf (commandsOfRun host ⟨root, config, json⟩ name state)) (state, events)
      (run host.recorded ⟨root, config, json⟩ name
        (producerOf host.recorded name source withBridge) (state, events)).2
  visits : ∀ {ε : Type} (layout : EngineLayout) (executor : Executor σ ε) (memory : ε)
    (builder : Builder) (callback : Callback σ) (requests : List (Pipeline.Request σ)) (state : σ),
    List.Forall₂ (fun request visit => ∀ event ∈ visit.events, event.StartsOf
        [Supervision.started (builder.command request.name) builder.timeout]) requests
      (Pipeline.observe host requests (Pipeline.recorded
        { Pipeline.unformatted layout executor memory builder with callback }) state)

namespace Config

variable {host : Host σ} {first second config : Config}

theorem SameUnformatted.actsAs (same : first.SameUnformatted second) :
    first.ActsAs host second := by
  obtain ⟨paths, format, build, execute⟩ := first
  obtain ⟨otherPaths, other, otherBuild, otherExecute⟩ := second
  obtain ⟨rfl, rfl, rfl, disabled, disabledToo⟩ := same
  have makes {ε : Type} (root : Path) (executor : Executor σ ε) (memory : ε) :
      Pipeline.ofConfig host root ⟨paths, format, build, execute⟩ executor memory =
        Pipeline.ofConfig host root ⟨paths, other, build, execute⟩ executor memory := by
    rw [Pipeline.ofConfig_of_disabled disabled, Pipeline.ofConfig_of_disabled disabledToo]
  refine ⟨fun root json name producer => ?_, fun root json name producer => ?_,
    fun root executor memory callback requests => ?_⟩
  · rw [generate, generate, SourceGenerator.ofConfig_of_disabled disabled,
      SourceGenerator.ofConfig_of_disabled disabledToo]
    rfl
  · rw [run, run, runWith, runWith]
    dsimp only
    rw [makes]
    rfl
  · rw [Pipeline.session, Pipeline.session, makes]

theorem neverFormats_of_disabled (disabled : config.format.enabled = false) :
    config.NeverFormats host where
  generator_eq := SourceGenerator.ofConfig_of_disabled disabled
  pipeline_eq := Pipeline.ofConfig_of_disabled disabled
  generation root json name source withBridge :=
    moves_generate_of_disabled host name source withBridge disabled
  running root json name source withBridge :=
    adds_run_of_disabled host name source withBridge disabled
  visits layout executor memory builder callback requests state := by
    let pipeline : Pipeline σ _ :=
      { Pipeline.unformatted layout executor memory builder with callback }
    refine (Pipeline.observe_each host pipeline ?_ requests pipeline.memory pipeline.stage state).1
    intro request memory stage result after events ran event member
    obtain ⟨text, stepwise⟩ := ran.stepwise
    exact stepwise.startsOf rfl member

end Config

namespace CommandLine

def Settings.unformatted (settings : Settings) : Settings :=
  { settings with
    config := { settings.config with format := { settings.config.format with enabled := false } } }

/-- To skip the formatter is to load the same settings with the formatter disabled. -/
theorem Settings.load_skipping (host : Host σ) (invocation : Invocation) (state : σ) :
    load host { invocation with skipsFormatter := true } state =
      ((load host { invocation with skipsFormatter := false } state).1.map unformatted,
        (load host { invocation with skipsFormatter := false } state).2) := by
  have sameFile : loadConfig host { invocation with skipsFormatter := true } =
      loadConfig host { invocation with skipsFormatter := false } := rfl
  rw [load_eq, load_eq, sameFile]
  cases (loadConfig host { invocation with skipsFormatter := false } state).1 with
  | error failure => rfl
  | ok config =>
      simp only [settle, Bool.not_true, Bool.and_false, Bool.not_false, Bool.and_true]
      rfl

/-- What is done with an invocation that skips the formatter is done with its settings but for the
formatter, which is disabled. -/
structure SkipsAs (host : Host σ) (invocation : Invocation) (state : σ) : Prop where
  load_eq : Settings.load host { invocation with skipsFormatter := true } state =
    ((Settings.load host { invocation with skipsFormatter := false } state).1.map
        Settings.unformatted,
      (Settings.load host { invocation with skipsFormatter := false } state).2)
  perform_eq : ∀ {settings : Settings} {loaded : σ}, invocation.action.IsCommand →
    Settings.load host { invocation with skipsFormatter := false } state = (.ok settings, loaded) →
      perform host { invocation with skipsFormatter := true } state =
        performWith host settings.unformatted invocation.action loaded
  perform_eq_plain : ∀ {settings : Settings} {loaded : σ} {plain : Invocation},
    Settings.load host { invocation with skipsFormatter := false } state = (.ok settings, loaded) →
      plain.action = invocation.action →
        Settings.load host plain state = (.ok settings.unformatted, loaded) →
          perform host { invocation with skipsFormatter := true } state = perform host plain state

theorem skipsAs (host : Host σ) (invocation : Invocation) (state : σ) :
    SkipsAs host invocation state := by
  have load_eq := Settings.load_skipping host invocation state
  refine ⟨load_eq, fun isCommand loads => ?_, fun loads asked loadsPlain => ?_⟩
  · rw [loads] at load_eq
    exact perform_of_load isCommand load_eq
  · rw [loads] at load_eq
    exact perform_congr asked.symm (load_eq.trans loadsPlain.symm)

end CommandLine

/-- Of two configurations that disable the formatter and are else the same, either leads to the same
actions. While it is disabled, no formatter is looked for, asked or started. To skip the formatter
of whatever settings are loaded is to disable it. -/
theorem disabled_formatter_unread (host : Host σ) :
    (∀ first second : Config, first.SameUnformatted second → first.ActsAs host second) ∧
    (∀ config : Config, config.format.enabled = false → config.NeverFormats host) ∧
    ∀ (invocation : Invocation) (state : σ), SkipsAs host invocation state := by
  refine ⟨fun first second same => ?_, fun config disabled => ?_, fun invocation state => ?_⟩
  · exact same.actsAs
  · exact Config.neverFormats_of_disabled disabled
  · exact skipsAs host invocation state

def strayConfig : Config :=
  { format :=
      { enabled := false, program := "no-such-formatter", style := "gnu",
        timeoutSeconds := some 0 } }

def strayAction : Action := .run ⟨"t1"⟩ "t1.query" false

/-- In the workshop a run does the same whether the formatter that its configuration disables is
there or not. To skip the formatter of the defaults is to disable it, wherever they come from. -/
theorem disabled_formatter_unread_workshop :
    performWith Host.workshop ⟨"/", strayConfig, false⟩ strayAction =
        performWith Host.workshop workshopSettings strayAction ∧
      perform Host.workshop { action := strayAction, skipsFormatter := true } 0 =
        performWith Host.workshop workshopSettings strayAction 0 ∧
      perform Host.workshop { action := strayAction, skipsFormatter := true } 0 =
        perform Host.workshop { action := strayAction, root := some "/", skipsFormatter := true }
          0 := by
  obtain ⟨alike, -, skips⟩ := disabled_formatter_unread Host.workshop
  have same : strayConfig.SameUnformatted workshopSettings.config := ⟨rfl, rfl, rfl, rfl, rfl⟩
  have loads : Settings.load Host.workshop { action := strayAction, skipsFormatter := false } 0 =
      (.ok ⟨"/", {}, false⟩, 0) := rfl
  have loadsPlain : Settings.load Host.workshop
      { action := strayAction, root := some "/", skipsFormatter := true } 0 =
        (.ok (Settings.unformatted ⟨"/", {}, false⟩), 0) := rfl
  have unformatted : Settings.unformatted ⟨"/", {}, false⟩ = workshopSettings := rfl
  have skipping := skips { action := strayAction } 0
  have performs := skipping.perform_eq trivial loads
  rw [unformatted] at performs
  refine ⟨(alike _ _ same).run_eq "/" false _ _, performs, ?_⟩
  exact skipping.perform_eq_plain loads rfl loadsPlain

end QueryFoundry
