import QueryFoundry.Proofs.CommandCourses
import QueryFoundry.Proofs.PairedRuns

/-!
# One command or two

A run generates an artifact and builds it as the command that generates it and the command that
builds it do one after the other. What the run does more, or elsewhere, is to look for tools, to
read the configuration, and to tell the log and the user where it is. On a host where none of this
makes a difference both ways lead to states that cannot be told apart, with the same error where a
stage fails, and the run comes to its executor exactly when both commands succeed.
-/

namespace QueryFoundry

variable {σ ε α : Type}

/-- A likeness of the states of a host. What is told to the log or printed, reading a file and
asking a tool for its version lead to states like those before. -/
structure Host.Likeness (host : Host σ) extends Host.Correspondence host host where
  equivalence : Equivalence alike
  asks : host.AsksIn alike
  prints : ∀ text, Moves alike (host.print text)

instance {host : Host σ} (likeness : host.Likeness) : IsPreorder σ likeness.alike where
  refl := likeness.equivalence.refl
  trans _ _ _ := likeness.equivalence.trans

variable {host : Host σ} (likeness : host.Likeness)

/-- It makes no difference what the log is told. -/
theorem Host.Likeness.paired_log (entry other : LogEntry) :
    Paired likeness.alike (host.log entry) (host.log other) (Agree likeness.alike) := by
  intro state after alike
  have told := likeness.equivalence.symm (likeness.asks.log entry state)
  have toldToo := likeness.asks.log other after
  exact ⟨rfl, likeness.equivalence.trans told (likeness.equivalence.trans alike toldToo)⟩

namespace Tool

theorem find_eq (host : Host σ) (program : String) (state : σ) :
    find host program state =
      ((find? host state program).elim (.error (.toolNotFound program)) .ok, state) := by
  have looked : (get : StateM σ σ) state = (state, state) := rfl
  rw [find, bind_of_eq looked]
  cases find? host state program with
  | none => rfl
  | some path => rfl

/-- The host after a tool was looked for and, where it is there, asked for its version. -/
def resolved (host : Host σ) (origin : LogOrigin) (job program : String) (state : σ) : σ :=
  (resolve host origin job program state).2

/-- A tool is resolved to the first candidate that is an executable file, whatever it tells about
its version. -/
theorem resolve_fst (host : Host σ) (origin : LogOrigin) (job program : String) (state : σ) :
    (resolve host origin job program state).1 =
      (find? host state program).elim (.error (.toolNotFound program)) .ok := by
  rw [resolve, bind_of_eq (find_eq host program state)]
  cases find? host state program with
  | none => rfl
  | some path =>
      rcases told : version host path state with ⟨answer, after⟩
      refine (congrArg Prod.fst (bind_of_eq told _)).trans ?_
      cases answer with
      | none => rfl
      | some text => rfl

end Tool

/-- The builder that a configuration asks for, once its tool is found. -/
def Builder.equipped (layout : EngineLayout) (config : BuildConfig) (program : Path) : Builder :=
  ⟨layout.engineDir, program, config.arguments, config.timeout⟩

theorem Builder.ofConfig_eq (host : Host σ) (layout : EngineLayout) (config : BuildConfig)
    (state : σ) :
    ofConfig host layout config state =
      ((Tool.resolve host .building "build tool" config.program state).1.map
          (equipped layout config),
        Tool.resolved host .building "build tool" config.program state) := by
  rcases resolves : Tool.resolve host .building "build tool" config.program state with
    ⟨answer, after⟩
  rw [ofConfig, bind_of_eq resolves, Tool.resolved, resolves]
  cases answer with
  | error error => rfl
  | ok tool => rfl

theorem Builder.ofConfig_fst {layout : EngineLayout} {config : BuildConfig} {program : Path}
    {state : σ} (found : Tool.find? host state config.program = some program) :
    (ofConfig host layout config state).1 = .ok (equipped layout config program) := by
  rw [ofConfig_eq, Tool.resolve_fst, found]
  rfl

namespace Pipeline

def prepare (host : Host σ) (generator : SourceGenerator) (builder : Builder)
    (producer : Producer σ) (name : ArtifactName) : StateM σ (Except PipelineError Unit) := do
  match ← generator.generate host producer name with
  | .error error => return .error error
  | .ok _ =>
      match ← builder.compile host name with
      | .error error => return .error error
      | .ok _ => return .ok ()

theorem prepare_of_failed {generator : SourceGenerator} {builder : Builder} {producer : Producer σ}
    {name : ArtifactName} {error : PipelineError} {state after : σ}
    (generates : generator.generate host producer name state = (.error error, after)) :
    prepare host generator builder producer name state = (.error error, after) :=
  bind_of_eq generates _

theorem prepare_of_generated {generator : SourceGenerator} {builder : Builder}
    {producer : Producer σ} {name : ArtifactName} {path : Path}
    {answer : Except PipelineError Duration} {state made after : σ}
    (generates : generator.generate host producer name state = (.ok path, made))
    (builds : builder.compile host name made = (answer, after)) :
    prepare host generator builder producer name state = (answer.map fun _ => (), after) := by
  refine (bind_of_eq generates _).trans ((bind_of_eq builds _).trans ?_)
  cases answer with
  | error error => rfl
  | ok elapsed => rfl

/-- What becomes of an artifact that was prepared, or not: it is handed to an executor, on a state
like the one before, if nothing failed. -/
inductive Reaches (executor : Executor σ ε) (name : ArtifactName) (memory : ε) :
    Except PipelineError Unit → σ → Except PipelineError Unit → σ → Prop
  | stopped (error : PipelineError) {state after : σ} (alike : likeness.alike state after) :
      Reaches executor name memory (.error error) state (.error error) after
  | handed {state reached after : σ} (alike : likeness.alike state reached)
      (left : likeness.alike (executor name memory reached).2 after) :
      Reaches executor name memory (.ok ()) state (executor name memory reached).1.1 after

theorem Reaches.trans {executor : Executor σ ε} {name : ArtifactName} {memory : ε}
    {prepared answer : Except PipelineError Unit} {state after final : σ}
    (reaches : Reaches likeness executor name memory prepared state answer after)
    (alike : likeness.alike after final) :
    Reaches likeness executor name memory prepared state answer final := by
  cases reaches with
  | stopped error stopped => exact .stopped error (likeness.equivalence.trans stopped alike)
  | handed reached left => exact .handed reached (likeness.equivalence.trans left alike)

/-- What becomes of a run, from what preparing its artifact comes to. -/
theorem reaches_of_course {pipeline left : Pipeline σ ε} {producer : Producer σ}
    {name : ArtifactName} {result : Except PipelineError Report} {state ready after : σ}
    (produces : Paired likeness.alike producer producer (Agree likeness.alike))
    (alike : likeness.alike state ready)
    (course : Course likeness.alike host producer name pipeline ready ((result, left), after)) :
    Reaches likeness pipeline.executor name pipeline.memory
      (prepare host pipeline.generator pipeline.builder producer name state).1
      (prepare host pipeline.generator pipeline.builder producer name state).2
      (result.map fun _ => ()) after := by
  have trans {first second third : σ} : likeness.alike first second →
      likeness.alike second third → likeness.alike first third := likeness.equivalence.trans
  have generation := pipeline.generator.paired_generate likeness.toCorrespondence produces name
  have building :=
    pipeline.builder.paired_compile likeness.toCorrespondence likeness.paired_log name
  cases course with
  | notGenerated begins generates ends =>
      obtain ⟨_, made, here, rfl, alike⟩ :=
        generation.exists_eq_of_second (trans alike begins) generates
      rw [prepare_of_failed here]
      exact .stopped _ (trans alike ends)
  | notBuilt begins generates goesOn builds ends =>
      obtain ⟨_, made, here, rfl, alike⟩ :=
        generation.exists_eq_of_second (trans alike begins) generates
      obtain ⟨answer, built, compiles, same, alike⟩ :=
        building.exists_eq_of_second (trans alike goesOn) builds
      rw [prepare_of_generated here compiles]
      cases answer with
      | ok elapsed => cases same
      | error error =>
          cases same
          exact .stopped _ (trans alike ends)
  | handed begins generates goesOn builds reaches executes answers ends =>
      obtain ⟨_, made, here, rfl, alike⟩ :=
        generation.exists_eq_of_second (trans alike begins) generates
      obtain ⟨answer, built, compiles, same, alike⟩ :=
        building.exists_eq_of_second (trans alike goesOn) builds
      rw [prepare_of_generated here compiles]
      cases answer with
      | error error => cases same
      | ok elapsed =>
          have handed :
              Reaches likeness pipeline.executor name pipeline.memory (.ok ()) built _ after :=
            .handed (trans alike reaches) (by rwa [executes])
          rw [executes] at handed
          rw [answers]
          exact handed

end Pipeline

namespace CommandLine

/-- Generate an artifact as the settings demand and build it with a given builder. -/
def prepareWith (host : Host σ) (settings : Settings) (builder : Builder) (producer : Producer σ)
    (name : ArtifactName) : StateM σ (Except PipelineError Unit) := do
  match ← SourceGenerator.ofConfig host settings.layout settings.config with
  | .error error => return .error error
  | .ok generator => Pipeline.prepare host generator builder producer name

/-- Once its build tool is found, a run prepares its artifact and hands it to the executor. -/
theorem reaches_runWith {settings : Settings} {builder : Builder} {producer : Producer σ}
    (tells : ∀ path, settings.tells host path = true)
    (produces : Paired likeness.alike producer producer (Agree likeness.alike))
    (name : ArtifactName) (executor : Executor σ (Option ExecutionReport)) {state : σ}
    (equipped : (Builder.ofConfig host settings.layout settings.config.build state).1 =
      .ok builder) :
    ∃ answer, (runWith host settings name producer executor state).1 =
        Except.mapError .pipeline answer ∧
      Pipeline.Reaches likeness executor name none
        (prepareWith host settings builder producer name state).1
        (prepareWith host settings builder producer name state).2 answer
        (runWith host settings name producer executor state).2 := by
  have looked := Builder.moves_ofConfig likeness.asks settings.layout settings.config.build state
  have generators := SourceGenerator.paired_ofConfig likeness.toCorrespondence settings.layout
    settings.config
  have course := runCourse_runWith likeness.asks.log
    (fun (_ : settings.json = false) text _ => likeness.prints text) name producer executor state
  rcases ran : runWith host settings name producer executor state with ⟨answer, after⟩
  rw [ran] at course
  rw [prepareWith]
  cases course with
  | noBuildTool equips =>
      rw [equips] at equipped
      cases equipped
  | noFormatter finds equips =>
      rw [finds] at looked
      obtain ⟨_, ready, here, rfl, alike⟩ := generators.exists_eq_of_second looked equips
      rw [bind_of_eq here]
      exact ⟨_, rfl, .stopped _ alike⟩
  | untold finds equips begins course cannot => rw [tells] at cannot; cases cannot
  | failed finds equips begins course =>
      rw [finds] at looked equipped
      cases equipped
      obtain ⟨_, ready, here, rfl, alike⟩ := generators.exists_eq_of_second looked equips
      rw [bind_of_eq here]
      exact ⟨_, rfl, Pipeline.reaches_of_course likeness produces
        (likeness.equivalence.trans alike begins) course⟩
  | finished finds equips begins course can =>
      rw [finds] at looked equipped
      cases equipped
      obtain ⟨_, ready, here, rfl, alike⟩ := generators.exists_eq_of_second looked equips
      rw [bind_of_eq here]
      refine ⟨_, rfl, Pipeline.Reaches.trans likeness (Pipeline.reaches_of_course likeness produces
        (likeness.equivalence.trans alike begins) course) ?_⟩
      exact moves_tellResults likeness.prints _ _ _ _

/-- Like states, in the second of which the build tool is found. -/
def Equipped (settings : Settings) (program : Path) (state other : σ) : Prop :=
  likeness.alike state other ∧
    Tool.find? host other settings.config.build.program = some program

theorem Equipped.aside {settings : Settings} {program : Path} {action : StateM σ α}
    (moves : Moves likeness.alike action) (state other : σ)
    (equipped : Equipped likeness settings program state other) :
    Equipped likeness settings program state (action other).2 := by
  obtain ⟨alike, found⟩ := equipped
  have moved := moves other
  have same := Tool.find?_eq_of_alike likeness.toCorrespondence moved settings.config.build.program
  exact ⟨likeness.equivalence.trans alike moved, same.symm.trans found⟩

/-- Once its tool is found, the command that builds an artifact builds it and tells so. -/
theorem paired_build (settings : Settings) (name : ArtifactName) (program : Path) :
    Paired (Equipped likeness settings program)
      ((Builder.equipped settings.layout settings.config.build program).compile host name)
      (build host settings name) fun compiled built state after =>
        built = (compiled.map fun _ => ()).mapError .pipeline ∧ likeness.alike state after := by
  refine .lookAside fun looked => ?_
  refine .asideIf (Equipped.aside likeness (likeness.asks.log _)) ?_
  refine .asideFor (fun state other equipped => ⟨Builder.ofConfig_fst equipped.2, equipped.aside
    likeness (Builder.moves_ofConfig likeness.asks _ _) state other⟩) ?_
  rintro state other ⟨alike, -⟩
  have compiled := (Builder.equipped settings.layout settings.config.build program).paired_compile
    likeness.toCorrespondence likeness.paired_log name state other alike
  rcases compiles : (Builder.equipped settings.layout settings.config.build program).compile host
    name other with ⟨answer, after⟩
  rw [compiles] at compiled
  dsimp only
  rw [bind_of_eq compiles]
  obtain ⟨same, alike⟩ := compiled
  rw [same]
  cases answer with
  | error error => exact ⟨rfl, alike⟩
  | ok elapsed => exact ⟨rfl, likeness.equivalence.trans alike (likeness.prints _ _)⟩

/-- Generate an artifact and, if that succeeds, build it, each by a command of its own. -/
def generateThenBuild (host : Host σ) (invocation : Invocation) (name : ArtifactName)
    (source : Path) (withBridge : Bool) : StateM σ (Except Failure Unit) := do
  match ← perform host { invocation with action := .generate name source withBridge } with
  | .error failure => return .error failure
  | .ok () => perform host { invocation with action := .build name }

/-- Run an artifact through an executor that may be any. -/
def runThrough (host : Host σ) (invocation : Invocation) (name : ArtifactName) (source : Path)
    (withBridge : Bool) (executor : Settings → Executor σ (Option ExecutionReport)) :
    StateM σ (Except Failure Unit) := do
  match ← Settings.load host invocation with
  | .error error => return .error (.pipeline error)
  | .ok settings =>
      runWith host settings name (producerOf host name source withBridge) (executor settings)

theorem perform_run (host : Host σ) (invocation : Invocation) (name : ArtifactName) (source : Path)
    (withBridge : Bool) :
    perform host { invocation with action := .run name source withBridge } =
      runThrough host invocation name source withBridge (executorOf host) :=
  rfl

/-- The build tool that the settings ask for is there, and the generation of an artifact changes
neither the settings nor where that tool is found. If results are printed as JSON, it can hold the
paths of the host. -/
structure Steady (host : Host σ) (invocation : Invocation) (name : ArtifactName) (source : Path)
    (withBridge : Bool) (state : σ) : Prop where
  found : ∀ {settings loaded}, Settings.load host invocation state = (.ok settings, loaded) →
    (Tool.find? host loaded settings.config.build.program).isSome
  kept : ∀ {settings loaded generated},
    Settings.load host invocation state = (.ok settings, loaded) →
    generate host settings name (producerOf host name source withBridge) loaded =
      (.ok (), generated) →
    (Settings.load host invocation generated).1 = .ok settings ∧
      Tool.find? host generated settings.config.build.program =
        Tool.find? host loaded settings.config.build.program
  told : invocation.json = true → ∀ path, host.isUnicode path = true

section

variable {invocation : Invocation} {name : ArtifactName} {source : Path} {withBridge : Bool}
variable {state loaded : σ} {settings : Settings} {program : Path}

theorem Steady.tells (steady : Steady host invocation name source withBridge state)
    (loads : Settings.load host invocation state = (.ok settings, loaded)) (path : Path) :
    settings.tells host path = true := by
  rw [Settings.tells, Settings.json_eq_of_load loads]
  cases json : invocation.json with
  | false => rfl
  | true => exact steady.told json path

theorem perform_generate (loads : Settings.load host invocation state = (.ok settings, loaded)) :
    perform host { invocation with action := .generate name source withBridge } state =
      generate host settings name (producerOf host name source withBridge) loaded :=
  bind_of_eq loads _

theorem generateThenBuild_of_failed {failure : Failure} {after : σ}
    (loads : Settings.load host invocation state = (.ok settings, loaded))
    (generated : generate host settings name (producerOf host name source withBridge) loaded =
      (.error failure, after)) :
    generateThenBuild host invocation name source withBridge state = (.error failure, after) := by
  rw [← perform_generate loads] at generated
  exact bind_of_eq generated _

/-- The second command builds as the settings demand that it loads. -/
theorem generateThenBuild_of_generated {printed there : σ}
    (loads : Settings.load host invocation state = (.ok settings, loaded))
    (generated : generate host settings name (producerOf host name source withBridge) loaded =
      (.ok (), printed))
    (reloads : Settings.load host invocation printed = (.ok settings, there)) :
    generateThenBuild host invocation name source withBridge state =
      build host settings name there := by
  have performed : perform host { invocation with action := .build name } printed =
      build host settings name there := bind_of_eq reloads _
  rw [← perform_generate loads] at generated
  exact (bind_of_eq generated _).trans performed

/-- The two commands prepare the artifact, though the second one loads the settings again. -/
theorem generateThenBuild_alike (steady : Steady host invocation name source withBridge state)
    (loads : Settings.load host invocation state = (.ok settings, loaded))
    (found : Tool.find? host loaded settings.config.build.program = some program) :
    let prepared := prepareWith host settings
      (.equipped settings.layout settings.config.build program)
      (producerOf host name source withBridge) name loaded
    let separate := generateThenBuild host invocation name source withBridge state
    separate.1 = prepared.1.mapError .pipeline ∧ likeness.alike prepared.2 separate.2 := by
  intro prepared separate
  have tells := steady.tells loads
  have kept {after : σ} := @Steady.kept _ _ _ _ _ _ _ steady _ _ after loads
  subst prepared separate
  rw [prepareWith]
  rcases equips : SourceGenerator.ofConfig host settings.layout settings.config loaded with
    ⟨generator, ready⟩
  rw [bind_of_eq equips]
  cases generator with
  | error error =>
      rw [generateThenBuild_of_failed loads (bind_of_eq equips _)]
      exact ⟨rfl, likeness.equivalence.refl _⟩
  | ok generator =>
      dsimp only
      rcases generates : generator.generate host (producerOf host name source withBridge) name ready
        with ⟨answer, made⟩
      cases answer with
      | error error =>
          rw [Pipeline.prepare_of_failed generates, generateThenBuild_of_failed loads
            ((bind_of_eq equips _).trans (bind_of_eq generates _))]
          exact ⟨rfl, likeness.equivalence.refl _⟩
      | ok path =>
          obtain ⟨printed, told, generated⟩ : ∃ printed, likeness.alike made printed ∧
              generate host settings name (producerOf host name source withBridge) loaded =
                (.ok (), printed) :=
            ⟨_, likeness.prints _ made,
              (bind_of_eq equips _).trans ((bind_of_eq generates _).trans
                (congrFun (if_pos (tells path)) made))⟩
          -- The second command loads what the first one loaded, because generation changed nothing
          -- of that.
          obtain ⟨reloads, findsAgain⟩ := kept generated
          rcases reloaded : Settings.load host invocation printed with ⟨answer, there⟩
          have alike : likeness.alike printed there := by
            have moved := Settings.moves_load likeness.asks invocation printed
            rwa [reloaded] at moved
          rw [reloaded] at reloads
          obtain rfl : answer = .ok settings := reloads
          have built := paired_build likeness settings name program made there
            ⟨likeness.equivalence.trans told alike,
              (Tool.find?_eq_of_alike likeness.toCorrespondence alike _).symm.trans
                (findsAgain.trans found)⟩
          rcases compiles : (Builder.equipped settings.layout settings.config.build program).compile
            host name made with ⟨answer, compiled⟩
          rw [compiles] at built
          rw [Pipeline.prepare_of_generated generates compiles,
            generateThenBuild_of_generated loads generated reloaded]
          exact built

end

/-- A run ends with the error of the command that failed. If both commands succeed, it comes to its
executor on a state like the one they leave, and with what the executor answers. -/
theorem runThrough_alike {invocation : Invocation} {name : ArtifactName} {source : Path}
    {withBridge : Bool} {state : σ}
    (steady : Steady host invocation name source withBridge state)
    (executor : Settings → Executor σ (Option ExecutionReport)) :
    let separate := generateThenBuild host invocation name source withBridge state
    let whole := runThrough host invocation name source withBridge executor state
    (∀ error, separate.1 = .error error →
      whole.1 = .error error ∧ likeness.alike separate.2 whole.2) ∧
    (separate.1 = .ok () → ∃ settings reached,
      (Settings.load host invocation state).1 = .ok settings ∧
        likeness.alike separate.2 reached ∧
        whole.1 = (executor settings name none reached).1.1.mapError .pipeline ∧
        likeness.alike (executor settings name none reached).2 whole.2) := by
  intro separate whole
  subst separate whole
  rcases loads : Settings.load host invocation state with ⟨answer, loaded⟩
  cases answer with
  | error error =>
      have generated :
          perform host { invocation with action := .generate name source withBridge } state =
            (.error (.pipeline error), loaded) := bind_of_eq loads _
      rw [generateThenBuild, runThrough, bind_of_eq generated, bind_of_eq loads]
      refine ⟨fun _ same => ⟨same, likeness.equivalence.refl _⟩, fun succeeded => ?_⟩
      cases succeeded
  | ok settings =>
      obtain ⟨program, found⟩ := Option.isSome_iff_exists.mp (steady.found loads)
      obtain ⟨same, alike⟩ := generateThenBuild_alike likeness steady loads found
      have produces : Paired likeness.alike (producerOf host name source withBridge)
          (producerOf host name source withBridge) (Agree likeness.alike) :=
        paired_sourceProducer likeness.toCorrespondence source _
      obtain ⟨told, told_eq, reaches⟩ := reaches_runWith likeness (steady.tells loads) produces
        name (executor settings) (Builder.ofConfig_fst found)
      rw [runThrough, bind_of_eq loads]
      dsimp only at same alike ⊢
      rw [same]
      generalize (generateThenBuild host invocation name source withBridge state).2 = after
        at alike ⊢
      rcases ran : runWith host settings name (producerOf host name source withBridge)
        (executor settings) loaded with ⟨answer, final⟩
      rw [ran] at reaches told_eq
      rcases prepares : prepareWith host settings
        (.equipped settings.layout settings.config.build program)
        (producerOf host name source withBridge) name loaded with ⟨prepared, between⟩
      rw [prepares] at reaches alike
      have back := likeness.equivalence.symm alike
      cases reaches with
      | stopped error stopped =>
          refine ⟨?_, fun succeeded => (by cases succeeded)⟩
          rintro _ ⟨⟩
          exact ⟨told_eq, likeness.equivalence.trans back stopped⟩
      | @handed _ reached _ handed left =>
          refine ⟨fun _ failed => (by cases failed), fun _ => ?_⟩
          exact ⟨settings, reached, rfl, likeness.equivalence.trans back handed, told_eq, left⟩

end CommandLine

end QueryFoundry
