import QueryFoundry.Proofs.CommandMoves

/-!
# The courses of commands

How far a command gets. A run goes through three stages, and around their work nothing happens but
that something is told: to the log, and to a callback that may print it. What is told leads from one
state to another in a relation that is a parameter here. A course names the part of a command that
failed, or says that all of them succeeded, with the states that each part was begun and left in.
-/

namespace QueryFoundry

variable {σ ε α : Type}

namespace Pipeline

/-- The host when the work of a stage begins. -/
def begun (host : Host σ) (pipeline : Pipeline σ ε) (name : ArtifactName) (stage : Stage)
    (state : σ) : σ :=
  (pipeline.callback.started name stage
    (host.tellDetail .pipeline (name.text ++ ": " ++ stage.name) state).2).2

/-- What a stage that began at some moment makes of the answer of its work. -/
def conclude (host : Host σ) (name : ArtifactName) (stage : Stage) (start : Nat) :
    Except PipelineError α → Run σ ε (α × StageTiming)
  | .error error => fail host name error
  | .ok result => do
      let elapsed := host.elapsedSince start (← onHost get)
      onHost ((← get).callback.completed name stage elapsed)
      return (result, ⟨stage, elapsed⟩)

/-- A stage is what its work is, between what is told at its start and at its end. -/
theorem perform_eq (host : Host σ) (name : ArtifactName) (stage : Stage)
    (work : StateT (Pipeline σ ε) (StateM σ) (Except PipelineError α)) (pipeline : Pipeline σ ε)
    (state : σ) :
    perform host name stage work pipeline state =
      match work { pipeline with stage } (begun host pipeline name stage state) with
      | ((.error error, left), worked) => fail host name error left worked
      | ((.ok result, left), worked) =>
          ((.ok (result, ⟨stage,
              host.elapsedSince (host.clock (begun host pipeline name stage state)) worked⟩), left),
            (left.callback.completed name stage (host.elapsedSince
              (host.clock (begun host pipeline name stage state)) worked) worked).2) := by
  rcases worked : work { pipeline with stage } (begun host pipeline name stage state) with
    ⟨⟨answer, left⟩, after⟩
  have lifted : (ExceptT.lift work : Run σ ε _) { pipeline with stage }
      (begun host pipeline name stage state) = ((.ok answer, left), after) :=
    congrArg (fun result : (Except PipelineError α × Pipeline σ ε) × σ =>
      ((Except.ok (ε := PipelineError) result.1.1, result.1.2), result.2)) worked
  have entered : perform host name stage work pipeline state =
      (ExceptT.lift work >>= conclude host name stage
        (host.clock (begun host pipeline name stage state))) { pipeline with stage }
          (begun host pipeline name stage state) := rfl
  rw [entered, bind_of_ran lifted]
  cases answer with
  | error error => rfl
  | ok result => rfl

/-- The work of a stage leaves the callback as it is. -/
def KeepsCallback (work : StateT (Pipeline σ ε) (StateM σ) (Except PipelineError α)) : Prop :=
  ∀ pipeline state, (work pipeline state).1.2.callback = pipeline.callback

theorem eq_of_hostWork_eq {work : Pipeline σ ε → StateM σ (Except PipelineError α)}
    {pipeline left : Pipeline σ ε} {state after : σ} {answer : Except PipelineError α}
    (works : hostWork work pipeline state = ((answer, left), after)) :
    work pipeline state = (answer, after) ∧ left = pipeline := by
  rcases does : work pipeline state with ⟨given, worked⟩
  simp only [hostWork, does] at works
  cases works
  exact ⟨rfl, rfl⟩

theorem eq_of_executorWork_eq {name : ArtifactName} {pipeline left : Pipeline σ ε} {state after : σ}
    {answer : Except PipelineError Unit}
    (works : executorWork name pipeline state = ((answer, left), after)) :
    pipeline.executor name pipeline.memory state = ((answer, left.memory), after) := by
  rcases executes : pipeline.executor name pipeline.memory state with ⟨⟨given, memory⟩, executed⟩
  simp only [executorWork, executes] at works
  cases works
  rfl

/-- What becomes of a stage. -/
inductive StageCourse (between : σ → σ → Prop) (pipeline : Pipeline σ ε) (stage : Stage)
    (work : StateT (Pipeline σ ε) (StateM σ) (Except PipelineError α)) (state : σ) :
    (Except PipelineError (α × StageTiming) × Pipeline σ ε) × σ → Prop
  | failed {error : PipelineError} {left : Pipeline σ ε} {ready worked after : σ}
      (begins : between state ready)
      (works : work { pipeline with stage } ready = ((.error error, left), worked))
      (ends : between worked after) :
      StageCourse between pipeline stage work state
        ((.error error, { left with stage := .failed }), after)
  | completed {result : α} {timing : StageTiming} {left : Pipeline σ ε} {ready worked after : σ}
      (begins : between state ready)
      (works : work { pipeline with stage } ready = ((.ok result, left), worked))
      (ends : between worked after) :
      StageCourse between pipeline stage work state ((.ok (result, timing), left), after)

def stages (host : Host σ) (producer : Producer σ) (name : ArtifactName) : Run σ ε Report := do
  let (sourcePath, generating) ← perform host name .generating
    (hostWork fun pipeline => pipeline.generator.generate host producer name)
  let (_, building) ← perform host name .building
    (hostWork fun pipeline => pipeline.builder.compile host name)
  let (_, executing) ← perform host name .executing (executorWork name)
  modify fun pipeline => { pipeline with stage := .done }
  return ⟨name, sourcePath, [generating, building, executing]⟩

theorem compileAndRun_eq (host : Host σ) (producer : Producer σ) (name : ArtifactName)
    (pipeline : Pipeline σ ε) (state : σ) :
    compileAndRun host producer name pipeline state =
      stages host producer name { pipeline with stage := .start }
        (if name.isIdentifier then state
        else (host.warn .pipeline ("Artifact name '" ++ name.text ++
          "' is not a plain identifier; downstream tools may reject it") state).2) := by
  unfold compileAndRun
  cases name.isIdentifier with
  | false => rfl
  | true => rfl

/-- What becomes of a run. -/
inductive Course (between : σ → σ → Prop) (host : Host σ) (producer : Producer σ)
    (name : ArtifactName) (pipeline : Pipeline σ ε) (state : σ) :
    (Except PipelineError Report × Pipeline σ ε) × σ → Prop
  | notGenerated {error : PipelineError} {left : Pipeline σ ε} {ready made after : σ}
      (begins : between state ready)
      (generates : pipeline.generator.generate host producer name ready = (.error error, made))
      (ends : between made after) :
      Course between host producer name pipeline state ((.error error, left), after)
  | notBuilt {path : Path} {error : PipelineError} {left : Pipeline σ ε}
      {ready made resumed built after : σ} (begins : between state ready)
      (generates : pipeline.generator.generate host producer name ready = (.ok path, made))
      (goesOn : between made resumed)
      (builds : pipeline.builder.compile host name resumed = (.error error, built))
      (ends : between built after) :
      Course between host producer name pipeline state ((.error error, left), after)
  | handed {path : Path} {elapsed : Duration} {answer : Except PipelineError Unit} {memory : ε}
      {result : Except PipelineError Report} {left : Pipeline σ ε}
      {ready made resumed built reached executed after : σ} (begins : between state ready)
      (generates : pipeline.generator.generate host producer name ready = (.ok path, made))
      (goesOn : between made resumed)
      (builds : pipeline.builder.compile host name resumed = (.ok elapsed, built))
      (reaches : between built reached)
      (executes : pipeline.executor name pipeline.memory reached = ((answer, memory), executed))
      (answers : result.map (fun _ => ()) = answer) (ends : between executed after) :
      Course between host producer name pipeline state ((result, left), after)

section

variable {between : σ → σ → Prop} [IsPreorder σ between] {host : Host σ}
variable (logs : ∀ entry, Moves between (host.log entry))

include logs

theorem stageCourse_perform {pipeline : Pipeline σ ε}
    (tells : Callback.MovesIn between pipeline.callback) (name : ArtifactName) (stage : Stage)
    {work : StateT (Pipeline σ ε) (StateM σ) (Except PipelineError α)} (keeps : KeepsCallback work)
    (state : σ) :
    StageCourse between pipeline stage work state
      (perform host name stage work pipeline state) := by
  have begins : between state (begun host pipeline name stage state) :=
    trans_of between (logs _ state) (tells.started name stage _)
  rw [perform_eq]
  have kept := keeps { pipeline with stage } (begun host pipeline name stage state)
  rcases works : work { pipeline with stage } (begun host pipeline name stage state) with
    ⟨⟨answer, left⟩, worked⟩
  rw [works] at kept
  have tellsToo : Callback.MovesIn between left.callback := by
    rw [kept]
    exact tells
  cases answer with
  | error error =>
      exact .failed begins works (trans_of between (logs _ worked) (tellsToo.failed _ _ _ _))
  | ok result => exact .completed begins works (tellsToo.completed _ _ _ _)

/-- The stages of a run are begun one after the other, each one once that before it completed. -/
theorem course_stages {pipeline : Pipeline σ ε}
    (tells : Callback.MovesIn between pipeline.callback) (producer : Producer σ)
    (name : ArtifactName) (state : σ) :
    Course between host producer name pipeline state
      (stages host producer name pipeline state) := by
  let generate : StateT (Pipeline σ ε) (StateM σ) (Except PipelineError Path) :=
    hostWork fun pipeline => pipeline.generator.generate host producer name
  let build : StateT (Pipeline σ ε) (StateM σ) (Except PipelineError Duration) :=
    hostWork fun pipeline => pipeline.builder.compile host name
  have generating := stageCourse_perform logs tells name .generating
    (show KeepsCallback generate from fun _ _ => rfl) state
  rcases performed : perform host name .generating generate pipeline state with
    ⟨⟨result, left⟩, made⟩
  rw [performed] at generating
  rw [stages, bind_of_ran performed]
  cases generating with
  | failed begins works ends =>
      obtain ⟨generates, rfl⟩ := eq_of_hostWork_eq works
      exact .notGenerated begins generates ends
  | @completed path _ _ _ generated _ begins works ends =>
      obtain ⟨generates, rfl⟩ := eq_of_hostWork_eq works
      have building := stageCourse_perform logs
        (show Callback.MovesIn between { pipeline with stage := .generating }.callback from tells)
        name .building (show KeepsCallback build from fun _ _ => rfl) made
      rcases performed : perform host name .building build
        { pipeline with stage := .generating } made with ⟨⟨result, left⟩, built⟩
      rw [performed] at building
      dsimp only
      rw [bind_of_ran performed]
      cases building with
      | failed resumes works stops =>
          obtain ⟨builds, rfl⟩ := eq_of_hostWork_eq works
          exact .notBuilt begins generates (trans_of between ends resumes) builds stops
      | completed resumes works stops =>
          obtain ⟨builds, rfl⟩ := eq_of_hostWork_eq works
          have keeps : KeepsCallback (executorWork name : StateT (Pipeline σ ε) (StateM σ) _) :=
            fun _ _ => rfl
          have executing := stageCourse_perform logs
            (show Callback.MovesIn between { pipeline with stage := .building }.callback from tells)
            name .executing keeps built
          rcases performed : perform host name .executing (executorWork name)
            { pipeline with stage := .building } built with ⟨⟨result, left⟩, after⟩
          rw [performed] at executing
          dsimp only
          rw [bind_of_ran performed]
          have goesOn := trans_of between ends resumes
          cases executing with
          | failed reaches works closes =>
              have executes := eq_of_executorWork_eq works
              exact .handed begins generates goesOn builds (trans_of between stops reaches) executes
                rfl closes
          | completed reaches works closes =>
              have executes := eq_of_executorWork_eq works
              exact .handed begins generates goesOn builds (trans_of between stops reaches) executes
                rfl closes

omit logs in
theorem Course.before {pipeline : Pipeline σ ε} {producer : Producer σ} {name : ArtifactName}
    {stage : Stage} {state ready : σ} {outcome : (Except PipelineError Report × Pipeline σ ε) × σ}
    (told : between state ready)
    (course : Course between host producer name { pipeline with stage } ready outcome) :
    Course between host producer name pipeline state outcome := by
  cases course with
  | notGenerated begins generates ends =>
      exact .notGenerated (trans_of between told begins) generates ends
  | notBuilt begins generates goesOn builds ends =>
      exact .notBuilt (trans_of between told begins) generates goesOn builds ends
  | handed begins generates goesOn builds reaches executes answers ends =>
      exact .handed (trans_of between told begins) generates goesOn builds reaches executes answers
        ends

theorem course_compileAndRun {pipeline : Pipeline σ ε}
    (tells : Callback.MovesIn between pipeline.callback) (producer : Producer σ)
    (name : ArtifactName) (state : σ) :
    Course between host producer name pipeline state
      (compileAndRun host producer name pipeline state) := by
  rw [compileAndRun_eq]
  refine Course.before ?_ (course_stages logs
    (show Callback.MovesIn between { pipeline with stage := .start }.callback from tells) producer
    name _)
  split
  · exact refl_of between state
  · exact logs _ state

omit logs in
/-- A run leads from its state to the one it leaves as its stages do. -/
theorem Course.moves {pipeline : Pipeline σ ε} {producer : Producer σ} {name : ArtifactName}
    {state : σ} {outcome : (Except PipelineError Report × Pipeline σ ε) × σ}
    (course : Course between host producer name pipeline state outcome)
    (generation : Moves between (pipeline.generator.generate host producer name))
    (building : Moves between (pipeline.builder.compile host name))
    (execution : ∀ memory, Moves between (pipeline.executor name memory)) :
    between state outcome.2 := by
  cases course with
  | notGenerated begins generates ends =>
      exact trans_of between begins (trans_of between (generation.of_eq generates) ends)
  | notBuilt begins generates goesOn builds ends =>
      have made := trans_of between begins (generation.of_eq generates)
      have built := trans_of between goesOn (building.of_eq builds)
      exact trans_of between made (trans_of between built ends)
  | handed begins generates goesOn builds reaches executes answers ends =>
      have made := trans_of between begins (generation.of_eq generates)
      have built := trans_of between goesOn (building.of_eq builds)
      have executed := trans_of between reaches ((execution _).of_eq executes)
      exact trans_of between made (trans_of between built (trans_of between executed ends))

end

end Pipeline

namespace CommandLine

/-- What a run prints before it is over. -/
inductive IsProgress : String → Prop
  | announced (name : ArtifactName) : IsProgress ("Running " ++ name.text ++ "\n")
  | started (verb : String) (name : ArtifactName) :
      IsProgress ("  ▶ " ++ verb ++ " " ++ name.text ++ "... ")
  | completed (elapsed : Duration) : IsProgress ("✓ " ++ elapsed.hundredthsText ++ "s" ++ "\n")
  | failed : IsProgress ("✗" ++ "\n")

/-- Print what came of a run in the form that is asked for. -/
def tellResults (host : Host σ) (json : Bool) (report : Report)
    (result : Option ExecutionReport) : StateM σ Unit :=
  if json then printLine host (resultJson report result).pretty
  else printResults host report result

/-- What becomes of the command that runs an artifact, once its settings are loaded. -/
inductive RunCourse (between : σ → σ → Prop) (host : Host σ) (settings : Settings)
    (name : ArtifactName) (producer : Producer σ) (executor : Executor σ (Option ExecutionReport))
    (state : σ) : Except Failure Unit × σ → Prop
  | noBuildTool {error : PipelineError} {after : σ}
      (equips : Builder.ofConfig host settings.layout settings.config.build state =
        (.error error, after)) :
      RunCourse between host settings name producer executor state (.error (.pipeline error), after)
  | noFormatter {builder : Builder} {error : PipelineError} {found after : σ}
      (finds : Builder.ofConfig host settings.layout settings.config.build state =
        (.ok builder, found))
      (equips : SourceGenerator.ofConfig host settings.layout settings.config found =
        (.error error, after)) :
      RunCourse between host settings name producer executor state (.error (.pipeline error), after)
  | failed {builder : Builder} {generator : SourceGenerator} {callback : Callback σ}
      {error : PipelineError} {left : Pipeline σ (Option ExecutionReport)}
      {found equipped ready after : σ}
      (finds : Builder.ofConfig host settings.layout settings.config.build state =
        (.ok builder, found))
      (equips : SourceGenerator.ofConfig host settings.layout settings.config found =
        (.ok generator, equipped))
      (begins : between equipped ready)
      (course : Pipeline.Course between host producer name
        { generator, builder, executor, memory := none, callback } ready
        ((.error error, left), after)) :
      RunCourse between host settings name producer executor state (.error (.pipeline error), after)
  | untold {builder : Builder} {generator : SourceGenerator} {callback : Callback σ}
      {report : Report} {left : Pipeline σ (Option ExecutionReport)} {found equipped ready ran : σ}
      (finds : Builder.ofConfig host settings.layout settings.config.build state =
        (.ok builder, found))
      (equips : SourceGenerator.ofConfig host settings.layout settings.config found =
        (.ok generator, equipped))
      (begins : between equipped ready)
      (course : Pipeline.Course between host producer name
        { generator, builder, executor, memory := none, callback } ready
        ((.ok report, left), ran))
      (cannot : settings.tells host report.sourcePath = false) :
      RunCourse between host settings name producer executor state (.error .notUnicode, ran)
  | finished {builder : Builder} {generator : SourceGenerator} {callback : Callback σ}
      {report : Report} {left : Pipeline σ (Option ExecutionReport)} {found equipped ready ran : σ}
      (finds : Builder.ofConfig host settings.layout settings.config.build state =
        (.ok builder, found))
      (equips : SourceGenerator.ofConfig host settings.layout settings.config found =
        (.ok generator, equipped))
      (begins : between equipped ready)
      (course : Pipeline.Course between host producer name
        { generator, builder, executor, memory := none, callback } ready
        ((.ok report, left), ran))
      (can : settings.tells host report.sourcePath = true) :
      RunCourse between host settings name producer executor state
        (.ok (), (tellResults host settings.json report left.memory ran).2)

section

variable {between : σ → σ → Prop} [IsPreorder σ between] {host : Host σ}

theorem movesIn_progress (prints : ∀ text, IsProgress text → Moves between (host.print text)) :
    Callback.MovesIn between (progress host) where
  started name stage := by
    unfold progress
    dsimp only
    cases stageVerb? stage with
    | none => exact .pure _
    | some verb => exact prints _ (.started verb name)
  completed _ _ elapsed := prints _ (.completed elapsed)
  failed _ _ _ := prints _ .failed

theorem movesIn_silent : Callback.MovesIn between (Callback.silent : Callback σ) where
  started _ _ := .pure _
  completed _ _ _ := .pure _
  failed _ _ _ := .pure _

theorem moves_tellResults (prints : ∀ text, Moves between (host.print text)) (json : Bool)
    (report : Report) (result : Option ExecutionReport) :
    Moves between (tellResults host json report result) := by
  unfold tellResults
  split
  · exact prints _
  · refine .bind (prints _) fun _ => ?_
    cases result with
    | none => exact .bind (.pure _) fun _ => prints _
    | some result => exact .bind (prints _) fun _ => prints _

/-- Once the tools are found, a run goes through its stages and tells what came of them. -/
theorem runCourse_compileAndRun (logs : ∀ entry, Moves between (host.log entry))
    {callback : Callback σ} (tells : Callback.MovesIn between callback) {settings : Settings}
    {name : ArtifactName} {producer : Producer σ}
    {executor : Executor σ (Option ExecutionReport)} {builder : Builder}
    {generator : SourceGenerator} {state found equipped ready : σ}
    (finds : Builder.ofConfig host settings.layout settings.config.build state =
      (.ok builder, found))
    (equips : SourceGenerator.ofConfig host settings.layout settings.config found =
      (.ok generator, equipped))
    (begins : between equipped ready) {tell : Report → Option ExecutionReport → StateM σ Unit}
    (tell_eq : ∀ report result,
      tell report result = tellResults host settings.json report result) :
    RunCourse between host settings name producer executor state
      ((do
        let (result, after) ← (Pipeline.compileAndRun host producer name
          { generator, builder, executor, memory := none, callback } : StateM σ _)
        match result with
        | .error error => return .error (.pipeline error)
        | .ok report =>
            if settings.tells host report.sourcePath then
              tell report after.memory
              return .ok ()
            else return .error .notUnicode : StateM σ (Except Failure Unit)) ready) := by
  have course := Pipeline.course_compileAndRun logs (show Callback.MovesIn between
    (Pipeline.callback { generator, builder, executor, memory := none, callback }) from tells)
    producer name ready
  rcases ran : Pipeline.compileAndRun host producer name
    { generator, builder, executor, memory := none, callback } ready with ⟨⟨result, left⟩, after⟩
  rw [ran] at course
  rw [bind_of_eq ran]
  cases result with
  | error error => exact .failed finds equips begins course
  | ok report =>
      dsimp only
      split
      · rename_i can
        have finished := RunCourse.finished finds equips begins course can
        rw [← tell_eq] at finished
        exact finished
      · rename_i cannot
        exact .untold finds equips begins course (Bool.eq_false_iff.mpr cannot)

/-- Where results are printed as JSON, nothing is printed before them. -/
theorem runCourse_runWith (logs : ∀ entry, Moves between (host.log entry)) {settings : Settings}
    (prints : settings.json = false → ∀ text, IsProgress text → Moves between (host.print text))
    (name : ArtifactName) (producer : Producer σ)
    (executor : Executor σ (Option ExecutionReport)) (state : σ) :
    RunCourse between host settings name producer executor state
      (runWith host settings name producer executor state) := by
  rcases finds : Builder.ofConfig host settings.layout settings.config.build state with
    ⟨answer, found⟩
  cases answer with
  | error error =>
      have unequipped : Pipeline.ofConfig host settings.root settings.config executor none state =
          (.error error, found) := bind_of_eq finds _
      rw [runWith, bind_of_eq unequipped]
      exact .noBuildTool finds
  | ok builder =>
      rcases equips : SourceGenerator.ofConfig host settings.layout settings.config found with
        ⟨answer, equipped⟩
      cases answer with
      | error error =>
          have unequipped : Pipeline.ofConfig host settings.root settings.config executor none
              state = (.error error, equipped) := (bind_of_eq finds _).trans (bind_of_eq equips _)
          rw [runWith, bind_of_eq unequipped]
          exact .noFormatter finds equips
      | ok generator =>
          have made : Pipeline.ofConfig host settings.root settings.config executor none state =
              (.ok { generator, builder, executor, memory := none }, equipped) :=
            (bind_of_eq finds _).trans (bind_of_eq equips _)
          rw [runWith, bind_of_eq made]
          dsimp only
          cases json : settings.json with
          | true =>
              exact runCourse_compileAndRun logs movesIn_silent finds equips
                (refl_of between equipped) fun _ _ => (if_pos json).symm
          | false =>
              exact runCourse_compileAndRun logs (movesIn_progress (prints json)) finds equips
                (prints json _ (.announced name) equipped) fun _ _ => (if_neg (by simp [json])).symm

end

/-- The actions that work on an artifact. The others print a template. -/
def Action.IsCommand : Action → Prop
  | .generate .. | .build _ | .run .. => True
  | .bridge .. | .header _ => False

def producerOf (host : Host σ) (name : ArtifactName) (source : Path) (withBridge : Bool) :
    Producer σ :=
  sourceProducer host source (if withBridge then some name.text else none)

def executorOf (host : Host σ) (settings : Settings) : Executor σ (Option ExecutionReport) :=
  ModuleExecutor.execute host ⟨settings.layout, settings.config.execute⟩

/-- Do what is asked with settings that are loaded. A template needs none. -/
def performWith (host : Host σ) (settings : Settings) :
    Action → StateM σ (Except Failure Unit)
  | .generate name source withBridge =>
      generate host settings name (producerOf host name source withBridge)
  | .build name => build host settings name
  | .run name source withBridge =>
      run host settings name (producerOf host name source withBridge)
  | .bridge name shape => do
      host.print (shape.render name)
      return .ok ()
  | .header hash => do
      host.print (QueryHeader.render hash)
      return .ok ()

def generatedText (json : Bool) (name : ArtifactName) (path : Path) : String :=
  if json then
    (Json.object [("name", .text name.text), ("source_path", .text path)]).compact
  else "Generated " ++ path

def builtText (json : Bool) (name : ArtifactName) (elapsed : Duration) : String :=
  if json then
    let milliseconds : UInt64 := UInt64.ofNat elapsed.wholeMilliseconds
    (Json.object [("elapsed_ms", .whole milliseconds.toNat), ("name", .text name.text)]).compact
  else "Built " ++ name.text ++ " in " ++ elapsed.hundredthsText ++ "s"

/-- Build an artifact, whether its source is there or not. -/
def buildAnyway (host : Host σ) (settings : Settings) (name : ArtifactName) :
    StateM σ (Except Failure Unit) := do
  match ← Builder.ofConfig host settings.layout settings.config.build with
  | .error error => return .error (.pipeline error)
  | .ok builder =>
      match ← builder.compile host name with
      | .error error => return .error (.pipeline error)
      | .ok elapsed =>
          printLine host (builtText settings.json name elapsed)
          return .ok ()

theorem build_eq (host : Host σ) (settings : Settings) (name : ArtifactName) (state : σ) :
    build host settings name state =
      buildAnyway host settings name
        (if host.pathExists state (settings.layout.sourcePath name.text) then state
        else (host.warn .buildCommand ("No generated source at " ++
          settings.layout.sourcePath name.text ++ "; building '" ++ name.text ++ "' anyway")
            state).2) := by
  have looked : (get : StateM σ σ) state = (state, state) := rfl
  rw [build, bind_of_eq looked]
  cases host.pathExists state (settings.layout.sourcePath name.text) with
  | false => rfl
  | true => rfl

/-- What is asked of a command is done with the settings that it loads. -/
theorem perform_eq (host : Host σ) {invocation : Invocation}
    (isCommand : invocation.action.IsCommand) :
    perform host invocation = (do
      match ← Settings.load host invocation with
      | .error error => return .error (.pipeline error)
      | .ok settings => performWith host settings invocation.action) := by
  rw [perform]
  cases asked : invocation.action with
  | generate name source withBridge => rfl
  | build name => rfl
  | run name source withBridge => rfl
  | bridge name shape =>
      rw [asked] at isCommand
      exact isCommand.elim
  | header hash =>
      rw [asked] at isCommand
      exact isCommand.elim

theorem perform_of_load {host : Host σ} {invocation : Invocation} {settings : Settings}
    {state loaded : σ} (isCommand : invocation.action.IsCommand)
    (loads : Settings.load host invocation state = (.ok settings, loaded)) :
    perform host invocation state = performWith host settings invocation.action loaded := by
  rw [perform_eq host isCommand]
  exact bind_of_eq loads _

/-- Of the options of an action no more counts than the settings that they lead to. -/
theorem perform_congr {host : Host σ} {first second : Invocation} {state : σ}
    (asked : first.action = second.action)
    (loads : Settings.load host first state = Settings.load host second state) :
    perform host first state = perform host second state := by
  rcases answer : Settings.load host second state with ⟨settings, loaded⟩
  have loadsToo := loads.trans answer
  rw [perform, perform, asked]
  cases second.action with
  | generate name source withBridge =>
      dsimp only
      rw [bind_of_eq loadsToo, bind_of_eq answer]
  | build name =>
      dsimp only
      rw [bind_of_eq loadsToo, bind_of_eq answer]
  | run name source withBridge =>
      dsimp only
      rw [bind_of_eq loadsToo, bind_of_eq answer]
  | bridge name shape => rfl
  | header hash => rfl

/-- What becomes of the command that generates an artifact, once its settings are loaded. -/
inductive GenerateCourse (host : Host σ) (settings : Settings) (name : ArtifactName)
    (producer : Producer σ) (state : σ) : Except Failure Unit × σ → Prop
  | noFormatter {error : PipelineError} {after : σ}
      (equips : SourceGenerator.ofConfig host settings.layout settings.config state =
        (.error error, after)) :
      GenerateCourse host settings name producer state (.error (.pipeline error), after)
  | notGenerated {generator : SourceGenerator} {error : PipelineError} {equipped after : σ}
      (equips : SourceGenerator.ofConfig host settings.layout settings.config state =
        (.ok generator, equipped))
      (generates : generator.generate host producer name equipped = (.error error, after)) :
      GenerateCourse host settings name producer state (.error (.pipeline error), after)
  | untold {generator : SourceGenerator} {path : Path} {equipped made : σ}
      (equips : SourceGenerator.ofConfig host settings.layout settings.config state =
        (.ok generator, equipped))
      (generates : generator.generate host producer name equipped = (.ok path, made))
      (cannot : settings.tells host path = false) :
      GenerateCourse host settings name producer state (.error .panicked, made)
  | generated {generator : SourceGenerator} {path : Path} {equipped made : σ}
      (equips : SourceGenerator.ofConfig host settings.layout settings.config state =
        (.ok generator, equipped))
      (generates : generator.generate host producer name equipped = (.ok path, made))
      (can : settings.tells host path = true) :
      GenerateCourse host settings name producer state
        (.ok (), (printLine host (generatedText settings.json name path) made).2)

/-- What becomes of the command that builds an artifact, once its settings are loaded. -/
inductive BuildCourse (between : σ → σ → Prop) (host : Host σ) (settings : Settings)
    (name : ArtifactName) (state : σ) : Except Failure Unit × σ → Prop
  | noBuildTool {error : PipelineError} {ready after : σ} (begins : between state ready)
      (equips : Builder.ofConfig host settings.layout settings.config.build ready =
        (.error error, after)) :
      BuildCourse between host settings name state (.error (.pipeline error), after)
  | notBuilt {builder : Builder} {error : PipelineError} {ready equipped after : σ}
      (begins : between state ready)
      (equips : Builder.ofConfig host settings.layout settings.config.build ready =
        (.ok builder, equipped))
      (builds : builder.compile host name equipped = (.error error, after)) :
      BuildCourse between host settings name state (.error (.pipeline error), after)
  | built {builder : Builder} {elapsed : Duration} {ready equipped built : σ}
      (begins : between state ready)
      (equips : Builder.ofConfig host settings.layout settings.config.build ready =
        (.ok builder, equipped))
      (builds : builder.compile host name equipped = (.ok elapsed, built)) :
      BuildCourse between host settings name state
        (.ok (), (printLine host (builtText settings.json name elapsed) built).2)

/-- What becomes of a command. -/
inductive CommandCourse (between : σ → σ → Prop) (host : Host σ) (invocation : Invocation)
    (state : σ) : Except Failure Unit × σ → Prop
  | unsettled {error : PipelineError} {after : σ}
      (loads : Settings.load host invocation state = (.error error, after)) :
      CommandCourse between host invocation state (.error (.pipeline error), after)
  | generate {settings : Settings} {loaded : σ} {name : ArtifactName} {source : Path}
      {withBridge : Bool} {outcome : Except Failure Unit × σ}
      (asked : invocation.action = .generate name source withBridge)
      (loads : Settings.load host invocation state = (.ok settings, loaded))
      (course : GenerateCourse host settings name (producerOf host name source withBridge) loaded
        outcome) :
      CommandCourse between host invocation state outcome
  | build {settings : Settings} {loaded : σ} {name : ArtifactName}
      {outcome : Except Failure Unit × σ} (asked : invocation.action = .build name)
      (loads : Settings.load host invocation state = (.ok settings, loaded))
      (course : BuildCourse between host settings name loaded outcome) :
      CommandCourse between host invocation state outcome
  | run {settings : Settings} {loaded : σ} {name : ArtifactName} {source : Path}
      {withBridge : Bool} {outcome : Except Failure Unit × σ}
      (asked : invocation.action = .run name source withBridge)
      (loads : Settings.load host invocation state = (.ok settings, loaded))
      (course : RunCourse between host settings name (producerOf host name source withBridge)
        (executorOf host settings) loaded outcome) :
      CommandCourse between host invocation state outcome

def loadConfig (host : Host σ) (invocation : Invocation) :
    StateM σ (Except Config.LoadFailure Config) := do
  let root := invocation.root.getD (host.workingDirectory (← get))
  match invocation.config with
  | some path => Config.load host path
  | none => Config.discover host root

/-- The settings that a configuration and the options of an invocation come to. -/
def Settings.settle (invocation : Invocation) (root : Path) :
    Except Config.LoadFailure Config → Except PipelineError Settings
  | .error failure => .error failure.toError
  | .ok config =>
      let format := { config.format with
        enabled := config.format.enabled && !invocation.skipsFormatter }
      .ok ⟨root, { config with format }, invocation.json⟩

theorem Settings.load_eq (host : Host σ) (invocation : Invocation) (state : σ) :
    load host invocation state =
      (settle invocation (invocation.root.getD (host.workingDirectory state))
          (loadConfig host invocation state).1,
        (loadConfig host invocation state).2) := by
  have looked : (get : StateM σ σ) state = (state, state) := rfl
  rw [load, loadConfig, bind_of_eq looked, bind_of_eq looked]
  cases named : invocation.config with
  | none =>
      rcases found : Config.discover host (invocation.root.getD (host.workingDirectory state)) state
        with ⟨answer, after⟩
      dsimp only
      rw [bind_of_eq found, found]
      cases answer with
      | error failure => rfl
      | ok config => rfl
  | some path =>
      rcases found : Config.load host path state with ⟨answer, after⟩
      dsimp only
      rw [bind_of_eq found, found]
      cases answer with
      | error failure => rfl
      | ok config => rfl

theorem Settings.json_eq_of_load {host : Host σ} {invocation : Invocation} {settings : Settings}
    {state loaded : σ} (loads : load host invocation state = (.ok settings, loaded)) :
    settings.json = invocation.json := by
  rw [load_eq] at loads
  cases found : (loadConfig host invocation state).1 with
  | error failure =>
      rw [found] at loads
      cases loads
  | ok config =>
      rw [found] at loads
      cases loads
      rfl

section

variable {host : Host σ}

theorem generateCourse_generate (settings : Settings) (name : ArtifactName)
    (producer : Producer σ) (state : σ) :
    GenerateCourse host settings name producer state
      (generate host settings name producer state) := by
  rcases equips : SourceGenerator.ofConfig host settings.layout settings.config state with
    ⟨answer, equipped⟩
  rw [CommandLine.generate, bind_of_eq equips]
  cases answer with
  | error error => exact .noFormatter equips
  | ok generator =>
      dsimp only
      rcases generates : generator.generate host producer name equipped with ⟨answer, made⟩
      rw [bind_of_eq generates]
      cases answer with
      | error error => exact .notGenerated equips generates
      | ok path =>
          dsimp only
          split
          · rename_i can
            exact .generated equips generates can
          · rename_i cannot
            exact .untold equips generates (Bool.eq_false_iff.mpr cannot)

variable {between : σ → σ → Prop} [IsPreorder σ between]
variable (logs : ∀ entry, Moves between (host.log entry))

include logs

theorem buildCourse_build (settings : Settings) (name : ArtifactName) (state : σ) :
    BuildCourse between host settings name state (build host settings name state) := by
  rw [build_eq]
  generalize ready_eq : (if host.pathExists state (settings.layout.sourcePath name.text) then state
    else _) = ready
  have begins : between state ready := by
    subst ready_eq
    split
    · exact refl_of between state
    · exact logs _ state
  rcases equips : Builder.ofConfig host settings.layout settings.config.build ready with
    ⟨answer, equipped⟩
  rw [buildAnyway, bind_of_eq equips]
  cases answer with
  | error error => exact .noBuildTool begins equips
  | ok builder =>
      dsimp only
      rcases builds : builder.compile host name equipped with ⟨answer, built⟩
      rw [bind_of_eq builds]
      cases answer with
      | error error => exact .notBuilt begins equips builds
      | ok elapsed => exact .built begins equips builds

theorem commandCourse_perform {invocation : Invocation} (isCommand : invocation.action.IsCommand)
    (prints : invocation.json = false → ∀ text, IsProgress text → Moves between (host.print text))
    (state : σ) :
    CommandCourse between host invocation state (perform host invocation state) := by
  rcases loads : Settings.load host invocation state with ⟨answer, loaded⟩
  rw [perform_eq host isCommand, bind_of_eq loads]
  cases answer with
  | error error => exact .unsettled loads
  | ok settings =>
      dsimp only
      cases asked : invocation.action with
      | generate name source withBridge => exact .generate asked loads (generateCourse_generate ..)
      | build name => exact .build asked loads (buildCourse_build logs ..)
      | run name source withBridge =>
          rw [← Settings.json_eq_of_load loads] at prints
          exact .run asked loads (runCourse_runWith logs prints ..)
      | bridge name shape =>
          rw [asked] at isCommand
          exact isCommand.elim
      | header hash =>
          rw [asked] at isCommand
          exact isCommand.elim

end

end CommandLine

end QueryFoundry
