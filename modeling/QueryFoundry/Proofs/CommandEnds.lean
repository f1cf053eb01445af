import QueryFoundry.Proofs.CommandCourses

/-!
# What a command changes

Where the operations of a host keep to a relation, so does a command up to the moment at which it
tells what came of it, and it only tells that when it succeeds. The relation is a parameter: that
nothing is printed but progress, that nothing is executed, or that nothing is lost of what was
written.
-/

namespace QueryFoundry.CommandLine

variable {σ : Type}

/-- A command formats what it generates where its settings say so. -/
def Formats (host : Host σ) (invocation : Invocation) (state : σ) : Prop :=
  (∀ name, invocation.action ≠ .build name) ∧ ∃ settings loaded,
    Settings.load host invocation state = (.ok settings, loaded) ∧
      settings.config.format.enabled = true

/-- The tools that a command starts are started within a relation, a formatter only where the
command formats. -/
structure StartsIn (relation : σ → σ → Prop) (host : Host σ) (formats : Prop) : Prop where
  formatter : formats → ∀ (formatter : Formatter) (path : Path), Moves relation
    (host.spawn (Supervision.started (formatter.command path) formatter.timeout))
  builder : ∀ (builder : Builder) (name : ArtifactName), Moves relation
    (host.spawn (Supervision.started (builder.command name) builder.timeout))

/-- The last thing that a command does when it succeeds: it tells what came of it. -/
inductive IsTelling (host : Host σ) (json : Bool) : StateM σ Unit → Prop
  | generated (name : ArtifactName) (path : Path) :
      IsTelling host json (printLine host (generatedText json name path))
  | built (name : ArtifactName) (elapsed : Duration) :
      IsTelling host json (printLine host (builtText json name elapsed))
  | ran (report : Report) (result : Option ExecutionReport) :
      IsTelling host json (tellResults host json report result)

/-- A command changes a host as a relation demands. If it succeeds, it then tells what came of
it. -/
inductive Ends (relation : σ → σ → Prop) (host : Host σ) (json : Bool) (state : σ) :
    Except Failure Unit × σ → Prop
  | failed {failure : Failure} {after : σ} (moved : relation state after) :
      Ends relation host json state (.error failure, after)
  | told {telling : StateM σ Unit} {done : σ} (moved : relation state done)
      (isTelling : IsTelling host json telling) :
      Ends relation host json state (.ok (), (telling done).2)

section

variable {relation : σ → σ → Prop} [IsPreorder σ relation] {host : Host σ} {json : Bool}

theorem IsTelling.moves (prints : ∀ text, Moves relation (host.print text))
    {telling : StateM σ Unit} (isTelling : IsTelling host json telling) :
    Moves relation telling := by
  cases isTelling with
  | generated name path => exact prints _
  | built name elapsed => exact prints _
  | ran report result => exact moves_tellResults prints json report result

theorem Ends.moves (prints : ∀ text, Moves relation (host.print text)) {state : σ}
    {outcome : Except Failure Unit × σ} (ends : Ends relation host json state outcome) :
    relation state outcome.2 := by
  cases ends with
  | failed moved => exact moved
  | told moved isTelling => exact trans_of relation moved (isTelling.moves prints _)

theorem Ends.after {state loaded : σ} {outcome : Except Failure Unit × σ}
    (moved : relation state loaded) (ends : Ends relation host json loaded outcome) :
    Ends relation host json state outcome := by
  cases ends with
  | failed on => exact .failed (trans_of relation moved on)
  | told on isTelling => exact .told (trans_of relation moved on) isTelling

variable (works : host.WorksIn relation) {formats : Prop} (starts : StartsIn relation host formats)
variable {settings : Settings} {name : ArtifactName} {producer : Producer σ} {state : σ}
variable {outcome : Except Failure Unit × σ}

include works starts

theorem moves_generation (name : ArtifactName) (produces : Moves relation producer)
    (asked : settings.config.format.enabled = true → formats) {generator : SourceGenerator}
    {found equipped : σ} (equips : SourceGenerator.ofConfig host settings.layout settings.config
      found = (.ok generator, equipped)) :
    Moves relation (generator.generate host producer name) := by
  refine SourceGenerator.moves_generate works.writes
    (SourceGenerator.moves_format works fun formatter present => ?_) produces name
  exact starts.formatter (asked (SourceGenerator.enabled_of_ofConfig equips present)) formatter

theorem moves_building (builder : Builder) (name : ArtifactName) :
    Moves relation (builder.compile host name) :=
  moves_compile (works.supervision (starts.builder builder name))

theorem GenerateCourse.ends (produces : Moves relation producer)
    (asked : settings.config.format.enabled = true → formats)
    (course : GenerateCourse host settings name producer state outcome) :
    Ends relation host settings.json state outcome := by
  have equipping := SourceGenerator.moves_ofConfig works.toAsksIn settings.layout settings.config
  cases course with
  | noFormatter equips => exact .failed (equipping.of_eq equips)
  | notGenerated equips generates | untold equips generates =>
      have generation := moves_generation works starts name produces asked equips
      exact .failed (trans_of relation (equipping.of_eq equips) (generation.of_eq generates))
  | generated equips generates can =>
      have generation := moves_generation works starts name produces asked equips
      exact .told (trans_of relation (equipping.of_eq equips) (generation.of_eq generates))
        (.generated ..)

theorem BuildCourse.ends (course : BuildCourse relation host settings name state outcome) :
    Ends relation host settings.json state outcome := by
  have equipping := Builder.moves_ofConfig works.toAsksIn settings.layout settings.config.build
  have building (builder : Builder) := moves_building works starts builder name
  cases course with
  | noBuildTool begins equips => exact .failed (trans_of relation begins (equipping.of_eq equips))
  | notBuilt begins equips builds =>
      have equipped := trans_of relation begins (equipping.of_eq equips)
      exact .failed (trans_of relation equipped ((building _).of_eq builds))
  | built begins equips builds =>
      have equipped := trans_of relation begins (equipping.of_eq equips)
      exact .told (trans_of relation equipped ((building _).of_eq builds)) (.built ..)

theorem RunCourse.ends (produces : Moves relation producer)
    (asked : settings.config.format.enabled = true → formats)
    {executor : Executor σ (Option ExecutionReport)}
    (execution : ∀ memory, Moves relation (executor name memory))
    (course : RunCourse relation host settings name producer executor state outcome) :
    Ends relation host settings.json state outcome := by
  have finding := Builder.moves_ofConfig works.toAsksIn settings.layout settings.config.build
  have equipping := SourceGenerator.moves_ofConfig works.toAsksIn settings.layout settings.config
  have building (builder : Builder) := moves_building works starts builder name
  cases course with
  | noBuildTool equips => exact .failed (finding.of_eq equips)
  | noFormatter finds equips =>
      exact .failed (trans_of relation (finding.of_eq finds) (equipping.of_eq equips))
  | failed finds equips begins course | untold finds equips begins course =>
      have equipped := trans_of relation (finding.of_eq finds) (equipping.of_eq equips)
      have generation := moves_generation works starts name produces asked equips
      have ran := course.moves generation (building _) execution
      exact .failed (trans_of relation equipped (trans_of relation begins ran))
  | finished finds equips begins course can =>
      have equipped := trans_of relation (finding.of_eq finds) (equipping.of_eq equips)
      have generation := moves_generation works starts name produces asked equips
      have ran := course.moves generation (building _) execution
      exact .told (trans_of relation equipped (trans_of relation begins ran)) (.ran ..)

omit starts

theorem CommandCourse.ends {invocation : Invocation}
    (starts : StartsIn relation host (Formats host invocation state))
    (loads : host.loader.MovesIn relation)
    (course : CommandCourse relation host invocation state outcome) :
    Ends relation host invocation.json state outcome := by
  have loading := Settings.moves_load works.toAsksIn invocation
  have produces (name : ArtifactName) (source : Path) (withBridge : Bool) :
      Moves relation (producerOf host name source withBridge) :=
    moves_sourceProducer works.writes source _
  have execution (settings : Settings) (name : ArtifactName) (memory : Option ExecutionReport) :
      Moves relation (executorOf host settings name memory) :=
    ModuleExecutor.moves_execute works.log loads name memory
  cases course with
  | unsettled failed => exact .failed (loading.of_eq failed)
  | generate action settled course =>
      rw [← Settings.json_eq_of_load settled]
      refine (course.ends works starts (produces _ _ _) fun enabled => ?_).after
        (loading.of_eq settled)
      exact ⟨by simp [action], _, _, settled, enabled⟩
  | build action settled course =>
      rw [← Settings.json_eq_of_load settled]
      exact (course.ends works starts).after (loading.of_eq settled)
  | run action settled course =>
      rw [← Settings.json_eq_of_load settled]
      refine (course.ends works starts (produces _ _ _) (fun enabled => ?_) (execution _ _)).after
        (loading.of_eq settled)
      exact ⟨by simp [action], _, _, settled, enabled⟩

theorem moves_perform {invocation : Invocation} (starts : StartsIn relation host True)
    (isCommand : invocation.action.IsCommand) (loads : host.loader.MovesIn relation)
    (prints : ∀ text, Moves relation (host.print text)) :
    Moves relation (perform host invocation) := by
  intro state
  have course := commandCourse_perform works.log isCommand (fun _ text _ => prints text) state
  have startsToo : StartsIn relation host (Formats host invocation state) :=
    ⟨fun _ => starts.formatter trivial, starts.builder⟩
  exact (course.ends works startsToo loads).moves prints

end

end QueryFoundry.CommandLine
