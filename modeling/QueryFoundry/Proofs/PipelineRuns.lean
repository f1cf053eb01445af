import Mathlib.Data.List.Forall2
import QueryFoundry.Proofs.PipelineTrace

/-!
# Sequences of runs

What is seen of a pipeline that is asked for one artifact after another, from whatever stage its
last run came to. The callback is told one of four words in each run, the stage afterwards tells how
the run ended, and the effects of a run are those of the row of its steps, up to the first failure.
-/

namespace QueryFoundry.Pipeline

variable {σ ε : Type}

/-- A call for an artifact. -/
structure Request (σ : Type) where
  producer : Producer σ
  name : ArtifactName

/-- What is seen of a run: its result, the stage that it leaves and its events. -/
structure Visit where
  result : Except PipelineError Report
  stage : Stage
  events : List Event

/-- The runs of a pipeline, one after the other, with what was written down in each. -/
def observe (host : Host σ) :
    List (Request σ) → Pipeline (σ × List Event) ε → σ → List Visit
  | [], _, _ => []
  | request :: requests, pipeline, state =>
      let ((result, after), (stateAfter, events)) := compileAndRun host.recorded
        (recording .produced request.producer) request.name pipeline (state, [])
      ⟨result, after.stage, events⟩ :: observe host requests after stateAfter

/-- The results of the runs of a pipeline, one after the other, with the stages that they leave. -/
def history (host : Host σ) :
    List (Request σ) → Pipeline σ ε → σ → List (Except PipelineError Report × Stage)
  | [], _, _ => []
  | request :: requests, pipeline, state =>
      let ((result, after), stateAfter) :=
        compileAndRun host request.producer request.name pipeline state
      (result, after.stage) :: history host requests after stateAfter

/-- A run changes no more of a pipeline than its memory and its stage. -/
theorem Ran.parts {host : Host σ} {producer : Producer σ} {name : ArtifactName}
    {pipeline after : Pipeline σ ε} {result : Except PipelineError Report} {events : List Event}
    (ran : Ran host producer name pipeline result after events) :
    ∃ memory stage, after = { pipeline with memory, stage } := by
  cases ran <;> exact ⟨_, _, rfl⟩

/-- What holds of every run holds of each in a sequence, and to be watched changes no result. -/
theorem observe_each (host : Host σ) (pipeline : Pipeline σ ε) {holds : Request σ → Visit → Prop}
    (each : ∀ request memory stage result after events,
      Ran host request.producer request.name { pipeline with memory, stage } result after events →
        holds request ⟨result, after.stage, events⟩)
    (requests : List (Request σ)) (memory : ε) (stage : Stage) (state : σ) :
    List.Forall₂ holds requests
        (observe host requests (recorded { pipeline with memory, stage }) state) ∧
      (observe host requests (recorded { pipeline with memory, stage }) state).map
          (fun visit => (visit.result, visit.stage)) =
        history host requests { pipeline with memory, stage } state := by
  induction requests generalizing memory stage state with
  | nil => exact ⟨.nil, rfl⟩
  | cons request requests ih =>
      obtain ⟨events, equal, ran⟩ := follows_compileAndRun host request.producer request.name
        { pipeline with memory, stage } state []
      rcases plain : compileAndRun host request.producer request.name
        { pipeline with memory, stage } state with ⟨⟨result, after⟩, stateAfter⟩
      rw [plain] at equal ran
      -- The next run starts from the same parts, whatever this one remembered and came to.
      obtain ⟨memoryAfter, stageAfter, rfl⟩ := ran.parts
      obtain ⟨holdBehind, equalBehind⟩ := ih memoryAfter stageAfter stateAfter
      simp only [observe, history, equal, plain]
      exact ⟨.cons (each _ _ _ _ _ _ ran) holdBehind, congrArg (List.cons _) equalBehind⟩

theorem notifications_between {name : ArtifactName} {stage : Stage} {events : List Event}
    {last : Notification} (untold : notifications events = []) :
    notifications (between name stage events last) = [.started name stage, last] := by
  have appended := notifications_append events [.notified last]
  rw [untold] at appended
  exact congrArg (List.cons _) appended

variable {host : Host σ} {pipeline : Pipeline σ ε} {request : Request σ}

theorem Generated.notifications_eq {answer : Except PipelineError Path} {events : List Event}
    (generated : Generated host pipeline request.producer request.name answer events) :
    notifications events = [] := by
  obtain ⟨-, ⟨text, taken⟩, -⟩ := generated
  exact taken.notifications_eq

theorem Built.notifications_eq {name : ArtifactName} {answer : Except PipelineError Duration}
    {events : List Event} (built : Built host pipeline name answer events) :
    notifications events = [] :=
  (Step.building host pipeline.builder name).notifications_eq built.2

/-- The words that a callback may be told in a run, each with the answers that lead to it. -/
inductive Word (host : Host σ) (pipeline : Pipeline σ ε) (request : Request σ) :
    Except PipelineError Report → List Notification → Prop
  | generationFailed {error : PipelineError}
      (generated : Gives (pipeline.generator.generate host request.producer request.name)
        (.error error)) :
      Word host pipeline request (.error error)
        [.started request.name .generating, .failed request.name .generating error]
  | buildFailed {path : Path} {error : PipelineError} {generating : Duration}
      (generated : Gives (pipeline.generator.generate host request.producer request.name)
        (.ok path))
      (built : Gives (pipeline.builder.compile host request.name) (.error error)) :
      Word host pipeline request (.error error)
        [.started request.name .generating, .completed request.name .generating generating,
          .started request.name .building, .failed request.name .building error]
  | executionFailed {path : Path} {took : Duration} {error : PipelineError}
      {generating building : Duration} {before after : ε}
      (generated : Gives (pipeline.generator.generate host request.producer request.name)
        (.ok path))
      (built : Gives (pipeline.builder.compile host request.name) (.ok took))
      (executed : Gives (pipeline.executor request.name before) (.error error, after)) :
      Word host pipeline request (.error error)
        [.started request.name .generating, .completed request.name .generating generating,
          .started request.name .building, .completed request.name .building building,
          .started request.name .executing, .failed request.name .executing error]
  | finished {path : Path} {took : Duration} {generating building executing : Duration}
      {before after : ε}
      (generated : Gives (pipeline.generator.generate host request.producer request.name)
        (.ok path))
      (built : Gives (pipeline.builder.compile host request.name) (.ok took))
      (executed : Gives (pipeline.executor request.name before) (.ok (), after)) :
      Word host pipeline request
        (.ok ⟨request.name, path,
          [⟨.generating, generating⟩, ⟨.building, building⟩, ⟨.executing, executing⟩]⟩)
        [.started request.name .generating, .completed request.name .generating generating,
          .started request.name .building, .completed request.name .building building,
          .started request.name .executing, .completed request.name .executing executing]

/-- A visit in which the callback was told one of the words for its result, and after which the
stage tells how the run ended. -/
structure Told (host : Host σ) (pipeline : Pipeline σ ε) (request : Request σ) (visit : Visit) :
    Prop where
  word : Word host pipeline request visit.result (notifications visit.events)
  done_iff : visit.stage = .done ↔ ∃ report, visit.result = .ok report
  failed_iff : visit.stage = .failed ↔ ∃ error, visit.result = .error error

theorem Ran.word {after : Pipeline σ ε} {result : Except PipelineError Report}
    {events : List Event}
    (ran : Ran host request.producer request.name pipeline result after events) :
    Word host pipeline request result (notifications events) := by
  cases ran with
  | generationFailed generated =>
      rw [notifications_between generated.notifications_eq]
      exact .generationFailed generated.1
  | buildFailed generated built =>
      rw [notifications_append, notifications_between generated.notifications_eq,
        notifications_between built.notifications_eq]
      exact .buildFailed generated.1 built.1
  | executionFailed generated built executed =>
      rw [notifications_append, notifications_append,
        notifications_between generated.notifications_eq,
        notifications_between built.notifications_eq, notifications_between rfl]
      exact .executionFailed generated.1 built.1 executed
  | finished generated built executed =>
      rw [notifications_append, notifications_append,
        notifications_between generated.notifications_eq,
        notifications_between built.notifications_eq, notifications_between rfl]
      exact .finished generated.1 built.1 executed

theorem Ran.told {after : Pipeline σ ε} {result : Except PipelineError Report}
    {events : List Event}
    (ran : Ran host request.producer request.name pipeline result after events) :
    Told host pipeline request ⟨result, after.stage, events⟩ where
  word := ran.word
  done_iff := by cases ran <;> simp
  failed_iff := by cases ran <;> simp

/-- The words of a pipeline depend neither on its memory nor on its stage. -/
theorem Word.of_parts {memory : ε} {stage : Stage} {result : Except PipelineError Report}
    {told : List Notification}
    (word : Word host { pipeline with memory, stage } request result told) :
    Word host pipeline request result told := by
  cases word with
  | generationFailed generated => exact .generationFailed generated
  | buildFailed generated built => exact .buildFailed generated built
  | executionFailed generated built executed => exact .executionFailed generated built executed
  | finished generated built executed => exact .finished generated built executed

/-- In every sequence of runs, from whatever stage, the callback is told in each run one of the four
words for its result, and the stage afterwards is done or failed as the run was. To be told changes
no result. -/
theorem observe_told (host : Host σ) (pipeline : Pipeline σ ε) (requests : List (Request σ))
    (state : σ) :
    List.Forall₂ (Told host pipeline) requests (observe host requests pipeline.recorded state) ∧
      (observe host requests pipeline.recorded state).map
          (fun visit => (visit.result, visit.stage)) =
        history host requests pipeline state := by
  refine observe_each host pipeline ?_ requests pipeline.memory pipeline.stage state
  intro request memory stage result after events ran
  exact { ran.told with word := ran.word.of_parts }

/-- The effects of a run whose steps all succeed, for the text of the producer. -/
def row (generator : SourceGenerator) (builder : Builder) (name : ArtifactName) (text : String) :
    List Effect :=
  [Effect.produce, .createDirectories generator.layout.generatedDir,
      .writeText (generator.layout.sourcePath name.text) text] ++
    generator.formatter.toList.map (fun formatter => Effect.spawn
      { program := formatter.program
        arguments := ["-style=" ++ formatter.style, "-i", generator.layout.sourcePath name.text]
        ownGroup := formatter.timeout.isSome }) ++
    [Effect.spawn
      { program := builder.program
        arguments := builder.arguments ++ [name.text]
        directory := some builder.root
        quiet := true
        ownGroup := builder.timeout.isSome }, .execute name]

/-- The steps of a run, for the text of the producer. -/
def steps (host : Host σ) (generator : SourceGenerator) (builder : Builder) (name : ArtifactName)
    (text : String) : List Step :=
  preparation host generator builder name text ++ [.executing name]

theorem effects_steps (host : Host σ) (generator : SourceGenerator) (builder : Builder)
    (name : ArtifactName) (text : String) :
    (steps host generator builder name text).map Step.effect =
      row generator builder name text := by
  rcases generator with ⟨layout, formatter⟩
  cases formatter <;> rfl

/-- The events that are not told to the callback. -/
def work (events : List Event) : List Event :=
  events.filter fun event => event.notification?.isNone

/-- The artifact that an effect hands to the executor. -/
def handed? : Effect → Option ArtifactName
  | .execute name => some name
  | _ => none

def executions (events : List Event) : List ArtifactName :=
  (effects events).filterMap handed?

/-- A visit in which steps were taken in order up to the first one that failed. The artifact was
handed to the executor once if it was generated and built, and else not at all. -/
structure Stepwise (host : Host σ) (pipeline : Pipeline σ ε) (request : Request σ) (visit : Visit)
    (text : String) : Prop where
  effects_prefix : effects visit.events <+:
    row pipeline.generator pipeline.builder request.name text
  taken : Taken (steps host pipeline.generator pipeline.builder request.name text)
    (visit.result.map fun _ => ()) (work visit.events)
  handed : (∃ front answer,
      Taken (preparation host pipeline.generator pipeline.builder request.name text) (.ok ())
        front ∧ work visit.events = front ++ [Event.executed request.name answer] ∧
          executions visit.events = [request.name]) ∨
    ∃ error, visit.result = .error error ∧
      Taken (preparation host pipeline.generator pipeline.builder request.name text)
        (.error error) (work visit.events) ∧ executions visit.events = []

theorem work_append (first second : List Event) :
    work (first ++ second) = work first ++ work second :=
  List.filter_append ..

theorem work_of_untold {events : List Event} (untold : notifications events = []) :
    work events = events := by
  rw [notifications, List.filterMap_eq_nil_iff] at untold
  refine List.filter_eq_self.mpr fun event member => ?_
  rw [untold event member]
  rfl

theorem work_between {name : ArtifactName} {stage : Stage} {events : List Event}
    {last : Notification} (untold : notifications events = []) :
    work (between name stage events last) = events := by
  rw [between, work_append]
  exact (List.append_nil _).trans (work_of_untold untold)

theorem effects_work (events : List Event) : effects (work events) = effects events := by
  rw [effects, work, List.filterMap_filter]
  refine List.filterMap_congr fun event _ => ?_
  cases event <;> rfl

theorem handed?_preparation (host : Host σ) (generator : SourceGenerator) (builder : Builder)
    (name : ArtifactName) (text : String) :
    ((preparation host generator builder name text).map Step.effect).filterMap handed? = [] := by
  rcases generator with ⟨layout, formatter⟩
  cases formatter <;> rfl

theorem executions_of_preparation {generator : SourceGenerator} {builder : Builder}
    {name : ArtifactName} {text : String} {verdict : Except PipelineError Unit}
    {events : List Event}
    (taken : Taken (preparation host generator builder name text) verdict events) :
    executions events = [] := by
  have unhanded := handed?_preparation host generator builder name text
  rw [List.filterMap_eq_nil_iff] at unhanded
  exact List.filterMap_eq_nil_iff.mpr fun effect member =>
    unhanded effect (taken.effects_prefix.subset member)

theorem executions_work (events : List Event) : executions (work events) = executions events := by
  rw [executions, effects_work, executions]

variable {text : String} {visit : Visit}

theorem effects_prefix_of_taken
    (taken : Taken (steps host pipeline.generator pipeline.builder request.name text)
      (visit.result.map fun _ => ()) (work visit.events)) :
    effects visit.events <+: row pipeline.generator pipeline.builder request.name text := by
  have takenPrefix := taken.effects_prefix
  rwa [effects_work, effects_steps] at takenPrefix

theorem Stepwise.of_stopped {error : PipelineError} (result : visit.result = .error error)
    (taken : Taken (preparation host pipeline.generator pipeline.builder request.name text)
      (.error error) (work visit.events)) :
    Stepwise host pipeline request visit text := by
  have takenAll : Taken (steps host pipeline.generator pipeline.builder request.name text)
      (visit.result.map fun _ => ()) (work visit.events) := by
    rw [result]
    exact taken.stop
  have unhanded := executions_of_preparation taken
  rw [executions_work] at unhanded
  exact ⟨effects_prefix_of_taken takenAll, takenAll, .inr ⟨error, result, taken, unhanded⟩⟩

theorem Stepwise.of_handed {front : List Event} {answer : Except PipelineError Unit}
    (result : (visit.result.map fun _ => ()) = answer)
    (taken : Taken (preparation host pipeline.generator pipeline.builder request.name text)
      (.ok ()) front)
    (worked : work visit.events = front ++ [Event.executed request.name answer]) :
    Stepwise host pipeline request visit text := by
  have takenAll : Taken (steps host pipeline.generator pipeline.builder request.name text)
      (visit.result.map fun _ => ()) (work visit.events) := by
    rw [result, worked]
    exact taken.append (.single ⟨answer, rfl, rfl⟩)
  have handed : executions visit.events = [request.name] := by
    rw [← executions_work, worked, executions, effects_append, List.filterMap_append]
    exact congrArg (· ++ [request.name]) (executions_of_preparation taken)
  exact ⟨effects_prefix_of_taken takenAll, takenAll, .inl ⟨front, answer, taken, worked, handed⟩⟩

/-- A run that generated its artifact and built it comes to the executor. -/
theorem exists_stepwise_of_built {path : Path} {took : Duration} {generation build : List Event}
    {answer : Except PipelineError Unit} {generating building executing : Notification}
    (generated : Generated host pipeline request.producer request.name (.ok path) generation)
    (built : Built host pipeline request.name (.ok took) build)
    (result : (visit.result.map fun _ => ()) = answer)
    (events : visit.events = between request.name .generating generation generating ++
      (between request.name .building build building ++
        between request.name .executing [.executed request.name answer] executing)) :
    ∃ text, Stepwise host pipeline request visit text := by
  obtain ⟨text, taken⟩ := generated.2.1
  refine ⟨text, .of_handed result (taken.append (.single built.2)) ?_⟩
  rw [events, work_append, work_append, work_between generated.notifications_eq,
    work_between built.notifications_eq, work_between rfl, List.append_assoc]

/-- A run takes its steps in order, up to the first one that fails. -/
theorem Ran.stepwise {after : Pipeline σ ε} {result : Except PipelineError Report}
    {events : List Event}
    (ran : Ran host request.producer request.name pipeline result after events) :
    ∃ text, Stepwise host pipeline request ⟨result, after.stage, events⟩ text := by
  cases ran with
  | generationFailed generated =>
      obtain ⟨text, taken⟩ := generated.2.1
      refine ⟨text, .of_stopped rfl ?_⟩
      rw [work_between generated.notifications_eq]
      exact taken.stop
  | buildFailed generated built =>
      obtain ⟨text, taken⟩ := generated.2.1
      refine ⟨text, .of_stopped rfl ?_⟩
      rw [work_append, work_between generated.notifications_eq,
        work_between built.notifications_eq]
      exact taken.append (.single built.2)
  | executionFailed generated built executed =>
      exact exists_stepwise_of_built generated built rfl rfl
  | finished generated built executed =>
      exact exists_stepwise_of_built generated built rfl rfl

/-- Where the build root is no directory, a build fails and leaves the host as it is. -/
theorem compile_of_elsewhere {builder : Builder} {state : σ} (name : ArtifactName)
    (elsewhere : host.isDirectory state builder.root = false) :
    builder.compile host name state =
      (.error (.config ("build root " ++ builder.root ++ " is not a directory")), state) := by
  have looked : (get : StateM σ σ) state = (state, state) := rfl
  have notThere : ¬host.isDirectory state builder.root = true := by simp [elsewhere]
  rw [Builder.compile, bind_of_eq looked, if_neg notThere]
  rfl

/-- In every sequence of runs, each run takes its steps in order up to the first one that fails,
whose error it returns, and the executor is handed an artifact once for each run that generated and
built it. No build is started outside of a directory. -/
theorem observe_stepwise (host : Host σ) (pipeline : Pipeline σ ε) (requests : List (Request σ))
    (state : σ) :
    List.Forall₂ (fun request visit => ∃ text, Stepwise host pipeline request visit text) requests
        (observe host requests pipeline.recorded state) ∧
      (observe host requests pipeline.recorded state).map
          (fun visit => (visit.result, visit.stage)) =
        history host requests pipeline state ∧
      ∀ name elsewhere, host.isDirectory elsewhere pipeline.builder.root = false →
        pipeline.builder.compile host name elsewhere =
          (.error (.config ("build root " ++ pipeline.builder.root ++ " is not a directory")),
            elsewhere) := by
  rw [← and_assoc]
  refine ⟨?_, fun name _ missing => compile_of_elsewhere name missing⟩
  refine observe_each host pipeline ?_ requests pipeline.memory pipeline.stage state
  intro request memory stage result after events ran
  obtain ⟨text, stepwise⟩ := ran.stepwise
  exact ⟨text, { stepwise with }⟩

end QueryFoundry.Pipeline
