import QueryFoundry.Proofs.Steps

/-!
# What a run of the pipeline does

A pipeline whose executor and callback are written down, and a judgement on the actions of a run
beside it: they do what they do on the plain pipeline, and they add events that are related to their
answer and to the pipeline they leave. Stages and whole runs are composed of such actions.
-/

namespace QueryFoundry

variable {σ ε α β : Type}

def Callback.recorded (callback : Callback σ) : Callback (σ × List Event) where
  started name stage :=
    recording (fun _ => .notified (.started name stage)) (callback.started name stage)
  completed name stage elapsed :=
    recording (fun _ => .notified (.completed name stage elapsed))
      (callback.completed name stage elapsed)
  failed name stage error :=
    recording (fun _ => .notified (.failed name stage error)) (callback.failed name stage error)

namespace Pipeline

/-- A pipeline whose executor and callback are written down. -/
def recorded (pipeline : Pipeline σ ε) : Pipeline (σ × List Event) ε where
  generator := pipeline.generator
  builder := pipeline.builder
  executor name memory :=
    recording (fun answer => .executed name answer.1) (pipeline.executor name memory)
  memory := pipeline.memory
  callback := pipeline.callback.recorded
  stage := pipeline.stage

theorem bind_of_ran {action : Run σ ε α} {pipeline after : Pipeline σ ε} {state stateAfter : σ}
    {answer : Except PipelineError α} (ran : action pipeline state = ((answer, after), stateAfter))
    (next : α → Run σ ε β) :
    (action >>= next) pipeline state = match answer with
      | .error error => ((.error error, after), stateAfter)
      | .ok answer => next answer after stateAfter := by
  have continued : (action >>= next) pipeline state =
      ExceptT.bindCont next answer after stateAfter :=
    congrArg (fun result : (Except PipelineError α × Pipeline σ ε) × σ =>
      ExceptT.bindCont next result.1.1 result.1.2 result.2) ran
  rw [continued]
  cases answer <;> rfl

/-- From a given pipeline, an action beside which events are written down does what the plain action
does, and the events that it adds stand in a relation to its answer and the pipeline after it. -/
def Follows (recorded : Run (σ × List Event) ε α) (plain : Run σ ε α) (pipeline : Pipeline σ ε)
    (relation : Except PipelineError α → Pipeline σ ε → List Event → Prop) : Prop :=
  ∀ state events, ∃ added,
    recorded pipeline.recorded (state, events) =
      (((plain pipeline state).1.1, (plain pipeline state).1.2.recorded),
        ((plain pipeline state).2, events ++ added)) ∧
      relation (plain pipeline state).1.1 (plain pipeline state).1.2 added

variable {recorded : Run (σ × List Event) ε α} {plain : Run σ ε α} {pipeline : Pipeline σ ε}
variable {relation : Except PipelineError α → Pipeline σ ε → List Event → Prop}

namespace Follows

theorem mono {weaker : Except PipelineError α → Pipeline σ ε → List Event → Prop}
    (follows : Follows recorded plain pipeline relation)
    (weakens : ∀ answer after added, relation answer after added → weaker answer after added) :
    Follows recorded plain pipeline weaker := by
  intro state events
  obtain ⟨added, equal, related⟩ := follows state events
  exact ⟨added, equal, weakens _ _ added related⟩

protected theorem pure {answer : α} (related : relation (.ok answer) pipeline []) :
    Follows (pure answer) (pure answer) pipeline relation := by
  intro state events
  refine ⟨[], ?_, related⟩
  rw [List.append_nil]
  rfl

protected theorem throw {error : PipelineError} (related : relation (.error error) pipeline []) :
    Follows (throw error) (throw error) pipeline relation := by
  intro state events
  refine ⟨[], ?_, related⟩
  rw [List.append_nil]
  rfl

protected theorem bind {recordedNext : α → Run (σ × List Event) ε β} {next : α → Run σ ε β}
    {goal : Except PipelineError β → Pipeline σ ε → List Event → Prop}
    (first : Follows recorded plain pipeline relation)
    (stops : ∀ error after front, relation (.error error) after front →
      goal (.error error) after front)
    (goesOn : ∀ answer after front, relation (.ok answer) after front →
      Follows (recordedNext answer) (next answer) after fun last final back =>
        goal last final (front ++ back)) :
    Follows (recorded >>= recordedNext) (plain >>= next) pipeline goal := by
  intro state events
  obtain ⟨front, firstEqual, firstRelated⟩ := first state events
  rcases ran : plain pipeline state with ⟨⟨answer, after⟩, stateAfter⟩
  rw [ran] at firstEqual firstRelated
  rw [bind_of_ran ran, bind_of_ran firstEqual]
  cases answer with
  | error error => exact ⟨front, rfl, stops error after front firstRelated⟩
  | ok answer =>
      obtain ⟨back, secondEqual, secondRelated⟩ :=
        goesOn answer after front firstRelated stateAfter (events ++ front)
      refine ⟨front ++ back, ?_, secondRelated⟩
      rw [List.append_assoc] at secondEqual
      exact secondEqual

protected theorem onHost {recordedAction : StateM (σ × List Event) α} {action : StateM σ α}
    {related : α → List Event → Prop} (records : Records recordedAction action related) :
    Follows (onHost recordedAction) (onHost action : Run σ ε α) pipeline
      fun answer after added =>
        ∃ given, answer = .ok given ∧ after = pipeline ∧ related given added := by
  intro state events
  obtain ⟨added, equal, isRelated⟩ := records state events
  refine ⟨added, ?_, _, rfl, rfl, isRelated⟩
  simp only [Pipeline.onHost, equal]
  rfl

protected theorem modify
    {changeRecorded : Pipeline (σ × List Event) ε → Pipeline (σ × List Event) ε}
    {change : Pipeline σ ε → Pipeline σ ε}
    (same : changeRecorded pipeline.recorded = (change pipeline).recorded) :
    Follows (modify changeRecorded) (modify change) pipeline fun answer after added =>
      answer = .ok () ∧ after = change pipeline ∧ added = [] := by
  intro state events
  refine ⟨[], ?_, rfl, rfl, rfl⟩
  rw [List.append_nil]
  exact congrArg (fun after : Pipeline (σ × List Event) ε =>
    (((.ok () : Except PipelineError PUnit), after), (state, events))) same

theorem look {recordedNext : Pipeline (σ × List Event) ε → Run (σ × List Event) ε α}
    {next : Pipeline σ ε → Run σ ε α}
    (follows : Follows (recordedNext pipeline.recorded) (next pipeline) pipeline relation) :
    Follows (get >>= recordedNext) (get >>= next) pipeline relation :=
  follows

theorem lookAtHost {recordedNext : σ × List Event → Run (σ × List Event) ε α}
    {next : σ → Run σ ε α}
    (follows : ∀ state events,
      Follows (recordedNext (state, events)) (next state) pipeline relation) :
    Follows (Pipeline.onHost get >>= recordedNext) (Pipeline.onHost get >>= next) pipeline
      relation :=
  fun state events => follows state events state events

theorem aside {recordedAction : StateM (σ × List Event) Unit} {action : StateM σ Unit}
    {asked : Bool} {recordedNext : Unit → Run (σ × List Event) ε α} {next : Unit → Run σ ε α}
    (records : Records recordedAction action fun _ added => added = [])
    (follows : Follows (recordedNext ()) (next ()) pipeline relation) :
    Follows (if asked then Pipeline.onHost recordedAction >>= recordedNext else recordedNext ())
      (if asked then Pipeline.onHost action >>= next else next ()) pipeline relation := by
  cases asked with
  | false => exact follows
  | true =>
      refine (Follows.onHost records).bind (by simp) ?_
      rintro _ _ _ ⟨_, -, rfl, rfl⟩
      exact follows

end Follows

/-- A failure is told for the stage that the pipeline is in. -/
theorem follows_fail (host : Host σ) (name : ArtifactName) (error : PipelineError)
    (pipeline : Pipeline σ ε) :
    Follows (fail host.recorded name error : Run _ _ α) (fail host name error) pipeline
      fun answer after added =>
        answer = .error error ∧ after = { pipeline with stage := .failed } ∧
          added = [.notified (.failed name pipeline.stage error)] := by
  refine .look ?_
  refine (Follows.modify rfl).bind (by simp) ?_
  rintro _ _ _ ⟨-, rfl, rfl⟩
  refine (Follows.onHost (records_besides _)).bind (by simp) ?_
  rintro _ _ _ ⟨_, -, rfl, rfl⟩
  refine .look ?_
  refine (Follows.onHost (records_recording
    (fun _ => .notified (.failed name pipeline.stage error)) _)).bind (by simp) ?_
  rintro _ _ _ ⟨_, -, rfl, rfl, -⟩
  exact .throw ⟨rfl, rfl, rfl⟩

theorem Follows.lift {recordedWork : StateT (Pipeline (σ × List Event) ε) (StateM (σ × List Event))
      (Except PipelineError α)}
    {work : StateT (Pipeline σ ε) (StateM σ) (Except PipelineError α)}
    (follows : Follows recordedWork work pipeline relation) :
    Follows (ExceptT.lift recordedWork) (ExceptT.lift work) pipeline fun answer after added =>
      ∃ outcome, answer = .ok outcome ∧ relation outcome after added := by
  intro state events
  obtain ⟨added, equal, related⟩ := follows state events
  refine ⟨added, ?_, _, rfl, related⟩
  exact congrArg (fun result : (Except PipelineError α × Pipeline (σ × List Event) ε) ×
    (σ × List Event) => ((Except.ok (ε := PipelineError) result.1.1, result.1.2), result.2)) equal

theorem follows_hostWork {recordedWork : Pipeline (σ × List Event) ε →
      StateM (σ × List Event) (Except PipelineError α)}
    {work : Pipeline σ ε → StateM σ (Except PipelineError α)}
    {related : Except PipelineError α → List Event → Prop}
    (records : Records (recordedWork pipeline.recorded) (work pipeline) related) :
    Follows (hostWork recordedWork) (hostWork work) pipeline fun answer after added =>
      after = pipeline ∧ related answer added := by
  intro state events
  obtain ⟨added, equal, isRelated⟩ := records state events
  refine ⟨added, ?_, rfl, isRelated⟩
  exact congrArg (fun result : Except PipelineError α × (σ × List Event) =>
    ((result.1, pipeline.recorded), result.2)) equal

theorem follows_executorWork (name : ArtifactName) (pipeline : Pipeline σ ε) :
    Follows (executorWork name) (executorWork name) pipeline fun answer after added =>
      ∃ memory, after = { pipeline with memory } ∧ added = [.executed name answer] ∧
        Gives (pipeline.executor name pipeline.memory) (answer, memory) :=
  fun state _ => ⟨_, rfl, _, rfl, rfl, state, rfl⟩

/-- The events of a stage, between what the callback is told at its start and at its end. -/
def between (name : ArtifactName) (stage : Stage) (events : List Event) (last : Notification) :
    List Event :=
  .notified (.started name stage) :: events ++ [.notified last]

/-- What going through a stage comes to, from what its work comes to. -/
inductive Performed (name : ArtifactName) (stage : Stage)
    (relation : Except PipelineError α → Pipeline σ ε → List Event → Prop) :
    Except PipelineError (α × StageTiming) → Pipeline σ ε → List Event → Prop
  | failed {error : PipelineError} {after : Pipeline σ ε} {events : List Event}
      (related : relation (.error error) after events) :
      Performed name stage relation (.error error) { after with stage := .failed }
        (between name stage events (.failed name stage error))
  | completed {answer : α} {elapsed : Duration} {after : Pipeline σ ε} {events : List Event}
      (related : relation (.ok answer) after events) :
      Performed name stage relation (.ok (answer, ⟨stage, elapsed⟩)) after
        (between name stage events (.completed name stage elapsed))

/-- A stage is told to start, does its work, and is told to complete or to fail, as its work did. -/
theorem follows_perform {recordedWork : StateT (Pipeline (σ × List Event) ε)
      (StateM (σ × List Event)) (Except PipelineError α)}
    {work : StateT (Pipeline σ ε) (StateM σ) (Except PipelineError α)} {stage : Stage}
    (host : Host σ) (name : ArtifactName) (pipeline : Pipeline σ ε)
    (follows : Follows recordedWork work { pipeline with stage } relation)
    (staysAt : ∀ answer after added, relation answer after added → after.stage = stage) :
    Follows (perform host.recorded name stage recordedWork) (perform host name stage work) pipeline
      (Performed name stage relation) := by
  refine (Follows.modify rfl).bind (by simp) ?_
  rintro _ _ _ ⟨-, rfl, rfl⟩
  refine (Follows.onHost (records_besides _)).bind (by simp) ?_
  rintro _ _ _ ⟨_, -, rfl, rfl⟩
  refine .look ?_
  refine (Follows.onHost (records_recording
    (fun _ => .notified (.started name stage)) _)).bind (by simp) ?_
  rintro _ _ _ ⟨_, -, rfl, rfl, -⟩
  refine .lookAtHost fun state events => ?_
  refine follows.lift.bind (by simp) ?_
  rintro outcome after added ⟨_, ⟨⟩, related⟩
  -- A failure is told for the stage that the work left, which has to be the one that started.
  have atStage := staysAt _ _ _ related
  cases outcome with
  | error error =>
      refine (follows_fail host name error after).mono ?_
      rintro _ _ _ ⟨rfl, rfl, rfl⟩
      rw [atStage]
      exact .failed related
  | ok answer =>
      refine .lookAtHost fun stateAfter eventsAfter => ?_
      refine .look ?_
      refine (Follows.onHost (records_recording (fun _ => .notified (.completed name stage
        (host.elapsedSince (host.clock state) stateAfter))) _)).bind (by simp) ?_
      rintro _ _ _ ⟨_, -, rfl, rfl, -⟩
      exact .pure (.completed related)

/-- What generation may come to in a run. -/
def Generated (host : Host σ) (pipeline : Pipeline σ ε) (producer : Producer σ)
    (name : ArtifactName) (answer : Except PipelineError Path) (events : List Event) : Prop :=
  Gives (pipeline.generator.generate host producer name) answer ∧
    (∃ text, Taken (pipeline.generator.steps host name text) (answer.map fun _ => ()) events) ∧
      ∀ path, answer = .ok path → path = pipeline.generator.layout.sourcePath name.text

/-- What the build may come to in a run. -/
def Built (host : Host σ) (pipeline : Pipeline σ ε) (name : ArtifactName)
    (answer : Except PipelineError Duration) (events : List Event) : Prop :=
  Gives (pipeline.builder.compile host name) answer ∧
    (Step.building host pipeline.builder name).ends (answer.map fun _ => ()) events

/-- What a run may come to, with the pipeline that it leaves and its events. -/
inductive Ran (host : Host σ) (producer : Producer σ) (name : ArtifactName)
    (pipeline : Pipeline σ ε) :
    Except PipelineError Report → Pipeline σ ε → List Event → Prop
  | generationFailed {error : PipelineError} {generation : List Event}
      (generated : Generated host pipeline producer name (.error error) generation) :
      Ran host producer name pipeline (.error error) { pipeline with stage := .failed }
        (between name .generating generation (.failed name .generating error))
  | buildFailed {error : PipelineError} {path : Path} {generating : Duration}
      {generation building : List Event}
      (generated : Generated host pipeline producer name (.ok path) generation)
      (built : Built host pipeline name (.error error) building) :
      Ran host producer name pipeline (.error error) { pipeline with stage := .failed }
        (between name .generating generation (.completed name .generating generating) ++
          between name .building building (.failed name .building error))
  | executionFailed {error : PipelineError} {path : Path} {took generating building : Duration}
      {generation build : List Event} {memory : ε}
      (generated : Generated host pipeline producer name (.ok path) generation)
      (built : Built host pipeline name (.ok took) build)
      (executed : Gives (pipeline.executor name pipeline.memory) (.error error, memory)) :
      Ran host producer name pipeline (.error error) { pipeline with memory, stage := .failed }
        (between name .generating generation (.completed name .generating generating) ++
          (between name .building build (.completed name .building building) ++
            between name .executing [.executed name (.error error)]
              (.failed name .executing error)))
  | finished {path : Path} {took generating building executing : Duration}
      {generation build : List Event} {memory : ε}
      (generated : Generated host pipeline producer name (.ok path) generation)
      (built : Built host pipeline name (.ok took) build)
      (executed : Gives (pipeline.executor name pipeline.memory) (.ok (), memory)) :
      Ran host producer name pipeline
        (.ok ⟨name, path,
          [⟨.generating, generating⟩, ⟨.building, building⟩, ⟨.executing, executing⟩]⟩)
        { pipeline with memory, stage := .done }
        (between name .generating generation (.completed name .generating generating) ++
          (between name .building build (.completed name .building building) ++
            between name .executing [.executed name (.ok ())]
              (.completed name .executing executing)))

/-- A run goes through its stages in order, up to the first one that fails. -/
theorem follows_compileAndRun (host : Host σ) (producer : Producer σ) (name : ArtifactName)
    (pipeline : Pipeline σ ε) :
    Follows (compileAndRun host.recorded (recording .produced producer) name)
      (compileAndRun host producer name) pipeline (Ran host producer name pipeline) := by
  have generates : Follows
      (hostWork fun pipeline =>
        pipeline.generator.generate host.recorded (recording .produced producer) name)
      (hostWork fun pipeline => pipeline.generator.generate host producer name)
      { pipeline with stage := .generating } fun answer after added =>
        after = { pipeline with stage := .generating } ∧
          Generated host pipeline producer name answer added :=
    follows_hostWork (pipeline.generator.records_generate host producer name).gives
  have builds : Follows (hostWork fun pipeline => pipeline.builder.compile host.recorded name)
      (hostWork fun pipeline => pipeline.builder.compile host name)
      { pipeline with stage := .building } fun answer after added =>
        after = { pipeline with stage := .building } ∧ Built host pipeline name answer added :=
    follows_hostWork (records_compile host pipeline.builder name).gives
  have executes := follows_executorWork name { pipeline with stage := .executing }
  unfold compileAndRun
  refine .aside (records_besides _) ?_
  refine (Follows.modify rfl).bind (by simp) ?_
  rintro _ _ _ ⟨-, rfl, rfl⟩
  refine (follows_perform host name _ generates ?_).bind ?_ ?_
  · rintro _ _ _ ⟨rfl, -⟩
    rfl
  · intro error after front performed
    cases performed with
    | failed related =>
        obtain ⟨rfl, generated⟩ := related
        exact .generationFailed generated
  rintro _ _ _ (_ | ⟨rfl, generated⟩)
  refine (follows_perform host name { pipeline with stage := .generating } builds ?_).bind ?_ ?_
  · rintro _ _ _ ⟨rfl, -⟩
    rfl
  · intro error after front performed
    cases performed with
    | failed related =>
        obtain ⟨rfl, built⟩ := related
        exact .buildFailed generated built
  rintro _ _ _ (_ | ⟨rfl, built⟩)
  refine (follows_perform host name { pipeline with stage := .building } executes ?_).bind ?_ ?_
  · rintro _ _ _ ⟨_, rfl, -⟩
    rfl
  · intro error after front performed
    cases performed with
    | failed related =>
        obtain ⟨memory, rfl, rfl, executed⟩ := related
        exact .executionFailed generated built executed
  rintro _ _ _ (_ | ⟨memory, rfl, rfl, executed⟩)
  refine (Follows.modify rfl).bind (by simp) ?_
  rintro _ _ _ ⟨-, rfl, rfl⟩
  refine .pure ?_
  simpa only [List.append_nil] using Ran.finished generated built executed

end Pipeline

end QueryFoundry
