import QueryFoundry.Builder
import QueryFoundry.Proofs.Supervision
import QueryFoundry.SourceGenerator

/-!
# Steps

Generation and the build as rows of steps, each with one effect outside of the program. Steps are
taken in order until one of them fails, whose error is then the error of the whole row.
-/

namespace QueryFoundry

variable {σ : Type}

/-- An effect outside of the program. -/
inductive Effect where
  | produce
  | createDirectories (path : Path)
  | writeText (path : Path) (text : String)
  | spawn (command : Command)
  | execute (name : ArtifactName)
  | other (event : Event)

/-- The effect that an event stands for. The supervision of a tool belongs to its start, and telling
the callback changes nothing. -/
def Event.effect? : Event → Option Effect
  | produced _ => some .produce
  | directoriesCreated path _ => some (.createDirectories path)
  | textWritten path text _ => some (.writeText path text)
  | spawned command _ => some (.spawn command)
  | executed name _ => some (.execute name)
  | paused _ | polled .. | waited .. | groupKilled .. | notified _ => none
  | event => some (.other event)

def effects (events : List Event) : List Effect :=
  events.filterMap Event.effect?

def notifications (events : List Event) : List Notification :=
  events.filterMap Event.notification?

@[simp]
theorem effects_append (first second : List Event) :
    effects (first ++ second) = effects first ++ effects second :=
  List.filterMap_append

@[simp]
theorem notifications_append (first second : List Event) :
    notifications (first ++ second) = notifications first ++ notifications second :=
  List.filterMap_append

/-- One step: its effect, and what it may come to. A step that succeeds has had its effect and no
other. One that fails has had no other either. Neither tells the callback anything. -/
structure Step where
  effect : Effect
  ends : Except PipelineError Unit → List Event → Prop
  effects_of_ok : ∀ {events}, ends (.ok ()) events → effects events = [effect]
  effects_of_error : ∀ {error events}, ends (.error error) events → effects events <+: [effect]
  notifications_eq : ∀ {verdict events}, ends verdict events → notifications events = []

/-- Steps are taken in order up to the first one that fails, with what all of them come to. -/
inductive Taken : List Step → Except PipelineError Unit → List Event → Prop
  | finished : Taken [] (.ok ()) []
  | failed {step : Step} {steps : List Step} {error : PipelineError} {events : List Event}
      (ends : step.ends (.error error) events) : Taken (step :: steps) (.error error) events
  | succeeded {step : Step} {steps : List Step} {verdict : Except PipelineError Unit}
      {front back : List Event} (ends : step.ends (.ok ()) front)
      (rest : Taken steps verdict back) : Taken (step :: steps) verdict (front ++ back)

namespace Taken

variable {steps more : List Step} {verdict : Except PipelineError Unit} {error : PipelineError}
variable {front back events : List Event}

theorem single {step : Step} (ends : step.ends verdict events) : Taken [step] verdict events := by
  cases verdict with
  | error error => exact .failed ends
  | ok _ =>
      rw [← List.append_nil events]
      exact .succeeded ends .finished

theorem stop (taken : Taken steps (.error error) events) :
    Taken (steps ++ more) (.error error) events := by
  generalize failure : Except.error error = verdict at taken
  induction taken with
  | finished => cases failure
  | failed ends => exact .failed ends
  | succeeded ends rest ih => exact .succeeded ends (ih failure)

theorem append (first : Taken steps (.ok ()) front) (second : Taken more verdict back) :
    Taken (steps ++ more) verdict (front ++ back) := by
  generalize success : Except.ok () = reached at first
  induction first with
  | finished => exact second
  | failed ends => cases success
  | succeeded ends rest ih =>
      rw [List.append_assoc]
      exact .succeeded ends (ih success)

/-- Steps that all succeed have had their effects, each once and in order. -/
theorem effects_of_ok (taken : Taken steps (.ok ()) events) :
    effects events = steps.map Step.effect := by
  generalize success : Except.ok () = verdict at taken
  induction taken with
  | finished => rfl
  | failed ends => cases success
  | @succeeded step _ _ _ _ ends rest ih =>
      rw [effects_append, step.effects_of_ok ends, ih success]
      rfl

/-- However far they are taken, the effects of steps are the first ones of the row. -/
theorem effects_prefix (taken : Taken steps verdict events) :
    effects events <+: steps.map Step.effect := by
  induction taken with
  | finished => exact List.nil_prefix
  | @failed step steps _ _ ends =>
      exact (step.effects_of_error ends).trans ⟨steps.map Step.effect, rfl⟩
  | @succeeded step _ _ _ _ ends rest ih =>
      rw [effects_append, step.effects_of_ok ends]
      exact (List.prefix_append_right_inj _).mpr ih

theorem notifications_eq (taken : Taken steps verdict events) : notifications events = [] := by
  induction taken with
  | finished => rfl
  | @failed step _ _ _ ends => exact step.notifications_eq ends
  | @succeeded step _ _ _ _ ends rest ih =>
      rw [notifications_append, step.notifications_eq ends, ih]
      rfl

end Taken

/-- A step that is one event: what it comes to is judged by the answer. -/
def Step.asking {α : Type} (effect : Effect) (event : α → Event)
    (judge : α → Except PipelineError Unit → Prop)
    (effect_event : ∀ answer, (event answer).effect? = some effect)
    (notification_event : ∀ answer, (event answer).notification? = none) : Step where
  effect := effect
  ends verdict events := ∃ answer, judge answer verdict ∧ events = [event answer]
  effects_of_ok := by
    rintro _ ⟨answer, -, rfl⟩
    simp [effects, effect_event]
  effects_of_error := by
    rintro _ _ ⟨answer, -, rfl⟩
    simp [effects, effect_event]
  notifications_eq := by
    rintro _ _ ⟨answer, -, rfl⟩
    simp [notifications, notification_event]

namespace Supervision

variable {host : Host σ} {command : Command} {timeout : Option Duration} {job : Job} {state : σ}
variable {limit : Nat} {outcome : Except IoError ToolOutcome} {events : List Event}

theorem effects_idleRounds (child : Child) (rounds : Nat) :
    effects (idleRounds child rounds) = [] := by
  refine List.filterMap_eq_nil_iff.mpr fun event member => ?_
  rcases eq_of_mem_idleRounds member with rfl | rfl <;> rfl

theorem notifications_idleRounds (child : Child) (rounds : Nat) :
    notifications (idleRounds child rounds) = [] := by
  refine List.filterMap_eq_nil_iff.mpr fun event member => ?_
  rcases eq_of_mem_idleRounds member with rfl | rfl <;> rfl

theorem Watched.effects_eq (watched : Watched host job limit state outcome events) :
    effects events = [] := by
  cases watched <;> rw [effects_append, effects_idleRounds] <;> rfl

theorem Watched.notifications_eq (watched : Watched host job limit state outcome events) :
    notifications events = [] := by
  cases watched <;> rw [notifications_append, notifications_idleRounds] <;> rfl

theorem Supervised.effects_eq (supervised : Supervised host command timeout state outcome events) :
    effects events = [.spawn (started command timeout)] := by
  cases supervised with
  | unstarted refused => rfl
  | finished unlimited spawned gives finished => rfl
  | watched limited spawned watched => exact congrArg (List.cons _) watched.effects_eq

theorem Supervised.notifications_eq
    (supervised : Supervised host command timeout state outcome events) :
    notifications events = [] := by
  cases supervised with
  | unstarted refused => rfl
  | finished unlimited spawned gives finished => rfl
  | watched limited spawned watched => exact watched.notifications_eq

end Supervision

/-- What supervision of a tool comes to for the step that starts it. -/
def toolVerdict (program : Path) (judge : ToolOutcome → Except PipelineError Unit) :
    Except IoError ToolOutcome → Except PipelineError Unit
  | .error error => .error (.ofSpawn program error)
  | .ok outcome => judge outcome

/-- A tool is started, and what supervision of it comes to decides. -/
def ToolRan (host : Host σ) (command : Command) (timeout : Option Duration)
    (judge : ToolOutcome → Except PipelineError Unit) (verdict : Except PipelineError Unit)
    (events : List Event) : Prop :=
  ∃ state outcome, Supervision.Supervised host command timeout state outcome events ∧
    verdict = toolVerdict command.program judge outcome

def Step.formatting (host : Host σ) (formatter : Formatter) (path : Path) : Step where
  effect := .spawn (Supervision.started (formatter.command path) formatter.timeout)
  ends := ToolRan host (formatter.command path) formatter.timeout (formatter.judge path)
  effects_of_ok := fun ⟨_, _, supervised, _⟩ => supervised.effects_eq
  effects_of_error := fun ⟨_, _, supervised, _⟩ => ⟨[], by simp [supervised.effects_eq]⟩
  notifications_eq := fun ⟨_, _, supervised, _⟩ => supervised.notifications_eq

/-- The step that builds an artifact. Its tool is not started where the build root is no directory
at that moment. -/
def Step.building (host : Host σ) (builder : Builder) (name : ArtifactName) : Step where
  effect := .spawn (Supervision.started (builder.command name) builder.timeout)
  ends verdict events := ∃ state,
    if host.isDirectory state builder.root then
      ToolRan host (builder.command name) builder.timeout
        (fun outcome => (builder.judge name outcome).map fun _ => ()) verdict events
    else
      verdict = .error (.config ("build root " ++ builder.root ++ " is not a directory")) ∧
        events = []
  effects_of_ok := by
    rintro events ⟨state, ends⟩
    split at ends
    · obtain ⟨_, _, supervised, -⟩ := ends
      exact supervised.effects_eq
    · cases ends.1
  effects_of_error := by
    rintro error events ⟨state, ends⟩
    split at ends
    · obtain ⟨_, _, supervised, -⟩ := ends
      exact ⟨[], by simp [supervised.effects_eq]⟩
    · obtain ⟨-, rfl⟩ := ends
      exact List.nil_prefix
  notifications_eq := by
    rintro verdict events ⟨state, ends⟩
    split at ends
    · obtain ⟨_, _, supervised, -⟩ := ends
      exact supervised.notifications_eq
    · obtain ⟨-, rfl⟩ := ends
      rfl

namespace SourceGenerator

def failure (name : ArtifactName) (action target : String) (error : IoError) : PipelineError :=
  .generation name.text ("cannot " ++ action ++ " " ++ target ++ ": " ++ error.message)

def producing (name : ArtifactName) (text : String) : Step :=
  .asking .produce .produced
    (fun answer verdict => match answer with
      | .error causes => verdict = .error (.generation name.text (causeText causes))
      | .ok produced => verdict = .ok () ∧ produced = text)
    (fun _ => rfl) (fun _ => rfl)

def creating (generator : SourceGenerator) (name : ArtifactName) : Step :=
  .asking (.createDirectories generator.layout.generatedDir)
    (.directoriesCreated generator.layout.generatedDir)
    (fun answer verdict =>
      verdict = answer.mapError (failure name "create" generator.layout.generatedDir))
    (fun _ => rfl) (fun _ => rfl)

def writing (generator : SourceGenerator) (name : ArtifactName) (text : String) : Step :=
  .asking (.writeText (generator.layout.sourcePath name.text) text)
    (.textWritten (generator.layout.sourcePath name.text) text)
    (fun answer verdict =>
      verdict = answer.mapError (failure name "write" (generator.layout.sourcePath name.text)))
    (fun _ => rfl) (fun _ => rfl)

/-- The steps that format a source, where there is a formatter. -/
def formatting (host : Host σ) (generator : SourceGenerator) (path : Path) : List Step :=
  generator.formatter.toList.map fun formatter => .formatting host formatter path

/-- The steps that generate an artifact from a text. -/
def steps (host : Host σ) (generator : SourceGenerator) (name : ArtifactName) (text : String) :
    List Step :=
  producing name text :: creating generator name :: writing generator name text ::
    generator.formatting host (generator.layout.sourcePath name.text)

end SourceGenerator

theorem records_formatInPlace (host : Host σ) (formatter : Formatter) (path : Path) :
    Records (formatter.formatInPlace host.recorded path) (formatter.formatInPlace host path)
      (Step.formatting host formatter path).ends := by
  intro state
  rcases ran : Supervision.run host (formatter.command path) formatter.timeout state with
    ⟨outcome, after⟩
  refine (Supervision.recordsAt_run host _ formatter.timeout state).bind ran ?_
  intro front supervised
  cases outcome with
  | error error => exact .pure ⟨state, _, by simpa using supervised, rfl⟩
  | ok outcome => exact .pure ⟨state, _, by simpa using supervised, rfl⟩

theorem records_compile (host : Host σ) (builder : Builder) (name : ArtifactName) :
    Records (builder.compile host.recorded name) (builder.compile host name) fun answer events =>
      (Step.building host builder name).ends (answer.map fun _ => ()) events := by
  intro state
  refine RecordsAt.look fun events => ?_
  refine RecordsAt.branch rfl (fun directory => ?_) fun elsewhere => ?_
  · refine Records.bind (records_besides _) ?_ state
    rintro _ _ rfl informed
    rcases ran : Supervision.run host (builder.command name) builder.timeout informed with
      ⟨outcome, after⟩
    refine (Supervision.recordsAt_run host _ builder.timeout informed).bind ran ?_
    intro front supervised
    have ends {answer : Except PipelineError Duration} (verdict : answer.map (fun _ => ()) =
        toolVerdict builder.program (fun outcome => (builder.judge name outcome).map fun _ => ())
          outcome) :
        (Step.building host builder name).ends (answer.map fun _ => ()) front :=
      ⟨state, (if_pos directory).mpr ⟨informed, outcome, supervised, verdict⟩⟩
    cases outcome with
    | error error => exact .pure (by simpa using ends rfl)
    | ok outcome =>
        cases judged : builder.judge name outcome with
        | error error =>
            simp only [judged]
            exact .pure (by simpa using ends (by simp [toolVerdict, judged]))
        | ok elapsed =>
            simp only [judged]
            refine (records_besides _ _).bind rfl ?_
            rintro _ rfl
            exact .pure (by simpa using ends (by simp [toolVerdict, judged]))
  · exact .pure ⟨state, by simp [elsewhere]; rfl⟩

namespace SourceGenerator

theorem records_format (host : Host σ) (generator : SourceGenerator) (path : Path) :
    Records (generator.format host.recorded path) (generator.format host path)
      fun answer events =>
        Taken (generator.formatting host path) (answer.map fun _ => ()) events ∧
          ∀ formatted, answer = .ok formatted → formatted = path := by
  rcases generator with ⟨layout, formatter⟩
  cases formatter with
  | none =>
      refine .pure ⟨.finished, ?_⟩
      rintro _ ⟨⟩
      rfl
  | some formatter =>
      refine (records_formatInPlace host formatter path).bind ?_
      intro answer front ends
      cases answer with
      | error error =>
          refine .pure ⟨?_, by simp⟩
          rw [List.append_nil]
          exact .failed ends
      | ok _ =>
          refine (records_besides _).bind ?_
          rintro _ _ rfl
          refine .pure ⟨.succeeded ends .finished, ?_⟩
          rintro _ ⟨⟩
          rfl

theorem records_write (host : Host σ) (generator : SourceGenerator) (name : ArtifactName)
    (text : String) :
    Records (generator.write host.recorded name text) (generator.write host name text)
      fun answer events =>
        Taken [creating generator name, writing generator name text] (answer.map fun _ => ())
          events ∧ ∀ path, answer = .ok path → path = generator.layout.sourcePath name.text := by
  refine (records_recording (.directoriesCreated generator.layout.generatedDir) _).bind ?_
  rintro created _ ⟨rfl, -⟩
  cases created with
  | error error => exact .pure ⟨.failed ⟨.error error, rfl, rfl⟩, by simp⟩
  | ok _ =>
      refine (records_recording
        (.textWritten (generator.layout.sourcePath name.text) text) _).bind ?_
      rintro written _ ⟨rfl, -⟩
      cases written with
      | error error =>
          have fails : (writing generator name text).ends
              (.error (failure name "write" (generator.layout.sourcePath name.text) error))
              [.textWritten (generator.layout.sourcePath name.text) text (.error error)] :=
            ⟨.error error, rfl, rfl⟩
          exact .pure ⟨.succeeded ⟨.ok (), rfl, rfl⟩ (.failed fails), by simp⟩
      | ok _ =>
          refine (records_besides _).bind ?_
          rintro _ _ rfl
          refine .pure ⟨.succeeded ⟨.ok (), rfl, rfl⟩ (.succeeded ⟨.ok (), rfl, rfl⟩ .finished), ?_⟩
          rintro _ ⟨⟩
          rfl

theorem records_generate (host : Host σ) (generator : SourceGenerator) (producer : Producer σ)
    (name : ArtifactName) :
    Records (generator.generate host.recorded (recording .produced producer) name)
      (generator.generate host producer name) fun answer events =>
        (∃ text, Taken (generator.steps host name text) (answer.map fun _ => ()) events) ∧
          ∀ path, answer = .ok path → path = generator.layout.sourcePath name.text := by
  refine (records_recording .produced producer).bind ?_
  rintro produced _ ⟨rfl, -⟩
  cases produced with
  | error causes => exact .pure ⟨⟨"", .failed ⟨.error causes, rfl, rfl⟩⟩, by simp⟩
  | ok text =>
      have produces : (producing name text).ends (.ok ()) [.produced (.ok text)] :=
        ⟨.ok text, ⟨rfl, rfl⟩, rfl⟩
      refine (records_write host generator name text).bind ?_
      rintro written front ⟨taken, path_eq⟩
      cases written with
      | error error =>
          refine .pure ⟨⟨text, .succeeded produces ?_⟩, by simp⟩
          rw [List.append_nil]
          exact taken.stop
      | ok path =>
          -- The formatter is started on the very path that was written.
          obtain rfl := path_eq path rfl
          refine (records_format host generator _).mono ?_
          rintro formatted back ⟨takenBehind, formatted_eq⟩
          exact ⟨⟨text, .succeeded produces (taken.append takenBehind)⟩, formatted_eq⟩

end SourceGenerator

/-- The steps of a run, generation from a text first. -/
def preparation (host : Host σ) (generator : SourceGenerator) (builder : Builder)
    (name : ArtifactName) (text : String) : List Step :=
  generator.steps host name text ++ [.building host builder name]

/-- The step that hands an artifact to the executor. -/
def Step.executing (name : ArtifactName) : Step :=
  .asking (.execute name) (.executed name) (fun answer verdict => verdict = answer)
    (fun _ => rfl) (fun _ => rfl)

end QueryFoundry
