import QueryFoundry.Host.Beside
import QueryFoundry.Pipeline

/-!
# Traces

A host that writes down, beside its state, what it is asked and what it answers. Questions that only
look at the state, and what is told to the log, are not written down. The main judgement says that
an action on such a host does what it does on the plain host, and how the events that it adds are
related to its answer. It is proved for each action from the same judgement on its parts.
-/

namespace QueryFoundry

variable {σ α β : Type}

/-- What a callback is told. -/
inductive Notification where
  | started (name : ArtifactName) (stage : Stage)
  | completed (name : ArtifactName) (stage : Stage) (elapsed : Duration)
  | failed (name : ArtifactName) (stage : Stage) (error : PipelineError)
deriving DecidableEq, Repr

/-- Something that was done outside of the program, with the answer to it. -/
inductive Event where
  | textRead (path : Path) (answer : Except IoError String)
  | inputRead (answer : Except IoError String)
  | directoriesCreated (path : Path) (answer : Except IoError Unit)
  | textWritten (path : Path) (text : String) (answer : Except IoError Unit)
  | paused (delay : Nat)
  | spawned (command : Command) (answer : Except IoError Child)
  | polled (child : Child) (answer : Except IoError (Option WaitStatus))
  | waited (child : Child) (answer : Except IoError WaitStatus)
  | groupKilled (child : Child) (answer : Except IoError Unit)
  | captured (command : Command) (answer : Except IoError (WaitStatus × String))
  | printed (text : String)
  | libraryOpened (path : Path) (answer : Except LoadError Library)
  | initCalled (library : Library) (symbol : String)
      (answer : Except LoadError (Option ModuleTable))
  | runCalled (table : ModuleTable) (answer : Option QueryHandle)
  | rowCountCalled (table : ModuleTable) (handle : QueryHandle) (answer : Int64)
  | fetchCalled (table : ModuleTable) (handle : QueryHandle) (answer : Int64)
  | releaseCalled (table : ModuleTable) (handle : QueryHandle)
  | libraryClosed (library : Library)
  | loaderFinished
  | produced (answer : Except CauseChain String)
  | executed (name : ArtifactName) (answer : Except PipelineError Unit)
  | notified (notification : Notification)

def Event.notification? : Event → Option Notification
  | notified notification => some notification
  | _ => none

/-- Write down what was done, with its answer, behind what is written down already. -/
def recording (event : α → Event) (action : StateM σ α) : StateM (σ × List Event) α := fun state =>
  let (answer, after) := action state.1
  (answer, (after, state.2 ++ [event answer]))

/-- Operations on libraries that are written down. -/
def ModuleLoader.recorded (loader : ModuleLoader σ) : ModuleLoader (σ × List Event) where
  openLibrary path := recording (.libraryOpened path) (loader.openLibrary path)
  callInit library symbol := recording (.initCalled library symbol) (loader.callInit library symbol)
  callRun table := recording (.runCalled table) (loader.callRun table)
  callRowCount table handle :=
    recording (.rowCountCalled table handle) (loader.callRowCount table handle)
  callFetch table handle := recording (.fetchCalled table handle) (loader.callFetch table handle)
  callRelease table handle :=
    recording (fun _ => .releaseCalled table handle) (loader.callRelease table handle)
  closeLibrary library := recording (fun _ => .libraryClosed library) (loader.closeLibrary library)
  finish := recording (fun _ => .loaderFinished) loader.finish

/-- A host that writes down what it is asked and told, apart from its log. -/
def Host.recorded (host : Host σ) : Host (σ × List Event) :=
  { host.beside with
    readText := fun path => recording (.textRead path) (host.readText path)
    readInput := recording .inputRead host.readInput
    createDirectories := fun path =>
      recording (.directoriesCreated path) (host.createDirectories path)
    writeText := fun path text => recording (.textWritten path text) (host.writeText path text)
    pause := fun delay => recording (fun _ => .paused delay) (host.pause delay)
    spawn := fun command => recording (.spawned command) (host.spawn command)
    poll := fun child => recording (.polled child) (host.poll child)
    wait := fun child => recording (.waited child) (host.wait child)
    killGroup := fun child => recording (.groupKilled child) (host.killGroup child)
    capture := fun command => recording (.captured command) (host.capture command)
    print := fun text => recording (fun _ => .printed text) (host.print text)
    loader := host.loader.recorded
    clock_le_poll := fun child state => host.clock_le_poll child state.1
    clock_add_le_pause := fun delay state => host.clock_add_le_pause delay state.1 }

/-- An action gives an answer from some state. -/
def Gives (action : StateM σ α) (answer : α) : Prop :=
  ∃ state, (action state).1 = answer

/-- From a given state, an action beside which events are written down does what the plain action
does, and the events that it adds stand in a relation to its answer. -/
def RecordsAt (state : σ) (recorded : StateM (σ × List Event) α) (plain : StateM σ α)
    (relation : α → List Event → Prop) : Prop :=
  ∀ events, ∃ added,
    recorded (state, events) = ((plain state).1, ((plain state).2, events ++ added)) ∧
      relation (plain state).1 added

/-- The same from every state. -/
def Records (recorded : StateM (σ × List Event) α) (plain : StateM σ α)
    (relation : α → List Event → Prop) : Prop :=
  ∀ state, RecordsAt state recorded plain relation

theorem bind_of_eq {action : StateM σ α} {state after : σ} {answer : α}
    (gives : action state = (answer, after)) (next : α → StateM σ β) :
    (action >>= next) state = next answer after :=
  congrArg (fun pair : α × σ => next pair.1 pair.2) gives

section

variable {recorded : StateM (σ × List Event) α} {plain : StateM σ α}
variable {relation : α → List Event → Prop}

theorem RecordsAt.mono {state : σ} {weaker : α → List Event → Prop}
    (records : RecordsAt state recorded plain relation)
    (weakens : ∀ added, relation (plain state).1 added → weaker (plain state).1 added) :
    RecordsAt state recorded plain weaker := by
  intro events
  obtain ⟨added, equal, related⟩ := records events
  exact ⟨added, equal, weakens added related⟩

theorem RecordsAt.pure {state : σ} {answer : α} (related : relation answer []) :
    RecordsAt state (pure answer) (pure answer) relation := by
  intro events
  refine ⟨[], ?_, related⟩
  rw [List.append_nil]
  rfl

theorem RecordsAt.bind {state after : σ} {answer : α}
    {recordedNext : α → StateM (σ × List Event) β} {next : α → StateM σ β}
    {goal : β → List Event → Prop} (first : RecordsAt state recorded plain relation)
    (gives : plain state = (answer, after))
    (second : ∀ front, relation answer front →
      RecordsAt after (recordedNext answer) (next answer) fun last back =>
        goal last (front ++ back)) :
    RecordsAt state (recorded >>= recordedNext) (plain >>= next) goal := by
  intro events
  obtain ⟨front, firstEqual, firstRelated⟩ := first events
  rw [gives] at firstEqual firstRelated
  obtain ⟨back, secondEqual, secondRelated⟩ := second front firstRelated (events ++ front)
  rw [bind_of_eq gives next]
  refine ⟨front ++ back, ?_, secondRelated⟩
  calc
    (recorded >>= recordedNext) (state, events) =
        recordedNext (recorded (state, events)).1 (recorded (state, events)).2 := rfl
    _ = recordedNext answer (after, events ++ front) := by rw [firstEqual]
    _ = ((next answer after).1, ((next answer after).2, events ++ front ++ back)) := secondEqual
    _ = ((next answer after).1, ((next answer after).2, events ++ (front ++ back))) := by
      rw [List.append_assoc]

theorem RecordsAt.look {state : σ} {recordedNext : σ × List Event → StateM (σ × List Event) α}
    {next : σ → StateM σ α}
    (records : ∀ events, RecordsAt state (recordedNext (state, events)) (next state) relation) :
    RecordsAt state (get >>= recordedNext) (get >>= next) relation :=
  fun events => records events events

theorem RecordsAt.branch {state : σ} {askedRecorded asked : Bool}
    {recordedThen recordedElse : StateM (σ × List Event) α} {plainThen plainElse : StateM σ α}
    (same : askedRecorded = asked)
    (whenTrue : asked = true → RecordsAt state recordedThen plainThen relation)
    (whenFalse : asked = false → RecordsAt state recordedElse plainElse relation) :
    RecordsAt state (if askedRecorded then recordedThen else recordedElse)
      (if asked then plainThen else plainElse) relation := by
  subst same
  cases askedRecorded with
  | false => exact whenFalse rfl
  | true => exact whenTrue rfl

namespace Records

theorem mono {weaker : α → List Event → Prop} (records : Records recorded plain relation)
    (weakens : ∀ answer added, relation answer added → weaker answer added) :
    Records recorded plain weaker :=
  fun state => (records state).mono (weakens _)

/-- The answer is one that the plain action gives. -/
theorem gives (records : Records recorded plain relation) :
    Records recorded plain fun answer added => Gives plain answer ∧ relation answer added :=
  fun state => (records state).mono fun _ related => ⟨⟨state, rfl⟩, related⟩

protected theorem pure {answer : α} (related : relation answer []) :
    Records (pure answer : StateM (σ × List Event) α) (pure answer) relation :=
  fun _ => RecordsAt.pure related

protected theorem bind {recordedNext : α → StateM (σ × List Event) β} {next : α → StateM σ β}
    {goal : β → List Event → Prop} (first : Records recorded plain relation)
    (second : ∀ answer front, relation answer front →
      Records (recordedNext answer) (next answer) fun last back => goal last (front ++ back)) :
    Records (recorded >>= recordedNext) (plain >>= next) goal :=
  fun state => (first state).bind rfl fun front related => second _ front related _

end Records

end

theorem records_recording (event : α → Event) (action : StateM σ α) :
    Records (recording event action) action fun answer added =>
      added = [event answer] ∧ Gives action answer :=
  fun state _ => ⟨_, rfl, rfl, state, rfl⟩

theorem records_besides (action : StateM σ α) :
    Records (besides action) action fun _ added => added = [] := by
  intro state events
  refine ⟨[], ?_, rfl⟩
  rw [List.append_nil]
  rfl

/-- An action beside which events are written down does what the plain action does, and the state it
leaves and the events that it adds stand in a relation to its answer. -/
def RecordsTo (state : σ) (recorded : StateM (σ × List Event) α) (plain : StateM σ α)
    (relation : α → σ → List Event → Prop) : Prop :=
  RecordsAt state recorded plain fun answer added => relation answer (plain state).2 added

namespace RecordsTo

variable {state : σ} {recorded : StateM (σ × List Event) α} {plain : StateM σ α}
variable {relation : α → σ → List Event → Prop}

protected theorem pure {answer : α} (related : relation answer state []) :
    RecordsTo state (pure answer) (pure answer) relation :=
  RecordsAt.pure related

protected theorem bind {recordedNext : α → StateM (σ × List Event) β} {next : α → StateM σ β}
    {goal : β → σ → List Event → Prop} (first : RecordsTo state recorded plain relation)
    (second : ∀ answer after front, relation answer after front →
      RecordsTo after (recordedNext answer) (next answer) fun last final back =>
        goal last final (front ++ back)) :
    RecordsTo state (recorded >>= recordedNext) (plain >>= next) goal := by
  rcases gives : plain state with ⟨answer, after⟩
  rw [RecordsTo, gives] at first
  rw [RecordsTo, bind_of_eq gives next]
  exact first.bind gives fun front related => second answer after front related

theorem mono {weaker : α → σ → List Event → Prop}
    (records : RecordsTo state recorded plain relation)
    (weakens : ∀ answer after added, relation answer after added → weaker answer after added) :
    RecordsTo state recorded plain weaker :=
  RecordsAt.mono records fun _ related => weakens _ _ _ related

theorem recording (event : α → Event) (action : StateM σ α) (state : σ) :
    RecordsTo state (recording event action) action fun answer after added =>
      action state = (answer, after) ∧ added = [event answer] :=
  fun _ => ⟨_, rfl, rfl, rfl⟩

theorem besides (action : StateM σ α) (state : σ) :
    RecordsTo state (besides action) action fun answer after added =>
      action state = (answer, after) ∧ added = [] :=
  (records_besides action state).mono fun _ unwritten => ⟨rfl, unwritten⟩

end RecordsTo

end QueryFoundry
