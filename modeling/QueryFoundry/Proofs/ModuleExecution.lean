import QueryFoundry.ModuleExecutor
import QueryFoundry.Proofs.Trace

/-!
# The protocol of a module

What a run of a compiled module does to its library. The calls into the module are the beginning of
a fixed row of calls, each with what an earlier call returned. A handle that was returned is
released once, behind its last use, and a library that was loaded is unloaded once, behind
everything else.
-/

namespace QueryFoundry

variable {σ : Type}

/-- A call of a function that lies in a module. -/
inductive ModuleCall where
  | init (library : Library) (symbol : String)
  | run (table : ModuleTable)
  | rowCount (table : ModuleTable) (handle : QueryHandle)
  | fetch (table : ModuleTable) (handle : QueryHandle)
  | release (table : ModuleTable) (handle : QueryHandle)
deriving DecidableEq, Repr

namespace Event

/-- The call into a module that an event was. An init function that was not found was not called. -/
def moduleCall? : Event → Option ModuleCall
  | initCalled library symbol (.ok _) => some (.init library symbol)
  | runCalled table _ => some (.run table)
  | rowCountCalled table handle _ => some (.rowCount table handle)
  | fetchCalled table handle _ => some (.fetch table handle)
  | releaseCalled table handle => some (.release table handle)
  | _ => none

def isRelease : Event → Bool
  | releaseCalled .. => true
  | _ => false

def isUnload : Event → Bool
  | libraryClosed _ => true
  | _ => false

end Event

def moduleCalls (events : List Event) : List ModuleCall :=
  events.filterMap Event.moduleCall?

namespace ModuleExecutor

/-- What the query of a table may come to. -/
inductive Queried (table : ModuleTable) : Except PipelineError ExecutionReport → List Event → Prop
  | failed (error : PipelineError) : Queried table (.error error) [.runCalled table none]
  | reported (handle : QueryHandle) (rows fetched : Int64) :
      Queried table (.ok ⟨rows, fetched⟩) [.runCalled table (some handle),
        .rowCountCalled table handle rows, .fetchCalled table handle fetched,
        .releaseCalled table handle]

/-- What a loaded module may come to. -/
inductive Entered (library : Library) (symbol : String) :
    Except PipelineError ExecutionReport → List Event → Prop
  | missing (cause : LoadError) (error : PipelineError) :
      Entered library symbol (.error error) [.initCalled library symbol (.error cause)]
  | empty (error : PipelineError) :
      Entered library symbol (.error error) [.initCalled library symbol (.ok none)]
  | foreign {table : ModuleTable} (differs : table.abiVersion ≠ bridgeAbiVersion)
      (error : PipelineError) :
      Entered library symbol (.error error) [.initCalled library symbol (.ok (some table))]
  | queried {table : ModuleTable} {answer : Except PipelineError ExecutionReport}
      {events : List Event} (fits : table.abiVersion = bridgeAbiVersion)
      (queried : Queried table answer events) :
      Entered library symbol answer (.initCalled library symbol (.ok (some table)) :: events)

/-- What a run of an artifact may come to, with its events on every way out. The library is looked
for in the state that the host is in before. -/
inductive Ran (host : Host σ) (state : σ) (path : Path) (symbol : String) :
    Except PipelineError ExecutionReport → List Event → Prop
  | absent (missing : host.pathExists state path = false) (error : PipelineError) :
      Ran host state path symbol (.error error) []
  | refused (present : host.pathExists state path = true) (cause : LoadError) :
      Ran host state path symbol (.error (.libraryLoad cause))
        [.libraryOpened path (.error cause)]
  | entered {library : Library} {answer : Except PipelineError ExecutionReport}
      {events : List Event} (present : host.pathExists state path = true)
      (entered : Entered library symbol answer events) :
      Ran host state path symbol answer
        (.libraryOpened path (.ok library) :: events ++ [.libraryClosed library])

theorem records_query (host : Host σ) (table : ModuleTable) (name : ArtifactName) :
    Records (query host.recorded table name) (query host table name) (Queried table) := by
  refine (records_recording (.runCalled table) (host.loader.callRun table)).bind ?_
  rintro answer _ ⟨rfl, -⟩
  cases answer with
  | none => exact .pure (.failed _)
  | some handle =>
      refine (records_recording (.rowCountCalled table handle) _).bind ?_
      rintro rows _ ⟨rfl, -⟩
      refine (records_recording (.fetchCalled table handle) _).bind ?_
      rintro fetched _ ⟨rfl, -⟩
      refine (records_recording (fun _ => .releaseCalled table handle) _).bind ?_
      rintro _ _ ⟨rfl, -⟩
      exact .pure (.reported handle rows fetched)

theorem records_enter (host : Host σ) (executor : ModuleExecutor) (library : Library)
    (name : ArtifactName) :
    Records (executor.enter host.recorded library name) (executor.enter host library name)
      (Entered library (executor.initSymbol name)) := by
  refine (records_recording (.initCalled library (executor.initSymbol name)) _).bind ?_
  rintro answer _ ⟨rfl, -⟩
  match answer with
  | .error cause => exact .pure (.missing cause _)
  | .ok none => exact .pure (.empty _)
  | .ok (some table) =>
      by_cases fits : table.abiVersion = bridgeAbiVersion
      · simp only [fits, if_true]
        refine (records_query host table name).mono ?_
        intro _ _ queried
        exact .queried fits queried
      · simp only [fits, if_false]
        exact .pure (.foreign fits _)

/-- A run is written down on every way out. -/
theorem recordsAt_run (host : Host σ) (executor : ModuleExecutor) (name : ArtifactName)
    (state : σ) :
    RecordsAt state (executor.run host.recorded name) (executor.run host name)
      (Ran host state (executor.libraryPath name) (executor.initSymbol name)) := by
  refine RecordsAt.look fun events => ?_
  refine RecordsAt.branch rfl (fun present => ?_) fun missing => ?_
  · refine Records.bind (records_besides _) ?_ state
    rintro _ _ rfl
    refine (records_recording (.libraryOpened (executor.libraryPath name)) _).bind ?_
    rintro answer _ ⟨rfl, -⟩
    cases answer with
    | error cause => exact .pure (.refused present cause)
    | ok library =>
        refine (records_enter host executor library name).bind ?_
        intro result inner entered
        refine (records_recording (fun _ => .libraryClosed library) _).bind ?_
        rintro _ _ ⟨rfl, -⟩
        cases result with
        | error error => exact .pure (.entered present entered)
        | ok report =>
            refine (records_besides _).bind ?_
            rintro _ _ rfl
            exact .pure (.entered present entered)
  · exact .pure (.absent missing _)

/-- A table may be used: an init function returned it, and its version is the one expected. -/
def Usable (events : List Event) (table : ModuleTable) : Prop :=
  table.abiVersion = bridgeAbiVersion ∧
    ∃ library symbol, .initCalled library symbol (.ok (some table)) ∈ events

/-- A call is made with what was given before: a library that was loaded, a table that may be used,
and a handle that the query of this table returned. -/
def Granted (path : Path) (events : List Event) : ModuleCall → Prop
  | .init library _ => .libraryOpened path (.ok library) ∈ events
  | .run table => Usable events table
  | .rowCount table handle | .fetch table handle | .release table handle =>
      Usable events table ∧ .runCalled table (some handle) ∈ events

section

variable {host : Host σ} {state : σ} {path : Path} {symbol : String}
variable {table : ModuleTable} {library : Library}
variable {answer : Except PipelineError ExecutionReport} {events : List Event}

theorem Ran.calls (ran : Ran host state path symbol answer events) :
    ∃ library table handle, moduleCalls events <+: [.init library symbol, .run table,
      .rowCount table handle, .fetch table handle, .release table handle] := by
  cases ran with
  | absent missing error => exact ⟨⟨0⟩, ⟨⟨0⟩, 0, 0⟩, ⟨0⟩, List.nil_prefix⟩
  | refused present cause => exact ⟨⟨0⟩, ⟨⟨0⟩, 0, 0⟩, ⟨0⟩, List.nil_prefix⟩
  | @entered library _ _ present entered =>
      cases entered with
      | missing cause error => exact ⟨library, ⟨library, 0, 0⟩, ⟨0⟩, List.nil_prefix⟩
      | empty error => exact ⟨library, ⟨library, 0, 0⟩, ⟨0⟩, _, rfl⟩
      | @foreign table differs error => exact ⟨library, table, ⟨0⟩, _, rfl⟩
      | @queried table _ _ fits queried =>
          cases queried with
          | failed error => exact ⟨library, table, ⟨0⟩, _, rfl⟩
          | reported handle rows fetched => exact ⟨library, table, handle, _, rfl⟩

theorem Ran.granted (ran : Ran host state path symbol answer events) :
    ∀ call ∈ moduleCalls events, Granted path events call := by
  cases ran with
  | absent missing error => simp [moduleCalls]
  | refused present cause => simp [moduleCalls, Event.moduleCall?]
  | @entered library _ _ present entered =>
      cases entered with
      | missing cause error => simp [moduleCalls, Event.moduleCall?]
      | empty error =>
          change ∀ call ∈ [ModuleCall.init library symbol], _
          simp [Granted]
      | foreign differs error =>
          change ∀ call ∈ [ModuleCall.init library symbol], _
          simp [Granted]
      | @queried table _ _ fits queried =>
          cases queried with
          | failed error =>
              change ∀ call ∈ [ModuleCall.init library symbol, .run table], _
              simp [Granted, Usable, fits]
          | reported handle rows fetched =>
              change ∀ call ∈ [ModuleCall.init library symbol, .run table,
                .rowCount table handle, .fetch table handle, .release table handle], _
              simp [Granted, Usable, fits]

/-- A handle that was returned is released once. -/
theorem Ran.released {handle : QueryHandle} (ran : Ran host state path symbol answer events)
    (handed : .runCalled table (some handle) ∈ events) :
    events.filter Event.isRelease = [.releaseCalled table handle] := by
  cases ran with
  | absent missing error => simp at handed
  | refused present cause => simp at handed
  | entered present entered =>
      cases entered with
      | missing cause error => simp at handed
      | empty error => simp at handed
      | foreign differs error => simp at handed
      | queried fits queried =>
          cases queried with
          | failed error => simp at handed
          | reported returned rows fetched =>
              obtain ⟨rfl, rfl⟩ : table = _ ∧ handle = returned := by simpa using handed
              rfl

theorem Ran.unreleased (ran : Ran host state path symbol answer events)
    (handless : ∀ table handle, .runCalled table (some handle) ∉ events) :
    events.filter Event.isRelease = [] := by
  cases ran with
  | absent missing error => rfl
  | refused present cause => rfl
  | entered present entered =>
      cases entered with
      | missing cause error => rfl
      | empty error => rfl
      | foreign differs error => rfl
      | @queried table _ _ fits queried =>
          cases queried with
          | failed error => rfl
          | reported handle rows fetched => exact absurd (by simp) (handless table handle)

theorem Entered.not_unload (entered : Entered library symbol answer events) :
    events.filter Event.isUnload = [] := by
  cases entered with
  | missing cause error => rfl
  | empty error => rfl
  | foreign differs error => rfl
  | queried fits queried => cases queried <;> rfl

theorem Entered.not_opened {other : Library} (entered : Entered library symbol answer events) :
    .libraryOpened path (.ok other) ∉ events := by
  cases entered with
  | missing cause error => simp
  | empty error => simp
  | foreign differs error => simp
  | queried fits queried => cases queried <;> simp

/-- A library that was loaded is unloaded once, behind everything else. -/
theorem Ran.unloaded (ran : Ran host state path symbol answer events)
    (loaded : .libraryOpened path (.ok library) ∈ events) :
    ∃ before, events = before ++ [Event.libraryClosed library] ∧
      before.filter Event.isUnload = [] := by
  cases ran with
  | absent missing error => simp at loaded
  | refused present cause => simp at loaded
  | @entered opened _ inner present entered =>
      obtain rfl : library = opened := by simpa [entered.not_opened] using loaded
      exact ⟨_, rfl, entered.not_unload⟩

theorem Ran.reported {report : ExecutionReport}
    (ran : Ran host state path symbol (.ok report) events) :
    ∃ table handle, .runCalled table (some handle) ∈ events ∧
      .rowCountCalled table handle report.rows ∈ events ∧
        .fetchCalled table handle report.fetched ∈ events := by
  cases ran with
  | entered present entered =>
      cases entered with
      | @queried table _ _ fits queried =>
          cases queried with
          | reported handle rows fetched => exact ⟨table, handle, by simp⟩

end

/-- What a run keeps to, whatever the library does. -/
structure KeepsProtocol (path : Path) (symbol : String)
    (answer : Except PipelineError ExecutionReport) (events : List Event) : Prop where
  calls : ∃ library table handle, moduleCalls events <+: [.init library symbol, .run table,
    .rowCount table handle, .fetch table handle, .release table handle]
  granted : ∀ call ∈ moduleCalls events, Granted path events call
  released : ∀ table handle, .runCalled table (some handle) ∈ events →
    events.filter Event.isRelease = [.releaseCalled table handle]
  unreleased : (∀ table handle, .runCalled table (some handle) ∉ events) →
    events.filter Event.isRelease = []
  unloaded : ∀ library, .libraryOpened path (.ok library) ∈ events →
    ∃ before, events = before ++ [Event.libraryClosed library] ∧ before.filter Event.isUnload = []
  reported : ∀ report, answer = .ok report → ∃ table handle,
    .runCalled table (some handle) ∈ events ∧
      .rowCountCalled table handle report.rows ∈ events ∧
        .fetchCalled table handle report.fetched ∈ events

theorem Ran.keepsProtocol {host : Host σ} {state : σ} {path : Path} {symbol : String}
    {answer : Except PipelineError ExecutionReport} {events : List Event}
    (ran : Ran host state path symbol answer events) :
    KeepsProtocol path symbol answer events where
  calls := ran.calls
  granted := ran.granted
  released _ _ handed := ran.released handed
  unreleased handless := ran.unreleased handless
  unloaded _ loaded := ran.unloaded loaded
  reported := by
    rintro report rfl
    exact ran.reported

/-- What an executor is asked for: to execute an artifact, or only to run it. -/
inductive Use where
  | execute (name : ArtifactName)
  | run (name : ArtifactName)
deriving DecidableEq, Repr

/-- The report that is remembered after a use. -/
def remember (host : Host σ) (executor : ModuleExecutor) (last : Option ExecutionReport) :
    Use × σ → Option ExecutionReport
  | (.execute name, state) => (executor.execute host name last state).1.2
  | (.run _, _) => last

/-- The report that is remembered after some uses, each with the host in some state. -/
def remembered (host : Host σ) (executor : ModuleExecutor) (uses : List (Use × σ)) :
    Option ExecutionReport :=
  uses.foldl (executor.remember host) none

/-- The report of a use that executes an artifact and succeeds. -/
def success? (host : Host σ) (executor : ModuleExecutor) : Use × σ → Option ExecutionReport
  | (.execute name, state) => (executor.run host name state).1.toOption
  | (.run _, _) => none

theorem execute_eq (host : Host σ) (executor : ModuleExecutor) (name : ArtifactName)
    (last : Option ExecutionReport) (state : σ) :
    executor.execute host name last state =
      match executor.run host name state with
      | (.error error, after) => ((.error error, last), after)
      | (.ok report, after) => ((.ok (), some report), after) := by
  rcases ran : executor.run host name state with ⟨answer, after⟩
  rw [execute, bind_of_eq ran]
  cases answer <;> rfl

theorem remember_eq (host : Host σ) (executor : ModuleExecutor) (last : Option ExecutionReport)
    (use : Use × σ) :
    executor.remember host last use = (executor.success? host use).or last := by
  obtain ⟨kind, state⟩ := use
  cases kind with
  | execute name =>
      simp only [remember, success?, execute_eq]
      rcases executor.run host name state with ⟨answer, after⟩
      cases answer <;> rfl
  | run name => rfl

/-- The remembered report is that of the last success, or the one remembered at first. -/
theorem foldl_remember (host : Host σ) (executor : ModuleExecutor) (uses : List (Use × σ))
    (last : Option ExecutionReport) :
    uses.foldl (executor.remember host) last =
      (uses.filterMap (executor.success? host)).getLast?.or last := by
  induction uses generalizing last with
  | nil => rfl
  | cons use uses ih =>
      rw [List.foldl_cons, ih, remember_eq]
      cases success : executor.success? host use with
      | none => simp [success]
      | some report => simp [success, List.getLast?_cons]

/-- A run of an artifact takes one of its ways out and keeps to the protocol of its module. An
execution succeeds exactly when its run does, and after any uses in any states of the host the
report of the last execution that succeeded is remembered. -/
theorem run_keeps_protocol (host : Host σ) (executor : ModuleExecutor) :
    (∀ name state, RecordsAt state (executor.run host.recorded name) (executor.run host name)
      fun answer events =>
        Ran host state (executor.libraryPath name) (executor.initSymbol name) answer events ∧
          KeepsProtocol (executor.libraryPath name) (executor.initSymbol name) answer events) ∧
    (∀ name last state, (executor.execute host name last state).1.1 =
      (executor.run host name state).1.map fun _ => ()) ∧
    ∀ uses, executor.remembered host uses =
      (uses.filterMap (executor.success? host)).getLast? := by
  refine ⟨fun name state => ?_, fun name last state => ?_, fun uses => ?_⟩
  · refine (recordsAt_run host executor name state).mono ?_
    intro _ ran
    exact ⟨ran, ran.keepsProtocol⟩
  · rw [execute_eq]
    rcases executor.run host name state with ⟨answer, after⟩
    cases answer <;> rfl
  · rw [remembered, foldl_remember, Option.or_none]

end ModuleExecutor

end QueryFoundry
