import QueryFoundry.Proofs.AddedEvents
import QueryFoundry.Proofs.CommandEnds
import QueryFoundry.Proofs.SeparateCommands
import QueryFoundry.Proofs.Steps
import QueryFoundry.Proofs.TimeLimit

/-!
# What a run changes before it executes

The changes that a run makes outside of the program are those of the two separate commands, in the
same order: the same texts in the same files, and the same tools started with the same arguments in
the same directories. The hosts are those that write down what they are asked. States of such a host
are alike when those of the plain host are, after the same changes.
-/

namespace QueryFoundry

variable {σ τ α β : Type}

/-- The change outside of the program that an event stands for. What is looked at, told or printed
is none, nor is the supervision of a tool that was started. -/
def Event.change? : Event → Option Effect
  | directoriesCreated path _ => some (.createDirectories path)
  | textWritten path text _ => some (.writeText path text)
  | spawned command _ => some (.spawn command)
  | executed name _ => some (.execute name)
  | _ => none

def changes (events : List Event) : List Effect :=
  events.filterMap Event.change?

/-- States in a relation, after the same changes. -/
def Noted (related : σ → τ → Prop) (state : σ × List Event) (other : τ × List Event) : Prop :=
  related state.1 other.1 ∧ changes state.2 = changes other.2

theorem changes_append (first second : List Event) :
    changes (first ++ second) = changes first ++ changes second :=
  List.filterMap_append

theorem changes_concat (events : List Event) (event : Event) :
    changes (events ++ [event]) = changes events ++ event.change?.toList := by
  rw [changes_append, changes, changes, List.filterMap_cons]
  cases event.change? with
  | none => rfl
  | some effect => rfl

section

variable {before between : σ → τ → Prop}

theorem Paired.recording {first : StateM σ α} {second : StateM τ β}
    {after : α → β → σ → τ → Prop} {event : α → Event} {twin : β → Event}
    (same : ∀ answer other, (event answer).change? = (twin other).change?)
    (paired : Paired before first second after) :
    Paired (Noted before) (QueryFoundry.recording event first) (QueryFoundry.recording twin second)
      fun answer other state noted =>
        after answer other state.1 noted.1 ∧ changes state.2 = changes noted.2 := by
  rintro state other ⟨related, noted⟩
  refine ⟨paired state.1 other.1 related, ?_⟩
  have changed := same (first state.1).1 (second other.1).1
  exact (changes_concat _ _).trans (.trans (by rw [noted, changed]) (changes_concat _ _).symm)

/-- Actions that are written down as the same change and agree on their answer. -/
theorem Paired.noting {first : StateM σ α} {second : StateM τ α} {event twin : α → Event}
    (same : ∀ answer other, (event answer).change? = (twin other).change?)
    (paired : Paired before first second (Agree between)) :
    Paired (Noted before) (QueryFoundry.recording event first) (QueryFoundry.recording twin second)
      (Agree (Noted between)) :=
  (paired.recording same).mono fun _ _ _ _ ⟨⟨agree, related⟩, noted⟩ => ⟨agree, related, noted⟩

theorem Paired.besides {first : StateM σ α} {second : StateM τ α}
    (paired : Paired before first second (Agree between)) :
    Paired (Noted before) (QueryFoundry.besides first) (QueryFoundry.besides second)
      (Agree (Noted between)) :=
  fun state other noted =>
    have agree := paired state.1 other.1 noted.1
    ⟨agree.1, agree.2, noted.2⟩

end

section

variable {related : σ → σ → Prop} {action : StateM σ α}

theorem Moves.recording {event : α → Event} (unchanged : ∀ answer, (event answer).change? = none)
    (moves : Moves related action) : Moves (Noted related) (recording event action) := by
  refine fun state => ⟨moves state.1, ?_⟩
  refine .trans ?_ (changes_concat state.2 (event (action state.1).1)).symm
  rw [unchanged, Option.toList_none, List.append_nil]

theorem Moves.besides (moves : Moves related action) :
    Moves (Noted related) (besides action : StateM (σ × List Event) α) :=
  fun state => ⟨moves state.1, rfl⟩

end

namespace Host

theorem Started.noted {alike : σ → τ → Prop}
    {twins : Supervision.Job → Supervision.Job → σ → τ → Prop} {program : Path}
    {start otherStart : Nat} {answer twin : Except IoError Child} {state : σ} {other : τ}
    {events notes : List Event} (same : changes events = changes notes)
    (starts : Started alike twins program start otherStart answer twin state other) :
    Started (Noted alike) (fun job twin => Noted (twins job twin)) program start otherStart answer
      twin (state, events) (other, notes) := by
  cases starts with
  | refused related => exact .refused ⟨related, same⟩
  | running related => exact .running ⟨related, same⟩

/-- Hosts that answer alike still do when what they are asked is written down. -/
def Correspondence.recorded {first : Host σ} {second : Host τ}
    (both : first.Correspondence second) : first.recorded.Correspondence second.recorded where
  alike := Noted both.alike
  twins job twin := Noted (both.twins job twin)
  isUnicode_eq := both.isUnicode_eq
  workingDirectory_eq noted := both.workingDirectory_eq noted.1
  homeDirectory_eq noted := both.homeDirectory_eq noted.1
  searchPath_eq noted := both.searchPath_eq noted.1
  isFile_eq noted := both.isFile_eq noted.1
  isDirectory_eq noted := both.isDirectory_eq noted.1
  isExecutable_eq noted := both.isExecutable_eq noted.1
  readText path := (both.readText path).noting fun _ _ => rfl
  readInput := both.readInput.noting fun _ _ => rfl
  createDirectories path := (both.createDirectories path).noting fun _ _ => rfl
  writeText path text := (both.writeText path text).noting fun _ _ => rfl
  capture command := (both.capture command).noting fun _ _ => rfl
  log entry := (both.log entry).besides
  spawn command state other noted := by
    refine (both.spawn command state.1 other.1 noted.1).noted ?_
    rw [changes_concat, changes_concat, noted.2]
    rfl
  program_eq noted := both.program_eq noted.1
  elapsed_eq noted := both.elapsed_eq noted.1
  poll job twin := by
    have polled : Paired (Noted (both.twins job twin)) (first.recorded.poll job.child)
        (second.recorded.poll twin.child) _ := (both.poll job twin).recording fun _ _ => rfl
    refine polled.mono ?_
    rintro answer _ state noted ⟨⟨rfl, related⟩, same⟩
    refine ⟨rfl, ?_⟩
    cases answer with
    | error error => exact ⟨related, same⟩
    | ok status =>
        cases status with
        | none => exact ⟨related, same⟩
        | some status => exact ⟨related, same⟩
  pause delay job twin := (both.pause delay job twin).noting fun _ _ => rfl
  killGroup job twin := (both.killGroup job twin).noting fun _ _ => rfl
  logWatched entry job twin := (both.logWatched entry job twin).besides
  wait job twin := (both.wait job twin).noting fun _ _ => rfl

/-- A likeness of the states of a host, after the same changes. -/
def Likeness.recorded {host : Host σ} (likeness : host.Likeness) : host.recorded.Likeness where
  toCorrespondence := likeness.toCorrespondence.recorded
  equivalence :=
    { refl := fun state => ⟨likeness.equivalence.refl state.1, rfl⟩
      symm := fun noted => ⟨likeness.equivalence.symm noted.1, noted.2.symm⟩
      trans := fun noted further =>
        ⟨likeness.equivalence.trans noted.1 further.1, noted.2.trans further.2⟩ }
  asks :=
    { log := fun entry => (likeness.asks.log entry).besides
      readText := fun path => (likeness.asks.readText path).recording fun _ => rfl
      version := fun path => (likeness.asks.version path).recording fun _ => rfl }
  prints text := (likeness.prints text).recording fun _ => rfl

/-- A host answers like itself when what it is asked is written down. -/
def plainly (host : Host σ) : host.Correspondence host.recorded where
  alike state noted := noted.1 = state
  twins job twin state noted := job = twin ∧ noted.1 = state
  isUnicode_eq := Eq.refl host.recorded.isUnicode
  workingDirectory_eq := by rintro _ _ rfl; rfl
  homeDirectory_eq := by rintro _ _ rfl; rfl
  searchPath_eq := by rintro _ _ rfl; rfl
  isFile_eq := by rintro _ _ rfl; rfl
  isDirectory_eq := by rintro _ _ rfl; rfl
  isExecutable_eq := by rintro _ _ rfl; rfl
  readText := by rintro path _ _ rfl; exact ⟨rfl, rfl⟩
  readInput := by rintro _ _ rfl; exact ⟨rfl, rfl⟩
  createDirectories := by rintro path _ _ rfl; exact ⟨rfl, rfl⟩
  writeText := by rintro path text _ _ rfl; exact ⟨rfl, rfl⟩
  capture := by rintro command _ _ rfl; exact ⟨rfl, rfl⟩
  log := by rintro entry _ _ rfl; exact ⟨rfl, rfl⟩
  spawn command := by
    rintro _ ⟨state, events⟩ rfl
    dsimp only [Host.recorded, recording, beside]
    rcases spawned : host.spawn command state with ⟨answer, after⟩
    cases answer with
    | error error => exact .refused rfl
    | ok child => exact .running ⟨rfl, rfl⟩
  program_eq := by rintro _ _ _ _ ⟨rfl, rfl⟩; rfl
  elapsed_eq := by rintro _ _ _ _ ⟨rfl, rfl⟩; rfl
  poll job _ _ := by
    rintro ⟨state, events⟩ ⟨rfl, rfl⟩
    refine ⟨rfl, ?_⟩
    dsimp only
    cases (host.poll job.child state).1 with
    | error error => rfl
    | ok status =>
        cases status with
        | none => exact ⟨rfl, rfl⟩
        | some status => rfl
  pause := by rintro delay job _ _ _ ⟨rfl, rfl⟩; exact ⟨rfl, rfl, rfl⟩
  killGroup := by rintro job _ _ _ ⟨rfl, rfl⟩; exact ⟨rfl, rfl, rfl⟩
  logWatched := by rintro entry job _ _ _ ⟨rfl, rfl⟩; exact ⟨rfl, rfl, rfl⟩
  wait := by rintro job _ _ _ ⟨rfl, rfl⟩; exact ⟨rfl, rfl⟩

end Host

def Event.IsExecution : Event → Prop
  | executed .. => True
  | _ => False

theorem not_execute_mem_changes {events : List Event} (name : ArtifactName)
    (none_is : ∀ event ∈ events, ¬event.IsExecution) : .execute name ∉ changes events := by
  intro member
  obtain ⟨event, among, change⟩ := List.mem_filterMap.mp member
  cases event with
  | executed other answer => exact none_is _ among trivial
  | _ => cases change

/-- An executor that leaves a mark behind what it does. -/
def Executor.marked {ε : Type} (executor : Executor (σ × List Event) ε) :
    Executor (σ × List Event) ε := fun name memory state =>
  let (answer, after) := executor name memory state
  (answer, (after.1, after.2 ++ [.executed name answer.1]))

theorem Executor.changes_marked {ε : Type} (executor : Executor (σ × List Event) ε)
    (name : ArtifactName) (memory : ε) (state : σ × List Event) :
    changes (executor.marked name memory state).2.2 =
      changes (executor name memory state).2.2 ++ [.execute name] :=
  changes_concat _ _

namespace CommandLine

variable {host : Host σ} {invocation : Invocation} {name : ArtifactName} {source : Path}
variable {withBridge : Bool} {state : σ}

/-- What generation leaves as it is also stays when it is written down what is asked. -/
theorem Steady.recorded (steady : Steady host invocation name source withBridge state)
    (events : List Event) :
    Steady host.recorded invocation name source withBridge (state, events) where
  found loads := by
    obtain ⟨_, loaded, loads, rfl, rfl⟩ :=
      (Settings.paired_load host.plainly invocation).exists_eq_of_second rfl loads
    exact steady.found loads
  kept {settings _ generated} loads generates := by
    obtain ⟨_, loaded, loads, rfl, rfl⟩ :=
      (Settings.paired_load host.plainly invocation).exists_eq_of_second rfl loads
    have prints (text : String) : Paired host.plainly.alike (host.print text)
        (host.recorded.print text) (Agree host.plainly.alike) := by
      rintro _ _ rfl
      exact ⟨rfl, rfl⟩
    have produces : Paired host.plainly.alike (producerOf host name source withBridge)
        (producerOf host.recorded name source withBridge) (Agree host.plainly.alike) :=
      paired_sourceProducer host.plainly source _
    obtain ⟨_, made, generates, rfl, rfl⟩ :=
      (paired_generate host.plainly prints produces settings name).exists_eq_of_second rfl generates
    obtain ⟨reloads, finds⟩ := steady.kept loads generates
    have loadsAlike := Settings.paired_load host.plainly invocation generated.1 generated rfl
    exact ⟨loadsAlike.1.symm.trans reloads, finds⟩
  told := steady.told

/-- Neither the command that generates an artifact nor the one that builds it executes anything. -/
theorem not_execute_mem_generateThenBuild (host : Host σ) (invocation : Invocation)
    (name other : ArtifactName) (source : Path) (withBridge : Bool) (state : σ) :
    .execute other ∉ changes
      (generateThenBuild host.recorded invocation name source withBridge (state, [])).2.2 := by
  let Keeps : (σ × List Event) → (σ × List Event) → Prop := Adds fun event => ¬event.IsExecution
  have works : host.recorded.WorksIn Keeps :=
    Adds.worksIn (fun event isWork => by cases event <;> first | exact id | exact isWork.elim) host
  have starts : StartsIn Keeps host.recorded True :=
    ⟨fun _ _ _ => Adds.spawn (fun _ => id) host, fun _ _ => Adds.spawn (fun _ => id) host⟩
  have loads : host.recorded.loader.MovesIn Keeps :=
    Adds.loader (fun event isWork => by cases event <;> first | exact id | exact isWork.elim) host
  have prints (text : String) : Moves Keeps (host.recorded.print text) := Adds.print id host
  have moves : Moves Keeps (generateThenBuild host.recorded invocation name source withBridge) := by
    refine .bind (moves_perform works starts trivial loads prints) fun answer => ?_
    cases answer with
    | error error => exact .pure _
    | ok _ => exact moves_perform works starts trivial loads prints
  obtain ⟨added, events_eq, none_is⟩ := moves (state, [])
  rw [events_eq]
  exact not_execute_mem_changes other none_is

/-- What a run changes until it comes to its executor is what the command that generates its
artifact changes and, where that succeeds, the command that builds it, in the same order: the same
texts are written to the same files and the same tools are started with the same arguments in the
same directories. If one of the two commands fails, so does the run with the same error. It comes to
its executor, which may be any, exactly if both commands succeed. -/
theorem runThrough_changes (likeness : host.Likeness)
    (steady : Steady host invocation name source withBridge state) :
    let separate := generateThenBuild host.recorded invocation name source withBridge (state, [])
    let whole := fun executor =>
      runThrough host.recorded invocation name source withBridge executor (state, [])
    (perform host.recorded { invocation with action := .run name source withBridge } (state, []) =
      whole (executorOf host.recorded)) ∧
    ∀ executor : Settings → Executor (σ × List Event) (Option ExecutionReport),
      (∀ error, separate.1 = .error error → (whole executor).1 = .error error ∧
        likeness.alike separate.2.1 (whole executor).2.1 ∧
        changes separate.2.2 = changes (whole executor).2.2) ∧
      (separate.1 = .ok () → ∃ settings reached,
        (Settings.load host invocation state).1 = .ok settings ∧
        likeness.alike separate.2.1 reached.1 ∧ changes separate.2.2 = changes reached.2 ∧
        (whole executor).1 = (executor settings name none reached).1.1.mapError .pipeline ∧
        likeness.alike (executor settings name none reached).2.1 (whole executor).2.1 ∧
        changes (executor settings name none reached).2.2 = changes (whole executor).2.2) ∧
      (.execute name ∈ changes (whole fun settings => (executor settings).marked).2.2 ↔
        separate.1 = .ok ()) := by
  intro separate whole
  refine ⟨congrFun (perform_run ..) _, fun executor => ?_⟩
  have alike := runThrough_alike likeness.recorded (steady.recorded [])
  refine ⟨(alike executor).1, fun succeeded => ?_, ?_⟩
  · obtain ⟨settings, reached, loads, ⟨alike, changed⟩, answers, alikeAfter, changedAfter⟩ :=
      (alike executor).2 succeeded
    have loadsAlike := Settings.paired_load host.plainly invocation state (state, []) rfl
    exact ⟨settings, reached, loadsAlike.1.trans loads, alike, changed, answers, alikeAfter,
      changedAfter⟩
  · -- The commands leave no mark of an executor, so there is one only if the run came to its own.
    obtain ⟨whenFailed, whenDone⟩ := alike fun settings => (executor settings).marked
    have unexecuted : .execute name ∉ changes separate.2.2 :=
      not_execute_mem_generateThenBuild host invocation name name source withBridge state
    rcases answer : separate.1 with error | _
    · obtain ⟨-, -, changed⟩ := whenFailed error answer
      refine iff_of_false (fun executed => unexecuted ?_) (by simp)
      rw [changed]
      exact executed
    · obtain ⟨settings, reached, -, -, -, -, changed⟩ := whenDone answer
      refine iff_of_true ?_ rfl
      rw [← changed, Executor.changes_marked]
      exact List.mem_append_right _ (List.mem_singleton_self _)

end CommandLine

/-- A host on which every file is there, but empty, and a tool is done as soon as it is started. -/
def Host.workshop : Host Nat :=
  { Host.endless with
    searchPath := fun _ => ["/bin"]
    isFile := fun _ _ => true
    isDirectory := fun _ _ => true
    isExecutable := fun _ _ => true
    readText := fun _ => pure (.ok "")
    createDirectories := fun _ => pure (.ok ())
    writeText := fun _ _ => pure (.ok ())
    poll := fun _ => pure (.ok (some (.exited 0)))
    wait := fun _ => pure (.ok (.exited 0))
    clock_le_poll := fun _ _ => Nat.le_refl _ }

/-- The states of the workshop are alike when they are the same. -/
def Host.workshopLikeness : Host.workshop.Likeness where
  toCorrespondence := .refl _
  equivalence := ⟨Eq.refl, Eq.symm, Eq.trans⟩
  asks := ⟨fun _ _ => rfl, fun _ _ => rfl, fun _ _ => rfl⟩
  prints _ _ := rfl

theorem Tool.find?_workshop (program : String) (state : Nat) :
    (find? Host.workshop state program).isSome := by
  rw [find?, candidates]
  split
  · rfl
  · rfl

/-- A host on which every directory is there, and a tool is done with success as soon as it is
started. -/
structure Host.IsPrompt (host : Host σ) : Prop where
  stands : ∀ state path, host.isDirectory state path = true
  spawns : ∀ command state, ∃ child after, host.spawn command state = (.ok child, after)
  polls : ∀ child state, ∃ after, host.poll child state = (.ok (some (.exited 0)), after)
  waits : ∀ child state, ∃ after, host.wait child state = (.ok (.exited 0), after)

theorem Host.workshop_isPrompt : Host.workshop.recorded.IsPrompt where
  stands _ _ := rfl
  spawns _ _ := ⟨_, _, rfl⟩
  polls _ _ := ⟨_, rfl⟩
  waits _ _ := ⟨_, rfl⟩

theorem Supervision.run_of_isPrompt {host : Host σ} (prompt : host.IsPrompt) (command : Command)
    (timeout : Option Duration) (state : σ) :
    ∃ elapsed after, run host command timeout state = (.ok (.exited (.exited 0) elapsed), after) := by
  obtain ⟨child, spawned, spawns⟩ := prompt.spawns (started command timeout)
    (opened host command state)
  cases timeout with
  | none =>
      obtain ⟨after, waits⟩ := prompt.waits child spawned
      exact ⟨_, after, (run_waited spawns).trans (bind_of_eq waits _)⟩
  | some limit =>
      obtain ⟨after, polls⟩ := prompt.polls child spawned
      rw [run_limited spawns, watch_eq, jobOf, polls]
      exact ⟨_, after, rfl⟩

theorem Builder.compile_of_isPrompt {host : Host σ} (prompt : host.IsPrompt) (builder : Builder)
    (name : ArtifactName) (state : σ) :
    ∃ elapsed after, builder.compile host name state = (.ok elapsed, after) := by
  have looked : (get : StateM σ σ) state = (state, state) := rfl
  obtain ⟨elapsed, after, ran⟩ :=
    Supervision.run_of_isPrompt prompt (builder.command name) builder.timeout
      (host.inform .building ("Building " ++ name.text ++ " in " ++ builder.root) state).2
  rw [compile, bind_of_eq looked, if_pos (prompt.stands state builder.root)]
  exact ⟨elapsed, _, (bind_of_eq rfl _).trans (bind_of_eq ran _)⟩

namespace CommandLine

/-- Options that ask for no formatter. -/
def workshopInvocation : Invocation := { action := .build ⟨"t1"⟩, skipsFormatter := true }

def workshopSettings : Settings := ⟨"/", { format := { enabled := false } }, false⟩

theorem load_workshop (state : Nat) :
    Settings.load Host.workshop workshopInvocation state = (.ok workshopSettings, state) :=
  rfl

theorem steady_workshop :
    Steady Host.workshop workshopInvocation ⟨"t1"⟩ "t1.query" false 0 where
  found {settings loaded} _ := Tool.find?_workshop settings.config.build.program loaded
  kept {settings loaded generated} loads _ := by
    rw [load_workshop] at loads ⊢
    exact ⟨congrArg Prod.fst loads, rfl⟩
  told _ _ := rfl

theorem generateThenBuild_workshop :
    (generateThenBuild Host.workshop.recorded workshopInvocation ⟨"t1"⟩ "t1.query" false
      (0, [])).1 = .ok () := by
  obtain ⟨program, found⟩ := Option.isSome_iff_exists.mp (Tool.find?_workshop "make" 0)
  have loads : Settings.load Host.workshop.recorded workshopInvocation (0, []) =
      (.ok workshopSettings, (0, [.textRead "/querygen.toml" (.ok "")])) := rfl
  have prepared := generateThenBuild_alike Host.workshopLikeness.recorded
    (steady_workshop.recorded []) loads found
  refine prepared.1.trans ?_
  let generator : SourceGenerator := ⟨workshopSettings.layout, none⟩
  have equips : SourceGenerator.ofConfig Host.workshop.recorded workshopSettings.layout
      workshopSettings.config (0, [.textRead "/querygen.toml" (.ok "")]) =
        (.ok generator, (0, [.textRead "/querygen.toml" (.ok "")])) := rfl
  rw [prepareWith, bind_of_eq equips]
  dsimp only
  rcases generates : generator.generate Host.workshop.recorded
    (producerOf Host.workshop.recorded ⟨"t1"⟩ "t1.query" false) ⟨"t1"⟩
    (0, [.textRead "/querygen.toml" (.ok "")]) with ⟨answer, made⟩
  obtain rfl : .ok (workshopSettings.layout.sourcePath "t1") = answer := congrArg Prod.fst generates
  obtain ⟨elapsed, built, compiles⟩ :=
    Builder.compile_of_isPrompt Host.workshop_isPrompt
      (.equipped workshopSettings.layout {} program) ⟨"t1"⟩ made
  have done := congrArg Prod.fst (Pipeline.prepare_of_generated generates compiles)
  exact congrArg (Except.mapError Failure.pipeline) done

/-- In the workshop both commands succeed, so the run comes to its executor. -/
theorem executes_of_runThrough_workshop :
    .execute ⟨"t1"⟩ ∈ changes
      (runThrough Host.workshop.recorded workshopInvocation ⟨"t1"⟩ "t1.query" false
        (fun _ => Executor.marked fun _ _ => pure (.ok (), none)) (0, [])).2.2 :=
  ((runThrough_changes Host.workshopLikeness steady_workshop).2 _).2.2.mpr
    generateThenBuild_workshop

end CommandLine

end QueryFoundry
