import QueryFoundry.CommandLine.Commands
import QueryFoundry.Proofs.Supervision

/-!
# Two runs side by side

A judgement on two actions, each on a host of its own: from states that stand in a relation they
come to answers and states that stand in another. Two hosts correspond when they answer alike
whatever a command asks them before it executes a module. Commands on them then go side by side.
Neither the time of day nor the number of a child has to be the same in both.
-/

namespace QueryFoundry

variable {σ τ α β α' β' : Type}

/-- From related states, two actions come to related answers and states. -/
def Paired (before : σ → τ → Prop) (first : StateM σ α) (second : StateM τ β)
    (after : α → β → σ → τ → Prop) : Prop :=
  ∀ state other, before state other →
    after (first state).1 (second other).1 (first state).2 (second other).2

/-- The same answer, in related states. -/
def Agree (alike : σ → τ → Prop) (answer other : α) (state : σ) (second : τ) : Prop :=
  answer = other ∧ alike state second

namespace Paired

variable {before between : σ → τ → Prop} {first : StateM σ α} {second : StateM τ β}
variable {after : α → β → σ → τ → Prop} {goal : α' → β' → σ → τ → Prop}

theorem mono {weaker : α → β → σ → τ → Prop} (paired : Paired before first second after)
    (weakens : ∀ answer other state twin, after answer other state twin →
      weaker answer other state twin) : Paired before first second weaker :=
  fun state other related => weakens _ _ _ _ (paired state other related)

protected theorem pure {answer : α} {other : β}
    (related : ∀ state twin, before state twin → after answer other state twin) :
    Paired before (pure answer) (pure other) after :=
  related

protected theorem bind {firstNext : α → StateM σ α'} {secondNext : β → StateM τ β'}
    (starts : Paired before first second after)
    (goesOn : ∀ answer other, Paired (after answer other) (firstNext answer) (secondNext other)
      goal) : Paired before (first >>= firstNext) (second >>= secondNext) goal :=
  fun state other related => goesOn _ _ _ _ (starts state other related)

theorem next {first : StateM σ α} {second : StateM τ α} {firstNext : α → StateM σ α'}
    {secondNext : α → StateM τ β'} (starts : Paired before first second (Agree between))
    (goesOn : ∀ answer, Paired between (firstNext answer) (secondNext answer) goal) :
    Paired before (first >>= firstNext) (second >>= secondNext) goal := by
  refine starts.bind fun answer other => ?_
  rintro state twin ⟨rfl, related⟩
  exact goesOn answer state twin related

theorem lookAt {firstNext : σ → StateM σ α} {secondNext : τ → StateM τ β}
    (goesOn : ∀ state other, before state other →
      Paired (fun here there => here = state ∧ there = other) (firstNext state) (secondNext other)
        after) :
    Paired before (get >>= firstNext) (get >>= secondNext) after :=
  fun state other related => goesOn state other related state other ⟨rfl, rfl⟩

theorem look {firstNext : σ → StateM σ α} {secondNext : τ → StateM τ β}
    (goesOn : ∀ state other, before state other →
      Paired before (firstNext state) (secondNext other) after) :
    Paired before (get >>= firstNext) (get >>= secondNext) after :=
  fun state other related => goesOn state other related state other related

theorem aside {more : StateM τ β} {next : β → StateM τ β'} {after : α → β' → σ → τ → Prop}
    (leads : ∀ state other, before state other → between state (more other).2)
    (goesOn : ∀ answer, Paired between first (next answer) after) :
    Paired before first (more >>= next) after :=
  fun state other related => goesOn _ state _ (leads state other related)

theorem lookAside {next : τ → StateM τ β} {after : α → β → σ → τ → Prop}
    (goesOn : ∀ seen, Paired before first (next seen) after) :
    Paired before first (get >>= next) after :=
  fun state other related => goesOn other state other related

theorem asideIf {asked : Prop} [Decidable asked] {more : StateM τ Unit} {next : Unit → StateM τ β}
    {after : α → β → σ → τ → Prop}
    (leads : ∀ state other, before state other → before state (more other).2)
    (goesOn : Paired before first (next ()) after) :
    Paired before first (if asked then more >>= next else next ()) after := by
  split
  · exact aside leads fun _ => goesOn
  · exact goesOn

/-- The second action may do something more first that gives an answer known before. -/
theorem asideFor {more : StateM τ β} {next : β → StateM τ β'} {after : α → β' → σ → τ → Prop}
    {answer : β} (leads : ∀ state other, before state other →
      (more other).1 = answer ∧ between state (more other).2)
    (goesOn : Paired between first (next answer) after) :
    Paired before first (more >>= next) after := by
  intro state other related
  obtain ⟨given, between⟩ := leads state other related
  rcases does : more other with ⟨told, afterwards⟩
  rw [does] at given between
  obtain rfl : told = answer := given
  rw [bind_of_eq does]
  exact goesOn state afterwards between

/-- What is known of the one action, from a given state, says what the other one does. -/
theorem exists_eq {state afterwards : σ} {other : τ} {answer : α}
    (paired : Paired before first second after) (related : before state other)
    (does : first state = (answer, afterwards)) :
    ∃ otherAnswer otherAfter, second other = (otherAnswer, otherAfter) ∧
      after answer otherAnswer afterwards otherAfter := by
  have told := paired state other related
  rw [does] at told
  exact ⟨_, _, rfl, told⟩

theorem exists_eq_of_second {state : σ} {other afterwards : τ} {answer : β}
    (paired : Paired before first second after) (related : before state other)
    (does : second other = (answer, afterwards)) :
    ∃ firstAnswer firstAfter, first state = (firstAnswer, firstAfter) ∧
      after firstAnswer answer firstAfter afterwards := by
  have told := paired state other related
  rw [does] at told
  exact ⟨_, _, rfl, told⟩

end Paired

namespace Host

/-- What starting a program comes to on two hosts: it is refused on both, or there is a child on
each, started at a moment of its own. -/
inductive Started (alike : σ → τ → Prop) (twins : Supervision.Job → Supervision.Job → σ → τ → Prop)
    (program : Path) (start otherStart : Nat) :
    Except IoError Child → Except IoError Child → σ → τ → Prop
  | refused {error : IoError} {state : σ} {other : τ} (related : alike state other) :
      Started alike twins program start otherStart (.error error) (.error error) state other
  | running {child twin : Child} {state : σ} {other : τ}
      (related : twins ⟨program, child, start⟩ ⟨program, twin, otherStart⟩ state other) :
      Started alike twins program start otherStart (.ok child) (.ok twin) state other

/-- Two hosts that answer alike what is asked before a module is executed. -/
structure Correspondence (first : Host σ) (second : Host τ) where
  /-- States that the answers cannot tell apart. -/
  alike : σ → τ → Prop
  /-- States that cannot be told apart while a child of each is watched. -/
  twins : Supervision.Job → Supervision.Job → σ → τ → Prop
  isUnicode_eq : first.isUnicode = second.isUnicode
  workingDirectory_eq : ∀ {state other}, alike state other →
    first.workingDirectory state = second.workingDirectory other
  homeDirectory_eq : ∀ {state other}, alike state other →
    first.homeDirectory state = second.homeDirectory other
  searchPath_eq : ∀ {state other}, alike state other →
    first.searchPath state = second.searchPath other
  isFile_eq : ∀ {state other}, alike state other → first.isFile state = second.isFile other
  isDirectory_eq : ∀ {state other}, alike state other →
    first.isDirectory state = second.isDirectory other
  isExecutable_eq : ∀ {state other}, alike state other →
    first.isExecutable state = second.isExecutable other
  readText : ∀ path, Paired alike (first.readText path) (second.readText path) (Agree alike)
  readInput : Paired alike first.readInput second.readInput (Agree alike)
  createDirectories : ∀ path,
    Paired alike (first.createDirectories path) (second.createDirectories path) (Agree alike)
  writeText : ∀ path text,
    Paired alike (first.writeText path text) (second.writeText path text) (Agree alike)
  capture : ∀ command, Paired alike (first.capture command) (second.capture command) (Agree alike)
  log : ∀ entry, Paired alike (first.log entry) (second.log entry) (Agree alike)
  spawn : ∀ command state other, alike state other →
    Started alike twins command.program (first.clock state) (second.clock other)
      (first.spawn command state).1 (second.spawn command other).1
      (first.spawn command state).2 (second.spawn command other).2
  program_eq : ∀ {job twin state other}, twins job twin state other → job.program = twin.program
  /-- Both children have been there for the same time. -/
  elapsed_eq : ∀ {job twin state other}, twins job twin state other →
    first.clock state - job.start = second.clock other - twin.start
  poll : ∀ job twin, Paired (twins job twin) (first.poll job.child) (second.poll twin.child)
    fun answer other state after => answer = other ∧ match answer with
      | .ok none => twins job twin state after
      | _ => alike state after
  pause : ∀ delay job twin,
    Paired (twins job twin) (first.pause delay) (second.pause delay) (Agree (twins job twin))
  killGroup : ∀ job twin, Paired (twins job twin) (first.killGroup job.child)
    (second.killGroup twin.child) (Agree (twins job twin))
  logWatched : ∀ entry job twin,
    Paired (twins job twin) (first.log entry) (second.log entry) (Agree (twins job twin))
  wait : ∀ job twin,
    Paired (twins job twin) (first.wait job.child) (second.wait twin.child) (Agree alike)

/-- A host answers like itself. -/
def Correspondence.refl (host : Host σ) : host.Correspondence host where
  alike := Eq
  twins job twin state other := job = twin ∧ state = other
  isUnicode_eq := rfl
  workingDirectory_eq := by rintro _ _ rfl; rfl
  homeDirectory_eq := by rintro _ _ rfl; rfl
  searchPath_eq := by rintro _ _ rfl; rfl
  isFile_eq := by rintro _ _ rfl; rfl
  isDirectory_eq := by rintro _ _ rfl; rfl
  isExecutable_eq := by rintro _ _ rfl; rfl
  readText := by rintro path _ _ rfl; exact ⟨rfl, rfl⟩
  readInput := by rintro _ _ rfl; exact ⟨rfl, rfl⟩
  createDirectories := by rintro path _ _ rfl; exact ⟨rfl, rfl⟩
  writeText := by rintro path text _ _ rfl; exact ⟨rfl, rfl⟩
  capture := by rintro command _ _ rfl; exact ⟨rfl, rfl⟩
  log := by rintro entry _ _ rfl; exact ⟨rfl, rfl⟩
  spawn := by
    rintro command state _ rfl
    cases (host.spawn command state).1 with
    | error error => exact .refused rfl
    | ok child => exact .running ⟨rfl, rfl⟩
  program_eq := by rintro _ _ _ _ ⟨rfl, rfl⟩; rfl
  elapsed_eq := by rintro _ _ _ _ ⟨rfl, rfl⟩; rfl
  poll := by
    rintro job _ state _ ⟨rfl, rfl⟩
    refine ⟨rfl, ?_⟩
    cases (host.poll job.child state).1 with
    | error error => rfl
    | ok status =>
        cases status with
        | none => exact ⟨rfl, rfl⟩
        | some status => rfl
  pause := by rintro delay job _ _ _ ⟨rfl, rfl⟩; exact ⟨rfl, rfl, rfl⟩
  killGroup := by rintro job _ _ _ ⟨rfl, rfl⟩; exact ⟨rfl, rfl, rfl⟩
  logWatched := by rintro entry job _ _ _ ⟨rfl, rfl⟩; exact ⟨rfl, rfl, rfl⟩
  wait := by rintro job _ _ _ ⟨rfl, rfl⟩; exact ⟨rfl, rfl⟩

end Host

variable {first : Host σ} {second : Host τ} (both : first.Correspondence second)

namespace Tool

theorem find?_eq_of_alike {state : σ} {other : τ} (alike : both.alike state other)
    (program : String) : find? first state program = find? second other program := by
  have settled (path : Path) : settle first state path = settle second other path := by
    simp only [settle, both.workingDirectory_eq alike]
  have expanded (path : Path) : expandHome first state path = expandHome second other path := by
    simp only [expandHome, both.homeDirectory_eq alike]
  have candidates_eq : candidates first state program = candidates second other program := by
    simp only [candidates, settled, expanded, both.searchPath_eq alike]
  simp only [find?, candidates_eq, both.isFile_eq alike, both.isExecutable_eq alike]

theorem paired_find (program : String) :
    Paired both.alike (find first program) (find second program) (Agree both.alike) := by
  refine .look fun state other alike => ?_
  rw [find?_eq_of_alike both alike program]
  cases find? second other program with
  | none => exact .pure fun _ _ alike => ⟨rfl, alike⟩
  | some path => exact .pure fun _ _ alike => ⟨rfl, alike⟩

theorem paired_version (path : Path) :
    Paired both.alike (version first path) (version second path) (Agree both.alike) := by
  refine (both.capture _).next fun answer => ?_
  cases answer with
  | error error => exact .pure fun _ _ alike => ⟨rfl, alike⟩
  | ok captured => exact .pure fun _ _ alike => ⟨rfl, alike⟩

theorem paired_resolve (origin : LogOrigin) (job program : String) :
    Paired both.alike (resolve first origin job program) (resolve second origin job program)
      (Agree both.alike) := by
  refine (paired_find both program).next fun answer => ?_
  cases answer with
  | error error => exact .pure fun _ _ alike => ⟨rfl, alike⟩
  | ok path =>
      refine (paired_version both path).next fun told => ?_
      cases told with
      | none => exact .pure fun _ _ alike => ⟨rfl, alike⟩
      | some told => exact (both.log _).next fun _ => .pure fun _ _ alike => ⟨rfl, alike⟩

end Tool

namespace Supervision

/-- Outcomes that differ in the time that has gone by. Only a tool with a time limit is killed. -/
inductive Equals (timeout : Option Duration) :
    Except IoError ToolOutcome → Except IoError ToolOutcome → Prop
  | lost (error : IoError) : Equals timeout (.error error) (.error error)
  | exited (status : WaitStatus) (elapsed other : Duration) :
      Equals timeout (.ok (.exited status elapsed)) (.ok (.exited status other))
  | timedOut (limited : timeout.isSome) (elapsed other : Duration) :
      Equals timeout (.ok (.timedOut elapsed)) (.ok (.timedOut other))

variable {timeout : Option Duration}

theorem paired_reap {outcome : WaitStatus → Duration → ToolOutcome} (job twin : Job)
    (equals : ∀ status elapsed other,
      Equals timeout (.ok (outcome status elapsed)) (.ok (outcome status other))) :
    Paired (both.twins job twin) (reap first job outcome) (reap second twin outcome)
      fun outcome other state after => Equals timeout outcome other ∧ both.alike state after := by
  refine (both.wait job twin).next fun answer => ?_
  cases answer with
  | error error => exact .pure fun _ _ alike => ⟨.lost error, alike⟩
  | ok status =>
      exact .look fun _ _ _ => .pure fun _ _ alike => ⟨equals status _ _, alike⟩

theorem paired_finish (job twin : Job) :
    Paired (both.twins job twin) (finish first job) (finish second twin)
      fun outcome other state after => Equals timeout outcome other ∧ both.alike state after :=
  paired_reap both job twin .exited

theorem paired_collect (limited : timeout.isSome) (job twin : Job) :
    Paired (both.twins job twin) (collect first job) (collect second twin)
      fun outcome other state after => Equals timeout outcome other ∧ both.alike state after :=
  paired_reap both job twin fun _ => .timedOut limited

theorem paired_warnUnkilled {job twin : Job} (same : job.program = twin.program)
    (error : IoError) :
    Paired (both.twins job twin) (warnUnkilled first job error) (warnUnkilled second twin error)
      (Agree (both.twins job twin)) := by
  unfold warnUnkilled
  rw [same]
  split
  · exact .pure fun _ _ related => ⟨rfl, related⟩
  · exact both.logWatched _ job twin

theorem paired_expire (limited : timeout.isSome) {job twin : Job}
    (same : job.program = twin.program) :
    Paired (both.twins job twin) (expire first job) (expire second twin)
      fun outcome other state after => Equals timeout outcome other ∧ both.alike state after := by
  refine (both.killGroup job twin).next fun answer => ?_
  cases answer with
  | error error =>
      exact (paired_warnUnkilled both same error).next fun _ => paired_collect both limited job twin
  | ok _ => exact paired_collect both limited job twin

/-- Children that have been there for the same time are watched through the same rounds. -/
theorem paired_watch (limited : timeout.isSome) (job twin : Job) (limit : Nat) :
    Paired (both.twins job twin) (watch first job limit) (watch second twin limit)
      fun outcome other state after => Equals timeout outcome other ∧ both.alike state after := by
  intro state other twins
  rw [watch_eq second]
  fun_induction watch first job limit state generalizing other with
  | case1 state error after polled =>
      obtain ⟨_, _, polledToo, rfl, alike⟩ := (both.poll job twin).exists_eq twins polled
      rw [polledToo]
      exact ⟨.lost error, alike⟩
  | case2 state status after polled =>
      obtain ⟨_, _, polledToo, rfl, alike⟩ := (both.poll job twin).exists_eq twins polled
      rw [polledToo]
      exact ⟨.exited status _ _, alike⟩
  | case3 state after polled late =>
      obtain ⟨_, afterwards, polledToo, rfl, twins⟩ :=
        (both.poll job twin).exists_eq twins polled
      -- The same time has gone by for both, so they are late in the same round.
      rw [both.elapsed_eq twins] at late
      simp only [polledToo, if_pos late]
      exact paired_expire both limited (both.program_eq twins) after afterwards twins
  | case4 state after polled early ih =>
      obtain ⟨_, afterwards, polledToo, rfl, twins⟩ :=
        (both.poll job twin).exists_eq twins polled
      rw [both.elapsed_eq twins] at early
      simp only [polledToo, if_neg early]
      have paused := (both.pause pollInterval job twin after afterwards twins).2
      rw [watch_eq second]
      exact ih _ paused

/-- A command that is supervised on both hosts comes to the same, but for the time that it takes. -/
theorem paired_run (command : Command) (timeout : Option Duration) :
    Paired both.alike (run first command timeout) (run second command timeout)
      fun outcome other state after => Equals timeout outcome other ∧ both.alike state after := by
  refine (both.log _).next fun _ => .lookAt fun state other alike => ?_
  have starts : Paired (fun here there => here = state ∧ there = other)
      (first.spawn (started command timeout)) (second.spawn (started command timeout))
      (Host.Started both.alike both.twins command.program (first.clock state)
        (second.clock other)) := by
    rintro _ _ ⟨rfl, rfl⟩
    exact both.spawn (started command timeout) _ _ alike
  refine starts.bind fun answer otherAnswer => ?_
  rintro here there (⟨alike⟩ | ⟨twins⟩)
  · exact ⟨.lost _, alike⟩
  · cases timeout with
    | none => exact paired_finish both _ _ here there twins
    | some limit => exact paired_watch both rfl _ _ limit.totalNanoseconds here there twins

end Supervision

theorem Paired.answer {alike : σ → τ → Prop} (answer : α) :
    Paired alike (Pure.pure answer) (Pure.pure answer) (Agree alike) :=
  .pure fun _ _ alike => ⟨rfl, alike⟩

namespace Formatter

theorem paired_ofConfig (config : FormatConfig) :
    Paired both.alike (ofConfig first config) (ofConfig second config) (Agree both.alike) := by
  unfold ofConfig
  split
  · refine (Tool.paired_resolve both _ _ _).next fun answer => ?_
    cases answer with
    | error error => exact .answer _
    | ok program => exact .answer _
  · exact .answer _

theorem judge_eq {formatter : Formatter} {outcome other : ToolOutcome} (path : Path)
    (equals : Supervision.Equals formatter.timeout (.ok outcome) (.ok other)) :
    formatter.judge path outcome = formatter.judge path other := by
  cases equals with
  | exited status elapsed other => rfl
  | timedOut limited elapsed other =>
      obtain ⟨limit, limit_eq⟩ := Option.isSome_iff_exists.mp limited
      simp only [judge, limit_eq, Option.getD_some]

theorem paired_formatInPlace (formatter : Formatter) (path : Path) :
    Paired both.alike (formatter.formatInPlace first path) (formatter.formatInPlace second path)
      (Agree both.alike) := by
  refine (Supervision.paired_run both _ formatter.timeout).bind fun outcome other => ?_
  rintro state after ⟨equals, alike⟩
  cases outcome with
  | error error =>
      cases equals
      exact ⟨rfl, alike⟩
  | ok outcome =>
      cases other with
      | error error => cases equals
      | ok other => exact ⟨judge_eq path equals, alike⟩

end Formatter

namespace SourceGenerator

theorem paired_ofConfig (layout : EngineLayout) (config : Config) :
    Paired both.alike (ofConfig first layout config) (ofConfig second layout config)
      (Agree both.alike) := by
  refine (Formatter.paired_ofConfig both config.format).next fun answer => ?_
  cases answer with
  | error error => exact .answer _
  | ok formatter => exact .answer _

theorem paired_write (generator : SourceGenerator) (name : ArtifactName) (text : String) :
    Paired both.alike (generator.write first name text) (generator.write second name text)
      (Agree both.alike) := by
  refine (both.createDirectories _).next fun created => ?_
  cases created with
  | error error => exact .answer _
  | ok _ =>
      refine (both.writeText _ _).next fun written => ?_
      cases written with
      | error error => exact .answer _
      | ok _ => exact (both.log _).next fun _ => .answer _

theorem paired_format (generator : SourceGenerator) (path : Path) :
    Paired both.alike (generator.format first path) (generator.format second path)
      (Agree both.alike) := by
  unfold format
  cases generator.formatter with
  | none => exact .answer _
  | some formatter =>
      refine (formatter.paired_formatInPlace both path).next fun formatted => ?_
      cases formatted with
      | error error => exact .answer _
      | ok _ => exact (both.log _).next fun _ => .answer _

/-- A source is generated in the same way on both hosts when both producers give the same text. -/
theorem paired_generate {producer : Producer σ} {twin : Producer τ}
    (produces : Paired both.alike producer twin (Agree both.alike)) (generator : SourceGenerator)
    (name : ArtifactName) :
    Paired both.alike (generator.generate first producer name)
      (generator.generate second twin name) (Agree both.alike) := by
  refine produces.next fun produced => ?_
  cases produced with
  | error causes => exact .answer _
  | ok text =>
      refine (generator.paired_write both name text).next fun written => ?_
      cases written with
      | error error => exact .answer _
      | ok path => exact generator.paired_format both path

end SourceGenerator

/-- Results that are the same but for what they hold are the same error or no errors. -/
theorem cases_of_map_eq {ε : Type} {result : Except ε α} {other : Except ε β}
    (same : result.map (fun _ => ()) = other.map fun _ => ()) :
    (∃ error, result = .error error ∧ other = .error error) ∨
      ∃ value held, result = .ok value ∧ other = .ok held := by
  cases result with
  | error error =>
      cases other with
      | error _ =>
          cases same
          exact .inl ⟨error, rfl, rfl⟩
      | ok held => cases same
  | ok value =>
      cases other with
      | error _ => cases same
      | ok held => exact .inr ⟨value, held, rfl, rfl⟩

namespace Builder

theorem judge_map_eq {builder : Builder} {outcome other : ToolOutcome} (name : ArtifactName)
    (equals : Supervision.Equals builder.timeout (.ok outcome) (.ok other)) :
    (builder.judge name outcome).map (fun _ => ()) =
      (builder.judge name other).map fun _ => () := by
  cases equals with
  | exited status elapsed other =>
      cases succeeded : status.success <;> simp [judge, succeeded, Except.map]
  | timedOut limited elapsed other =>
      obtain ⟨limit, limit_eq⟩ := Option.isSome_iff_exists.mp limited
      simp only [judge, limit_eq, Option.getD_some]

/-- An artifact is built in the same way on both hosts, but for the time that it takes. The log is
told that time, so it has to make no difference what the log is told. -/
theorem paired_compile (logs : ∀ entry other,
      Paired both.alike (first.log entry) (second.log other) (Agree both.alike))
    (builder : Builder) (name : ArtifactName) :
    Paired both.alike (builder.compile first name) (builder.compile second name)
      fun built other state after =>
        built.map (fun _ => ()) = other.map (fun _ => ()) ∧ both.alike state after := by
  refine .look fun state other alike => ?_
  rw [both.isDirectory_eq alike]
  split
  · refine (both.log _).next fun _ => ?_
    refine (Supervision.paired_run both _ builder.timeout).bind fun outcome other => ?_
    rintro state after ⟨equals, alike⟩
    cases outcome with
    | error error =>
        cases equals
        exact ⟨rfl, alike⟩
    | ok outcome =>
        cases other with
        | error error => cases equals
        | ok other =>
            rcases cases_of_map_eq (judge_map_eq name equals) with
              ⟨error, judged, otherJudged⟩ | ⟨elapsed, otherElapsed, judged, otherJudged⟩
            · simp only [judged, otherJudged]
              exact ⟨rfl, alike⟩
            · simp only [judged, otherJudged]
              exact ⟨rfl, (logs _ _ state after alike).2⟩
  · exact .pure fun _ _ alike => ⟨rfl, alike⟩

end Builder

namespace Config

theorem paired_load (path : Path) :
    Paired both.alike (load first path) (load second path) (Agree both.alike) := by
  refine (both.readText path).next fun text => ?_
  cases text with
  | error error => exact .answer _
  | ok text => exact .answer _

theorem paired_discover (root : Path) :
    Paired both.alike (discover first root) (discover second root) (Agree both.alike) := by
  refine .look fun state other alike => ?_
  rw [both.isFile_eq alike]
  split
  · exact (both.log _).next fun _ => paired_load both _
  · exact .answer _

end Config

namespace CommandLine

theorem Settings.paired_load (invocation : Invocation) :
    Paired both.alike (load first invocation) (load second invocation) (Agree both.alike) := by
  refine .look fun state other alike => ?_
  rw [both.workingDirectory_eq alike]
  cases named : invocation.config with
  | none =>
      refine (Config.paired_discover both _).next fun loaded => ?_
      cases loaded with
      | error failure => exact .answer _
      | ok config => exact .answer _
  | some path =>
      refine (Config.paired_load both path).next fun loaded => ?_
      cases loaded with
      | error failure => exact .answer _
      | ok config => exact .answer _

theorem paired_readSource (path : Path) :
    Paired both.alike (readSource first path) (readSource second path) (Agree both.alike) := by
  unfold readSource
  split
  · refine both.readInput.next fun text => ?_
    cases text with
    | error error => exact .answer _
    | ok text => exact .answer _
  · refine (both.readText path).next fun text => ?_
    cases text with
    | error error => exact .answer _
    | ok text => exact .answer _

/-- A source is read on both hosts as the same text, with the same bridge behind it. -/
theorem paired_sourceProducer (path : Path) (bridge : Option String) :
    Paired both.alike (sourceProducer first path bridge) (sourceProducer second path bridge)
      (Agree both.alike) := by
  intro state other alike
  obtain ⟨same, alike⟩ := paired_readSource both path state other alike
  cases bridge with
  | none => exact ⟨same, alike⟩
  | some name => exact ⟨congrArg (Except.map (appendBridge · name)) same, alike⟩

/-- The command that generates an artifact does so on both hosts when both print alike. -/
theorem paired_generate (prints : ∀ text,
      Paired both.alike (first.print text) (second.print text) (Agree both.alike))
    {producer : Producer σ} {twin : Producer τ}
    (produces : Paired both.alike producer twin (Agree both.alike)) (settings : Settings)
    (name : ArtifactName) :
    Paired both.alike (generate first settings name producer) (generate second settings name twin)
      (Agree both.alike) := by
  refine (SourceGenerator.paired_ofConfig both _ _).next fun answer => ?_
  cases answer with
  | error error => exact .answer _
  | ok generator =>
      refine (generator.paired_generate both produces name).next fun generated => ?_
      cases generated with
      | error error => exact .answer _
      | ok path =>
          have told : settings.tells first path = settings.tells second path := by
            rw [Settings.tells, Settings.tells, both.isUnicode_eq]
          dsimp only
          rw [told]
          split
          · exact (prints _).next fun _ => .answer _
          · exact .answer _

end CommandLine

end QueryFoundry
