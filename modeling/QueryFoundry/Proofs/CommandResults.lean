import Mathlib.Logic.Relation
import QueryFoundry.Proofs.AddedEvents
import QueryFoundry.Proofs.BenchStreams
import QueryFoundry.Proofs.RunEffects

/-!
# What a command says

How a command ends and what it prints. A command succeeds exactly when all its parts do, and what it
prints before it has succeeded is only progress, which nobody can take for a result. An error is the
last thing that the program says: only others can write more behind it.
-/

namespace QueryFoundry

variable {σ : Type}

namespace CommandLine

/-- A JSON object and the end of its line. -/
inductive IsJsonLine : String → Prop
  | compact (members : List (String × Json)) : IsJsonLine ((Json.object members).compact ++ "\n")
  | pretty (members : List (String × Json)) : IsJsonLine ((Json.object members).pretty ++ "\n")

theorem IsJsonLine.head?_eq {text : String} (isJsonLine : IsJsonLine text) :
    text.toList.head? = some '\x7b' := by
  cases isJsonLine with
  | compact members => simp [String.toList_append, Json.compact, Json.compactChars]
  | pretty members =>
      cases members <;> simp [String.toList_append, Json.pretty, Json.prettyChars]

/-- What a command prints when it has succeeded: a JSON object or a line about what came of it. -/
inductive IsResult : String → Prop
  | generated (path : Path) : IsResult ("Generated " ++ path ++ "\n")
  | built (name time : String) : IsResult ("Built " ++ name ++ " in " ++ time ++ "s" ++ "\n")
  | completed (name time : String) :
      IsResult ("Completed " ++ name ++ " in " ++ time ++ "s" ++ "\n")
  | json {text : String} (isJsonLine : IsJsonLine text) : IsResult text

/-- Nobody can take progress for a result: they differ in their first character. -/
theorem IsProgress.not_isResult {text : String} (isProgress : IsProgress text) :
    ¬IsResult text := by
  have first : text.toList.head? ∈ [some 'R', some ' ', some '✓', some '✗'] := by
    cases isProgress with
    | announced name => simp [String.toList_append]
    | started verb name => simp [String.toList_append]
    | completed elapsed => simp [String.toList_append]
    | failed => simp
  rintro isResult
  cases isResult with
  | generated path => simp [String.toList_append] at first
  | built name time => simp [String.toList_append] at first
  | completed name time => simp [String.toList_append] at first
  | json isJsonLine => simp [isJsonLine.head?_eq] at first

def PrintsProgress (event : Event) : Prop :=
  ∀ text, event = .printed text → IsProgress text

/-- One entry of the log, or one piece of progress that is printed. -/
inductive TellsOnce (host : Host σ) : σ → σ → Prop
  | log (entry : LogEntry) (state : σ) : TellsOnce host state (host.log entry state).2
  | print {text : String} (isProgress : IsProgress text) (state : σ) :
      TellsOnce host state (host.print text state).2

/-- Entries of the log and pieces of progress that are printed, any number of them. -/
def Tells (host : Host σ) : σ → σ → Prop :=
  Relation.ReflTransGen (TellsOnce host)

instance (host : Host σ) : IsPreorder σ (Tells host) where
  refl _ := .refl
  trans _ _ _ := .trans

/-- What becomes of a command: it has a root directory to work in and runs its course there, or it
fails at once. -/
inductive AttemptCourse (host : Host σ) (invocation : Invocation) (state : σ) :
    Except Failure Unit × σ → Prop
  | rootless {cause : IoError} (fault : rootFault? host invocation state = some cause) :
      AttemptCourse host invocation state (.error (.rootless cause), state)
  | rooted {outcome : Except Failure Unit × σ} (sound : rootFault? host invocation state = none)
      (course : CommandCourse (Tells host) host invocation state outcome) :
      AttemptCourse host invocation state outcome

theorem attempt_of_rootless {host : Host σ} {invocation : Invocation} {state : σ} {cause : IoError}
    (fault : rootFault? host invocation state = some cause) :
    attempt host invocation state = (.error (.rootless cause), state) := by
  have looked : (get : StateM σ σ) state = (state, state) := rfl
  rw [attempt, bind_of_eq looked, fault]
  rfl

theorem attempt_of_rooted {host : Host σ} {invocation : Invocation} {state : σ}
    (sound : rootFault? host invocation state = none) :
    attempt host invocation state = perform host invocation state := by
  have looked : (get : StateM σ σ) state = (state, state) := rfl
  rw [attempt, bind_of_eq looked, sound]

/-- What a host tells about is all that happens between the parts of a command. -/
theorem attemptCourse_attempt (host : Host σ) {invocation : Invocation}
    (isCommand : invocation.action.IsCommand) (state : σ) :
    AttemptCourse host invocation state (attempt host invocation state) := by
  cases fault : rootFault? host invocation state with
  | some cause =>
      rw [attempt_of_rootless fault]
      exact .rootless fault
  | none =>
      rw [attempt_of_rooted fault]
      exact .rooted fault (commandCourse_perform (fun entry state => .single (.log entry state))
        isCommand (fun _ _ isProgress state => .single (.print isProgress state)) state)

/-- An ending is that of what a command answered, unless the program has ended before. -/
theorem fulfil_of_attempt {host : Host σ} {invocation : Invocation} {state after : σ}
    {answer : Except Failure Unit} (attempts : attempt host invocation state = (answer, after)) :
    fulfil host (.ok (.invoke invocation)) state =
      ((host.ended? after).elim (.ofAnswer (host.backtrace? after) answer) (⟨·, ""⟩), after) := by
  have looked : (get : StateM σ σ) after = (after, after) := rfl
  refine (bind_of_eq attempts _).trans ((bind_of_eq looked _).trans ?_)
  cases host.ended? after with
  | none => rfl
  | some status => rfl

theorem ending_of_ended {host : Host σ} {invocation : Invocation} {state after : σ} {ending : Ending}
    (fulfils : fulfil host (.ok (.invoke invocation)) state = (ending, after))
    {status : WaitStatus} (ended : host.ended? after = some status) : ending = ⟨status, ""⟩ := by
  rcases attempts : attempt host invocation state with ⟨answer, attempted⟩
  rw [fulfil_of_attempt attempts] at fulfils
  obtain ⟨rfl, rfl⟩ := Prod.mk.inj fulfils
  rw [ended]
  rfl

/-- How a command ends that nothing else has ended: with code 0 if it succeeded, and else with
code 1. It then complains about its error, with a hint where there is one, and says behind that
where the program is if it is asked to. -/
structure Ending.Concludes (ending : Ending) (backtrace : Option String)
    (answer : Except Failure Unit) : Prop where
  succeeded_iff : ending.status = .exited 0 ↔ answer = .ok ()
  failed : answer ≠ .ok () → ending.status = .exited 1
  silent : answer = .ok () → ending.complaint = ""
  complains : ∀ error, answer = .error (.pipeline error) → ending.complaint =
    "Error: " ++ (error.message ++ error.hint?.elim "" ("\n  hint: " ++ ·)) ++
      backtrace.elim "" ("\n\nStack backtrace:\n" ++ ·) ++ "\n"

theorem Failure.status_ending_ne (backtrace : Option String) (failure : Failure) :
    (failure.ending backtrace).status ≠ .exited 0 := by
  have unlike : WaitStatus.exited 1 ≠ .exited 0 ∧ WaitStatus.exited 101 ≠ .exited 0 := by decide
  cases failure with
  | panicked => exact unlike.2
  | _ => exact unlike.1

theorem Ending.status_ofAnswer_iff (backtrace : Option String) {answer : Except Failure Unit} :
    (ofAnswer backtrace answer).status = .exited 0 ↔ answer = .ok () := by
  rcases answer with failure | _
  · exact iff_of_false (failure.status_ending_ne backtrace) (by simp)
  · exact iff_of_true rfl rfl

theorem Ending.concludes_ofAnswer (backtrace : Option String) {answer : Except Failure Unit}
    (calm : answer ≠ .error .panicked) : (ofAnswer backtrace answer).Concludes backtrace answer where
  succeeded_iff := status_ofAnswer_iff backtrace
  failed unsuccessful := by
    rcases answer with failure | _
    · cases failure with
      | panicked => exact absurd rfl calm
      | _ => rfl
    · exact absurd rfl unsuccessful
  silent succeeded := by rw [succeeded]; rfl
  complains error failed := by
    have hinted : error.hintSuffix = error.hint?.elim "" ("\n  hint: " ++ ·) := by
      rw [PipelineError.hintSuffix]
      cases error.hint? <;> rfl
    have traced : Failure.backtraceSuffix backtrace =
        backtrace.elim "" ("\n\nStack backtrace:\n" ++ ·) := by
      cases backtrace <;> rfl
    rw [failed, ← hinted, ← traced]
    rfl

/-- A command prints only progress until it tells what came of it. -/
theorem ends_recorded (host : Host σ) {invocation : Invocation}
    (isCommand : invocation.action.IsCommand) (state : σ × List Event) :
    Ends (Adds PrintsProgress) host.recorded invocation.json state
      (perform host.recorded invocation state) := by
  have works : host.recorded.WorksIn (Adds PrintsProgress) :=
    Adds.worksIn (fun event isWork => by rintro text rfl; exact isWork.elim) host
  have loads : host.recorded.loader.MovesIn (Adds PrintsProgress) :=
    Adds.loader (fun event isLoading => by rintro text rfl; exact isLoading.elim) host
  have starts : StartsIn (Adds PrintsProgress) host.recorded
      (Formats host.recorded invocation state) :=
    ⟨fun _ _ _ => Adds.spawn (fun _ _ same => by cases same) host,
      fun _ _ => Adds.spawn (fun _ _ same => by cases same) host⟩
  refine (commandCourse_perform works.log isCommand (fun _ text isProgress => ?_) state).ends works
    starts loads
  exact Adds.print (fun _ same => by cases same; exact isProgress) host

theorem isResult_generatedText (json : Bool) (name : ArtifactName) (path : Path) :
    IsResult (generatedText json name path ++ "\n") := by
  cases json with
  | false => exact .generated path
  | true => exact .json (.compact _)

theorem isResult_builtText (json : Bool) (name : ArtifactName) (elapsed : Duration) :
    IsResult (builtText json name elapsed ++ "\n") := by
  cases json with
  | false => exact .built name.text elapsed.hundredthsText
  | true => exact .json (.compact _)

theorem IsTelling.prints_result {host : Host σ} {json : Bool}
    {telling : StateM (σ × List Event) Unit} (isTelling : IsTelling host.recorded json telling)
    (state : σ × List Event) : ∃ text, .printed text ∈ (telling state).2.2 ∧ IsResult text := by
  cases isTelling with
  | generated name path =>
      exact ⟨_, List.mem_append_right _ (List.mem_singleton_self _),
        isResult_generatedText json name path⟩
  | built name elapsed =>
      exact ⟨_, List.mem_append_right _ (List.mem_singleton_self _),
        isResult_builtText json name elapsed⟩
  | ran report result =>
      cases json with
      | true => exact ⟨_, List.mem_append_right _ (List.mem_singleton_self _), .json (.pretty _)⟩
      | false =>
          refine ⟨_, ?_, .completed report.name.text (report.total?.getD .longest).hundredthsText⟩
          cases result with
          | none => exact List.mem_append_right _ (List.mem_singleton_self _)
          | some result => exact List.mem_append_right _ (List.mem_singleton_self _)

theorem prints_result_iff (host : Host σ) {invocation : Invocation}
    (isCommand : invocation.action.IsCommand) (state : σ) :
    (∃ text, .printed text ∈ (attempt host.recorded invocation (state, [])).2.2 ∧ IsResult text) ↔
      (attempt host.recorded invocation (state, [])).1 = .ok () := by
  cases fault : rootFault? host.recorded invocation (state, []) with
  | some cause =>
      rw [attempt_of_rootless fault]
      simp
  | none =>
      have ends := ends_recorded host isCommand (state, [])
      rw [attempt_of_rooted fault]
      rcases performed : perform host.recorded invocation (state, []) with ⟨answer, after⟩
      rw [performed] at ends
      cases ends with
      | failed moved =>
          obtain ⟨added, events_eq, onlyProgress⟩ := moved
          refine iff_of_false ?_ (by simp)
          rintro ⟨text, member, isResult⟩
          rw [events_eq] at member
          exact (onlyProgress _ member text rfl).not_isResult isResult
      | told moved isTelling => exact iff_of_true (isTelling.prints_result _) rfl

namespace Launch

open Text
open Workbench (Extends)

variable {μ : Type}

theorem lookup_prepare (launch : Launch) (bench : Workbench μ) :
    ∃ content, (launch.prepare bench).machine.streams.lookup
      (launch.prepare bench).machine.errorStream = some content := by
  refine Option.isSome_iff_exists.mp ?_
  change ((bench.machine.streams ++ [(bench.machine.nextStream, "")] ++
    [(bench.machine.nextStream + 1, "")]).lookup (bench.machine.nextStream + 1)).isSome
  rw [List.lookup_append, List.lookup_cons_self, Option.isSome_or]
  exact Bool.or_true _

theorem extends_openLog (launch : Launch) (demand : Except UsageError Demand) :
    Moves Extends (launch.openLog demand : StateM (Workbench μ) LogFilter) := by
  unfold openLog
  split
  · exact .bind (Workbench.extends_printError _) fun _ => .pure _
  · exact .pure _

/-- What the machine shows in the end of a program that came to an ending. Its complaint goes behind
all that was said before in its stream of error messages, and it says nothing more: what follows
there is said by the libraries that it leaves and by the processes that hold its streams. These can
also end it otherwise. -/
structure Closes (transcript : Transcript) (stream : Nat) (ending : Ending)
    (after told : Native.NativeBench) : Prop where
  said : told.machine.streamContent stream =
    after.machine.streamContent stream ++ toOctets ending.complaint
  shown : transcript.errors = (windDown Native.loader told).machine.streamContent stream
  followed : ∃ rest, (windDown Native.loader told).machine.streamContent stream =
    told.machine.streamContent stream ++ rest
  status_eq : transcript.status = (windDown Native.loader told).ended.getD ending.status
  alone : Native.IsDeserted told →
    transcript.errors = told.machine.streamContent stream ∧ transcript.status = ending.status

theorem moves_attempt {invocation : Invocation} (isCommand : invocation.action.IsCommand)
    (filter : LogFilter) :
    Moves Extends (attempt (consoleHost Native.loader filter) invocation) := by
  intro bench
  cases fault : rootFault? (consoleHost Native.loader filter) invocation bench with
  | some cause =>
      rw [attempt_of_rootless fault]
      exact refl_of Extends bench
  | none =>
      rw [attempt_of_rooted fault]
      exact moves_perform (Workbench.worksIn_consoleHost _ _) (Workbench.startsIn_consoleHost _ _)
        isCommand Native.movesIn_loader Workbench.extends_print bench

theorem moves_fulfil {invocation : Invocation} (isCommand : invocation.action.IsCommand)
    (filter : LogFilter) :
    Moves Extends (fulfil (consoleHost Native.loader filter) (.ok (.invoke invocation))) := by
  intro bench
  rcases attempts : attempt (consoleHost Native.loader filter) invocation bench with ⟨answer, after⟩
  rw [fulfil_of_attempt attempts]
  exact (moves_attempt isCommand filter).of_eq attempts

section

variable (launch : Launch) (bench : Native.NativeBench) {invocation : Invocation}
variable {filter : LogFilter} {begun after told : Native.NativeBench} {ending : Ending}

/-- The stream of error messages is there from the start, and stays the one that the program uses. -/
theorem exists_lookup_fulfil (isCommand : invocation.action.IsCommand)
    (opened : launch.openLog (.ok (.invoke invocation)) (launch.prepare bench) = (filter, begun))
    (fulfils : fulfil (consoleHost Native.loader filter) (.ok (.invoke invocation)) begun =
      (ending, after)) :
    after.machine.errorStream = (launch.prepare bench).machine.errorStream ∧
      ∃ content, after.machine.streams.lookup (launch.prepare bench).machine.errorStream =
        some content := by
  have opens : (launch.prepare bench).Extends begun := (extends_openLog launch _).of_eq opened
  have kept : (launch.prepare bench).machine.Extends after.machine :=
    opens.trans ((moves_fulfil isCommand filter).of_eq fulfils)
  obtain ⟨content, written⟩ := lookup_prepare launch bench
  obtain ⟨added, extended⟩ := kept.lookup written
  exact ⟨kept.errorStream_eq, content ++ added, extended⟩

/-- What a program shows is what its streams hold when all that it leaves has ended. -/
theorem run_eq_of_fulfil
    (demands : Demand.read (launch.valueOf? configVariable) launch.arguments =
      .ok (.invoke invocation))
    (opened : launch.openLog (.ok (.invoke invocation)) (launch.prepare bench) = (filter, begun))
    (fulfils : fulfil (consoleHost Native.loader filter) (.ok (.invoke invocation)) begun =
      (ending, after))
    (complains : Workbench.printError ending.complaint after = ((), told)) :
    (launch.run Native.loader bench).1 =
      ⟨(windDown Native.loader told).ended.getD ending.status,
        (windDown Native.loader told).machine.streamContent
          (launch.prepare bench).machine.outputStream,
        (windDown Native.loader told).machine.streamContent
          (launch.prepare bench).machine.errorStream⟩ := by
  simp only [Launch.run, demands, opened, fulfils, complains]

/-- A program that has ended has no ending of its own beside that. -/
theorem ended_getD_status
    (fulfils : fulfil (consoleHost Native.loader filter) (.ok (.invoke invocation)) begun =
      (ending, after)) :
    after.ended.getD ending.status = ending.status := by
  cases ended : after.ended with
  | none => rfl
  | some status =>
      rw [ending_of_ended fulfils ended]
      rfl

/-- What the program complains about is the last thing that it says among the error messages. -/
theorem closes_run (isCommand : invocation.action.IsCommand)
    (demands : Demand.read (launch.valueOf? configVariable) launch.arguments =
      .ok (.invoke invocation)) :
    let prepared := launch.prepare bench
    let (filter, begun) := launch.openLog (.ok (.invoke invocation)) prepared
    let (ending, after) :=
      fulfil (consoleHost Native.loader filter) (.ok (.invoke invocation)) begun
    Closes (launch.run Native.loader bench).1 prepared.machine.errorStream ending after
      (Workbench.printError ending.complaint after).2 := by
  dsimp only
  rcases opened : launch.openLog (.ok (.invoke invocation)) (launch.prepare bench) with
    ⟨filter, begun⟩
  dsimp only
  rcases fulfils : fulfil (consoleHost Native.loader filter) (.ok (.invoke invocation)) begun with
    ⟨ending, after⟩
  dsimp only
  obtain ⟨held, content, written⟩ := exists_lookup_fulfil launch bench isCommand opened fulfils
  have toldWritten := Workbench.lookup_printError held written fun status ended =>
    congrArg Ending.complaint (ending_of_ended fulfils ended)
  have toldEnded := Workbench.ended_printError ending.complaint after
  rcases complains : (Workbench.printError ending.complaint : StateM Native.NativeBench Unit) after
    with ⟨_, told⟩
  rw [complains] at toldWritten toldEnded
  obtain ⟨rest, restWritten⟩ := (Native.extends_windDown told).lookup toldWritten
  rw [run_eq_of_fulfil launch bench demands opened fulfils complains]
  refine ⟨?_, rfl, ⟨rest, ?_⟩, rfl, fun deserted => ?_⟩
  · simp only [Sandbox.Machine.streamContent, written, toldWritten, Option.getD_some]
  · simp only [Sandbox.Machine.streamContent, toldWritten, restWritten, Option.getD_some]
  · rw [deserted.windDown_eq, toldEnded]
    exact ⟨rfl, ended_getD_status fulfils⟩

end

end Launch

/-- A command that nothing ends before its time ends with code 0 exactly when it has a root
directory, its settings could be loaded, its tools were found, all its stages succeeded and, where
the results of a run are told as JSON, that can hold the path of its source. Else it ends with
code 1, however a tool ended, and complains about the error of the part that failed, with a hint
where there is one. It prints a result exactly when it succeeds. On the machine, the complaint is
the last thing that the program says among the error messages. -/
theorem command_ends {invocation : Invocation} (isCommand : invocation.action.IsCommand) :
    (∀ {σ : Type} (host : Host σ) (state : σ), ∃ answer after ending,
      AttemptCourse host invocation state (answer, after) ∧
        fulfil host (.ok (.invoke invocation)) state = (ending, after) ∧
        (host.ended? after = none → answer ≠ .error .panicked →
          ending.Concludes (host.backtrace? after) answer)) ∧
    (∀ {σ : Type} (host : Host σ) (state : σ),
      let (ending, after) := fulfil host.recorded (.ok (.invoke invocation)) (state, [])
      host.ended? after.1 = none →
        ((∃ text, .printed text ∈ after.2 ∧ IsResult text) ↔ ending.status = .exited 0)) ∧
    ∀ (launch : Launch) (bench : Native.NativeBench),
      Demand.read (launch.valueOf? Launch.configVariable) launch.arguments =
        .ok (.invoke invocation) →
      let prepared := launch.prepare bench
      let (filter, begun) := launch.openLog (.ok (.invoke invocation)) prepared
      let (ending, after) := fulfil (Launch.consoleHost Native.loader filter)
        (.ok (.invoke invocation)) begun
      Launch.Closes (launch.run Native.loader bench).1 prepared.machine.errorStream ending after
        (Workbench.printError ending.complaint after).2 := by
  refine ⟨fun host state => ?_, fun host state => ?_, fun launch bench demands => ?_⟩
  · have course := attemptCourse_attempt host isCommand state
    rcases attempts : attempt host invocation state with ⟨answer, after⟩
    rw [attempts] at course
    refine ⟨answer, after, _, course, fulfil_of_attempt attempts, fun running calm => ?_⟩
    rw [running]
    exact Ending.concludes_ofAnswer _ calm
  · have printed := prints_result_iff host isCommand state
    rcases attempts : attempt host.recorded invocation (state, []) with ⟨answer, after⟩
    rw [attempts] at printed
    rw [fulfil_of_attempt attempts]
    intro running
    have runningToo : host.recorded.ended? after = none := running
    rw [runningToo]
    exact printed.trans (Ending.status_ofAnswer_iff _).symm
  · exact launch.closes_run bench isCommand demands

/-- A build with a configuration file that is named but not there. -/
def missingConfig : Invocation :=
  { action := .build ⟨"t1"⟩, config := some "none.toml" }

/-- Without the configuration file that is named, nothing is built. -/
theorem fulfil_missingConfig :
    let (ending, _) := fulfil Host.endless (.ok (.invoke missingConfig)) 0
    let launch : Launch := { arguments := ["--config", "none.toml", "build", "t1"] }
    ending.status = .exited 1 ∧
      ending.complaint = "Error: configuration error: cannot read none.toml: No such file or " ++
        "directory (os error 2)\n  hint: see querygen.toml\n" ∧
      ∃ stream ending after told, Launch.Closes
        (launch.run Native.loader (Native.freshBench "/" [])).1 stream ending after told := by
  obtain ⟨ends, -, closes⟩ := @command_ends missingConfig trivial
  obtain ⟨answer, after, ending, course, fulfils, concludes⟩ := ends Host.endless 0
  have unreadable : Settings.load Host.endless missingConfig 0 =
      (.error (.config ("cannot read none.toml: " ++ (IoError.os 2).message)), 0) := rfl
  obtain ⟨rfl, rfl⟩ : answer = .error (.pipeline (.config
      ("cannot read none.toml: " ++ (IoError.os 2).message))) ∧ after = 0 := by
    cases course with
    | rootless fault => cases fault
    | rooted sound course =>
        cases course with
        | unsettled loads =>
            rw [unreadable] at loads
            cases loads
            exact ⟨rfl, rfl⟩
        | generate asked => cases asked
        | build asked loads =>
            rw [unreadable] at loads
            cases loads
        | run asked => cases asked
  obtain ⟨-, failed, -, complains⟩ := concludes rfl (by simp)
  rw [fulfils]
  refine ⟨failed (by simp), (complains _ rfl).trans (by decide), ?_⟩
  let launch : Launch := { arguments := ["--config", "none.toml", "build", "t1"] }
  exact ⟨_, _, _, _, closes launch (Native.freshBench "/" []) rfl⟩

end CommandLine

/-- A host where errors tell where the program is. -/
def Host.tracing : Host Nat :=
  { Host.endless with backtrace? := fun _ => some "   0: main" }

/-- The workshop with a library for each artifact. Opening it may end the program, and no path or
each one is UTF-8. -/
def Host.workshopWith (isUnicode : Bool) (ended : Option WaitStatus) :
    Host (Nat × Option WaitStatus) :=
  { Host.workshop.beside with
    isUnicode := fun _ => isUnicode
    ended? := Prod.snd
    pathExists := fun _ _ => true
    loader :=
      { ModuleLoader.empty with
        openLibrary := fun _ state => (.ok ⟨1⟩, (state.1, ended))
        callInit := fun library _ => pure (.ok (some ⟨library, 1, bridgeAbiVersion⟩))
        callRun := fun _ => pure (some ⟨1⟩) } }

theorem Host.workshopWith_isPrompt (isUnicode : Bool) (ended : Option WaitStatus) :
    (Host.workshopWith isUnicode ended).IsPrompt where
  stands _ _ := rfl
  spawns _ _ := ⟨_, _, rfl⟩
  polls _ _ := ⟨_, rfl⟩
  waits _ _ := ⟨_, rfl⟩

/-- In both states the program has ended in the same way, or has not. -/
def SameEnd (state after : Nat × Option WaitStatus) : Prop :=
  after.2 = state.2

instance : IsPreorder (Nat × Option WaitStatus) SameEnd where
  refl _ := rfl
  trans _ _ _ first second := second.trans first

namespace CommandLine

/-- The command that runs an artifact, with JSON output and no formatter. -/
def runInvocation : Invocation :=
  { action := .run ⟨"t1"⟩ "t1.query" false, json := true, skipsFormatter := true }

def runSettings : Settings := { workshopSettings with json := true }

section

variable (isUnicode : Bool) (ended : Option WaitStatus)

/-- In the workshop all stages of a run succeed, though opening its library may end the program. -/
theorem exists_report_workshopWith (builder : Builder) (state : Nat × Option WaitStatus) :
    let host := Host.workshopWith isUnicode ended
    let pipeline : Pipeline (Nat × Option WaitStatus) (Option ExecutionReport) :=
      { generator := ⟨runSettings.layout, none⟩, builder, executor := executorOf host runSettings
        memory := none }
    ∃ report left after,
      pipeline.compileAndRun host (producerOf host ⟨"t1"⟩ "t1.query" false) ⟨"t1"⟩ state =
        (((.ok report : Except PipelineError Report), left), after) ∧ after.2 = ended := by
  intro host pipeline
  have course := Pipeline.course_compileAndRun
    (fun entry state => (rfl : SameEnd state (host.log entry state).2))
    (show Callback.MovesIn SameEnd pipeline.callback from movesIn_silent)
    (producerOf host ⟨"t1"⟩ "t1.query" false) ⟨"t1"⟩ state
  rcases ran : pipeline.compileAndRun host (producerOf host ⟨"t1"⟩ "t1.query" false) ⟨"t1"⟩ state
    with ⟨⟨result, left⟩, after⟩
  rw [ran] at course
  cases course with
  | notGenerated begins generates ends => cases congrArg Prod.fst generates
  | @notBuilt _ _ _ _ _ resumed _ _ begins generates goesOn builds ends =>
      obtain ⟨elapsed, built, compiles⟩ := Builder.compile_of_isPrompt
        (Host.workshopWith_isPrompt isUnicode ended) builder ⟨"t1"⟩ resumed
      cases builds.symm.trans compiles
  | handed begins generates goesOn builds reaches executes answers ends =>
      cases congrArg (·.1.1) executes
      have endedSo := congrArg (·.2.2) executes
      cases result with
      | error error => cases answers
      | ok report => exact ⟨report, left, after, rfl, ends.trans endedSo.symm⟩

/-- The workshop has all that the stages of a run need. -/
theorem exists_pipeline_workshopWith :
    let host := Host.workshopWith isUnicode ended
    ∃ builder ready, Pipeline.ofConfig host runSettings.root runSettings.config
        (executorOf host runSettings) none (0, none) =
      (.ok { generator := ⟨runSettings.layout, none⟩, builder
             executor := executorOf host runSettings, memory := none }, ready) := by
  intro host
  obtain ⟨program, found⟩ := Option.isSome_iff_exists.mp (Tool.find?_workshop "make" 0)
  have foundToo : Tool.find? host (0, none) "make" = some program := found
  rcases finds : Builder.ofConfig host runSettings.layout runSettings.config.build (0, none) with
    ⟨answer, ready⟩
  obtain rfl : answer = .ok (.equipped runSettings.layout runSettings.config.build program) :=
    (congrArg Prod.fst finds).symm.trans (Builder.ofConfig_fst foundToo)
  have equips : SourceGenerator.ofConfig host runSettings.layout runSettings.config ready =
      (.ok ⟨runSettings.layout, none⟩, ready) := rfl
  exact ⟨_, ready, (bind_of_eq finds _).trans (bind_of_eq equips _)⟩

/-- So it depends on the path of its source alone whether its results are told. -/
theorem exists_attempt_workshopWith :
    let host := Host.workshopWith isUnicode ended
    ∃ pipeline ready report left after,
      Pipeline.ofConfig host runSettings.root runSettings.config (executorOf host runSettings) none
        (0, none) = (.ok pipeline, ready) ∧
      pipeline.compileAndRun host (producerOf host ⟨"t1"⟩ "t1.query" false) ⟨"t1"⟩ ready =
        (((.ok report : Except PipelineError Report), left), after) ∧
      attempt host runInvocation (0, none) =
        (if isUnicode then .ok () else .error .notUnicode, after) ∧ after.2 = ended := by
  intro host
  have loads : Settings.load host runInvocation (0, none) = (.ok runSettings, (0, none)) := rfl
  obtain ⟨builder, ready, made⟩ := exists_pipeline_workshopWith isUnicode ended
  obtain ⟨report, left, after, ran, endedSo⟩ := exists_report_workshopWith isUnicode ended
    builder ready
  refine ⟨_, ready, report, left, after, made, ran, ?_, endedSo⟩
  have runs : attempt host runInvocation (0, none) =
      runWith host runSettings ⟨"t1"⟩ (producerOf host ⟨"t1"⟩ "t1.query" false)
        (executorOf host runSettings) (0, none) :=
    (attempt_of_rooted rfl).trans (bind_of_eq loads _)
  have json : runSettings.json = true := rfl
  have told : runSettings.tells host report.sourcePath = isUnicode := rfl
  have unheard (line : String) : printLine host line after = ((), after) := rfl
  rw [runs, runWith, bind_of_eq made]
  dsimp only
  rw [json, Bool.not_true, if_neg Bool.false_ne_true, if_pos rfl, bind_of_eq ran]
  dsimp only
  rw [told]
  cases isUnicode with
  | false => rfl
  | true => exact bind_of_eq (unheard _) _

end

/-- The stages of a command do not settle alone how it ends. A library may end the program with a
code of its own. Where JSON cannot hold a path, a run whose stages all succeeded ends with code 1,
and the command that generates a source panics. Where errors tell where the program is, the hint is
not the last that is said. -/
theorem ends_beside_stages :
    (fulfil (Host.workshopWith true (some (.exited 3))) (.ok (.invoke runInvocation))
      (0, none)).1 = ⟨.exited 3, ""⟩ ∧
    (let host := Host.workshopWith false none;
      (∃ pipeline ready report left after,
        Pipeline.ofConfig host runSettings.root runSettings.config (executorOf host runSettings)
          none (0, none) = (.ok pipeline, ready) ∧
        pipeline.compileAndRun host (producerOf host ⟨"t1"⟩ "t1.query" false) ⟨"t1"⟩ ready =
          (((.ok report : Except PipelineError Report), left), after)) ∧
      (fulfil host (.ok (.invoke runInvocation)) (0, none)).1.status = .exited 1 ∧
      (fulfil host (.ok (.invoke { runInvocation with
        action := .generate ⟨"t1"⟩ "t1.query" false })) (0, none)).1.status = .exited 101) ∧
    ∃ error : PipelineError,
      (attempt Host.tracing missingConfig 0).1 = .error (.pipeline error) ∧
      (fulfil Host.tracing (.ok (.invoke missingConfig)) 0).1.complaint =
        "Error: " ++ error.withHint ++ "\n\nStack backtrace:\n   0: main\n" := by
  refine ⟨?_, ⟨?_, ?_, rfl⟩, ?_⟩
  · obtain ⟨_, _, _, _, after, -, -, attempts, endedSo⟩ :=
      exists_attempt_workshopWith true (some (.exited 3))
    have ended : (Host.workshopWith true (some (.exited 3))).ended? after = some (.exited 3) :=
      endedSo
    rw [fulfil_of_attempt attempts, ended]
    rfl
  · obtain ⟨pipeline, ready, report, left, after, made, ran, -, -⟩ :=
      exists_attempt_workshopWith false none
    exact ⟨pipeline, ready, report, left, after, made, ran⟩
  · obtain ⟨_, _, _, _, after, -, -, attempts, endedSo⟩ := exists_attempt_workshopWith false none
    have running : (Host.workshopWith false none).ended? after = none := endedSo
    rw [fulfil_of_attempt attempts, running]
    rfl
  · exact ⟨.config ("cannot read none.toml: " ++ (IoError.os 2).message), rfl, by decide⟩

end CommandLine

end QueryFoundry
