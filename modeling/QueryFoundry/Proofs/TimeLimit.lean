import QueryFoundry.Proofs.Supervision

/-!
# Time limits

What a time limit means for a tool, whatever the tool does and however its end, its deadline and its
kill follow each other. A tool that is seen to have ended is never killed, also when its time is
over by then. A tool that still runs when its time is over is killed once, while it is not yet
reaped, and only the group that it was made the leader of. Without a limit nothing is ever killed.
-/

namespace QueryFoundry

variable {σ : Type}

def Event.isKill : Event → Bool
  | groupKilled .. => true
  | _ => false

/-- A child has been reaped by the events so far: its status was seen or waited for. -/
def Reaped (child : Child) (events : List Event) : Prop :=
  ∃ status, .polled child (.ok (some status)) ∈ events ∨ .waited child (.ok status) ∈ events

namespace Supervision

variable {host : Host σ} {job : Job} {state after : σ} {limit : Nat}
variable {outcome : Except IoError ToolOutcome} {events : List Event}

theorem filter_isKill_idleRounds (child : Child) (rounds : Nat) :
    (idleRounds child rounds).filter Event.isKill = [] := by
  refine List.filter_eq_nil_iff.mpr fun event member => ?_
  rcases eq_of_mem_idleRounds member with rfl | rfl <;> simp [Event.isKill]

theorem not_reaped_idleRounds (child other : Child) (rounds : Nat) :
    ¬Reaped child (idleRounds other rounds) := by
  rintro ⟨status, polled | waited⟩
  · simpa using eq_of_mem_idleRounds polled
  · simpa using eq_of_mem_idleRounds waited

/-- A round ends the watch: the tool is not found running, or it is and its time is over. -/
def Ends (host : Host σ) (job : Job) (limit : Nat) (state : σ) (round : Nat) : Prop :=
  answerAt host job.child state round ≠ .ok none ∨
    limit ≤ host.clock (askedAt host job.child state round) - job.start

theorem Ends.of_answer {round : Nat} {answer : Except IoError (Option WaitStatus)}
    (given : answerAt host job.child state round = answer) (other : answer ≠ .ok none) :
    Ends host job limit state round :=
  .inl (given ▸ other)

/-- A tool that runs until a round that ends the watch runs until no other such round. -/
theorem round_unique {first second : Nat}
    (runsFirst : RunsUntil host job limit state first) (endsFirst : Ends host job limit state first)
    (runsSecond : RunsUntil host job limit state second)
    (endsSecond : Ends host job limit state second) :
    first = second := by
  rcases Nat.lt_trichotomy first second with before | equal | behind
  · obtain ⟨running, early⟩ := runsSecond first before
    rcases endsFirst with ended | late
    · exact absurd running ended
    · omega
  · exact equal
  · obtain ⟨running, early⟩ := runsFirst second behind
    rcases endsSecond with ended | late
    · exact absurd running ended
    · omega

/-- The round that ends the watch decides what comes of it. -/
theorem Watched.decided (watched : Watched host job limit state outcome events) {round : Nat}
    (runs : RunsUntil host job limit state round) (ends : Ends host job limit state round) :
    match answerAt host job.child state round with
    | .error error => outcome = .error error
    | .ok (some status) => ∃ elapsed, outcome = .ok (.exited status elapsed)
    | .ok none => ∃ waited, Gives (host.wait job.child) waited ∧ Collected waited outcome := by
  cases watched with
  | refused runsAlso answer =>
      obtain rfl := round_unique runsAlso (.of_answer answer (by simp)) runs ends
      rw [answer]
  | ended runsAlso answer =>
      obtain rfl := round_unique runsAlso (.of_answer answer (by simp)) runs ends
      rw [answer]
      exact ⟨_, rfl⟩
  | expired runsAlso answer late gives collected =>
      obtain rfl := round_unique runsAlso (.inr late) runs ends
      rw [answer]
      exact ⟨_, gives, collected⟩

/-- A watched tool exits with a status exactly when a question is answered with it and the tool was
within its time at every question before. -/
theorem Watched.exited_iff (watched : Watched host job limit state outcome events)
    (status : WaitStatus) :
    (∃ elapsed, outcome = .ok (.exited status elapsed)) ↔
      ∃ round, answerAt host job.child state round = .ok (some status) ∧
        RunsUntil host job limit state round := by
  constructor
  · rintro ⟨elapsed, rfl⟩
    cases watched with
    | ended runs answer => exact ⟨_, answer, runs⟩
    | expired runs answer late gives collected => cases collected
  · rintro ⟨round, answer, runs⟩
    have decided := watched.decided runs (.of_answer answer (by simp))
    rwa [answer] at decided

/-- A watched tool times out exactly when a question finds it running and its time is over right
after that, having been within its time at every question before. -/
theorem Watched.timedOut_iff (watched : Watched host job limit state outcome events)
    (waits : ∀ error, ¬Gives (host.wait job.child) (.error error)) :
    (∃ elapsed, outcome = .ok (.timedOut elapsed)) ↔
      ∃ round, answerAt host job.child state round = .ok none ∧
        limit ≤ host.clock (askedAt host job.child state round) - job.start ∧
          RunsUntil host job limit state round := by
  constructor
  · rintro ⟨elapsed, rfl⟩
    cases watched with
    | expired runs answer late gives collected => exact ⟨_, answer, late, runs⟩
  · rintro ⟨round, answer, late, runs⟩
    have decided := watched.decided runs (.inr late)
    rw [answer] at decided
    obtain ⟨waited, gives, collected⟩ := decided
    cases collected with
    | lost error => exact absurd gives (waits error)
    | timedOut status elapsed => exact ⟨elapsed, rfl⟩

/-- A tool that exits while it is watched is not killed. -/
theorem Watched.kills_of_exited {status : WaitStatus} {elapsed : Duration}
    (watched : Watched host job limit state (.ok (.exited status elapsed)) events) :
    events.filter Event.isKill = [] := by
  cases watched with
  | ended runs answer =>
      rw [List.filter_append, filter_isKill_idleRounds]
      rfl
  | expired runs answer late gives collected => cases collected

/-- A tool that times out is killed once, after it was found running and before it is reaped. -/
theorem Watched.events_of_timedOut {elapsed : Duration}
    (watched : Watched host job limit state (.ok (.timedOut elapsed)) events) :
    ∃ before killed status, before.filter Event.isKill = [] ∧ ¬Reaped job.child before ∧
      events = before ++ [Event.groupKilled job.child killed, .waited job.child (.ok status)] := by
  cases watched with
  | expired runs answer late gives collected =>
      cases collected with
      | timedOut status elapsed =>
          rename_i round killed
          refine ⟨idleRounds job.child round ++ [Event.polled job.child (.ok none)], killed, status,
            ?_, ?_, by simp⟩
          · rw [List.filter_append, filter_isKill_idleRounds]
            rfl
          · have idle := not_reaped_idleRounds job.child job.child round
            simpa [Reaped] using idle

theorem Watched.reaped {result : ToolOutcome}
    (watched : Watched host job limit state (.ok result) events) : Reaped job.child events := by
  cases watched with
  | @ended round status elapsed runs answer => exact ⟨status, .inl (by simp)⟩
  | expired runs answer late gives collected =>
      cases collected with
      | timedOut status elapsed => exact ⟨status, .inr (by simp)⟩

/-- A result that comes no earlier than a state and tells the time at its own end. -/
def TellsEnd (host : Host σ) (start : Nat) (state : σ)
    (result : Except IoError ToolOutcome × σ) : Prop :=
  host.clock state ≤ host.clock result.2 ∧
    ∀ outcome, result.1 = .ok outcome → outcome.elapsed = host.elapsedSince start result.2

theorem TellsEnd.of_le {start : Nat} {earlier : σ} {result : Except IoError ToolOutcome × σ}
    (tells : TellsEnd host start state result)
    (before : host.clock earlier ≤ host.clock state) : TellsEnd host start earlier result :=
  ⟨Nat.le_trans before tells.1, tells.2⟩

theorem tellsEnd_collect (goesOn : host.ClockGoesOn) (job : Job) (state : σ) :
    TellsEnd host job.start state (collect host job state) := by
  have waitedLater := goesOn.wait job.child state
  rcases waited : host.wait job.child state with ⟨answer, after⟩
  rw [waited] at waitedLater
  cases answer with
  | error error =>
      have lost : collect host job state = (.error error, after) := bind_of_eq waited _
      rw [lost]
      exact ⟨waitedLater, fun outcome ended => nomatch ended⟩
  | ok status =>
      have collected : collect host job state =
        (.ok (.timedOut (host.elapsedSince job.start after)), after) := bind_of_eq waited _
      rw [collected]
      exact ⟨waitedLater, fun outcome ended => by cases ended; rfl⟩

theorem clock_le_warnUnkilled (goesOn : host.ClockGoesOn) (job : Job) (error : IoError)
    (state : σ) : host.clock state ≤ host.clock (warnUnkilled host job error state).2 := by
  unfold warnUnkilled
  split
  · exact Nat.le_refl _
  · exact goesOn.log _ state

theorem tellsEnd_expire (goesOn : host.ClockGoesOn) (job : Job) (state : σ) :
    TellsEnd host job.start state (expire host job state) := by
  have killedLater := goesOn.killGroup job.child state
  rcases killed : host.killGroup job.child state with ⟨answer, after⟩
  rw [killed] at killedLater
  cases answer with
  | error error =>
      -- A kill that failed may be told to the log before the tool is waited for.
      let told := (warnUnkilled host job error after).2
      have toldLater := clock_le_warnUnkilled goesOn job error after
      have expired : expire host job state = collect host job told := bind_of_eq killed _
      rw [expired]
      exact (tellsEnd_collect goesOn job told).of_le (Nat.le_trans killedLater toldLater)
  | ok _ =>
      have expired : expire host job state = collect host job after := bind_of_eq killed _
      rw [expired]
      exact (tellsEnd_collect goesOn job after).of_le killedLater

/-- The time that is told for a tool that was killed is at least its limit. -/
theorem watch_elapsed (goesOn : host.ClockGoesOn) {limit elapsed : Duration}
    (timedOut : (watch host job limit.totalNanoseconds state).1 = .ok (.timedOut elapsed)) :
    limit.totalNanoseconds ≤ elapsed.totalNanoseconds := by
  fun_induction watch host job limit.totalNanoseconds state with
  | case1 state error after polled => simp at timedOut
  | case2 state status after polled => simp at timedOut
  | case3 state after polled late =>
      obtain ⟨later, told⟩ := tellsEnd_expire goesOn job after
      have read : elapsed = host.elapsedSince job.start (expire host job after).2 :=
        told _ timedOut
      rw [read, Host.elapsedSince, Duration.totalNanoseconds_ofNanoseconds]
      have fits := limit.totalNanoseconds_le_longest
      omega
  | case4 state after polled notLate next => exact next timedOut

/-- What a time limit means for a tool that is watched from a state on. -/
structure LimitKept (host : Host σ) (job : Job) (limit : Duration) (state : σ)
    (outcome : ToolOutcome) (events : List Event) : Prop where
  exited_iff : ∀ status, (∃ elapsed, outcome = .exited status elapsed) ↔
    ∃ round, answerAt host job.child state round = .ok (some status) ∧
      RunsUntil host job limit.totalNanoseconds state round
  timedOut_iff : (∃ elapsed, outcome = .timedOut elapsed) ↔
    ∃ round, answerAt host job.child state round = .ok none ∧
      limit.totalNanoseconds ≤ host.clock (askedAt host job.child state round) - job.start ∧
        RunsUntil host job limit.totalNanoseconds state round
  exited_unkilled : ∀ status elapsed, outcome = .exited status elapsed →
    events.filter Event.isKill = []
  timedOut_killed : ∀ elapsed, outcome = .timedOut elapsed →
    limit.totalNanoseconds ≤ elapsed.totalNanoseconds ∧
      ∃ before killed status, before.filter Event.isKill = [] ∧ ¬Reaped job.child before ∧
        events = before ++ [Event.groupKilled job.child killed, .waited job.child (.ok status)]

/-- A tool whose status can always be asked and waited for is watched to an outcome. -/
theorem Watched.answers (watched : Watched host job limit state outcome events)
    (polls : ∀ error, ¬Gives (host.poll job.child) (.error error))
    (waits : ∀ error, ¬Gives (host.wait job.child) (.error error)) :
    ∃ result, outcome = .ok result := by
  cases watched with
  | refused runs answer => exact absurd ⟨_, answer⟩ (polls _)
  | ended runs answer => exact ⟨_, rfl⟩
  | expired runs answer late gives collected =>
      cases collected with
      | lost error => exact absurd gives (waits error)
      | timedOut status elapsed => exact ⟨_, rfl⟩

theorem Watched.limitKept {limit : Duration} {result : ToolOutcome}
    (goesOn : host.ClockGoesOn) (waits : ∀ error, ¬Gives (host.wait job.child) (.error error))
    (watches : (watch host job limit.totalNanoseconds state).1 = .ok result)
    (watched : Watched host job limit.totalNanoseconds state (.ok result) events) :
    LimitKept host job limit state result events where
  exited_iff status := by simpa using watched.exited_iff status
  timedOut_iff := by simpa using watched.timedOut_iff waits
  exited_unkilled := by
    rintro status elapsed rfl
    exact watched.kills_of_exited
  timedOut_killed := by
    rintro elapsed rfl
    exact ⟨watch_elapsed goesOn watches, watched.events_of_timedOut⟩

/-- What supervision of a started tool comes to, with the events after its start. -/
def Kept (host : Host σ) (job : Job) (timeout : Option Duration) (state : σ)
    (outcome : ToolOutcome) (events : List Event) : Prop :=
  match timeout with
  | none => (∃ status elapsed, outcome = .exited status elapsed) ∧ events.filter Event.isKill = []
  | some limit => LimitKept host job limit state outcome events

theorem run_limited {command : Command} {limit : Duration} {child : Child}
    (spawned : host.spawn (started command (some limit)) (opened host command state) =
      (.ok child, after)) :
    run host command (some limit) state =
      watch host (jobOf host command state child) limit.totalNanoseconds after := by
  -- Before the tool is started, a line is told to the host and the clock is read.
  refine (bind_of_eq rfl _).trans ((bind_of_eq rfl _).trans ?_)
  exact bind_of_eq spawned _

theorem run_waited {command : Command} {child : Child}
    (spawned : host.spawn (started command none) (opened host command state) = (.ok child, after)) :
    run host command none state = finish host (jobOf host command state child) after := by
  refine (bind_of_eq rfl _).trans ((bind_of_eq rfl _).trans ?_)
  exact bind_of_eq spawned _

/-- A tool that is started, and whose status can always be asked and waited for, is supervised to an
outcome at which it has been reaped. It leads a process group of its own exactly when it has a time
limit, and the limit is kept as a limit has to be. -/
theorem run_keeps_limit (host : Host σ) (command : Command) (timeout : Option Duration) (state : σ)
    {child : Child} {after : σ} (goesOn : host.ClockGoesOn)
    (spawned : host.spawn (started command timeout) (opened host command state) =
      (.ok child, after))
    (polls : ∀ error, ¬Gives (host.poll child) (.error error))
    (waits : ∀ error, ¬Gives (host.wait child) (.error error)) :
    RecordsAt state (run host.recorded command timeout) (run host command timeout)
      fun answer events => ∃ outcome rest, answer = .ok outcome ∧
        events = .spawned { command with ownGroup := timeout.isSome } (.ok child) :: rest ∧
          Reaped child rest ∧
            Kept host (jobOf host command state child) timeout after outcome rest := by
  refine (recordsAt_run host command timeout state).mono ?_
  intro events supervised
  cases timeout with
  | none =>
      obtain ⟨waited, gives, finished, rfl⟩ := supervised.finished_of_spawned spawned
      generalize (run host command none state).1 = answer at finished
      cases finished with
      | lost error => exact absurd gives (waits error)
      | exited status elapsed =>
          exact ⟨_, _, rfl, rfl, ⟨status, .inr (by simp)⟩, ⟨status, elapsed, rfl⟩, rfl⟩
  | some limit =>
      obtain ⟨rest, rfl, watched⟩ := supervised.watched_of_spawned spawned
      have watches := congrArg Prod.fst (run_limited spawned)
      obtain ⟨outcome, answered⟩ := watched.answers polls waits
      rw [answered] at watched watches
      exact ⟨outcome, rest, answered, rfl, watched.reaped,
        watched.limitKept goesOn waits watches.symm⟩

end Supervision

/-- Operations on libraries where there are none. -/
def ModuleLoader.empty : ModuleLoader σ where
  openLibrary _ := pure (.error .openFailed)
  callInit _ _ := pure (.error .symbolMissing)
  callRun _ := pure none
  callRowCount _ _ := pure 0
  callFetch _ _ := pure 0
  callRelease _ _ := pure ()
  closeLibrary _ := pure ()
  finish := pure ()

/-- A host that is only a clock. A program that it starts runs on until it is killed. -/
def Host.endless : Host Nat where
  isUnicode _ := true
  workingDirectory _ := "/"
  directoryFault? _ := none
  homeDirectory _ := "/"
  searchPath _ := []
  backtrace? _ := none
  ended? _ := none
  pathExists _ _ := false
  isFile _ _ := false
  isDirectory _ _ := false
  isExecutable _ _ := false
  clock state := state
  readText _ := pure (.error (.os 2))
  readInput := pure (.ok "")
  createDirectories _ := pure (.error (.os 13))
  writeText _ _ := pure (.error (.os 13))
  pause delay := modify (· + delay)
  spawn _ := pure (.ok ⟨1⟩)
  poll _ := pure (.ok none)
  wait _ := pure (.ok (.signaled 9))
  killGroup _ := pure (.ok ())
  capture _ := pure (.error (.os 2))
  log _ := pure ()
  print _ := pure ()
  loader := .empty
  clock_le_poll _ _ := Nat.le_refl _
  clock_add_le_pause _ _ := Nat.le_refl _

/-- A program that runs on is killed in the third round when its limit is two intervals. -/
theorem Supervision.run_keeps_limit_endless :
    ∃ elapsed, (run Host.endless ⟨"sleep", ["60"], none, false, false⟩
      (some ⟨0, 40000000, by decide⟩) 0).1 = .ok (.timedOut elapsed) ∧
        40000000 ≤ elapsed.totalNanoseconds := by
  have goesOn : Host.endless.ClockGoesOn :=
    ⟨fun _ _ => Nat.le_refl _, fun _ _ => Nat.le_refl _, fun _ _ => Nat.le_refl _⟩
  obtain ⟨events, -, outcome, rest, answer, -, -, kept⟩ :=
    @run_keeps_limit Nat Host.endless ⟨"sleep", ["60"], none, false, false⟩
      (some ⟨0, 40000000, by decide⟩) 0 ⟨1⟩ 0 goesOn rfl
      (by rintro _ ⟨_, answer⟩; cases answer) (by rintro _ ⟨_, answer⟩; cases answer) []
  have limitKept : LimitKept _ _ _ _ _ _ := kept
  obtain ⟨elapsed, rfl⟩ := limitKept.timedOut_iff.mpr ⟨2, rfl, by decide, fun
    | 0, _ => ⟨rfl, by decide⟩
    | 1, _ => ⟨rfl, by decide⟩⟩
  exact ⟨elapsed, answer, (limitKept.timedOut_killed elapsed rfl).1⟩

end QueryFoundry
