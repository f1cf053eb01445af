import QueryFoundry.Proofs.Trace
import QueryFoundry.Supervision

/-!
# What supervision does to a tool

A supervised tool goes through rounds: it is asked whether it has ended, the time is looked at, and
there is a pause. The last round decides. A status that is seen there is the outcome whatever the
time; a tool that still runs when its time is over is killed and waited for. The rounds are those of
the plain host, so they are known before it is known how many of them a time limit allows.

A span of time is read as its number of nanoseconds. A span that is made from a number has that
number, or the largest one where it does not fit.
-/

namespace QueryFoundry

namespace Duration

theorem totalNanoseconds_le_longest (duration : Duration) :
    duration.totalNanoseconds ≤ longest.totalNanoseconds := by
  have largest : longest.totalNanoseconds = UInt64.size * nanosecondsPerSecond - 1 := by decide
  rw [largest]
  exact Nat.le_sub_one_of_lt duration.totalNanoseconds_lt

theorem totalNanoseconds_ofNanoseconds (count : Nat) :
    (ofNanoseconds count).totalNanoseconds = min count longest.totalNanoseconds := by
  have largest : longest.totalNanoseconds = UInt64.size * nanosecondsPerSecond - 1 := by decide
  rw [largest]
  by_cases fits : count / nanosecondsPerSecond < UInt64.size
  · have seconds : (count / nanosecondsPerSecond).toUInt64.toNat = count / nanosecondsPerSecond :=
      UInt64.toNat_ofNat_of_lt' fits
    simp only [ofNanoseconds, ofNanoseconds?, fits, if_true, Option.getD_some, totalNanoseconds,
      seconds]
    simp only [nanosecondsPerSecond, UInt64.size] at *
    omega
  · simp only [ofNanoseconds, ofNanoseconds?, fits, if_false, Option.getD_none, largest]
    simp only [nanosecondsPerSecond, UInt64.size] at *
    omega

end Duration

variable {σ : Type}

def Event.IsSupervision : Event → Prop
  | spawned .. | paused _ | polled .. | waited .. | groupKilled .. => True
  | _ => False

/-- The clock of a host does not turn back while a tool is killed and waited for. -/
structure Host.ClockGoesOn (host : Host σ) : Prop where
  log : ∀ entry state, host.clock state ≤ host.clock (host.log entry state).2
  wait : ∀ child state, host.clock state ≤ host.clock (host.wait child state).2
  killGroup : ∀ child state, host.clock state ≤ host.clock (host.killGroup child state).2

namespace Supervision

/-- The host before a round: after that many questions and pauses from a state on. -/
def atRound (host : Host σ) (child : Child) (state : σ) : Nat → σ
  | 0 => state
  | round + 1 => atRound host child (host.pause pollInterval (host.poll child state).2).2 round

/-- What the question of a round is answered with. -/
def answerAt (host : Host σ) (child : Child) (state : σ) (round : Nat) :
    Except IoError (Option WaitStatus) :=
  (host.poll child (atRound host child state round)).1

/-- The host right after the question of a round. -/
def askedAt (host : Host σ) (child : Child) (state : σ) (round : Nat) : σ :=
  (host.poll child (atRound host child state round)).2

/-- In every round before a given one the tool was still running and its time was not over. -/
def RunsUntil (host : Host σ) (job : Job) (limit : Nat) (state : σ) (round : Nat) : Prop :=
  ∀ earlier < round, answerAt host job.child state earlier = .ok none ∧
    host.clock (askedAt host job.child state earlier) - job.start < limit

/-- The events of rounds that decide nothing. -/
def idleRounds (child : Child) : Nat → List Event
  | 0 => []
  | rounds + 1 => .polled child (.ok none) :: .paused pollInterval :: idleRounds child rounds

/-- What waiting for a tool without a time limit comes to. -/
inductive Finished : Except IoError WaitStatus → Except IoError ToolOutcome → Prop
  | lost (error : IoError) : Finished (.error error) (.error error)
  | exited (status : WaitStatus) (elapsed : Duration) :
      Finished (.ok status) (.ok (.exited status elapsed))

/-- What waiting for a tool that was to be killed comes to. -/
inductive Collected : Except IoError WaitStatus → Except IoError ToolOutcome → Prop
  | lost (error : IoError) : Collected (.error error) (.error error)
  | timedOut (status : WaitStatus) (elapsed : Duration) :
      Collected (.ok status) (.ok (.timedOut elapsed))

/-- How a watched tool may end, with the events of all rounds. -/
inductive Watched (host : Host σ) (job : Job) (limit : Nat) (state : σ) :
    Except IoError ToolOutcome → List Event → Prop
  | refused {round : Nat} {error : IoError} (runs : RunsUntil host job limit state round)
      (answer : answerAt host job.child state round = .error error) :
      Watched host job limit state (.error error)
        (idleRounds job.child round ++ [Event.polled job.child (.error error)])
  | ended {round : Nat} {status : WaitStatus} {elapsed : Duration}
      (runs : RunsUntil host job limit state round)
      (answer : answerAt host job.child state round = .ok (some status)) :
      Watched host job limit state (.ok (.exited status elapsed))
        (idleRounds job.child round ++ [Event.polled job.child (.ok (some status))])
  | expired {round : Nat} {killed : Except IoError Unit} {waited : Except IoError WaitStatus}
      {outcome : Except IoError ToolOutcome} (runs : RunsUntil host job limit state round)
      (answer : answerAt host job.child state round = .ok none)
      (late : limit ≤ host.clock (askedAt host job.child state round) - job.start)
      (gives : Gives (host.wait job.child) waited) (collected : Collected waited outcome) :
      Watched host job limit state outcome
        (idleRounds job.child round ++ [Event.polled job.child (.ok none),
          .groupKilled job.child killed, .waited job.child waited])

theorem eq_of_mem_idleRounds {child : Child} {rounds : Nat} {event : Event}
    (member : event ∈ idleRounds child rounds) :
    event = .polled child (.ok none) ∨ event = .paused pollInterval := by
  induction rounds with
  | zero => simp [idleRounds] at member
  | succ rounds ih =>
      simp only [idleRounds, List.mem_cons] at member
      rcases member with polled | paused | later
      · exact .inl polled
      · exact .inr paused
      · exact ih later

theorem RunsUntil.zero (host : Host σ) (job : Job) (limit : Nat) (state : σ) :
    RunsUntil host job limit state 0 :=
  fun _ earlier => absurd earlier (Nat.not_lt_zero _)

theorem RunsUntil.later {host : Host σ} {job : Job} {limit round : Nat} {state after : σ}
    (polled : host.poll job.child state = (.ok none, after))
    (early : host.clock after - job.start < limit)
    (runs : RunsUntil host job limit (host.pause pollInterval after).2 round) :
    RunsUntil host job limit state (round + 1) := by
  intro earlier earlierLt
  cases earlier with
  | zero =>
      simp only [answerAt, askedAt, atRound, polled]
      exact ⟨trivial, early⟩
  | succ earlier =>
      have shifted := runs earlier (by omega)
      simpa only [answerAt, askedAt, atRound, polled] using shifted

theorem Watched.later {host : Host σ} {job : Job} {limit : Nat} {state after : σ}
    {outcome : Except IoError ToolOutcome} {events : List Event}
    (polled : host.poll job.child state = (.ok none, after))
    (early : host.clock after - job.start < limit)
    (watched : Watched host job limit (host.pause pollInterval after).2 outcome events) :
    Watched host job limit state outcome
      (.polled job.child (.ok none) :: .paused pollInterval :: events) := by
  have answerLater (round : Nat) :
      answerAt host job.child (host.pause pollInterval after).2 round =
        answerAt host job.child state (round + 1) := by
    simp only [answerAt, atRound, polled]
  have askedLater (round : Nat) :
      askedAt host job.child (host.pause pollInterval after).2 round =
        askedAt host job.child state (round + 1) := by
    simp only [askedAt, atRound, polled]
  cases watched with
  | refused runs answer =>
      exact .refused (runs.later polled early) ((answerLater _).symm.trans answer)
  | ended runs answer =>
      exact .ended (runs.later polled early) ((answerLater _).symm.trans answer)
  | expired runs answer late gives collected =>
      rw [askedLater] at late
      exact .expired (runs.later polled early) ((answerLater _).symm.trans answer) late gives
        collected

/-- Wait for a tool. The outcome holds its status, or not, and the time since its start. -/
def reap (host : Host σ) (job : Job) (outcome : WaitStatus → Duration → ToolOutcome) :
    StateM σ (Except IoError ToolOutcome) := do
  match ← host.wait job.child with
  | .error error => return .error error
  | .ok status => return .ok (outcome status (host.elapsedSince job.start (← get)))

theorem records_reap (host : Host σ) (job : Job) {outcome : WaitStatus → Duration → ToolOutcome}
    {ends : Except IoError WaitStatus → Except IoError ToolOutcome → Prop}
    (lost : ∀ error, ends (.error error) (.error error))
    (told : ∀ status elapsed, ends (.ok status) (.ok (outcome status elapsed))) :
    Records (reap host.recorded job outcome) (reap host job outcome) fun answer added =>
      ∃ waited, Gives (host.wait job.child) waited ∧ ends waited answer ∧
        added = [.waited job.child waited] := by
  refine (records_recording (.waited job.child) (host.wait job.child)).bind ?_
  rintro waited _ ⟨rfl, gives⟩
  cases waited with
  | error error => exact .pure ⟨_, gives, lost error, rfl⟩
  | ok status =>
      intro state events
      refine ⟨[], ?_, _, gives, told status _, rfl⟩
      rw [List.append_nil]
      rfl

theorem records_finish (host : Host σ) (job : Job) :
    Records (finish host.recorded job) (finish host job) fun outcome added =>
      ∃ waited, Gives (host.wait job.child) waited ∧ Finished waited outcome ∧
        added = [.waited job.child waited] :=
  records_reap host job .lost .exited

/-- Wait for a tool that was to be killed. -/
def collect (host : Host σ) (job : Job) : StateM σ (Except IoError ToolOutcome) := do
  match ← host.wait job.child with
  | .error error => return .error error
  | .ok _ => return .ok (.timedOut (host.elapsedSince job.start (← get)))

theorem records_collect (host : Host σ) (job : Job) :
    Records (collect host.recorded job) (collect host job) fun outcome added =>
      ∃ waited, Gives (host.wait job.child) waited ∧ Collected waited outcome ∧
        added = [.waited job.child waited] :=
  records_reap host job .lost .timedOut

theorem records_warnUnkilled (host : Host σ) (job : Job) (error : IoError) :
    Records (warnUnkilled host.recorded job error) (warnUnkilled host job error)
      fun _ added => added = [] := by
  unfold warnUnkilled
  split
  · exact .pure rfl
  · exact records_besides _

/-- A tool whose time is over is killed, whatever comes of that, and then waited for. -/
theorem records_expire (host : Host σ) (job : Job) :
    Records (expire host.recorded job) (expire host job) fun outcome added =>
      ∃ killed waited, Gives (host.wait job.child) waited ∧ Collected waited outcome ∧
        added = [.groupKilled job.child killed, .waited job.child waited] := by
  refine (records_recording (.groupKilled job.child) (host.killGroup job.child)).bind ?_
  rintro killed _ ⟨rfl, -⟩
  have collects : Records (collect host.recorded job) (collect host job) fun outcome added =>
      ∃ answer waited, Gives (host.wait job.child) waited ∧ Collected waited outcome ∧
        [Event.groupKilled job.child killed] ++ added =
          [.groupKilled job.child answer, .waited job.child waited] := by
    refine (records_collect host job).mono ?_
    rintro _ _ ⟨waited, gives, collected, rfl⟩
    exact ⟨killed, waited, gives, collected, rfl⟩
  cases killed with
  | error error =>
      refine (records_warnUnkilled host job error).bind ?_
      rintro _ _ rfl
      exact collects
  | ok _ => exact collects

theorem watch_eq (host : Host σ) (job : Job) (limit : Nat) (state : σ) :
    watch host job limit state =
      match host.poll job.child state with
      | (.error error, after) => (.error error, after)
      | (.ok (some status), after) =>
          (.ok (.exited status (host.elapsedSince job.start after)), after)
      | (.ok none, after) =>
          if limit ≤ host.clock after - job.start then expire host job after
          else watch host job limit (host.pause pollInterval after).2 := by
  rw [watch]
  split <;> rename_i polled <;> rw [polled]

theorem recorded_poll {host : Host σ} {child : Child} {state after : σ}
    {answer : Except IoError (Option WaitStatus)} (polled : host.poll child state = (answer, after))
    (events : List Event) :
    host.recorded.poll child (state, events) =
      (answer, (after, events ++ [Event.polled child answer])) := by
  simp only [Host.recorded, recording, polled]

/-- Watching a tool is written down round by round. -/
theorem recordsAt_watch (host : Host σ) (job : Job) (limit : Nat) (state : σ) :
    RecordsAt state (watch host.recorded job limit) (watch host job limit)
      (Watched host job limit state) := by
  fun_induction watch host job limit state with
  | case1 state error after polled =>
      intro events
      have first : answerAt host job.child state 0 = .error error := congrArg Prod.fst polled
      rw [watch_eq host.recorded, recorded_poll polled, watch_eq host, polled]
      exact ⟨_, rfl, .refused (.zero host job limit state) first⟩
  | case2 state status after polled =>
      intro events
      have first : answerAt host job.child state 0 = .ok (some status) := congrArg Prod.fst polled
      rw [watch_eq host.recorded, recorded_poll polled, watch_eq host, polled]
      exact ⟨_, rfl, .ended (.zero host job limit state) first⟩
  | case3 state after polled late =>
      intro events
      have first : answerAt host job.child state 0 = .ok none := congrArg Prod.fst polled
      have firstLate : limit ≤ host.clock (askedAt host job.child state 0) - job.start := by
        simpa only [askedAt, atRound, polled] using late
      obtain ⟨_, equal, killed, waited, gives, collected, rfl⟩ :=
        records_expire host job after (events ++ [Event.polled job.child (.ok none)])
      rw [watch_eq host.recorded, recorded_poll polled, watch_eq host, polled]
      simp only [if_pos late]
      refine ⟨_, ?_, @Watched.expired _ host job limit state 0 killed _ _
        (.zero host job limit state) first firstLate gives collected⟩
      exact (if_pos late).trans (by simpa [idleRounds] using equal)
  | case4 state after polled notLate next =>
      -- Nothing was decided in this round, so its two events go in front of those behind it.
      intro events
      obtain ⟨added, equal, watched⟩ :=
        next (events ++ [Event.polled job.child (.ok none)] ++ [Event.paused pollInterval])
      have early : host.clock after - job.start < limit := by omega
      rw [watch_eq host.recorded, recorded_poll polled, watch_eq host, polled]
      simp only [if_neg notLate]
      refine ⟨_, ?_, watched.later polled early⟩
      refine (if_neg notLate).trans (Eq.trans equal ?_)
      simp only [List.append_assoc, List.cons_append, List.nil_append]

/-- How a tool is started: one with a time limit leads a process group of its own. -/
def started (command : Command) (timeout : Option Duration) : Command :=
  { command with ownGroup := timeout.isSome }

/-- The host when a tool is about to be started. -/
def opened (host : Host σ) (command : Command) (state : σ) : σ :=
  (host.tellDetail .supervision ("Running " ++ describe command) state).2

/-- A tool that was started, with the moment before. -/
def jobOf (host : Host σ) (command : Command) (state : σ) (child : Child) : Job :=
  ⟨command.program, child, host.clock (opened host command state)⟩

/-- How a supervised tool may end, with all events from its start on. -/
inductive Supervised (host : Host σ) (command : Command) (timeout : Option Duration) (state : σ) :
    Except IoError ToolOutcome → List Event → Prop
  | unstarted {error : IoError} {after : σ}
      (refused : host.spawn (started command timeout) (opened host command state) =
        (.error error, after)) :
      Supervised host command timeout state (.error error)
        [.spawned (started command timeout) (.error error)]
  | finished {child : Child} {after : σ} {waited : Except IoError WaitStatus}
      {outcome : Except IoError ToolOutcome} (unlimited : timeout = none)
      (spawned : host.spawn (started command timeout) (opened host command state) =
        (.ok child, after))
      (gives : Gives (host.wait child) waited) (finished : Finished waited outcome) :
      Supervised host command timeout state outcome
        [.spawned (started command timeout) (.ok child), .waited child waited]
  | watched {child : Child} {after : σ} {limit : Duration}
      {outcome : Except IoError ToolOutcome} {events : List Event}
      (limited : timeout = some limit)
      (spawned : host.spawn (started command timeout) (opened host command state) =
        (.ok child, after))
      (watched : Watched host (jobOf host command state child) limit.totalNanoseconds after outcome
        events) :
      Supervised host command timeout state outcome
        (.spawned (started command timeout) (.ok child) :: events)

/-- Supervision of a tool is written down from its start to its end. -/
theorem recordsAt_run (host : Host σ) (command : Command) (timeout : Option Duration) (state : σ) :
    RecordsAt state (run host.recorded command timeout) (run host command timeout)
      (Supervised host command timeout state) := by
  refine (records_besides _ state).bind rfl ?_
  rintro _ rfl
  refine RecordsAt.look fun _ => ?_
  -- The start is a single question, so the host right after it is named by its answer.
  rcases spawned : host.spawn (started command timeout) (opened host command state) with
    ⟨answer, after⟩
  refine (records_recording (.spawned (started command timeout)) _ _).bind spawned ?_
  rintro _ ⟨rfl, -⟩
  cases answer with
  | error error => exact .pure (.unstarted spawned)
  | ok child =>
      cases timeout with
      | none =>
          refine (records_finish host (jobOf host command state child) after).mono ?_
          rintro _ ⟨waited, gives, finished, rfl⟩
          exact .finished rfl spawned gives finished
      | some limit =>
          refine (recordsAt_watch host (jobOf host command state child) limit.totalNanoseconds
            after).mono ?_
          intro _ watched
          exact .watched rfl spawned watched

variable {host : Host σ} {command : Command} {timeout : Option Duration} {job : Job} {limit : Nat}
variable {state after : σ} {outcome : Except IoError ToolOutcome} {events : List Event}

/-- Watching a tool is no more than its supervision. -/
theorem Watched.isSupervision (watched : Watched host job limit state outcome events) :
    ∀ event ∈ events, event.IsSupervision := by
  have afterRounds (rounds : Nat) {last : List Event}
      (lastly : ∀ event ∈ last, event.IsSupervision) :
      ∀ event ∈ idleRounds job.child rounds ++ last, event.IsSupervision := by
    intro event member
    rcases List.mem_append.mp member with idle | later
    · rcases eq_of_mem_idleRounds idle with rfl | rfl <;> trivial
    · exact lastly event later
  cases watched with
  | refused runs answer => exact afterRounds _ (by simp [Event.IsSupervision])
  | ended runs answer => exact afterRounds _ (by simp [Event.IsSupervision])
  | expired runs answer late gives collected => exact afterRounds _ (by simp [Event.IsSupervision])

theorem Supervised.isSupervision
    (supervised : Supervised host command timeout state outcome events) :
    ∀ event ∈ events, event.IsSupervision := by
  cases supervised with
  | unstarted refused => simp [Event.IsSupervision]
  | finished unlimited spawned gives finished => simp [Event.IsSupervision]
  | watched limited spawned watched =>
      intro event member
      rcases List.mem_cons.mp member with rfl | later
      · trivial
      · exact watched.isSupervision event later

/-- A tool that was started without a time limit is waited for. -/
theorem Supervised.finished_of_spawned {child : Child}
    (supervised : Supervised host command none state outcome events)
    (spawned : host.spawn (started command none) (opened host command state) =
      (.ok child, after)) :
    ∃ waited, Gives (host.wait child) waited ∧ Finished waited outcome ∧
      events = [.spawned (started command none) (.ok child), .waited child waited] := by
  cases supervised with
  | unstarted refused => cases spawned.symm.trans refused
  | finished unlimited spawnedAlso gives finished =>
      cases spawned.symm.trans spawnedAlso
      exact ⟨_, gives, finished, rfl⟩
  | watched limited spawnedAlso watched => cases limited

/-- A tool that was started with a time limit is watched. -/
theorem Supervised.watched_of_spawned {limit : Duration} {child : Child}
    (supervised : Supervised host command (some limit) state outcome events)
    (spawned : host.spawn (started command (some limit)) (opened host command state) =
      (.ok child, after)) :
    ∃ rest, events = .spawned (started command (some limit)) (.ok child) :: rest ∧
      Watched host (jobOf host command state child) limit.totalNanoseconds after outcome rest := by
  cases supervised with
  | unstarted refused => cases spawned.symm.trans refused
  | finished unlimited spawnedAlso gives finished => cases unlimited
  | watched limited spawnedAlso watched =>
      cases spawned.symm.trans spawnedAlso
      obtain rfl := Option.some.inj limited
      exact ⟨_, rfl, watched⟩

theorem run_refused {error : IoError}
    (refused : host.spawn (started command timeout) (opened host command state) =
      (.error error, after)) : run host command timeout state = (.error error, after) := by
  refine (bind_of_eq rfl _).trans ((bind_of_eq rfl _).trans ?_)
  exact bind_of_eq refused _

end Supervision

end QueryFoundry
