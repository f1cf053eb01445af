import Mathlib.Algebra.Order.Floor.Div
import QueryFoundry.Proofs.TimeLimit

/-!
# Bounds on polling

How often a tool with a time limit is asked whether it has ended. The clock moves on by an interval
at least with each pause, and may jump ahead besides, so after so many rounds at least as many
intervals have gone by since the start. A limit that is not over by then has more intervals than
that, which bounds the rounds. The times that are looked at on the way are told exactly: the clock
is never behind the start, and while the limit is not over no time is longer than the longest span.
-/

namespace QueryFoundry

variable {σ : Type}

def Event.isPoll : Event → Bool
  | polled .. => true
  | _ => false

namespace Host

variable {host : Host σ} {start : Nat} {state : σ}

/-- The time since a moment is told exactly, with nothing lost where the clock is behind that moment
or further ahead of it than the longest span. -/
def TellsElapsed (host : Host σ) (start : Nat) (state : σ) : Prop :=
  start + (host.elapsedSince start state).totalNanoseconds = host.clock state

theorem tellsElapsed_of_le (later : start ≤ host.clock state)
    (fits : host.clock state - start ≤ Duration.longest.totalNanoseconds) :
    host.TellsElapsed start state := by
  rw [TellsElapsed, elapsedSince, Duration.totalNanoseconds_ofNanoseconds]
  omega

/-- The time that is told reaches a span just when the time that has gone by does. -/
theorem le_elapsedSince_iff (limit : Duration) :
    limit.totalNanoseconds ≤ (host.elapsedSince start state).totalNanoseconds ↔
      limit.totalNanoseconds ≤ host.clock state - start := by
  have fits := limit.totalNanoseconds_le_longest
  rw [elapsedSince, Duration.totalNanoseconds_ofNanoseconds]
  omega

end Host

namespace Supervision

variable {host : Host σ} {job : Job} {state : σ} {limit round : Nat}

theorem countP_isPoll_idleRounds (child : Child) (rounds : Nat) :
    (idleRounds child rounds).countP Event.isPoll = rounds := by
  induction rounds with
  | zero => rfl
  | succ rounds ih =>
      rw [idleRounds, List.countP_cons, List.countP_cons, ih]
      rfl

theorem clock_atRound (host : Host σ) (child : Child) (state : σ) (round : Nat) :
    host.clock state + pollInterval * round ≤ host.clock (atRound host child state round) := by
  induction round generalizing state with
  | zero => exact Nat.le_refl _
  | succ round ih =>
      have polledLater := host.clock_le_poll child state
      have pausedLater := host.clock_add_le_pause pollInterval (host.poll child state).2
      have rest := ih (host.pause pollInterval (host.poll child state).2).2
      rw [atRound, Nat.mul_succ]
      omega

theorem clock_askedAt (host : Host σ) (child : Child) (state : σ) (round : Nat) :
    host.clock state + pollInterval * round ≤ host.clock (askedAt host child state round) :=
  Nat.le_trans (clock_atRound host child state round) (host.clock_le_poll child _)

/-- A tool runs through no more rounds than its limit has intervals. -/
theorem RunsUntil.le_ceilDiv (later : job.start ≤ host.clock state)
    (runs : RunsUntil host job limit state round) : round ≤ limit ⌈/⌉ pollInterval := by
  cases round with
  | zero => exact Nat.zero_le _
  | succ round =>
      obtain ⟨-, early⟩ := runs round (Nat.lt_succ_self round)
      have asked := clock_askedAt host job.child state round
      have notOver : pollInterval * round < limit := by omega
      -- More rounds than there are intervals would have taken the whole limit.
      by_contra beyond
      have covered : limit ≤ pollInterval * round :=
        (ceilDiv_le_iff_le_mul (by decide)).mp (Nat.le_of_lt_succ (Nat.lt_of_not_le beyond))
      exact absurd covered (Nat.not_le_of_lt notOver)

/-- What a time limit means for the questions about a tool that is watched from a state on. -/
structure PollsWithin (host : Host σ) (job : Job) (limit : Duration) (state : σ) (last : Nat) :
    Prop where
  runs : RunsUntil host job limit.totalNanoseconds state last
  ends : Ends host job limit.totalNanoseconds state last
  last_le : last ≤ limit.totalNanoseconds ⌈/⌉ pollInterval
  last_eq_zero : limit = .zero → last = 0
  /-- The time that is told decides as the time that has gone by. -/
  decides : ∀ round ≤ last,
    (limit.totalNanoseconds ≤
        (host.elapsedSince job.start (askedAt host job.child state round)).totalNanoseconds ↔
      limit.totalNanoseconds ≤ host.clock (askedAt host job.child state round) - job.start)
  /-- The time is told exactly while the limit is not over, and then too if the clock itself shows
  no more than the longest span. -/
  tells : ∀ round ≤ last,
    round < last ∨ host.clock (askedAt host job.child state round) ≤
        Duration.longest.totalNanoseconds →
      host.TellsElapsed job.start (askedAt host job.child state round)

theorem PollsWithin.of_ends {limit : Duration} {last : Nat} (later : job.start ≤ host.clock state)
    (runs : RunsUntil host job limit.totalNanoseconds state last)
    (ends : Ends host job limit.totalNanoseconds state last) :
    PollsWithin host job limit state last where
  runs := runs
  ends := ends
  last_le := runs.le_ceilDiv later
  last_eq_zero := by
    rintro rfl
    have within : last ≤ 0 ⌈/⌉ pollInterval := runs.le_ceilDiv later
    rwa [zero_ceilDiv, Nat.le_zero] at within
  decides round _ := Host.le_elapsedSince_iff limit
  tells round _ fits := by
    have asked := clock_askedAt host job.child state round
    refine Host.tellsElapsed_of_le (by omega) ?_
    rcases fits with before | fits
    · obtain ⟨-, early⟩ := runs round before
      have limitFits := limit.totalNanoseconds_le_longest
      omega
    · exact Nat.le_trans (Nat.sub_le _ _) fits

/-- However a watched tool ends, it is asked once in each round up to one that ends the watch. -/
theorem Watched.polls {outcome : Except IoError ToolOutcome} {events : List Event}
    (watched : Watched host job limit state outcome events) :
    ∃ last, events.countP Event.isPoll = last + 1 ∧ RunsUntil host job limit state last ∧
      Ends host job limit state last := by
  have counts (round : Nat) (answer : Except IoError (Option WaitStatus)) (others : List Event)
      (noPoll : others.countP Event.isPoll = 0) :
      (idleRounds job.child round ++ Event.polled job.child answer :: others).countP
        Event.isPoll = round + 1 := by
    rw [List.countP_append, countP_isPoll_idleRounds, List.countP_cons, noPoll]
    rfl
  cases watched with
  | refused runs answer => exact ⟨_, counts _ _ _ rfl, runs, .of_answer answer (by simp)⟩
  | ended runs answer => exact ⟨_, counts _ _ _ rfl, runs, .of_answer answer (by simp)⟩
  | expired runs answer late gives collected => exact ⟨_, counts _ _ _ rfl, runs, .inr late⟩

/-- Rounds that decide nothing only put off the watch to the round behind them. -/
theorem watch_of_runsUntil (runs : RunsUntil host job limit state round) :
    watch host job limit state = watch host job limit (atRound host job.child state round) := by
  induction round generalizing state with
  | zero => rfl
  | succ round ih =>
      obtain ⟨running, early⟩ := runs 0 (Nat.succ_pos round)
      have polled : host.poll job.child state = (.ok none, askedAt host job.child state 0) :=
        Prod.ext running rfl
      have rest : RunsUntil host job limit
          (host.pause pollInterval (askedAt host job.child state 0)).2 round :=
        fun earlier less => runs (earlier + 1) (Nat.succ_lt_succ less)
      rw [watch_eq, polled]
      exact (if_neg (Nat.not_le_of_lt early)).trans (ih rest)

/-- The time that is told for a watched tool is read after all that was done to it. -/
theorem tellsEnd_watch (goesOn : host.ClockGoesOn) (runs : RunsUntil host job limit state round)
    (ends : Ends host job limit state round) :
    TellsEnd host job.start (askedAt host job.child state round) (watch host job limit state) := by
  have polled : host.poll job.child (atRound host job.child state round) =
    (answerAt host job.child state round, askedAt host job.child state round) := rfl
  rw [watch_of_runsUntil runs, watch_eq, polled]
  unfold Ends at ends
  generalize answerAt host job.child state round = answer at ends
  match answer with
  | .error error => exact ⟨Nat.le_refl _, fun outcome ended => nomatch ended⟩
  | .ok (some status) => exact ⟨Nat.le_refl _, fun outcome ended => by cases ended; rfl⟩
  | .ok none =>
      have late := ends.resolve_left (fun running => running rfl)
      simp only [if_pos late]
      exact tellsEnd_expire goesOn job _

/-- A tool with a time limit is asked at most once more than its limit has intervals, and just once
when it has no time at all. The times that are looked at are told exactly, and so is the one at the
end, if the clock of the host goes on until then and shows no more than the longest span. -/
theorem run_polls_within (host : Host σ) (command : Command) (limit : Duration) (state : σ)
    {child : Child} {after : σ}
    (spawned : host.spawn (started command (some limit)) (opened host command state) =
      (.ok child, after))
    (later : host.clock (opened host command state) ≤ host.clock after) :
    let job := jobOf host command state child
    let final := (run host command (some limit) state).2
    RecordsAt state (run host.recorded command (some limit)) (run host command (some limit))
      fun answer events => ∃ last, PollsWithin host job limit after last ∧
        events.countP Event.isPoll = last + 1 ∧
          (host.ClockGoesOn → host.clock final ≤ Duration.longest.totalNanoseconds →
            ∀ outcome, answer = .ok outcome →
              job.start + outcome.elapsed.totalNanoseconds = host.clock final) := by
  intro job final
  have startedBefore : job.start ≤ host.clock after := later
  refine (recordsAt_run host command (some limit) state).mono ?_
  intro events supervised
  have watches := run_limited spawned
  obtain ⟨rest, rfl, watched⟩ := supervised.watched_of_spawned spawned
  obtain ⟨last, counts, runs, ends⟩ := watched.polls
  refine ⟨last, .of_ends startedBefore runs ends, ?_, fun goesOn fits outcome ended => ?_⟩
  · rw [List.countP_cons, counts]
    rfl
  · have tells := tellsEnd_watch goesOn runs ends
    rw [← watches] at tells
    obtain ⟨endsLater, told⟩ := tells
    have asked := clock_askedAt host child after last
    have startedFirst : job.start ≤ host.clock final :=
      Nat.le_trans (Nat.le_trans startedBefore (Nat.le_of_add_right_le asked)) endsLater
    rw [told outcome ended]
    exact Host.tellsElapsed_of_le startedFirst (Nat.le_trans (Nat.sub_le _ _) fits)

/-- A program that runs on is asked once more than its limit has intervals. -/
theorem run_polls_within_endless :
    (run Host.endless.recorded ⟨"sleep", ["60"], none, false, false⟩
      (some ⟨0, 40000000, by decide⟩) (0, [])).2.2.countP Event.isPoll = 3 := by
  obtain ⟨events, recorded, last, within, counts, -⟩ :=
    @run_polls_within Nat Host.endless ⟨"sleep", ["60"], none, false, false⟩
      ⟨0, 40000000, by decide⟩ 0 ⟨1⟩ 0 rfl (Nat.le_refl _) []
  have inThird : last = 2 := by
    refine round_unique within.runs within.ends ?_ (.inr (by decide))
    exact fun
      | 0, _ => ⟨rfl, by decide⟩
      | 1, _ => ⟨rfl, by decide⟩
  rw [recorded]
  exact counts.trans (by rw [inThird])

end Supervision

end QueryFoundry
