import Mathlib.Algebra.GroupWithZero.Nat
import Mathlib.Algebra.Order.BigOperators.Group.List
import Mathlib.Algebra.Order.Group.Nat
import QueryFoundry.Proofs.ReportReading

/-!
# The total of a report

The time of all stages together. Seconds and nanoseconds are added apart, and nanoseconds are
carried over only when they have no more room or all is added; the sum is exact all the same, and
there is none just when the exact one takes too many seconds. So it does not depend on the order of
the stages. The milliseconds that the text of a report tells are rounded down for each stage, so
they come to less than the total by less than one for each of them.
-/

namespace QueryFoundry

namespace Duration

theorem totalNanoseconds_injective : Function.Injective totalNanoseconds := by
  intro first second same
  have firstLess : first.nanoseconds < 1000000000 := first.nanoseconds_lt
  have secondLess : second.nanoseconds < 1000000000 := second.nanoseconds_lt
  simp only [totalNanoseconds, nanosecondsPerSecond] at same
  have sameSeconds : first.seconds.toNat = second.seconds.toNat := by omega
  have sameNanoseconds : first.nanoseconds = second.nanoseconds := by omega
  cases first
  cases second
  rw [Duration.mk.injEq]
  exact ⟨UInt64.toNat_inj.mp sameSeconds, sameNanoseconds⟩

/-- A sum holds the exact number of nanoseconds where there is one, and where there is none that
number takes more seconds than fit. -/
def IsSum {α : Type} (nanosecondsOf : α → Nat) (exact : Nat) : Option α → Prop
  | some sum => nanosecondsOf sum = exact
  | none => UInt64.size * nanosecondsPerSecond ≤ exact

/-- A sum that goes on from another one is exact if that one is, and what is added to it. -/
theorem IsSum.bind {α β : Type} {nanosecondsOf : α → Nat} {finalOf : β → Nat} {exact more : Nat}
    {first : Option α} {next : α → Option β} (isSum : IsSum nanosecondsOf exact first)
    (goesOn : ∀ sum, IsSum finalOf (nanosecondsOf sum + more) (next sum)) :
    IsSum finalOf (exact + more) (first >>= next) := by
  cases first with
  | none => exact Nat.le_trans isSum (Nat.le_add_right _ _)
  | some sum =>
      have sumExact : nanosecondsOf sum = exact := isSum
      rw [← sumExact]
      exact goesOn sum

theorem checkedSum?_cases (left right : UInt64) :
    (∃ sum, checkedSum? left right = some sum ∧ sum.toNat = left.toNat + right.toNat) ∨
      (checkedSum? left right = none ∧ UInt64.size ≤ left.toNat + right.toNat) := by
  unfold checkedSum?
  split
  next fits =>
    refine .inl ⟨left + right, rfl, ?_⟩
    rw [UInt64.toNat_add, Nat.mod_eq_of_lt fits]
  next tooLarge => exact .inr ⟨rfl, Nat.le_of_not_lt tooLarge⟩

namespace Tally

def totalNanoseconds (tally : Tally) : Nat :=
  tally.seconds.toNat * nanosecondsPerSecond + tally.nanoseconds.toNat

/-- Carrying moves nanoseconds to the seconds and loses none. -/
theorem carriedSeconds?_cases (tally : Tally) :
    (∃ seconds, tally.carriedSeconds? = some seconds ∧
      seconds.toNat * nanosecondsPerSecond + tally.restNanoseconds.toNat =
        tally.totalNanoseconds) ∨
      (tally.carriedSeconds? = none ∧
        UInt64.size * nanosecondsPerSecond ≤ tally.totalNanoseconds) := by
  have parts : tally.nanoseconds.toNat / nanosecondsPerSecond * nanosecondsPerSecond +
      tally.restNanoseconds.toNat = tally.nanoseconds.toNat := Nat.div_add_mod' _ _
  rcases checkedSum?_cases tally.seconds (tally.nanoseconds / nanosecondsPerSecond.toUInt64) with
    ⟨seconds, fits, exact⟩ | ⟨tooLarge, exceeds⟩
  · have carried : seconds.toNat =
        tally.seconds.toNat + tally.nanoseconds.toNat / nanosecondsPerSecond := exact
    refine .inl ⟨seconds, fits, ?_⟩
    rw [carried, Nat.add_mul, Nat.add_assoc, parts, totalNanoseconds]
  · have larger := Nat.mul_le_mul_right nanosecondsPerSecond exceeds
    refine .inr ⟨tooLarge, Nat.le_trans larger ?_⟩
    change (tally.seconds.toNat + tally.nanoseconds.toNat / nanosecondsPerSecond) *
      nanosecondsPerSecond ≤ tally.totalNanoseconds
    rw [Nat.add_mul, totalNanoseconds]
    omega

theorem toNat_nanoseconds (duration : Duration) :
    duration.nanoseconds.toUInt64.toNat = duration.nanoseconds :=
  UInt64.toNat_ofNat_of_lt' (Nat.lt_trans duration.nanoseconds_lt (by decide))

/-- After a carry there is room for the nanoseconds of any span. -/
theorem toNat_restNanoseconds_add (tally : Tally) (duration : Duration) :
    (tally.restNanoseconds + duration.nanoseconds.toUInt64).toNat =
      tally.restNanoseconds.toNat + duration.nanoseconds := by
  have rest : tally.restNanoseconds.toNat < nanosecondsPerSecond := Nat.mod_lt _ (by decide)
  have part := duration.nanoseconds_lt
  rw [UInt64.toNat_add, toNat_nanoseconds]
  apply Nat.mod_eq_of_lt
  rw [nanosecondsPerSecond] at rest part
  omega

/-- A span is added to a tally exactly, whether or not its nanoseconds find room there. -/
theorem isSum_add? (tally : Tally) (duration : Duration) :
    IsSum totalNanoseconds (tally.totalNanoseconds + duration.totalNanoseconds)
      (tally.add? duration) := by
  rcases checkedSum?_cases tally.seconds duration.seconds with
    ⟨seconds, fits, seconds_eq⟩ | ⟨tooLarge, exceeds⟩
  · have wholes : seconds.toNat * nanosecondsPerSecond =
        tally.seconds.toNat * nanosecondsPerSecond +
          duration.seconds.toNat * nanosecondsPerSecond := by
      rw [seconds_eq, Nat.add_mul]
    rcases checkedSum?_cases tally.nanoseconds duration.nanoseconds.toUInt64 with
      ⟨nanoseconds, room, nanoseconds_eq⟩ | ⟨full, -⟩
    · have added : tally.add? duration = some ⟨seconds, nanoseconds⟩ := by
        simp [add?, fits, room]
      rw [toNat_nanoseconds] at nanoseconds_eq
      rw [added]
      simp only [IsSum, totalNanoseconds, Duration.totalNanoseconds]
      omega
    · -- There is no room for the nanoseconds, and the seconds that they carry may be too many.
      rcases carriedSeconds?_cases ⟨seconds, tally.nanoseconds⟩ with
        ⟨carried, carriedFits, carried_eq⟩ | ⟨tooLarge, exceeds⟩
      · have added : tally.add? duration =
            some ⟨carried, tally.restNanoseconds + duration.nanoseconds.toUInt64⟩ := by
          simp [add?, fits, full, carriedFits]
        have sameRest : (⟨seconds, tally.nanoseconds⟩ : Tally).restNanoseconds =
          tally.restNanoseconds := rfl
        rw [sameRest] at carried_eq
        rw [added]
        simp only [IsSum, totalNanoseconds, Duration.totalNanoseconds,
          toNat_restNanoseconds_add] at carried_eq ⊢
        omega
      · have failed : tally.add? duration = none := by simp [add?, fits, full, tooLarge]
        rw [failed]
        simp only [IsSum, totalNanoseconds, Duration.totalNanoseconds] at exceeds ⊢
        omega
  · have failed : tally.add? duration = none := by simp [add?, tooLarge]
    have larger := Nat.mul_le_mul_right nanosecondsPerSecond exceeds
    rw [Nat.add_mul] at larger
    rw [failed]
    simp only [IsSum, totalNanoseconds, Duration.totalNanoseconds]
    omega

theorem isSum_close? (tally : Tally) :
    IsSum Duration.totalNanoseconds tally.totalNanoseconds tally.close? := by
  rcases tally.carriedSeconds?_cases with ⟨seconds, fits, exact⟩ | ⟨tooLarge, exceeds⟩
  · rw [close?, fits]
    exact exact
  · rw [close?, tooLarge]
    exact exceeds

end Tally

theorem isSum_foldlM (durations : List Duration) (tally : Tally) :
    IsSum Tally.totalNanoseconds
      (tally.totalNanoseconds + (durations.map totalNanoseconds).sum)
      (durations.foldlM Tally.add? tally) := by
  induction durations generalizing tally with
  | nil => simp [IsSum]
  | cons duration durations ih =>
      rw [List.foldlM_cons, List.map_cons, List.sum_cons, ← Nat.add_assoc]
      exact (tally.isSum_add? duration).bind ih

theorem isSum_sum? (durations : List Duration) :
    IsSum totalNanoseconds (durations.map totalNanoseconds).sum (sum? durations) := by
  have tallied := isSum_foldlM durations ⟨0, 0⟩
  rw [show Tally.totalNanoseconds ⟨0, 0⟩ = 0 from rfl, Nat.zero_add] at tallied
  have closes (tally : Tally) :
      IsSum totalNanoseconds (tally.totalNanoseconds + 0) tally.close? := by
    rw [Nat.add_zero]
    exact tally.isSum_close?
  rw [← Nat.add_zero (durations.map totalNanoseconds).sum]
  exact tallied.bind closes

example : sum? [longest, ⟨0, 1, by decide⟩] = none := by decide

theorem IsSum.congr {exact : Nat} {first second : Option Duration}
    (isFirst : IsSum totalNanoseconds exact first)
    (isSecond : IsSum totalNanoseconds exact second) : first = second := by
  cases first with
  | none =>
      cases second with
      | none => rfl
      | some other =>
          have exceeds : UInt64.size * nanosecondsPerSecond ≤ exact := isFirst
          have otherExact : other.totalNanoseconds = exact := isSecond
          have otherLess := other.totalNanoseconds_lt
          omega
  | some duration =>
      have durationExact : duration.totalNanoseconds = exact := isFirst
      have less := duration.totalNanoseconds_lt
      cases second with
      | none =>
          have exceeds : UInt64.size * nanosecondsPerSecond ≤ exact := isSecond
          omega
      | some other =>
          have otherExact : other.totalNanoseconds = exact := isSecond
          rw [totalNanoseconds_injective (durationExact.trans otherExact.symm)]

/-- The milliseconds of a span are its nanoseconds, rounded down. -/
theorem wholeMilliseconds_bounds (duration : Duration) :
    duration.wholeMilliseconds * 1000000 ≤ duration.totalNanoseconds ∧
      duration.totalNanoseconds < (duration.wholeMilliseconds + 1) * 1000000 := by
  rw [wholeMilliseconds, totalNanoseconds, nanosecondsPerSecond]
  omega

/-- Rounding the spans down one by one loses less than a millisecond for each. -/
theorem sum_wholeMilliseconds_bounds (durations : List Duration) :
    (durations.map wholeMilliseconds).sum * 1000000 ≤ (durations.map totalNanoseconds).sum ∧
      (durations.map totalNanoseconds).sum + durations.length ≤
        ((durations.map wholeMilliseconds).sum + durations.length) * 1000000 := by
  induction durations with
  | nil => simp
  | cons duration durations ih =>
      obtain ⟨lower, upper⟩ := duration.wholeMilliseconds_bounds
      obtain ⟨restLower, restUpper⟩ := ih
      simp only [List.map_cons, List.sum_cons, List.length_cons]
      constructor
      · rw [Nat.add_mul]
        exact Nat.add_le_add lower restLower
      · omega

end Duration

namespace Report

def exactNanoseconds (report : Report) : Nat :=
  (report.stages.map (·.elapsed.totalNanoseconds)).sum

def exactMilliseconds (report : Report) : Nat :=
  (report.stages.map (·.elapsed.wholeMilliseconds)).sum

theorem isSum_total? (report : Report) :
    Duration.IsSum Duration.totalNanoseconds report.exactNanoseconds report.total? := by
  have summed := Duration.isSum_sum? (report.stages.map StageTiming.elapsed)
  rw [List.map_map] at summed
  exact summed

theorem totalNanoseconds_of_total? {report : Report} {total : Duration}
    (isTotal : report.total? = some total) :
    total.totalNanoseconds = report.exactNanoseconds := by
  have isSum := report.isSum_total?
  rw [isTotal] at isSum
  exact isSum

/-- The stages in another order take the same time. -/
theorem exactNanoseconds_perm {first second : Report}
    (reordered : first.stages.Perm second.stages) :
    first.exactNanoseconds = second.exactNanoseconds :=
  (reordered.map _).sum_nat

theorem exactMilliseconds_bounds {report : Report} {total : Duration}
    (isTotal : report.total? = some total) :
    report.exactMilliseconds ≤ total.wholeMilliseconds ∧
      (report.stages = [] → total.wholeMilliseconds = report.exactMilliseconds) ∧
      (report.stages ≠ [] →
        total.wholeMilliseconds < report.exactMilliseconds + report.stages.length) := by
  have exact := totalNanoseconds_of_total? isTotal
  obtain ⟨totalLower, totalUpper⟩ := total.wholeMilliseconds_bounds
  obtain ⟨lower, upper⟩ :=
    Duration.sum_wholeMilliseconds_bounds (report.stages.map StageTiming.elapsed)
  rw [List.map_map, List.map_map, List.length_map] at upper
  rw [List.map_map, List.map_map] at lower
  change report.exactMilliseconds * 1000000 ≤ report.exactNanoseconds at lower
  change report.exactNanoseconds + report.stages.length ≤
    (report.exactMilliseconds + report.stages.length) * 1000000 at upper
  refine ⟨by omega, fun empty => ?_, fun nonempty => ?_⟩
  · have noStages : report.stages.length = 0 := by rw [empty, List.length_nil]
    omega
  · have someStages : 0 < report.stages.length := List.length_pos_iff.mpr nonempty
    omega

/-- While all stages together take fewer milliseconds than fit into 64 bits, so does each of them,
and the text of the report tells it. -/
theorem summary_milliseconds {report : Report} (fits : report.exactMilliseconds < 2 ^ 64) :
    (report.summary.stages.map Prod.snd).sum = report.exactMilliseconds := by
  rw [summary, List.map_map, exactMilliseconds]
  refine congrArg List.sum (List.map_congr_left fun timing member => Nat.mod_eq_of_lt ?_)
  have listed : timing.elapsed.wholeMilliseconds ∈
      report.stages.map (·.elapsed.wholeMilliseconds) := List.mem_map_of_mem member
  exact Nat.lt_of_le_of_lt (List.le_sum_of_mem listed) fits

/-- The total of a report is exact where it has one, and it has none just when the exact time takes
too many seconds, so the order of the stages does not matter. While it fits into 64 bits in
milliseconds, those that the text of the report tells come to no more, and to less than one for each
stage under it. -/
theorem total?_exact (report : Report) :
    (report.exactNanoseconds < 2 ^ 64 * nanosecondsPerSecond →
      ∃ total, report.total? = some total ∧ total.totalNanoseconds = report.exactNanoseconds ∧
        total.nanoseconds < nanosecondsPerSecond) ∧
      (report.total? = none ↔ 2 ^ 64 * nanosecondsPerSecond ≤ report.exactNanoseconds) ∧
      (∀ other : Report, other.stages.Perm report.stages → other.total? = report.total?) ∧
      ∀ total, report.total? = some total → total.wholeMilliseconds < 2 ^ 64 →
        ∃ summary, Summary.read? report.render = some summary ∧
          let told := (summary.stages.map Prod.snd).sum
          told ≤ total.wholeMilliseconds ∧
            (report.stages = [] → total.wholeMilliseconds = told) ∧
            (report.stages ≠ [] → total.wholeMilliseconds < told + report.stages.length) := by
  have isSum := report.isSum_total?
  have none_iff :
      report.total? = none ↔ 2 ^ 64 * nanosecondsPerSecond ≤ report.exactNanoseconds := by
    constructor
    · intro failed
      rw [failed] at isSum
      exact isSum
    · intro exceeds
      cases summed : report.total? with
      | none => rfl
      | some total =>
          have less := total.totalNanoseconds_lt
          rw [totalNanoseconds_of_total? summed] at less
          exact absurd exceeds (Nat.not_le_of_lt less)
  refine ⟨fun small => ?_, none_iff, fun other reordered => ?_, fun total isTotal fits => ?_⟩
  · cases summed : report.total? with
    | none => exact absurd (none_iff.mp summed) (Nat.not_le_of_lt small)
    | some total =>
        exact ⟨total, rfl, totalNanoseconds_of_total? summed, total.nanoseconds_lt⟩
  · refine Duration.IsSum.congr ?_ isSum
    rw [← exactNanoseconds_perm reordered]
    exact other.isSum_total?
  · have bounds := exactMilliseconds_bounds isTotal
    have told := summary_milliseconds (Nat.lt_of_le_of_lt bounds.1 fits)
    refine ⟨report.summary, report.read?_render, ?_⟩
    rw [told]
    exact bounds

end Report

end QueryFoundry
