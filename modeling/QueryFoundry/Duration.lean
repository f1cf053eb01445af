import QueryFoundry.Decimal.Shortest

/-!
# Durations

A span of time in whole seconds of 64 bits and the nanoseconds below one second. Sums are checked:
one that does not fit has no value.
-/

namespace QueryFoundry

/-- The number of nanoseconds in a second. -/
def nanosecondsPerSecond : Nat := 1000000000

/-- A span of time. -/
structure Duration where
  seconds : UInt64
  nanoseconds : Nat
  nanoseconds_lt : nanoseconds < nanosecondsPerSecond
deriving DecidableEq, Repr

namespace Duration

/-- The empty span. -/
def zero : Duration := ⟨0, 0, by decide⟩

instance : Inhabited Duration := ⟨zero⟩

/-- The span in nanoseconds. -/
def totalNanoseconds (duration : Duration) : Nat :=
  duration.seconds.toNat * nanosecondsPerSecond + duration.nanoseconds

theorem totalNanoseconds_lt (duration : Duration) :
    duration.totalNanoseconds < UInt64.size * nanosecondsPerSecond := by
  have less := duration.nanoseconds_lt
  have fits := duration.seconds.toNat_lt_size
  rw [totalNanoseconds]
  rw [nanosecondsPerSecond, UInt64.size] at *
  omega

/-- The span of a number of nanoseconds, if the seconds fit into 64 bits. -/
def ofNanoseconds? (count : Nat) : Option Duration :=
  if count / nanosecondsPerSecond < UInt64.size then
    some ⟨(count / nanosecondsPerSecond).toUInt64, count % nanosecondsPerSecond,
      Nat.mod_lt _ (by decide)⟩
  else none

/-- The longest span. -/
def longest : Duration := ⟨UInt64.ofNat (UInt64.size - 1), nanosecondsPerSecond - 1, by decide⟩

/-- The span of a number of nanoseconds, or the longest one where that does not fit. -/
def ofNanoseconds (count : Nat) : Duration :=
  (ofNanoseconds? count).getD longest

/-- A span of whole seconds. -/
def ofSeconds (seconds : UInt64) : Duration := ⟨seconds, 0, by decide⟩

/-- The span of some seconds and nanoseconds, whole seconds being carried; there is none when the
carry does not fit. -/
def ofParts? (seconds : UInt64) (nanoseconds : Nat) : Option Duration :=
  ofNanoseconds? (seconds.toNat * nanosecondsPerSecond + nanoseconds)

/-- The sum of two numbers of 64 bits, if it fits. -/
def checkedSum? (left right : UInt64) : Option UInt64 :=
  if left.toNat + right.toNat < UInt64.size then some (left + right) else none

/-- A sum of spans on its way: the whole seconds so far, and the nanoseconds that have not yet been
carried over to them. -/
structure Tally where
  seconds : UInt64
  nanoseconds : UInt64
deriving DecidableEq, Repr

namespace Tally

/-- The seconds of a tally with those that its nanoseconds make up, if they fit. -/
def carriedSeconds? (tally : Tally) : Option UInt64 :=
  checkedSum? tally.seconds (tally.nanoseconds / nanosecondsPerSecond.toUInt64)

/-- The nanoseconds of a tally that make up no whole second. -/
def restNanoseconds (tally : Tally) : UInt64 :=
  tally.nanoseconds % nanosecondsPerSecond.toUInt64

/-- Add a span to a tally, if it fits. Nanoseconds are carried only when there is no more room for
those of the span. -/
def add? (tally : Tally) (duration : Duration) : Option Tally := do
  let seconds ← checkedSum? tally.seconds duration.seconds
  match checkedSum? tally.nanoseconds duration.nanoseconds.toUInt64 with
  | some nanoseconds => return ⟨seconds, nanoseconds⟩
  | none =>
      let carried ← carriedSeconds? ⟨seconds, tally.nanoseconds⟩
      return ⟨carried, tally.restNanoseconds + duration.nanoseconds.toUInt64⟩

/-- The span that a tally comes to, if it fits. -/
def close? (tally : Tally) : Option Duration := do
  let seconds ← tally.carriedSeconds?
  return ⟨seconds, tally.restNanoseconds.toNat, Nat.mod_lt _ (by decide)⟩

end Tally

/-- The sum of a list of spans, added one after the other; there is none as soon as the seconds do
not fit. -/
def sum? (durations : List Duration) : Option Duration := do
  let tally ← durations.foldlM Tally.add? ⟨0, 0⟩
  tally.close?

/-- The whole milliseconds of a span. -/
def wholeMilliseconds (duration : Duration) : Nat :=
  duration.seconds.toNat * 1000 + duration.nanoseconds / 1000000

/-- The span in seconds as a binary number: the seconds and the part below one are rounded each,
and so is their sum. -/
def asSeconds (duration : Duration) : Binary64.Magnitude :=
  let round (numerator denominator : Nat) : Binary64.Magnitude :=
    (Binary64.Magnitude.ofRatio? numerator denominator).getD .zero
  let whole := (round duration.seconds.toNat 1).ratio
  let part := (round duration.nanoseconds nanosecondsPerSecond).ratio
  round (whole.1 * part.2 + part.1 * whole.2) (whole.2 * part.2)

/-- The span in seconds with the fewest digits that read back. -/
def secondsText (duration : Duration) : String :=
  duration.asSeconds.display

/-- The span in seconds with two decimal places. -/
def hundredthsText (duration : Duration) : String :=
  Decimal.fixedPlaces 2 duration.asSeconds

end Duration

end QueryFoundry
