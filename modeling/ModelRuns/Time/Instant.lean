namespace ModelRuns

/-!
# Instants and durations

An instant is a whole number of nanoseconds since the start of 1970 in UTC,
negative before it.
-/

/-- A point in time, in nanoseconds since the start of 1970. -/
structure Instant where
  nanoseconds : Int
deriving DecidableEq, Inhabited, Repr

namespace Instant

/-- The instant of whole seconds and further nanoseconds. -/
def ofSeconds (seconds : Int) (nanoseconds : Int) : Instant :=
  ⟨seconds * 1000000000 + nanoseconds⟩

/-- The second an instant lies in, also before 1970. -/
def seconds (instant : Instant) : Int := instant.nanoseconds.fdiv 1000000000

/-- The whole milliseconds between an instant and the beginning of the count. -/
def milliseconds (instant : Instant) : Int := instant.nanoseconds.tdiv 1000000

/-- The instant a number of milliseconds later. -/
def after (instant : Instant) (milliseconds : Nat) : Instant :=
  ⟨instant.nanoseconds + milliseconds * 1000000⟩

/-- Seconds since 1970 for a record; instants before it are recorded as zero. -/
def recordSeconds (instant : Instant) : Nat := instant.nanoseconds.toNat / 1000000000

/-- Nanoseconds since 1970 for an identifier; instants before it count as
zero. -/
def recordNanoseconds (instant : Instant) : Nat := instant.nanoseconds.toNat

end Instant

end ModelRuns
