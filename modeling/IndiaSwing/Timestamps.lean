import Mathlib.Data.Int.Notation

namespace IndiaSwing

/-- A timezone-aware instant, as the microseconds since the epoch in UTC. -/
abbrev Instant := ℤ

/-- A calendar date, as the days since the epoch. -/
abbrev SessionDate := ℤ

/-- The date an instant falls on in Indian Standard Time, which is UTC plus five and a half hours. -/
def Instant.istDate (value : Instant) : SessionDate := (value + 19800000000) / 86400000000

end IndiaSwing
