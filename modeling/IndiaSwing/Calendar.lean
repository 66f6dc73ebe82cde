import Mathlib.Data.List.Basic
import Mathlib.Order.Basic
import IndiaSwing.PaperTrades

namespace IndiaSwing

structure CalendarDay where
  day : SessionDate
  isSession : Bool
  deriving DecidableEq, Repr

/-- One explicit day for every covered date, in order. -/
structure CalendarSnapshot where
  snapshotId : Digest
  cutoff : Instant
  coverageStart : SessionDate
  days : List CalendarDay
  contiguous : days.map (·.day) = (List.range days.length).map fun index : ℕ => coverageStart + index
  deriving DecidableEq, Repr

namespace CalendarSnapshot

variable (calendar : CalendarSnapshot)

/-- The session days from a date on. -/
def sessionsFrom (first : SessionDate) : List SessionDate :=
  (calendar.days.filter fun value => value.isSession && first ≤ value.day).map (·.day)

theorem days_increasing : (calendar.days.map (·.day)).Pairwise (· < ·) := by
  rw [calendar.contiguous, List.pairwise_map]
  exact List.pairwise_lt_range.imp fun h => Int.add_lt_add_left (Int.ofNat_lt.mpr h) _

theorem sessionsFrom_increasing (first : SessionDate) :
    (calendar.sessionsFrom first).Pairwise (· < ·) := by
  refine calendar.days_increasing.sublist ?_
  exact List.Sublist.map _ List.filter_sublist

theorem first_le_of_mem_sessionsFrom {first day : SessionDate}
    (h : day ∈ calendar.sessionsFrom first) : first ≤ day := by
  obtain ⟨value, hvalue, rfl⟩ := List.mem_map.mp h
  have := (List.mem_filter.mp hvalue).2
  simp only [Bool.and_eq_true, decide_eq_true_eq] at this
  exact this.2

end CalendarSnapshot

end IndiaSwing
