import Mathlib.Data.Finset.Dedup
import IndiaSwing.DecisionInputs
import IndiaSwing.Lib.Grouping

namespace IndiaSwing

open ExceptGuards

namespace Decision

section Calendar

inductive CalendarDayKind
  | regular
  | special
  | holiday
  | weekend
  | unscheduledClosure
  deriving DecidableEq, Repr

def CalendarDayKind.value : CalendarDayKind → String
  | .regular => "REGULAR"
  | .special => "SPECIAL"
  | .holiday => "HOLIDAY"
  | .weekend => "WEEKEND"
  | .unscheduledClosure => "UNSCHEDULED_CLOSURE"

inductive SessionWindowPhase
  | liveContinuous
  | preOpen
  | callAuction
  | closingAuction
  | mockTest
  deriving DecidableEq, Repr

def SessionWindowPhase.value : SessionWindowPhase → String
  | .liveContinuous => "LIVE_CONTINUOUS"
  | .preOpen => "PRE_OPEN"
  | .callAuction => "CALL_AUCTION"
  | .closingAuction => "CLOSING_AUCTION"
  | .mockTest => "MOCK_TEST"

inductive ReferenceReadiness
  | collectionOnly
  | pointInTimeVerified
  | syntheticTest
  deriving DecidableEq, Repr

def ReferenceReadiness.value : ReferenceReadiness → String
  | .collectionOnly => "COLLECTION_ONLY"
  | .pointInTimeVerified => "POINT_IN_TIME_VERIFIED"
  | .syntheticTest => "SYNTHETIC_TEST"

def calendarCoverageError : PyException := ⟨.calendarIntegrity, "CalendarCoverageError"⟩

def notTradingSessionError : PyException := ⟨.calendarIntegrity, "NotTradingSessionError"⟩

def outsideSessionWindowError : PyException := ⟨.calendarIntegrity, "OutsideSessionWindowError"⟩

def indexError : PyException := ⟨.other, "IndexError"⟩

structure SessionWindow where
  opensAt : Instant
  closesAt : Instant
  phase : SessionWindowPhase
  deriving DecidableEq, Repr

structure CalendarDay where
  day : SessionDate
  kind : CalendarDayKind
  reference : ContentId
  sessionWindows : List SessionWindow
  dataReadyAt : Option Instant
  deriving DecidableEq, Repr

def CalendarDay.identity (d : CalendarDay) : ContentId :=
  .ofFields "CalendarDay" [.int d.day, .text d.kind.value, d.reference,
    .list (d.sessionWindows.map fun w => .ofFields "SessionWindow" [.int w.opensAt, .int w.closesAt,
      .text w.phase.value]), .option .int d.dataReadyAt]

def CalendarDay.isSession (d : CalendarDay) : Bool := d.kind = .regular || d.kind = .special

/-- The minutes of the offset of `INDIA_STANDARD_TIME`. -/
def istOffsetMinutes : ℤ := 330

/-- `_require_ist_session_time` -/
def requireIstSessionTime (value : ZonedInstant) (day : SessionDate) : Except PyException Unit := do
  raiseIf (value.offsetMinutes ≠ istOffsetMinutes) valueError
  raiseIf (value.istDate ≠ day) valueError

/-- `session_window_containing`, for windows that are executable and open at their end -/
def CalendarDay.sessionWindowContaining (d : CalendarDay) (value : ZonedInstant) :
    Except PyException (Option SessionWindow) := do
  if ¬d.isSession then return none
  else do
    requireIstSessionTime value d.day
    return d.sessionWindows.find? fun w =>
      w.phase = .liveContinuous && w.opensAt ≤ value.instant && value.instant < w.closesAt

/-- `require_same_session_window` -/
def CalendarDay.requireSameSessionWindow (d : CalendarDay) (entryAt expiryAt : ZonedInstant) :
    Except PyException SessionWindow := do
  raiseIf (¬d.isSession) notTradingSessionError
  requireIstSessionTime entryAt d.day
  requireIstSessionTime expiryAt d.day
  raiseIf (expiryAt.instant ≤ entryAt.instant) outsideSessionWindowError
  let window ← d.sessionWindowContaining entryAt
  match window.filter (expiryAt.instant ≤ ·.closesAt) with
  | some window => return window
  | none => .error outsideSessionWindowError

structure CalendarSnapshot where
  exchange : String
  segment : String
  cutoff : Instant
  coverageStart : SessionDate
  coverageEnd : SessionDate
  days : List CalendarDay
  sourceSnapshotIds : List ContentId
  readiness : ReferenceReadiness
  schemaVersion : String
  snapshotId : ContentId
  version : ContentId
  deriving DecidableEq, Repr

namespace CalendarSnapshot

variable (c : CalendarSnapshot)

/-- `_calculated_snapshot_id` -/
def calculatedSnapshotId : ContentId :=
  .ofFields "CalendarSnapshot" [.text c.schemaVersion, .text c.exchange, .text c.segment, .int c.cutoff,
    .int c.coverageStart, .int c.coverageEnd, .list (c.days.map (·.identity)), .list c.sourceSnapshotIds,
    .text c.readiness.value]

/-- `version` of a calendar with an id -/
def versionOf (schemaVersion : String) (snapshotId : ContentId) : ContentId :=
  .pair (.text (schemaVersion ++ "@sha256:")) snapshotId

def identity : ContentId := .list [c.calculatedSnapshotId, c.snapshotId, c.version]

def verifyContentIdentity : Except PyException Unit :=
  raiseIf (c.snapshotId ≠ c.calculatedSnapshotId ∨ c.version ≠ versionOf c.schemaVersion c.calculatedSnapshotId)
    ⟨.calendarIntegrity, "CalendarIntegrityError"⟩

/-- The place of a date within the coverage. -/
def offsetOf (value : SessionDate) : Except PyException ℕ := do
  raiseIf (value < c.coverageStart ∨ c.coverageEnd < value) calendarCoverageError
  return (value - c.coverageStart).toNat

/-- `day` -/
def dayOf (value : SessionDate) : Except PyException CalendarDay := do
  match c.days[← c.offsetOf value]? with
  | some day => return day
  | none => .error indexError

def requireSession (value : SessionDate) : Except PyException CalendarDay := do
  let day ← c.dayOf value
  raiseIf (¬day.isSession) notTradingSessionError
  return day

def nextSession (after : SessionDate) : Except PyException CalendarDay := do
  let _ ← c.dayOf after
  let offset ← c.offsetOf after
  match (c.days.drop (offset + 1)).find? (·.isSession) with
  | some day => return day
  | none => .error calendarCoverageError

/-- The loop of `advance_sessions`. -/
def advanceFrom : ℕ → CalendarDay → Except PyException CalendarDay
  | 0, current => .ok current
  | n + 1, current => do
    let next ← c.nextSession current.day
    advanceFrom n next

def advanceSessions (start : SessionDate) (sessions : ℤ) : Except PyException CalendarDay := do
  raiseIf (sessions < 0) valueError
  let current ← c.requireSession start
  c.advanceFrom sessions.toNat current

end CalendarSnapshot

end Calendar

section Universe

inductive UniverseDisposition
  | actionable
  | watchOnly
  | excluded
  | unverified
  deriving DecidableEq, Repr

def UniverseDisposition.value : UniverseDisposition → String
  | .actionable => "ACTIONABLE"
  | .watchOnly => "WATCH_ONLY"
  | .excluded => "EXCLUDED"
  | .unverified => "UNVERIFIED"

inductive ListingState
  | active
  | delisted
  | unknown
  deriving DecidableEq, Repr

def ListingState.value : ListingState → String
  | .active => "ACTIVE"
  | .delisted => "DELISTED"
  | .unknown => "UNKNOWN"

structure EligibilityStateRef where
  reference : ContentId
  effectiveFromSession : SessionDate
  effectiveToExclusive : Option SessionDate
  schemaVersion : String
  instrumentId : String
  listingId : String
  board : Board
  listingState : ListingState
  suspended : Option Bool
  surveillance : Surveillance
  deriving DecidableEq, Repr

def EligibilityStateRef.identity (s : EligibilityStateRef) : ContentId :=
  .ofFields "EligibilityStateRef" [s.reference, .int s.effectiveFromSession, .option .int s.effectiveToExclusive,
    .text s.schemaVersion, .text s.instrumentId, .text s.listingId, .text s.board.value,
    .text s.listingState.value, .option boolId s.suspended, .text s.surveillance.value]

/-- A half-open interval of sessions, without an end where there is none. -/
def withinSessions (first : SessionDate) (last : Option SessionDate) (session : SessionDate) : Bool :=
  first ≤ session && last.all (session < ·)

structure ListingMapping where
  instrumentId : String
  listingId : String
  exchange : String
  segment : String
  tradingsymbol : String
  series : String
  isin : Option String
  validFrom : SessionDate
  validToExclusive : Option SessionDate
  reference : ContentId
  deriving DecidableEq, Repr

def ListingMapping.identity (l : ListingMapping) : ContentId :=
  .ofFields "ListingMapping" [.text l.instrumentId, .text l.listingId, .text l.exchange, .text l.segment,
    .text l.tradingsymbol, .text l.series, .option .text l.isin, .int l.validFrom,
    .option .int l.validToExclusive, l.reference]

def ListingMapping.listingKey (l : ListingMapping) : String × String × String × String :=
  (l.exchange, l.segment, l.tradingsymbol, l.series)

structure UniverseEntry where
  sourceRecordId : ContentId
  listing : ListingMapping
  board : Board
  listingState : ListingState
  suspended : Option Bool
  surveillance : Surveillance
  disposition : UniverseDisposition
  reasonCodes : List String
  eligibilityRefs : List EligibilityStateRef
  liquidity : Option (ContentId × SessionDate)
  deriving DecidableEq, Repr

def UniverseEntry.identity (e : UniverseEntry) : ContentId :=
  .ofFields "UniverseEntry" [e.sourceRecordId, e.listing.identity, .text e.board.value,
    .text e.listingState.value, .option boolId e.suspended, .text e.surveillance.value,
    .text e.disposition.value, .list (e.reasonCodes.map .text), .list (e.eligibilityRefs.map (·.identity)),
    .option (fun l => .pair l.1 (.int l.2)) e.liquidity]

/-- A universe, whose entries have stable ids and listing keys of their own. -/
structure UniverseSnapshot where
  exchange : String
  segment : String
  marketSession : SessionDate
  cutoff : Instant
  calendarSnapshotId : ContentId
  universeRulesVersion : String
  selectionKey : String
  scopedSourceRowIds : List ContentId
  lineageSnapshotIds : List (List ContentId)
  readiness : ReferenceReadiness
  entries : List UniverseEntry
  schemaVersion : String
  selectedRecordsHash : ContentId
  snapshotId : ContentId
  instrumentIds_nodup : (entries.map (·.listing.instrumentId)).Nodup
  listingKeys_nodup : (entries.map (·.listing.listingKey)).Nodup

namespace UniverseSnapshot

variable (u : UniverseSnapshot)

/-- `_calculated_selected_records_hash` -/
def calculatedSelectedRecordsHash : ContentId :=
  .ofFields "selected_records" [.list u.scopedSourceRowIds, .list (u.entries.map (·.identity))]

/-- `_calculated_snapshot_id` -/
def calculatedSnapshotId : ContentId :=
  .ofFields "UniverseSnapshot" [.text u.schemaVersion, .text u.exchange, .text u.segment, .int u.marketSession,
    .int u.cutoff, u.calendarSnapshotId, .text u.universeRulesVersion, .text u.selectionKey,
    .list u.scopedSourceRowIds, .list (u.lineageSnapshotIds.map .list), .text u.readiness.value,
    u.calculatedSelectedRecordsHash]

def verifyContentIdentity : Except PyException Unit :=
  raiseIf (u.selectedRecordsHash ≠ u.calculatedSelectedRecordsHash ∨ u.snapshotId ≠ u.calculatedSnapshotId)
    ⟨.valueError, "UniverseIntegrityError"⟩

end UniverseSnapshot

end Universe

end Decision

end IndiaSwing
