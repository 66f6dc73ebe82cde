import Mathlib.Data.String.Basic
import IndiaSwing.Lib.Checked
import IndiaSwing.Lib.DepthFirst
import IndiaSwing.Lib.ExceptGuards
import IndiaSwing.Lib.KeySort
import IndiaSwing.Lib.LinkedRecords
import IndiaSwing.Lib.SortedTuples
import IndiaSwing.Timestamps

namespace IndiaSwing.CalendarMaterialization

open ExceptGuards
open KeySort (sortOn)
open SortedTuples (sorted)

/-- `CalendarEventType` of `calendar_data/models.py`. -/
inductive CalendarEventType where
  | baseWeeklySchedule
  | dateClosed
  | dateSessionReplaced
  | nonExecutableActivity
  deriving DecidableEq, Repr

/-- `CalendarDeclaredDayKind`. -/
inductive CalendarDeclaredDayKind where
  | special
  | holiday
  | weekend
  | unscheduledClosure
  deriving DecidableEq, Repr

/-- `CalendarWindowPhase`, and `SessionWindowPhase` of `reference/calendar.py`, which has the same members. -/
inductive CalendarWindowPhase where
  | liveContinuous
  | preOpen
  | callAuction
  | closingAuction
  | mockTest
  deriving DecidableEq, Repr

def CalendarWindowPhase.value : CalendarWindowPhase → String
  | liveContinuous => "LIVE_CONTINUOUS"
  | preOpen => "PRE_OPEN"
  | callAuction => "CALL_AUCTION"
  | closingAuction => "CLOSING_AUCTION"
  | mockTest => "MOCK_TEST"

/-- `CalendarWeekday`. -/
inductive CalendarWeekday where
  | mon | tue | wed | thu | fri | sat | sun
  deriving DecidableEq, Repr

/-- `_WEEKDAY_ORDER`, and `_WEEKDAYS` of `calendar_data/materialization.py`. -/
def weekdayOrder : List CalendarWeekday := [.mon, .tue, .wed, .thu, .fri, .sat, .sun]

/-- `_WEEKDAYS[day.weekday()]`; day 0 was a Thursday. -/
def weekdayOf (day : SessionDate) : CalendarWeekday := weekdayOrder.getD ((day + 3) % 7).toNat .sun

/-- `DeclaredSessionWindow`: wall times of one day, in seconds. -/
@[ext] structure DeclaredSessionWindow where
  opens : Fin 86400
  closes : Fin 86400
  phase : CalendarWindowPhase
  opens_lt_closes : opens < closes
  deriving Repr

instance : DecidableEq DeclaredSessionWindow := fun a b =>
  decidable_of_iff (a.opens = b.opens ∧ a.closes = b.closes ∧ a.phase = b.phase) (by
    rw [DeclaredSessionWindow.ext_iff])

def DeclaredSessionWindow.executable (window : DeclaredSessionWindow) : Bool := window.phase = .liveContinuous

/-- `CalendarSourceLocator`. -/
structure CalendarSourceLocator where
  page : Option ℕ
  sectionText : String
  record : Option String
  deriving DecidableEq, Repr

/-- `CalendarEvent` of `calendar_data/models.py`. -/
structure CalendarEvent where
  eventType : CalendarEventType
  sourceSha256 : String
  claimedDocumentId : String
  sourceLocator : CalendarSourceLocator
  reason : String
  effectiveDate : Option SessionDate
  effectiveFrom : Option SessionDate
  effectiveToExclusive : Option SessionDate
  weekdays : List CalendarWeekday
  dayKind : Option CalendarDeclaredDayKind
  windows : List DeclaredSessionWindow
  supersedesEventIds : List String
  deriving DecidableEq, Repr

/-- `tuple(sorted(set(values)))` -/
def sortedSet (values : List String) : List String := sorted values.dedup

/-- Whether no window opens before the one listed before it closes. -/
def WindowsInOrder (windows : List DeclaredSessionWindow) : Prop :=
  windows.IsChain fun previous window => previous.closes ≤ window.opens

instance (windows : List DeclaredSessionWindow) : Decidable (WindowsInOrder windows) :=
  inferInstanceAs (Decidable (windows.IsChain _))

namespace CalendarEvent

variable (event : CalendarEvent)

/-- The bounds of a base schedule are there and in order. -/
def hasBounds : Bool :=
  match event.effectiveFrom, event.effectiveToExclusive with
  | some first, some past => first < past
  | _, _ => false

/-- A dated event carries a date and nothing of a base schedule. -/
def isDated : Bool :=
  event.effectiveDate.isSome && event.effectiveFrom.isNone && event.effectiveToExclusive.isNone && event.weekdays.isEmpty

/-- The checks of `CalendarEvent.__post_init__` on its shape. -/
def check : Except String Unit := do
  raiseIf (event.weekdays ≠ weekdayOrder.filter (· ∈ event.weekdays))
    "weekdays must be unique and in canonical Monday-Sunday order"
  raiseIf (¬WindowsInOrder event.windows) "declared windows must be sorted and non-overlapping"
  raiseIf (sortedSet event.supersedesEventIds ≠ event.supersedesEventIds) "supersedes_event_ids must be unique and sorted"
  match event.eventType with
  | .baseWeeklySchedule =>
    raiseIf (event.effectiveDate.isSome ∨ ¬event.hasBounds ∨ event.weekdays = [] ∨ event.dayKind.isSome ∨
      event.windows = [] ∨ ¬event.windows.any (·.executable) ∨ event.supersedesEventIds ≠ [])
      "invalid BASE_WEEKLY_SCHEDULE shape"
  | .dateClosed =>
    raiseIf (¬event.isDated ∨
      event.dayKind ∉ [some .holiday, some .weekend, some .unscheduledClosure] ∨ event.windows ≠ [] ∨
      event.supersedesEventIds = [])
      "invalid DATE_CLOSED shape"
  | .dateSessionReplaced =>
    raiseIf (¬event.isDated ∨ event.dayKind ≠ some .special ∨ event.windows = [] ∨
      ¬event.windows.any (·.executable) ∨ event.supersedesEventIds = [])
      "invalid DATE_SESSION_REPLACED shape"
  | .nonExecutableActivity =>
    raiseIf (¬event.isDated ∨ event.dayKind.isSome ∨ event.windows = [] ∨ event.windows.any (·.executable))
      "invalid NON_EXECUTABLE_ACTIVITY shape"

end CalendarEvent

/-- An event that passed its checks. -/
abbrev CheckedEvent := {event : CalendarEvent // event.check = .ok ()}

/-- `StoredCalendarSourceArtifact`: what its manifest and its parsed declaration say. The manifest lists the identities of
the parsed events, which the sealed store compares when it loads an artifact. -/
structure StoredCalendarSourceArtifact where
  artifactId : String
  manifestId : String
  validatedAt : Instant
  events : List CheckedEvent

/-- `ObservedMarketDateArtifact` of `calendar_evidence/models.py`. -/
structure ObservedMarketDateArtifact where
  artifactId : String
  exchange : String
  segment : String
  cutoff : Instant
  sourceBundleArtifactId : String
  sourceBundleManifestId : String
  sourceValidatedAt : Instant
  observedDates : List SessionDate
  deriving DecidableEq, Repr

/-- The checks of `ObservedMarketDateArtifact.__post_init__`. -/
def ObservedMarketDateArtifact.check (evidence : ObservedMarketDateArtifact) : Except String Unit := do
  raiseIf (evidence.exchange ≠ "NSE" ∨ evidence.segment ≠ "CM") "observed market-date evidence is pinned to NSE CM"
  raiseIf (evidence.cutoff < evidence.sourceValidatedAt) "daily bundle was not validated by the requested cutoff"
  raiseIf (evidence.observedDates = []) "observations must be a non-empty immutable exact tuple"
  raiseIf (sorted evidence.observedDates ≠ evidence.observedDates) "observed market dates must be sorted"
  raiseIf (¬evidence.observedDates.Nodup) "observed market dates must be unique"

abbrev CheckedEvidence := {evidence : ObservedMarketDateArtifact // evidence.check = .ok ()}

/-- `_EventSource`. -/
structure EventSource where
  event : CheckedEvent
  artifact : StoredCalendarSourceArtifact

/-- `_applies_base` -/
def appliesBase (event : CalendarEvent) (day : SessionDate) : Bool :=
  event.eventType = .baseWeeklySchedule &&
    match event.effectiveFrom, event.effectiveToExclusive with
    | some first, some past => first ≤ day && day < past
    | _, _ => false

/-- `_TERMINAL_TYPES` -/
def isTerminal (event : CalendarEvent) : Bool :=
  event.eventType = .dateClosed || event.eventType = .dateSessionReplaced

/-- `_STATE_TYPES` -/
def isState (event : CalendarEvent) : Bool := event.eventType = .baseWeeklySchedule || isTerminal event

def isActivity (event : CalendarEvent) : Bool := event.eventType = .nonExecutableActivity

/-- `_applies_state` -/
def appliesState (event : CalendarEvent) (day : SessionDate) : Bool :=
  if event.eventType = .baseWeeklySchedule then appliesBase event day
  else isTerminal event && event.effectiveDate = some day

section Graph

variable (eventId : CalendarEvent → String)

/-- The key of an entry of `event_by_id`. -/
def EventSource.id (source : EventSource) : String := eventId source.event.1

/-- `event_by_id[event_id]` -/
def eventById (events : List EventSource) (id : String) : Option EventSource :=
  events.find? fun source => source.id eventId = id

/-- The first event that an override supersedes. -/
def predecessorId (source : EventSource) : Option String := source.event.1.supersedesEventIds.head?

/-- The events that the event with this id supersedes. -/
def predecessorIds (events : List EventSource) (id : String) : List String :=
  match eventById eventId events id with
  | some source => source.event.1.supersedesEventIds
  | none => []

/-- Whether the event with this id applies to the state of a date. -/
def appliesAt (events : List EventSource) (day : Option SessionDate) (id : String) : Bool :=
  match eventById eventId events id, day with
  | some source, some day => isState source.event.1 && appliesState source.event.1 day
  | _, _ => false

/-- The events in the order in which they enter `event_by_id`. -/
def collectEvents (sources : List StoredCalendarSourceArtifact) : List EventSource :=
  sources.flatMap fun source => source.events.map fun event => ⟨event, source⟩

/-- The check of one state override in `_validate_event_graph`. -/
def checkOverride (events : List EventSource) (source : EventSource) : Except String Unit := do
  raiseIf (source.event.1.supersedesEventIds.length ≠ 1) "state override must form one explicit supersedes chain"
  raiseIf (∀ id ∈ predecessorId source, ¬appliesAt eventId events source.event.1.effectiveDate id)
    "state override does not reference an applicable state event"

/-- `_validate_event_graph` -/
def validateEventGraph (events : List EventSource) : Except String Unit := do
  events.forM fun source => source.event.1.supersedesEventIds.forM fun id =>
    raiseIf (eventById eventId events id).isNone "calendar event supersedes an unknown event"
  raiseIf (DepthFirst.visitAll (predecessorIds eventId events) (events.map (·.id eventId))).isNone
    "calendar supersedes graph contains a cycle"
  let overrides := events.filter fun source => isTerminal source.event.1
  overrides.forM (checkOverride eventId events)
  raiseIf (¬(overrides.map fun source => (source.event.1.effectiveDate, predecessorId source)).Nodup)
    "calendar date has competing state overrides"
  (events.filter fun source => isActivity source.event.1).forM fun source =>
    source.event.1.supersedesEventIds.forM fun id =>
      raiseIf (¬appliesAt eventId events source.event.1.effectiveDate id)
        "non-executable activity references an inapplicable state event"

end Graph

/-- `CalendarDayKind` of `reference/calendar.py`. -/
inductive CalendarDayKind where
  | regular
  | special
  | holiday
  | weekend
  | unscheduledClosure
  deriving DecidableEq, Repr

/-- `_TRADING_KINDS` -/
def CalendarDayKind.isTrading (kind : CalendarDayKind) : Bool := kind = .regular || kind = .special

/-- `_closed_kind`: the member with the same text. -/
def closedKind : CalendarDeclaredDayKind → CalendarDayKind
  | .special => .special
  | .holiday => .holiday
  | .weekend => .weekend
  | .unscheduledClosure => .unscheduledClosure

/-- `SessionWindow` of `reference/calendar.py`. -/
structure SessionWindow where
  opensAt : Instant
  closesAt : Instant
  phase : CalendarWindowPhase
  deriving DecidableEq, Repr

def SessionWindow.isExecutable (window : SessionWindow) : Bool := window.phase = .liveContinuous

/-- The checks of `SessionWindow.__post_init__`. -/
def SessionWindow.check (window : SessionWindow) : Except String Unit := do
  raiseIf (window.opensAt.istDate ≠ window.closesAt.istDate)
    "session window open and close must belong to the same India date"
  raiseIf (window.closesAt ≤ window.opensAt) "session window must satisfy open < close"

/-- A wall time of a day, in seconds, as an instant. -/
def wallTime (day : SessionDate) (seconds : Fin 86400) : Instant :=
  day * 86400000000 - 19800000000 + seconds.val * 1000000

/-- `_window` -/
def window (day : SessionDate) (value : DeclaredSessionWindow) : SessionWindow :=
  ⟨wallTime day value.opens, wallTime day value.closes, value.phase⟩

/-- `CalendarDay`, with the time its reference was known and no data-ready time. -/
structure CalendarDay where
  day : SessionDate
  kind : CalendarDayKind
  knowledgeTime : Instant
  sessionWindows : List SessionWindow
  deriving DecidableEq, Repr

def CalendarDay.isSession (value : CalendarDay) : Bool := value.kind.isTrading

/-- The checks of `CalendarDay.__post_init__`. -/
def CalendarDay.check (value : CalendarDay) : Except String Unit :=
  if value.isSession then do
    raiseIf (value.sessionWindows = []) "trading sessions require at least one window"
    raiseIf (¬value.sessionWindows.any (·.isExecutable)) "trading sessions require an executable live-continuous window"
    raiseIf (∃ window ∈ value.sessionWindows, window.opensAt.istDate ≠ value.day ∨ window.closesAt.istDate ≠ value.day)
      "calendar_day.session_windows must belong to the calendar day in India"
    raiseIf (¬value.sessionWindows.IsChain fun previous window => previous.closesAt ≤ window.opensAt)
      "session windows must be sorted and non-overlapping"
  else
    raiseIf (value.sessionWindows ≠ []) "closed calendar dates cannot carry session windows or a data-ready time"

/-- `CalendarDayResolution`. -/
structure CalendarDayResolution where
  day : SessionDate
  stateChainEventIds : List String
  nonExecutableEventIds : List String
  appliedEventIds : List String
  sourceArtifactIds : List String
  sourceManifestIds : List String
  deriving DecidableEq, Repr

/-- The checks of `CalendarDayResolution.__post_init__`. -/
def CalendarDayResolution.check (resolution : CalendarDayResolution) : Except String Unit := do
  raiseIf (resolution.stateChainEventIds = []) "state_chain_event_ids must be an immutable tuple"
  raiseIf (resolution.appliedEventIds = []) "applied_event_ids must be an immutable tuple"
  raiseIf (resolution.sourceArtifactIds = []) "source_artifact_ids must be an immutable tuple"
  raiseIf (resolution.sourceManifestIds = []) "source_manifest_ids must be an immutable tuple"
  raiseIf (¬resolution.stateChainEventIds.Nodup) "state chain event IDs must be unique"
  raiseIf (sortedSet resolution.nonExecutableEventIds ≠ resolution.nonExecutableEventIds)
    "non-executable event IDs must be unique and sorted"
  raiseIf (sortedSet resolution.appliedEventIds ≠ resolution.appliedEventIds) "applied event IDs must be unique and sorted"
  raiseIf (sortedSet resolution.appliedEventIds ≠
      sortedSet (resolution.stateChainEventIds ++ resolution.nonExecutableEventIds))
    "applied event IDs do not match the resolved event graph"
  raiseIf (sortedSet resolution.sourceArtifactIds ≠ resolution.sourceArtifactIds)
    "source artifact IDs must be unique and sorted"
  raiseIf (sortedSet resolution.sourceManifestIds ≠ resolution.sourceManifestIds)
    "source manifest IDs must be unique and sorted"

abbrev CheckedDay := {value : CalendarDay // value.check = .ok ()}

abbrev CheckedResolution := {resolution : CalendarDayResolution // resolution.check = .ok ()}

section Days

variable (eventId : CalendarEvent → String)

/-- The kind and the windows that a base schedule gives a date. -/
def baseState (day : SessionDate) (event : CalendarEvent) : CalendarDayKind × List DeclaredSessionWindow :=
  if weekdayOf day ∈ event.weekdays then (.regular, event.windows) else (.weekend, [])

/-- The kind and the windows that a state override gives its date. The shape check leaves no closure without a kind. -/
def overrideState (event : CalendarEvent) : CalendarDayKind × List DeclaredSessionWindow :=
  if event.eventType = .dateClosed then (event.dayKind.elim .holiday closedKind, []) else (.special, event.windows)

/-- `(value.opens, value.closes, value.phase.value)` -/
def windowKey (value : DeclaredSessionWindow) : Fin 86400 ×ₗ Fin 86400 ×ₗ String :=
  toLex (value.opens, toLex (value.closes, value.phase.value))

/-- `state_overrides_by_date[day]` -/
def overridesOn (events : List EventSource) (day : SessionDate) : List EventSource :=
  events.filter fun source => isTerminal source.event.1 && source.event.1.effectiveDate = some day

/-- `activities_by_date[day]`, by event identity. -/
def activitiesOn (events : List EventSource) (day : SessionDate) : List EventSource :=
  sortOn (·.id eventId) (events.filter fun source => isActivity source.event.1 && source.event.1.effectiveDate = some day)

/-- The overrides of a date from its base on. -/
def stateChain (events : List EventSource) (day : SessionDate) (base : EventSource) : List EventSource :=
  LinkedRecords.follow (·.id eventId) predecessorId (overridesOn events day) ((overridesOn events day).length + 1)
    (base.id eventId)

/-- The state of a date after the last event of its chain. -/
def stateOf (day : SessionDate) (base : EventSource) (chain : List EventSource) :
    CalendarDayKind × List DeclaredSessionWindow :=
  match chain.getLast? with
  | some terminal => overrideState terminal.event.1
  | none => baseState day base.event.1

/-- The windows of a date in order: those of its state, and on a trading day those of its activities. -/
def declaredWindows (state : CalendarDayKind × List DeclaredSessionWindow) (activities : List EventSource) :
    List DeclaredSessionWindow :=
  sortOn windowKey (if state.1.isTrading then state.2 ++ activities.flatMap (·.event.1.windows) else state.2)

/-- The resolution of one date, given the base that applies and the rest of its chain. -/
def dayResolution (events : List EventSource) (day : SessionDate) (base : EventSource) (chain : List EventSource) :
    CalendarDayResolution :=
  let chainIds := (base :: chain).map (·.id eventId)
  let activityIds := (activitiesOn eventId events day).map (·.id eventId)
  let appliedIds := sortedSet (chainIds ++ activityIds)
  let applied := (appliedIds.filterMap (eventById eventId events)).map (·.artifact)
  { day := day
    stateChainEventIds := chainIds
    nonExecutableEventIds := activityIds
    appliedEventIds := appliedIds
    sourceArtifactIds := sortedSet (applied.map (·.artifactId))
    sourceManifestIds := sortedSet (applied.map (·.manifestId)) }

/-- `max(value.manifest.validated_at for value in applied_sources)`; the base is one of them. -/
def knowledgeTime (events : List EventSource) (base : EventSource) (appliedIds : List String) : Instant :=
  (appliedIds.filterMap (eventById eventId events)).foldl (fun latest source => max latest source.artifact.validatedAt)
    base.artifact.validatedAt

/-- One round of the loop over the covered dates. -/
def resolveDay (events : List EventSource) (day : SessionDate) : Except String (CheckedDay × CheckedResolution) :=
  match events.filter fun source => appliesBase source.event.1 day with
  | [base] => do
    raiseIf (¬((overridesOn events day).map predecessorId).Nodup) "calendar date has competing state overrides"
    let chain := stateChain eventId events day base
    raiseIf (chain.length ≠ (overridesOn events day).length)
      "state overrides do not form one chain from the applicable base"
    let state := stateOf day base chain
    let windows := (declaredWindows state (activitiesOn eventId events day)).map (window day)
    (windows.forM SessionWindow.check).mapError fun _ => "resolved session windows are invalid or overlapping"
    let resolution ← Checked.build CalendarDayResolution.check (dayResolution eventId events day base chain)
    let calendarDay ← (Checked.build CalendarDay.check
      ⟨day, state.1, knowledgeTime eventId events base resolution.1.appliedEventIds, windows⟩).mapError
      fun _ => "resolved calendar day violates the reference calendar contract"
    .ok (calendarDay, resolution)
  | _ => .error "each covered date requires exactly one applicable base schedule"

end Days

/-- `ObservedDateEvidenceBinding`. -/
structure ObservedDateEvidenceBinding where
  artifactId : String
  cutoff : Instant
  knowledgeTime : Instant
  sourceBundleArtifactId : String
  sourceBundleManifestId : String
  observedDates : List SessionDate
  deriving DecidableEq, Repr

/-- The checks of `ObservedDateEvidenceBinding.__post_init__`. -/
def ObservedDateEvidenceBinding.check (binding : ObservedDateEvidenceBinding) : Except String Unit := do
  raiseIf (binding.cutoff < binding.knowledgeTime) "observed evidence knowledge time follows its cutoff"
  raiseIf (binding.observedDates = []) "observed dates must be a non-empty immutable tuple"
  raiseIf (sorted binding.observedDates.dedup ≠ binding.observedDates) "observed dates must be unique and sorted"

abbrev CheckedBinding := {binding : ObservedDateEvidenceBinding // binding.check = .ok ()}

/-- The dates from the first to the last. -/
def coveredDates (first last : SessionDate) : List SessionDate :=
  (List.range (last - first + 1).toNat).map fun index : ℕ => first + index

/-- `CalendarSnapshot` of `reference/calendar.py`. -/
structure CalendarSnapshot where
  cutoff : Instant
  coverageStart : SessionDate
  coverageEnd : SessionDate
  days : List CheckedDay

/-- The checks of `CalendarSnapshot.__post_init__`. -/
def CalendarSnapshot.check (snapshot : CalendarSnapshot) : Except String Unit := do
  raiseIf (snapshot.coverageEnd < snapshot.coverageStart) "calendar coverage_end precedes coverage_start"
  raiseIf (snapshot.days.length ≠ (snapshot.coverageEnd - snapshot.coverageStart + 1).toNat)
    "calendar must contain one explicit CalendarDay for every covered date"
  (snapshot.days.zip (coveredDates snapshot.coverageStart snapshot.coverageEnd)).forM fun (value, expected) => do
    raiseIf (value.1.day ≠ expected) "calendar days must be unique, ordered, and contiguous"
    raiseIf (snapshot.cutoff < value.1.knowledgeTime) "calendar contains a reference record known after its cutoff"

abbrev CheckedSnapshot := {snapshot : CalendarSnapshot // snapshot.check = .ok ()}

namespace CalendarSnapshot

variable (snapshot : CalendarSnapshot)

/-- `CalendarSnapshot.day` -/
def day (value : SessionDate) : Except String CheckedDay := do
  raiseIf (value < snapshot.coverageStart ∨ snapshot.coverageEnd < value) "calendar lookup falls outside declared coverage"
  match snapshot.days[(value - snapshot.coverageStart).toNat]? with
  | some calendarDay => .ok calendarDay
  | none => .error "tuple index out of range"

/-- `CalendarSnapshot.require_session`; the message begins with the date. -/
def requireSession (value : SessionDate) : Except String CheckedDay := do
  let calendarDay ← snapshot.day value
  raiseIf (¬calendarDay.1.isSession) "is not a trading session"
  return calendarDay

/-- `CalendarSnapshot.next_session` -/
def nextSession (after : SessionDate) : Except String CheckedDay := do
  let _ ← snapshot.day after
  match (snapshot.days.drop ((after - snapshot.coverageStart).toNat + 1)).find? (·.1.isSession) with
  | some calendarDay => .ok calendarDay
  | none => .error "no next trading session exists within calendar coverage"

/-- `CalendarSnapshot.previous_session` -/
def previousSession (before : SessionDate) : Except String CheckedDay := do
  let _ ← snapshot.day before
  match (snapshot.days.take (before - snapshot.coverageStart).toNat).reverse.find? (·.1.isSession) with
  | some calendarDay => .ok calendarDay
  | none => .error "no previous trading session exists within calendar coverage"

/-- `CalendarSnapshot.advance_sessions`: the loop from the session that was reached. -/
def advanceFrom : CheckedDay → ℕ → Except String CheckedDay
  | current, 0 => .ok current
  | current, sessions + 1 => do
    let next ← snapshot.nextSession current.1.day
    advanceFrom next sessions

/-- `CalendarSnapshot.advance_sessions` -/
def advanceSessions (start : SessionDate) (sessions : ℕ) : Except String CheckedDay := do
  let current ← snapshot.requireSession start
  advanceFrom snapshot current sessions

end CalendarSnapshot

/-- `CollectionCalendarMaterialization`. -/
structure CollectionCalendarMaterialization where
  cutoff : Instant
  coverageStart : SessionDate
  coverageEnd : SessionDate
  sourceManifests : List StoredCalendarSourceArtifact
  dayResolutions : List CheckedResolution
  observedEvidenceBindings : List CheckedBinding
  calendarSnapshot : CheckedSnapshot

/-- `_manifest_sort_key` -/
def manifestSortKey (source : StoredCalendarSourceArtifact) : String ×ₗ String := toLex (source.artifactId, source.manifestId)

section Materialize

variable (eventId : CalendarEvent → String) (verified : StoredCalendarSourceArtifact → Bool)

/-- The event ids of a manifest. -/
def StoredCalendarSourceArtifact.eventIds (source : StoredCalendarSourceArtifact) : List String :=
  source.events.map fun event => eventId event.1

/-- `event_to_manifest[event_id]` -/
def eventToManifest (sources : List StoredCalendarSourceArtifact) (id : String) : Option StoredCalendarSourceArtifact :=
  sources.find? fun source => id ∈ source.eventIds eventId

/-- The lineage check of one resolution in the final contract. -/
def checkLineage (sources : List StoredCalendarSourceArtifact) (resolution : CalendarDayResolution) : Except String Unit := do
  raiseIf (∃ id ∈ resolution.appliedEventIds, (eventToManifest eventId sources id).isNone)
    "applied event is absent from source manifests"
  let applied := resolution.appliedEventIds.filterMap (eventToManifest eventId sources)
  raiseIf (resolution.sourceArtifactIds ≠ sortedSet (applied.map (·.artifactId)) ∨
      resolution.sourceManifestIds ≠ sortedSet (applied.map (·.manifestId)))
    "calendar-day source lineage is incomplete"

/-- The checks of `CollectionCalendarMaterialization.__post_init__`. -/
def CollectionCalendarMaterialization.check (value : CollectionCalendarMaterialization) : Except String Unit := do
  raiseIf (value.coverageEnd < value.coverageStart) "materialization coverage end precedes its start"
  raiseIf (value.sourceManifests = []) "calendar materialization requires source manifests"
  raiseIf (¬value.sourceManifests.Pairwise fun a b => manifestSortKey a ≤ manifestSortKey b)
    "source manifests must be deterministically sorted"
  raiseIf (¬(value.sourceManifests.map (·.artifactId)).Nodup) "calendar source artifact lineage must be unique"
  raiseIf (¬(value.sourceManifests.map (·.manifestId)).Nodup) "calendar source manifest lineage must be unique"
  raiseIf (∃ source ∈ value.sourceManifests, value.cutoff < source.validatedAt)
    "calendar source validation follows the materialization cutoff"
  raiseIf (value.dayResolutions.length ≠ (value.coverageEnd - value.coverageStart + 1).toNat)
    "day resolutions must cover every requested date"
  raiseIf (value.dayResolutions.map (·.1.day) ≠ coveredDates value.coverageStart value.coverageEnd)
    "day resolutions must be ordered and contiguous"
  raiseIf (¬value.observedEvidenceBindings.Pairwise fun a b => a.1.artifactId ≤ b.1.artifactId)
    "observed evidence bindings must be sorted"
  raiseIf (¬(value.observedEvidenceBindings.map (·.1.artifactId)).Nodup) "observed evidence artifact lineage must be unique"
  value.observedEvidenceBindings.forM fun binding => do
    raiseIf (value.cutoff < binding.1.knowledgeTime) "observed evidence was unknown at the cutoff"
    raiseIf (value.cutoff < binding.1.cutoff) "observed evidence cutoff follows the materialization cutoff"
  let snapshot := value.calendarSnapshot.1
  raiseIf ((snapshot.cutoff, snapshot.coverageStart, snapshot.coverageEnd) ≠
      (value.cutoff, value.coverageStart, value.coverageEnd))
    "calendar snapshot disagrees with its materialization"
  raiseIf (snapshot.days.map (·.1.day) ≠ value.dayResolutions.map (·.1.day))
    "calendar day disagrees with its schedule-only resolution"
  raiseIf (¬(value.sourceManifests.flatMap (·.eventIds eventId)).Nodup) "event ID occurs in multiple source manifests"
  value.dayResolutions.forM fun resolution => checkLineage eventId value.sourceManifests resolution.1
  raiseIf (sortedSet (value.dayResolutions.flatMap (·.1.sourceArtifactIds)) ≠
      sortedSet (value.sourceManifests.map (·.artifactId)))
    "calendar materialization contains an unused source artifact"

abbrev CheckedMaterialization (eventId : CalendarEvent → String) :=
  {value : CollectionCalendarMaterialization // value.check eventId = .ok ()}

/-- The checks of one source in the loop over the canonical sources. -/
def checkSource (cutoff : Instant) (source : StoredCalendarSourceArtifact) : Except String Unit := do
  raiseIf (¬verified source) "calendar source failed sealed provenance verification"
  raiseIf (cutoff < source.validatedAt) "calendar source was not validated by the requested cutoff"

/-- The check of one observed date. -/
def checkObserved (days : List CheckedDay) (observed : SessionDate) : Except String Unit :=
  match days.find? fun value => value.1.day = observed with
  | none => .error "observed-date evidence lies outside materialized coverage"
  | some resolved => raiseIf (¬resolved.1.isSession) "positive traded-date evidence contradicts a closed calendar date"

/-- One round of the loop over the observed-date evidence. -/
def bindEvidence (cutoff : Instant) (days : List CheckedDay) (evidence : CheckedEvidence) : Except String CheckedBinding := do
  raiseIf ((evidence.1.exchange, evidence.1.segment) ≠ ("NSE", "CM")) "observed-date evidence has another market scope"
  raiseIf (cutoff < evidence.1.sourceValidatedAt) "observed-date evidence was not known by the cutoff"
  evidence.1.observedDates.forM (checkObserved days)
  Checked.build ObservedDateEvidenceBinding.check
    { artifactId := evidence.1.artifactId
      cutoff := evidence.1.cutoff
      knowledgeTime := evidence.1.sourceValidatedAt
      sourceBundleArtifactId := evidence.1.sourceBundleArtifactId
      sourceBundleManifestId := evidence.1.sourceBundleManifestId
      observedDates := evidence.1.observedDates }

/-- `materialize_collection_calendar` -/
def materializeCollectionCalendar (sources : List StoredCalendarSourceArtifact) (coverageStart coverageEnd : SessionDate)
    (cutoff : Instant) (observedDateArtifacts : List CheckedEvidence) :
    Except String (CheckedMaterialization eventId) := do
  raiseIf (coverageEnd < coverageStart) "coverage end precedes coverage start"
  raiseIf (sources = []) "sources must be a non-empty immutable tuple"
  let canonical := sortOn manifestSortKey sources
  raiseIf (¬(canonical.map (·.artifactId)).Nodup) "duplicate calendar source input"
  canonical.forM (checkSource verified cutoff)
  let events := collectEvents canonical
  raiseIf (¬(events.map (·.id eventId)).Nodup) "calendar event ID is duplicated across source artifacts"
  validateEventGraph eventId events
  let resolved ← (coveredDates coverageStart coverageEnd).mapM (resolveDay eventId events)
  raiseIf (¬(observedDateArtifacts.map (·.1.artifactId)).Nodup) "duplicate observed-date evidence input"
  let bindings ← observedDateArtifacts.mapM (bindEvidence cutoff (resolved.map (·.1)))
  let snapshot ← Checked.build CalendarSnapshot.check ⟨cutoff, coverageStart, coverageEnd, resolved.map (·.1)⟩
  (Checked.build (CollectionCalendarMaterialization.check eventId)
    { cutoff := cutoff
      coverageStart := coverageStart
      coverageEnd := coverageEnd
      sourceManifests := canonical
      dayResolutions := resolved.map (·.2)
      observedEvidenceBindings := sortOn (·.1.artifactId) bindings
      calendarSnapshot := snapshot }).mapError
    fun _ => "calendar materialization failed its final integrity contract"

end Materialize

end IndiaSwing.CalendarMaterialization
