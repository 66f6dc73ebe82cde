import IndiaSwing.Calendar
import IndiaSwing.Simulator
import Mathlib.Data.List.Sort
import IndiaSwing.Lib.FirstHit

namespace IndiaSwing

open DecimalContext (Divides)
open ExceptGuards (raiseIf)
open FirstHit (firstHit)

def PaperError.outcome (message : String) : PaperError := ⟨.paperOutcomeError, message⟩

inductive PaperOutcomeStatus
  | waiting
  | expired
  | open_
  | closed
  | blocked
  deriving DecidableEq, Repr

def PaperOutcomeStatus.value : PaperOutcomeStatus → String
  | .waiting => "WAITING"
  | .expired => "EXPIRED"
  | .open_ => "OPEN"
  | .closed => "CLOSED"
  | .blocked => "BLOCKED"

inductive PaperOutcomeExitReason
  | stop
  | target
  | time
  deriving DecidableEq, Repr

def PaperOutcomeExitReason.value : PaperOutcomeExitReason → String
  | .stop => "STOP"
  | .target => "TARGET"
  | .time => "TIME"

def PaperOutcomeExitReason.ofExitReason : ExitReason → PaperOutcomeExitReason
  | .stop => .stop
  | .target => .target
  | .time => .time

@[ext] structure PaperOutcomePolicy where
  slippageBps : ℚ
  maximumParticipation : ℚ
  slippage_nonneg : 0 ≤ slippageBps
  participation : 0 < maximumParticipation ∧ maximumParticipation ≤ 1
  deriving Repr

instance : DecidableEq PaperOutcomePolicy := fun _ _ => decidable_of_iff _ PaperOutcomePolicy.ext_iff.symm

def PaperOutcomePolicy.default : PaperOutcomePolicy :=
  ⟨10, 25 / 10000, by decide +kernel, by decide +kernel⟩

def PaperOutcomePolicy.policyId (policy : PaperOutcomePolicy) : ContentId :=
  .ofFields "paper-outcome-conservative-eod/v1"
    [.decimal policy.slippageBps, .decimal policy.maximumParticipation,
      .text "LIMIT_AT_ENTRY_HIGH_REJECT_GAP_BELOW_ENTRY_LOW", .text "STOP_FIRST_TARGET_DEFERRED",
      .text "OPEN_WITH_ADVERSE_SLIPPAGE", .text "HORIZON_CLOSE_WITH_ADVERSE_SLIPPAGE"]

@[ext] structure PaperInstrumentBinding where
  registrationId : Digest
  symbol : String
  series : String
  validatedIsin : String
  financialInstrumentId : ℕ
  tickSize : ℚ
  tickSnapshotId : Digest
  tickObservationId : Digest
  tickMarketSessionClaim : SessionDate
  tickKnowledgeTime : Instant
  instrument_pos : 0 < financialInstrumentId
  tick_pos : 0 < tickSize
  deriving Repr

instance : DecidableEq PaperInstrumentBinding := fun _ _ => decidable_of_iff _ PaperInstrumentBinding.ext_iff.symm

def PaperInstrumentBinding.bindingId (binding : PaperInstrumentBinding) : ContentId :=
  .ofFields "paper-instrument-binding/v1"
    [.digest binding.registrationId, .text binding.symbol, .text binding.series,
      .text binding.validatedIsin, .int binding.financialInstrumentId, .decimal binding.tickSize,
      .digest binding.tickSnapshotId, .digest binding.tickObservationId,
      .int binding.tickMarketSessionClaim, .int binding.tickKnowledgeTime]

/-- The market values of an observation that has a bar. -/
@[ext] structure ObservedBar where
  barId : Digest
  open_ : ℚ
  high : ℚ
  low : ℚ
  close : ℚ
  volume : ℕ
  open_pos : 0 < open_
  high_pos : 0 < high
  low_pos : 0 < low
  close_pos : 0 < close
  le_high : max open_ (max low close) ≤ high
  low_le : low ≤ min open_ (min high close)
  volume_pos : 0 < volume
  deriving Repr

instance : DecidableEq ObservedBar := fun _ _ => decidable_of_iff _ ObservedBar.ext_iff.symm

/-- One session of evidence about one listing; without a bar nothing was traded. -/
@[ext] structure PaperOutcomeObservation where
  artifactId : Digest
  calendarSnapshotId : Digest
  marketSession : SessionDate
  sessionCloseAt : Instant
  knowledgeTime : Instant
  symbol : String
  series : String
  validatedIsin : String
  bar : Option ObservedBar
  known_after_close : sessionCloseAt < knowledgeTime
  deriving Repr

instance : DecidableEq PaperOutcomeObservation := fun _ _ => decidable_of_iff _ PaperOutcomeObservation.ext_iff.symm

namespace PaperOutcomeObservation

def traded (observation : PaperOutcomeObservation) : Bool := observation.bar.isSome

def observationId (observation : PaperOutcomeObservation) : ContentId :=
  .ofFields "paper-outcome-observation/v1"
    [.digest observation.artifactId, .digest observation.calendarSnapshotId,
      .int observation.marketSession, .int observation.sessionCloseAt,
      .int observation.knowledgeTime, .text observation.symbol, .text observation.series,
      .text observation.validatedIsin,
      .option (fun bar => .list [.digest bar.barId, .decimal bar.open_, .decimal bar.high,
        .decimal bar.low, .decimal bar.close, .int bar.volume]) observation.bar]

end PaperOutcomeObservation

structure PaperOutcomeFill where
  marketSession : SessionDate
  observedAt : Instant
  price : Price
  evidenceId : ContentId
  reason : Option PaperOutcomeExitReason
  deriving DecidableEq, Repr

def PaperOutcomeFill.encode (fill : PaperOutcomeFill) : ContentId :=
  .list [.int fill.marketSession, .int fill.observedAt, .decimal fill.price.val, fill.evidenceId,
    .option (fun reason => .text reason.value) fill.reason]

/-- The fills that each status of a replay carries. -/
def ReplayFillsValid (status : PaperOutcomeStatus) (entry exit : Option PaperOutcomeFill) : Prop :=
  match status with
  | .closed => entry ≠ none ∧ exit ≠ none
  | .open_ => entry ≠ none ∧ exit = none
  | .waiting | .expired => entry = none ∧ exit = none
  | .blocked => True

instance : (status : PaperOutcomeStatus) → (entry exit : Option PaperOutcomeFill) →
    Decidable (ReplayFillsValid status entry exit)
  | .closed, entry, exit => inferInstanceAs (Decidable (entry ≠ none ∧ exit ≠ none))
  | .open_, entry, exit => inferInstanceAs (Decidable (entry ≠ none ∧ exit = none))
  | .waiting, entry, exit => inferInstanceAs (Decidable (entry = none ∧ exit = none))
  | .expired, entry, exit => inferInstanceAs (Decidable (entry = none ∧ exit = none))
  | .blocked, _, _ => inferInstanceAs (Decidable True)

structure PaperOutcomeReplay where
  registrationId : Digest
  bindingId : ContentId
  policyId : ContentId
  calendarSnapshotId : Digest
  asOf : Instant
  status : PaperOutcomeStatus
  entry : Option PaperOutcomeFill
  exit : Option PaperOutcomeFill
  reasonCode : String
  sourceObservationIds : List ContentId
  fills : ReplayFillsValid status entry exit
  sources_nodup : sourceObservationIds.Nodup
  deriving DecidableEq

def replayFillsMessage : PaperOutcomeStatus → String
  | .closed => "closed replay requires entry and exit"
  | .open_ => "open replay requires only an entry"
  | .waiting | .expired | .blocked => "unentered replay cannot carry fills"

def PaperOutcomeReplay.create (registrationId : Digest) (bindingId policyId : ContentId)
    (calendarSnapshotId : Digest) (asOf : Instant) (status : PaperOutcomeStatus)
    (entry exit : Option PaperOutcomeFill) (reasonCode : String)
    (sourceObservationIds : List ContentId) : Except PaperError PaperOutcomeReplay :=
  if hfills : ¬ReplayFillsValid status entry exit then
    .error (.outcome (replayFillsMessage status))
  else if hsources : ¬sourceObservationIds.Nodup then
    .error (.outcome "source observations must be a unique tuple")
  else
    .ok ⟨registrationId, bindingId, policyId, calendarSnapshotId, asOf, status, entry, exit,
      reasonCode, sourceObservationIds, not_not.mp hfills, not_not.mp hsources⟩

def PaperOutcomeReplay.replayId (replay : PaperOutcomeReplay) : ContentId :=
  .ofFields "paper-outcome-replay/v1"
    [.digest replay.registrationId, replay.bindingId, replay.policyId,
      .digest replay.calendarSnapshotId, .int replay.asOf, .text replay.status.value,
      .option PaperOutcomeFill.encode replay.entry, .option PaperOutcomeFill.encode replay.exit,
      .text replay.reasonCode, .list replay.sourceObservationIds]

def liftValueError {α : Type} : Except ValueError α → Except PaperError α
  | .ok value => .ok value
  | .error e => .error ⟨.valueError, e.message⟩

/-- `_simulation_bar`, for the bar of a traded observation. -/
def simulationBar (observation : PaperOutcomeObservation) (bar : ObservedBar) : SimulationBar where
  session := observation.marketSession
  symbol := observation.symbol
  open_ := bar.open_
  high := bar.high
  low := bar.low
  close := bar.close
  volume := bar.volume
  tradable := true
  lowerCircuitSellLocked := false
  open_pos := bar.open_pos
  high_pos := bar.high_pos
  low_pos := bar.low_pos
  close_pos := bar.close_pos
  le_high := bar.le_high
  low_le := bar.low_le
  volume_pos := fun _ => bar.volume_pos
  locked_tradable := fun h => by cases h

/-- `_fill` -/
def paperFill (value : SimulatedFill) (observation : PaperOutcomeObservation) : PaperOutcomeFill where
  marketSession := value.session
  observedAt := observation.knowledgeTime
  price := ⟨value.fillPrice, value.fill_pos⟩
  evidenceId := observation.observationId
  reason := value.exitReason.map .ofExitReason

def availableAt (asOf : Instant) (observations : List PaperOutcomeObservation) :
    List PaperOutcomeObservation :=
  observations.filter (·.knowledgeTime ≤ asOf)

def bySession (observations : List PaperOutcomeObservation) (session : SessionDate) :
    Option PaperOutcomeObservation :=
  observations.find? (·.marketSession = session)

section Resolver

variable (ctx : DecimalContext) (registration : PaperTradeRegistration)
variable (binding : PaperInstrumentBinding) (calendar : CalendarSnapshot)
variable (policy : PaperOutcomePolicy) (observations : List PaperOutcomeObservation)
variable (asOf : Instant)

/-- The checks that the resolver makes before it looks at what is available. -/
def validateReplayInputs : Except PaperError Unit := do
  raiseIf (binding.registrationId ≠ registration.registrationId ∨
    binding.symbol ≠ registration.symbol) (.outcome "paper outcome binding differs from registration")
  raiseIf (registration.decisionTime < binding.tickKnowledgeTime)
    (.outcome "tick evidence was unknown at decision time")
  raiseIf (∃ price ∈ [registration.entryLow, registration.entryHigh, registration.stop,
    registration.target], ¬Divides binding.tickSize price)
    (.outcome "paper outcome levels differ from bound tick size")
  raiseIf (observations ≠ observations.insertionSort fun a b => a.marketSession ≤ b.marketSession)
    (.outcome "paper observations must be session ordered")
  raiseIf (¬(observations.map (·.marketSession)).Nodup)
    (.outcome "paper observations contain duplicate sessions")
  raiseIf (∃ value ∈ observations, value.calendarSnapshotId ≠ calendar.snapshotId)
    (.outcome "paper observations use different calendars")
  raiseIf (∃ value ∈ observations, (value.symbol, value.series, value.validatedIsin) ≠
    (binding.symbol, binding.series, binding.validatedIsin))
    (.outcome "paper observation belongs to another listing")
  raiseIf (asOf < registration.decisionTime) (.outcome "paper outcome as_of predates the decision")
  raiseIf (asOf < calendar.cutoff) (.outcome "calendar snapshot was unavailable at replay as_of")

def calendarSessions : List SessionDate := calendar.sessionsFrom registration.firstSession

def entrySessions : List SessionDate :=
  (calendarSessions registration calendar).filter (· ≤ registration.expirySession)

/-- The available observations from the first entry session on. -/
def relevantAt : List PaperOutcomeObservation :=
  (availableAt asOf observations).filter (registration.firstSession ≤ ·.marketSession)

def eligibleAt : List PaperOutcomeObservation :=
  (availableAt asOf observations).filter fun value =>
    registration.firstSession ≤ value.marketSession &&
      value.marketSession ≤ registration.expirySession

def entryOrder : Except PaperError LimitEntryOrder :=
  liftValueError (LimitEntryOrder.create registration.symbol registration.decisionTime.istDate
    registration.firstSession registration.expirySession registration.quantity
    registration.entryHigh binding.tickSize policy.maximumParticipation)

/-- The entry that one session can give: no gap below `entry_low`, and a fill not below it. -/
def entryTest (order : LimitEntryOrder) (observation : PaperOutcomeObservation) :
    Except PaperError (Option SimulatedFill) :=
  match observation.bar with
  | none => .ok none
  | some bar =>
    if bar.open_ < registration.entryLow then .ok none
    else do
      let candidate ← liftValueError
        (simulateLimitEntry ctx order (simulationBar observation bar) policy.slippageBps)
      return candidate.filter fun fill => registration.entryLow ≤ fill.fillPrice

def exitOrder (entryFill : SimulatedFill) : Except PaperError ProtectiveExitOrder :=
  liftValueError (ProtectiveExitOrder.create registration.symbol registration.quantity
    entryFill.session entryFill.fillPrice registration.stop registration.target binding.tickSize
    policy.maximumParticipation)

def exitTest (order : ProtectiveExitOrder) (observation : PaperOutcomeObservation) :
    Except PaperError (Option SimulatedFill) :=
  match observation.bar with
  | none => .ok none
  | some bar => liftValueError
    (simulateProtectiveExit ctx order (simulationBar observation bar) policy.slippageBps)

/-- The sessions of the holding horizon of an entry, in the calendar. -/
def horizonSessions (entrySession : SessionDate) : List SessionDate :=
  let sessions := calendarSessions registration calendar
  (sessions.drop (sessions.idxOf entrySession)).take registration.maxHoldingSessions

/-- The available observations of the horizon. -/
def horizonAt (entrySession : SessionDate) : List PaperOutcomeObservation :=
  (horizonSessions registration calendar entrySession).filterMap
    (bySession ((availableAt asOf observations).filter (entrySession ≤ ·.marketSession)))

def replayResult (status : PaperOutcomeStatus) (reason : String)
    (entry exit : Option PaperOutcomeFill) : Except PaperError PaperOutcomeReplay :=
  PaperOutcomeReplay.create registration.registrationId binding.bindingId policy.policyId
    calendar.snapshotId asOf status entry exit reason
    ((availableAt asOf observations).map (·.observationId))

def protectiveReason (fill : SimulatedFill) : String :=
  if fill.exitReason = some .stop then "STOP_EXIT" else "TARGET_EXIT"

/-- The holding horizon ran out without a protective exit. -/
def resolveTimeExit (order : ProtectiveExitOrder) (entry : PaperOutcomeFill)
    (last : PaperOutcomeObservation) : Except PaperError PaperOutcomeReplay :=
  match last.bar with
  | none =>
    replayResult registration binding calendar policy observations asOf .blocked
      "HORIZON_EXIT_BAR_MISSING" entry none
  | some bar => do
    let timeFill ← liftValueError
      (simulateTimeExit ctx order (simulationBar last bar) policy.slippageBps)
    match timeFill with
    | none =>
      replayResult registration binding calendar policy observations asOf .blocked
        "HORIZON_EXIT_NOT_FILLABLE" entry none
    | some fill =>
      replayResult registration binding calendar policy observations asOf .closed
        "TIME_EXIT" entry (paperFill fill last)

/-- What becomes of a filled entry. -/
def resolveExit (entryObservation : PaperOutcomeObservation) (entryFill : SimulatedFill) :
    Except PaperError PaperOutcomeReplay := do
  let entry := paperFill entryFill entryObservation
  let sessions := horizonSessions registration calendar entryFill.session
  if sessions.length < registration.maxHoldingSessions then
    replayResult registration binding calendar policy observations asOf .blocked
      "CALENDAR_COVERAGE_INSUFFICIENT" entry none
  else
    let horizon := horizonAt registration calendar observations asOf entryFill.session
    let order ← exitOrder registration binding policy entryFill
    match ← firstHit (exitTest ctx policy order) horizon with
    | some (observation, exitFill) =>
      replayResult registration binding calendar policy observations asOf .closed
        (protectiveReason exitFill) entry (paperFill exitFill observation)
    | none =>
      if horizon.length < sessions.length then
        replayResult registration binding calendar policy observations asOf .open_
          "HOLDING_HORIZON_NOT_MATURE" entry none
      else
        match horizon.getLast? with
        | none => throw ⟨.valueError, "tuple index out of range"⟩
        | some last =>
          resolveTimeExit ctx registration binding calendar policy observations asOf order entry last

/-- No session filled the entry: the window is over once all its sessions are available. -/
def resolveUnfilled : Except PaperError PaperOutcomeReplay :=
  if ∀ session ∈ entrySessions registration calendar,
      session ∈ (availableAt asOf observations).map (·.marketSession) then
    replayResult registration binding calendar policy observations asOf .expired
      "ENTRY_WINDOW_EXPIRED_UNFILLED" none none
  else
    replayResult registration binding calendar policy observations asOf .waiting
      "WAITING_FOR_ENTRY_EVIDENCE" none none

def replayPaperOutcome : Except PaperError PaperOutcomeReplay := do
  validateReplayInputs registration binding calendar observations asOf
  raiseIf (entrySessions registration calendar = [])
    (.outcome "entry window contains no calendar session")
  let relevant := (relevantAt registration observations asOf).map (·.marketSession)
  raiseIf (relevant ≠ (calendarSessions registration calendar).take relevant.length)
    (.outcome "paper observations contain a calendar-session gap")
  let order ← entryOrder registration binding policy
  match ← firstHit (entryTest ctx registration policy order)
      (eligibleAt registration observations asOf) with
  | none => resolveUnfilled registration binding calendar policy observations asOf
  | some (observation, fill) =>
    resolveExit ctx registration binding calendar policy observations asOf observation fill

end Resolver

end IndiaSwing
