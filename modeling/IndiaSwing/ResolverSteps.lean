import IndiaSwing.Lib.OrderedPrefixes
import IndiaSwing.PaperOutcomes
import IndiaSwing.Simulator

namespace IndiaSwing

open ExceptGuards
open FirstHit (firstHit)

variable {ctx : DecimalContext} {registration : PaperTradeRegistration}
variable {binding : PaperInstrumentBinding} {calendar : CalendarSnapshot}
variable {policy : PaperOutcomePolicy} {observations : List PaperOutcomeObservation}
variable {asOf : Instant} {replay : PaperOutcomeReplay}

theorem liftValueError_ok {α : Type} {x : Except ValueError α} {value : α}
    (h : liftValueError x = .ok value) : x = .ok value := by
  cases x with
  | ok a => exact congrArg _ (Except.ok.inj h)
  | error e => cases h

theorem mem_availableAt {observation : PaperOutcomeObservation} :
    observation ∈ availableAt asOf observations ↔
      observation ∈ observations ∧ observation.knowledgeTime ≤ asOf := by
  simp [availableAt, List.mem_filter]

theorem mem_relevantAt {observation : PaperOutcomeObservation} :
    observation ∈ relevantAt registration observations asOf ↔
      observation ∈ availableAt asOf observations ∧
        registration.firstSession ≤ observation.marketSession := by
  simp [relevantAt, List.mem_filter]

theorem eligibleAt_eq : eligibleAt registration observations asOf =
    (relevantAt registration observations asOf).filter
      (·.marketSession ≤ registration.expirySession) := by
  simp only [eligibleAt, relevantAt, List.filter_filter]
  exact List.filter_congr fun _ _ => Bool.and_comm _ _

theorem mem_eligibleAt {observation : PaperOutcomeObservation} :
    observation ∈ eligibleAt registration observations asOf ↔
      observation ∈ relevantAt registration observations asOf ∧
        observation.marketSession ≤ registration.expirySession := by
  simp [eligibleAt_eq, List.mem_filter]

/-- What the input checks leave to rely on. -/
structure ReplayInputsValid (registration : PaperTradeRegistration)
    (binding : PaperInstrumentBinding) (calendar : CalendarSnapshot)
    (observations : List PaperOutcomeObservation) (asOf : Instant) : Prop where
  registrationId : binding.registrationId = registration.registrationId
  ordered : (observations.map (·.marketSession)).Pairwise (· ≤ ·)
  sessions_nodup : (observations.map (·.marketSession)).Nodup
  symbol : ∀ value ∈ observations, value.symbol = binding.symbol
  binding_symbol : binding.symbol = registration.symbol
  decision_le : registration.decisionTime ≤ asOf

theorem validateReplayInputs_ok
    (h : validateReplayInputs registration binding calendar observations asOf = .ok ()) :
    ReplayInputsValid registration binding calendar observations asOf := by
  unfold validateReplayInputs at h
  obtain ⟨hbinding, h⟩ := raiseIf_bind_eq_ok.mp h
  obtain ⟨-, h⟩ := raiseIf_bind_eq_ok.mp h
  obtain ⟨-, h⟩ := raiseIf_bind_eq_ok.mp h
  obtain ⟨hsorted, h⟩ := raiseIf_bind_eq_ok.mp h
  obtain ⟨hnodup, h⟩ := raiseIf_bind_eq_ok.mp h
  obtain ⟨-, h⟩ := raiseIf_bind_eq_ok.mp h
  obtain ⟨hlisting, h⟩ := raiseIf_bind_eq_ok.mp h
  obtain ⟨hdecision, -⟩ := raiseIf_bind_eq_ok.mp h
  rw [not_or, not_not, not_not] at hbinding
  refine ⟨hbinding.1, ?_, not_not.mp hnodup, fun value hvalue => ?_, hbinding.2, not_lt.mp hdecision⟩
  · rw [List.pairwise_map, not_not.mp hsorted]
    exact List.pairwise_insertionSort _ _
  · by_contra hne
    exact hlisting ⟨value, hvalue, fun heq => hne (Prod.mk.inj heq).1⟩

/-- What a successful replay went through. -/
theorem replayPaperOutcome_ok
    (h : replayPaperOutcome ctx registration binding calendar policy observations asOf = .ok replay) :
    ReplayInputsValid registration binding calendar observations asOf ∧
    (relevantAt registration observations asOf).map (·.marketSession) =
      (calendarSessions registration calendar).take
        (relevantAt registration observations asOf).length ∧
    ∃ order, entryOrder registration binding policy = .ok order ∧
      ((firstHit (entryTest ctx registration policy order)
          (eligibleAt registration observations asOf) = .ok none ∧
        resolveUnfilled registration binding calendar policy observations asOf = .ok replay) ∨
      ∃ observation fill, firstHit (entryTest ctx registration policy order)
          (eligibleAt registration observations asOf) = .ok (some (observation, fill)) ∧
        resolveExit ctx registration binding calendar policy observations asOf observation fill =
          .ok replay) := by
  unfold replayPaperOutcome at h
  obtain ⟨_, hvalid, h⟩ := bind_eq_ok.mp h
  obtain ⟨-, h⟩ := raiseIf_bind_eq_ok.mp h
  obtain ⟨hcovers, h⟩ := raiseIf_bind_eq_ok.mp h
  obtain ⟨order, horder, h⟩ := bind_eq_ok.mp h
  obtain ⟨hit, hhit, h⟩ := bind_eq_ok.mp h
  refine ⟨validateReplayInputs_ok hvalid, ?_, order, horder, ?_⟩
  · simpa using hcovers
  · cases hit with
    | none => exact .inl ⟨hhit, h⟩
    | some pair => exact .inr ⟨pair.1, pair.2, hhit, h⟩

theorem replayResult_ok {status : PaperOutcomeStatus} {reason : String}
    {entry exit : Option PaperOutcomeFill}
    (h : replayResult registration binding calendar policy observations asOf status reason entry exit =
      .ok replay) :
    replay.status = status ∧ replay.entry = entry ∧ replay.exit = exit ∧ replay.asOf = asOf ∧
      replay.registrationId = registration.registrationId ∧ replay.bindingId = binding.bindingId ∧
      replay.policyId = policy.policyId ∧ replay.calendarSnapshotId = calendar.snapshotId := by
  unfold replayResult PaperOutcomeReplay.create at h
  split at h
  next => cases h
  next =>
    split at h
    next => cases h
    next =>
      obtain rfl := Except.ok.inj h
      exact ⟨rfl, rfl, rfl, rfl, rfl, rfl, rfl, rfl⟩

theorem resolveUnfilled_ok
    (h : resolveUnfilled registration binding calendar policy observations asOf = .ok replay) :
    (replay.status = .expired ∧ ∀ session ∈ entrySessions registration calendar,
      session ∈ (availableAt asOf observations).map (·.marketSession)) ∨
    replay.status = .waiting := by
  unfold resolveUnfilled at h
  split at h
  next hall => exact .inl ⟨(replayResult_ok h).1, hall⟩
  next => exact .inr (replayResult_ok h).1

theorem entryOrder_ok {order : LimitEntryOrder}
    (h : entryOrder registration binding policy = .ok order) :
    order.symbol = registration.symbol ∧ order.firstEligibleSession = registration.firstSession ∧
      order.expirySession = registration.expirySession ∧ order.quantity = registration.quantity ∧
      order.limitPrice = registration.entryHigh ∧ order.tickSize = binding.tickSize := by
  have h := liftValueError_ok h
  unfold LimitEntryOrder.create at h
  split_ifs at h
  obtain rfl := Except.ok.inj h
  exact ⟨rfl, rfl, rfl, rfl, rfl, rfl⟩

theorem exitOrder_ok {entryFill : SimulatedFill} {order : ProtectiveExitOrder}
    (h : exitOrder registration binding policy entryFill = .ok order) :
    order.symbol = registration.symbol ∧ order.entrySession = entryFill.session ∧
      order.stopPrice = registration.stop ∧ order.targetPrice = registration.target ∧
      order.tickSize = binding.tickSize := by
  have h := liftValueError_ok h
  unfold ProtectiveExitOrder.create at h
  split_ifs at h
  obtain rfl := Except.ok.inj h
  exact ⟨rfl, rfl, rfl, rfl, rfl⟩

/-- An entry is a fill of the observation's bar inside the window and the planned range. -/
theorem entryTest_some {order : LimitEntryOrder} {observation : PaperOutcomeObservation}
    {fill : SimulatedFill}
    (h : entryTest ctx registration policy order observation = .ok (some fill)) :
    fill.session = observation.marketSession ∧ fill.exitReason = none ∧
      registration.entryLow ≤ fill.fillPrice ∧ fill.fillPrice ≤ order.limitPrice := by
  unfold entryTest at h
  split at h
  next => cases h
  next bar hbar =>
    split at h
    next => cases h
    next =>
      obtain ⟨candidate, hcandidate, h⟩ := bind_eq_ok.mp h
      obtain ⟨rfl, hlow⟩ := Option.filter_eq_some_iff.mp (Except.ok.inj h)
      obtain ⟨-, -, hlimit, hfrom⟩ := simulateLimitEntry_some (liftValueError_ok hcandidate)
      exact ⟨hfrom.session, hfrom.exitReason, by simpa using hlow, hlimit⟩

/-- A protective exit comes from the bar of an observation on or after the entry session. -/
theorem exitTest_some {order : ProtectiveExitOrder} {observation : PaperOutcomeObservation}
    {fill : SimulatedFill} (h : exitTest ctx policy order observation = .ok (some fill)) :
    fill.session = observation.marketSession ∧ order.entrySession ≤ observation.marketSession ∧
      ∃ reason, fill.exitReason = some reason ∧ reason ≠ .time ∧
        (observation.marketSession = order.entrySession → reason = .stop ∧
          fill.fillPrice = adverseSell ctx order.stopPrice policy.slippageBps order.tickSize) := by
  unfold exitTest at h
  split at h
  next => cases h
  next bar hbar =>
    obtain ⟨hsession, reason, htrigger, hfrom⟩ := simulateProtectiveExit_some (liftValueError_ok h)
    obtain ⟨htime, hsame⟩ := protectiveTrigger_some htrigger
    exact ⟨hfrom.session, hsession, reason, hfrom.exitReason, htime, hsame⟩

/-- The entry observation is an eligible one, and its session is in the calendar. -/
theorem entryHit_session {order : LimitEntryOrder} {observation : PaperOutcomeObservation}
    {fill : SimulatedFill}
    (h : firstHit (entryTest ctx registration policy order)
      (eligibleAt registration observations asOf) = .ok (some (observation, fill))) :
    observation ∈ relevantAt registration observations asOf ∧
      observation.marketSession ≤ registration.expirySession ∧
      fill.session = observation.marketSession := by
  obtain ⟨hmem, htest⟩ := FirstHit.firstHit_some h
  obtain ⟨hrelevant, hexpiry⟩ := mem_eligibleAt.mp hmem
  exact ⟨hrelevant, hexpiry, (entryTest_some htest).1⟩

theorem resolveTimeExit_ok {order : ProtectiveExitOrder} {entry : PaperOutcomeFill}
    {last : PaperOutcomeObservation}
    (h : resolveTimeExit ctx registration binding calendar policy observations asOf order entry last =
      .ok replay) :
    replay.entry = some entry ∧ (replay.status = .blocked ∨
      ∃ fill, fill.session = last.marketSession ∧ fill.exitReason = some .time ∧
        order.entrySession ≤ last.marketSession ∧ replay.status = .closed ∧
        replay.exit = some (paperFill fill last)) := by
  unfold resolveTimeExit at h
  split at h
  next =>
    obtain ⟨hstatus, hentry, -⟩ := replayResult_ok h
    exact ⟨hentry, .inl hstatus⟩
  next bar hbar =>
    obtain ⟨timeFill, htime, h⟩ := bind_eq_ok.mp h
    split at h
    next =>
      obtain ⟨hstatus, hentry, -⟩ := replayResult_ok h
      exact ⟨hentry, .inl hstatus⟩
    next fill =>
      obtain ⟨hstatus, hentry, hexit, -⟩ := replayResult_ok h
      obtain ⟨hsession, hfrom⟩ := simulateTimeExit_some (liftValueError_ok htime)
      exact ⟨hentry, .inr ⟨fill, hfrom.session, hfrom.exitReason, hsession, hstatus, hexit⟩⟩

/-- What a filled entry can come to, in the order the resolver decides it. -/
inductive ExitResolution (ctx : DecimalContext) (registration : PaperTradeRegistration)
    (binding : PaperInstrumentBinding) (calendar : CalendarSnapshot) (policy : PaperOutcomePolicy)
    (observations : List PaperOutcomeObservation) (asOf : Instant)
    (entryFill : SimulatedFill) (entry : PaperOutcomeFill) (replay : PaperOutcomeReplay) : Prop
  | uncovered
    (coverage : (horizonSessions registration calendar entryFill.session).length <
      registration.maxHoldingSessions)
    (status : replay.status = .blocked) (entry_eq : replay.entry = some entry)
  | protective
    (coverage : ¬(horizonSessions registration calendar entryFill.session).length <
      registration.maxHoldingSessions)
    (order : ProtectiveExitOrder) (order_ok : exitOrder registration binding policy entryFill = .ok order)
    (observation : PaperOutcomeObservation) (fill : SimulatedFill)
    (hit : firstHit (exitTest ctx policy order)
      (horizonAt registration calendar observations asOf entryFill.session) =
        .ok (some (observation, fill)))
    (status : replay.status = .closed) (entry_eq : replay.entry = some entry)
    (exit_eq : replay.exit = some (paperFill fill observation))
  | immature
    (coverage : ¬(horizonSessions registration calendar entryFill.session).length <
      registration.maxHoldingSessions)
    (order : ProtectiveExitOrder) (order_ok : exitOrder registration binding policy entryFill = .ok order)
    (miss : firstHit (exitTest ctx policy order)
      (horizonAt registration calendar observations asOf entryFill.session) = .ok none)
    (short : (horizonAt registration calendar observations asOf entryFill.session).length <
      (horizonSessions registration calendar entryFill.session).length)
    (status : replay.status = .open_) (entry_eq : replay.entry = some entry)
  | matured
    (coverage : ¬(horizonSessions registration calendar entryFill.session).length <
      registration.maxHoldingSessions)
    (order : ProtectiveExitOrder) (order_ok : exitOrder registration binding policy entryFill = .ok order)
    (miss : firstHit (exitTest ctx policy order)
      (horizonAt registration calendar observations asOf entryFill.session) = .ok none)
    (full : ¬(horizonAt registration calendar observations asOf entryFill.session).length <
      (horizonSessions registration calendar entryFill.session).length)
    (last : PaperOutcomeObservation)
    (last_eq : (horizonAt registration calendar observations asOf entryFill.session).getLast? = some last)
    (resolved : resolveTimeExit ctx registration binding calendar policy observations asOf order entry
      last = .ok replay)

theorem resolveExit_ok {observation : PaperOutcomeObservation} {entryFill : SimulatedFill}
    (h : resolveExit ctx registration binding calendar policy observations asOf observation entryFill =
      .ok replay) :
    ExitResolution ctx registration binding calendar policy observations asOf entryFill
      (paperFill entryFill observation) replay := by
  unfold resolveExit at h
  dsimp only at h
  split at h
  next hcoverage =>
    obtain ⟨hstatus, hentry, -⟩ := replayResult_ok h
    exact .uncovered hcoverage hstatus hentry
  next hcoverage =>
    obtain ⟨order, horder, h⟩ := bind_eq_ok.mp h
    obtain ⟨hit, hhit, h⟩ := bind_eq_ok.mp h
    cases hit with
    | some pair =>
      obtain ⟨hstatus, hentry, hexit, -⟩ := replayResult_ok h
      exact .protective hcoverage order horder pair.1 pair.2 hhit hstatus hentry hexit
    | none =>
      dsimp only at h
      split at h
      next hshort =>
        obtain ⟨hstatus, hentry, -⟩ := replayResult_ok h
        exact .immature hcoverage order horder hhit hshort hstatus hentry
      next hfull =>
        split at h
        next => cases h
        next last hlast => exact .matured hcoverage order horder hhit hfull last hlast h

/-- The inputs that a replay names. -/
structure ReplayNames (registration : PaperTradeRegistration) (binding : PaperInstrumentBinding)
    (calendar : CalendarSnapshot) (policy : PaperOutcomePolicy) (asOf : Instant)
    (replay : PaperOutcomeReplay) : Prop where
  registrationId : replay.registrationId = registration.registrationId
  bindingId : replay.bindingId = binding.bindingId
  policyId : replay.policyId = policy.policyId
  calendarSnapshotId : replay.calendarSnapshotId = calendar.snapshotId
  asOf : replay.asOf = asOf

theorem replayResult_names {status : PaperOutcomeStatus} {reason : String}
    {entry exit : Option PaperOutcomeFill}
    (h : replayResult registration binding calendar policy observations asOf status reason entry exit =
      .ok replay) : ReplayNames registration binding calendar policy asOf replay := by
  obtain ⟨-, -, -, hasOf, hid, hbinding, hpolicy, hcalendar⟩ := replayResult_ok h
  exact ⟨hid, hbinding, hpolicy, hcalendar, hasOf⟩

theorem resolveTimeExit_names {order : ProtectiveExitOrder} {entry : PaperOutcomeFill}
    {last : PaperOutcomeObservation}
    (h : resolveTimeExit ctx registration binding calendar policy observations asOf order entry last =
      .ok replay) : ReplayNames registration binding calendar policy asOf replay := by
  unfold resolveTimeExit at h
  split at h
  next => exact replayResult_names h
  next =>
    obtain ⟨timeFill, -, h⟩ := bind_eq_ok.mp h
    split at h
    next => exact replayResult_names h
    next => exact replayResult_names h

theorem resolveExit_names {observation : PaperOutcomeObservation} {entryFill : SimulatedFill}
    (h : resolveExit ctx registration binding calendar policy observations asOf observation entryFill =
      .ok replay) : ReplayNames registration binding calendar policy asOf replay := by
  unfold resolveExit at h
  dsimp only at h
  split at h
  next => exact replayResult_names h
  next =>
    obtain ⟨order, -, h⟩ := bind_eq_ok.mp h
    obtain ⟨hit, -, h⟩ := bind_eq_ok.mp h
    cases hit with
    | some pair => exact replayResult_names h
    | none =>
      dsimp only at h
      split at h
      next => exact replayResult_names h
      next =>
        split at h
        next => cases h
        next => exact resolveTimeExit_names h

theorem replayPaperOutcome_names
    (h : replayPaperOutcome ctx registration binding calendar policy observations asOf = .ok replay) :
    ReplayNames registration binding calendar policy asOf replay := by
  obtain ⟨-, -, order, -, hcase⟩ := replayPaperOutcome_ok h
  rcases hcase with ⟨-, hunfilled⟩ | ⟨observation, fill, -, hresolve⟩
  · unfold resolveUnfilled at hunfilled
    split at hunfilled
    next => exact replayResult_names hunfilled
    next => exact replayResult_names hunfilled
  · exact resolveExit_names hresolve

end IndiaSwing
