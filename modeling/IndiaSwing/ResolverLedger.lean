import IndiaSwing.ReconciliationSafety
import IndiaSwing.ResolverMonotone

namespace IndiaSwing

open ExceptGuards
open FirstHit (firstHit)
open PartialWrites PartialWrites.Writes

variable {ctx : DecimalContext} {registration : PaperTradeRegistration}
variable {binding : PaperInstrumentBinding} {calendar : CalendarSnapshot}
variable {policy : PaperOutcomePolicy} {observations extended : List PaperOutcomeObservation}
variable {asOf t1 t2 : Instant} {replay r1 r2 : PaperOutcomeReplay}
variable {entry exit : PaperOutcomeFill} {ledger : LocalPaperTradeLedger}

/-- Distinct sessions are distinct evidence. -/
theorem observationId_session {a b : PaperOutcomeObservation} (h : a.observationId = b.observationId) :
    a.marketSession = b.marketSession := by
  simp only [PaperOutcomeObservation.observationId, ContentId.ofFields_inj, List.cons.injEq,
    ContentId.int.injEq] at h
  exact h.2.2.2.1

/-- How the resolver's exit lies to its entry. -/
structure ExitFollows (entry exit : PaperOutcomeFill) : Prop where
  session_le : entry.marketSession ≤ exit.marketSession
  later_evidence : exit.marketSession ≠ entry.marketSession → exit.evidenceId ≠ entry.evidenceId
  has_reason : exit.reason ≠ none

theorem exitFollows_paperFill {entryFill fill : SimulatedFill}
    {entryObservation observation : PaperOutcomeObservation} {reason : ExitReason}
    (hentry : entryFill.session = entryObservation.marketSession)
    (hfill : fill.session = observation.marketSession)
    (hsession : entryFill.session ≤ observation.marketSession)
    (hreason : fill.exitReason = some reason) :
    ExitFollows (paperFill entryFill entryObservation) (paperFill fill observation) := by
  refine ⟨hsession.trans hfill.ge, fun hne hevidence => hne ?_, by simp [paperFill, hreason]⟩
  calc fill.session = observation.marketSession := hfill
    _ = entryObservation.marketSession := observationId_session hevidence
    _ = entryFill.session := hentry.symm

theorem replay_entry_none (h : replay.status = .expired ∨ replay.status = .waiting) :
    replay.entry = none := by
  have hfills := replay.fills
  rcases h with h | h <;> rw [h] at hfills <;> exact hfills.1

theorem resolveUnfilled_entry
    (h : resolveUnfilled registration binding calendar policy observations asOf = .ok replay) :
    replay.entry = none := by
  rcases resolveUnfilled_ok h with ⟨hexpired, -⟩ | hwaiting
  · exact replay_entry_none (.inl hexpired)
  · exact replay_entry_none (.inr hwaiting)

/-- The entry of a replay lies in its window and its planned range. -/
theorem replay_entry_planned
    (h : replayPaperOutcome ctx registration binding calendar policy observations asOf = .ok replay)
    (hentry : replay.entry = some entry) :
    (registration.firstSession ≤ entry.marketSession ∧
        entry.marketSession ≤ registration.expirySession) ∧
      registration.entryLow ≤ entry.price.val ∧ entry.price.val ≤ registration.entryHigh := by
  obtain ⟨-, -, order, horder, hcase⟩ := replayPaperOutcome_ok h
  rcases hcase with ⟨-, hunfilled⟩ | ⟨observation, fill, hhit, hexit⟩
  · rw [resolveUnfilled_entry hunfilled] at hentry
    cases hentry
  · obtain ⟨hrelevant, hexpiry, hsession⟩ := entryHit_session hhit
    obtain ⟨-, -, hlow, hlimit⟩ := entryTest_some (FirstHit.firstHit_some hhit).2
    obtain ⟨-, -, -, -, hhigh, -⟩ := entryOrder_ok horder
    obtain rfl := Option.some.inj (hentry.symm.trans (resolveExit_ok hexit).entry_status.1)
    refine ⟨⟨?_, hsession.le.trans hexpiry⟩, hlow, hlimit.trans hhigh.le⟩
    exact (mem_relevantAt.mp hrelevant).2.trans hsession.ge

theorem replay_exit_follows
    (h : replayPaperOutcome ctx registration binding calendar policy observations asOf = .ok replay)
    (hclosed : replay.status = .closed) (hentry : replay.entry = some entry)
    (hexit : replay.exit = some exit) : ExitFollows entry exit := by
  obtain ⟨-, -, order, horder, hcase⟩ := replayPaperOutcome_ok h
  rcases hcase with ⟨-, hunfilled⟩ | ⟨observation, fill, hhit, hresolve⟩
  · rw [resolveUnfilled_entry hunfilled] at hentry
    cases hentry
  · obtain ⟨-, -, hsession⟩ := entryHit_session hhit
    have hresolution := resolveExit_ok hresolve
    obtain rfl := Option.some.inj (hentry.symm.trans hresolution.entry_status.1)
    cases hresolution with
    | uncovered _ status => cases hclosed.symm.trans status
    | immature _ _ _ _ _ status => cases hclosed.symm.trans status
    | protective _ exitOrder order_ok exitObservation exitFill hit _ _ exit_eq =>
      obtain rfl := Option.some.inj (hexit.symm.trans exit_eq)
      obtain ⟨hfill, hle, reason, hreason, -⟩ := exitTest_some (FirstHit.firstHit_some hit).2
      obtain ⟨-, horderSession, -⟩ := exitOrder_ok order_ok
      exact exitFollows_paperFill hsession hfill (horderSession.ge.trans hle) hreason
    | matured _ exitOrder order_ok _ _ last _ resolved =>
      obtain ⟨-, hblocked | ⟨exitFill, hfill, hreason, hle, -, exit_eq⟩⟩ := resolveTimeExit_ok resolved
      · cases hclosed.symm.trans hblocked
      · obtain rfl := Option.some.inj (hexit.symm.trans exit_eq)
        obtain ⟨-, horderSession, -⟩ := exitOrder_ok order_ok
        exact exitFollows_paperFill hsession hfill (horderSession.ge.trans hle) hreason

/-- The conditions under which the ledger takes everything that a fresh replay implies. -/
def LedgerTakes (registration : PaperTradeRegistration) (replay : PaperOutcomeReplay) : Prop :=
  match replay.status with
  | .expired => registration.entryExpiresAt ≤ replay.asOf
  | .open_ => ∀ entry, replay.entry = some entry → registration.decisionTime ≤ entry.observedAt
  | .closed => ∀ entry exit, replay.entry = some entry → replay.exit = some exit →
      registration.decisionTime ≤ entry.observedAt ∧ entry.observedAt ≤ exit.observedAt ∧
        (exit.marketSession = entry.marketSession →
          exit.reason = some .stop ∧ exit.price.val ≤ registration.stop)
  | .waiting | .blocked => True

/-- Reconciliation succeeds and stores exactly the events that the replay implies. -/
def AppendsExactly (replay : PaperOutcomeReplay) (ledger : LocalPaperTradeLedger) : Prop :=
  ∃ result after expected, reconcilePaperOutcome replay ledger = (.ok result, after) ∧
    expectedEvents replay = .ok expected ∧
    (after.events replay.registrationId).map (fun event => ⟨event.occurredAt, event.body⟩) = expected ∧
    result.events = after.events replay.registrationId ∧ result.status = .reconciled ∧
    after.registrations = ledger.registrations ∧
    ∀ other, other ≠ replay.registrationId → after.events other = ledger.events other

theorem AppendsExactly.ne_error {e : PaperError} {after : LocalPaperTradeLedger}
    (h : AppendsExactly replay ledger) : reconcilePaperOutcome replay ledger ≠ (.error e, after) := by
  obtain ⟨result, stored, expected, hrun, -⟩ := h
  rw [hrun]
  intro hne
  cases (Prod.mk.inj hne).1

theorem entryAccepted_iff
    (hreplay : replayPaperOutcome ctx registration binding calendar policy observations asOf =
      .ok replay)
    (hentry : replay.entry = some entry) :
    EntryAccepted registration entry ↔ registration.decisionTime ≤ entry.observedAt := by
  obtain ⟨hwindow, hrange⟩ := replay_entry_planned hreplay hentry
  exact ⟨fun h => h.after_decision, fun h => ⟨h, hwindow, hrange⟩⟩

theorem exitAccepted_iff
    (hreplay : replayPaperOutcome ctx registration binding calendar policy observations asOf =
      .ok replay)
    (hclosed : replay.status = .closed) (hentry : replay.entry = some entry)
    (hexit : replay.exit = some exit) : ExitAccepted registration entry exit ↔
      entry.observedAt ≤ exit.observedAt ∧ (exit.marketSession = entry.marketSession →
        exit.reason = some .stop ∧ exit.price.val ≤ registration.stop) := by
  have hfollows := replay_exit_follows hreplay hclosed hentry hexit
  constructor
  · exact fun h => ⟨h.known_later, h.same_session⟩
  · exact fun ⟨hknown, hsame⟩ => ⟨hknown, hfollows.session_le, hsame, hfollows.later_evidence⟩

section Fresh

variable (hregistration : ledger.getRegistration replay.registrationId = .ok registration)
  (hempty : ledger.events replay.registrationId = [])

include hregistration hempty

theorem appendsExactly_single {want : ExpectedEvent} {next : PaperTradeStatus}
    (hexpected : ExpectedShape replay [want])
    (hfits : EventFits registration [] .alerted want.occurredAt want.body next) :
    AppendsExactly replay ledger := by
  refine ⟨_, _, [want], reconcile_single hregistration hempty hexpected hfits,
    hexpected.expectedEvents_eq, ?_, ?_, rfl, rfl, fun other hother => storeEvent_events_ne _ hother⟩
  · rw [storeEvent_events, hempty]
    rfl
  · rw [storeEvent_events, hempty]
    rfl

theorem fresh_expired (hstatus : replay.status = .expired) :
    AppendsExactly replay ledger ↔ registration.entryExpiresAt ≤ replay.asOf := by
  have hexpected : ExpectedShape replay [expiredExpectation replay] := .expired hstatus
  constructor
  · intro happend
    by_contra hearly
    refine happend.ne_error (reconcile_first_rejected hregistration hempty hexpected ?_)
    rintro next ⟨-, -, -, hrules⟩
    exact hearly (validateEventBody_expired.mp hrules).1.2
  · intro hexpires
    have hfits : EventFits registration [] .alerted replay.asOf (expiredExpectation replay).body
        .expired := by
      refine ⟨by simp, registration.decision_lt.le.trans hexpires, rfl, ?_⟩
      exact validateEventBody_expired.mpr ⟨⟨rfl, hexpires⟩, rfl⟩
    exact appendsExactly_single hregistration hempty hexpected hfits

variable (hreplay : replayPaperOutcome ctx registration binding calendar policy observations asOf =
  .ok replay)

include hreplay

theorem fresh_open (hstatus : replay.status = .open_) (hentry : replay.entry = some entry) :
    AppendsExactly replay ledger ↔ registration.decisionTime ≤ entry.observedAt := by
  have hexpected : ExpectedShape replay [entryExpectation replay entry] := .opened hstatus entry hentry
  rw [← entryAccepted_iff hreplay hentry]
  constructor
  · intro happend
    by_contra hrejected
    refine happend.ne_error (reconcile_first_rejected hregistration hempty hexpected ?_)
    exact fun next hfits => hrejected (entry_fits.mp hfits).1
  · intro haccepted
    exact appendsExactly_single hregistration hempty hexpected (entry_fits.mpr ⟨haccepted, rfl⟩)

theorem fresh_closed (hstatus : replay.status = .closed) (hentry : replay.entry = some entry)
    (hexit : replay.exit = some exit) : AppendsExactly replay ledger ↔
      registration.decisionTime ≤ entry.observedAt ∧ entry.observedAt ≤ exit.observedAt ∧
        (exit.marketSession = entry.marketSession →
          exit.reason = some .stop ∧ exit.price.val ≤ registration.stop) := by
  obtain ⟨reason, hreason⟩ := Option.ne_none_iff_exists'.mp
    (replay_exit_follows hreplay hstatus hentry hexit).has_reason
  have hexpected : ExpectedShape replay
      [entryExpectation replay entry, exitExpectation replay exit reason] :=
    .closed hstatus entry exit reason hentry hexit hreason
  rw [← entryAccepted_iff hreplay hentry,
    ← exitAccepted_iff hreplay hstatus hentry hexit]
  constructor
  · intro happend
    have hfirst : EntryAccepted registration entry := by
      by_contra hrejected
      refine happend.ne_error (reconcile_first_rejected hregistration hempty hexpected ?_)
      exact fun next hfits => hrejected (entry_fits.mp hfits).1
    refine ⟨hfirst, ?_⟩
    by_contra hrejected
    exact happend.ne_error
      (reconcile_exit_rejected hempty hfirst hregistration hreason hexpected hrejected)
  · rintro ⟨hfirst, hsecond⟩
    obtain ⟨first, second, hrun, rfl, rfl⟩ :=
      reconcile_closed_accepted hempty hfirst hregistration hreason hexpected hsecond
    have hchain := entryStored_chain registration entry hempty
    refine ⟨_, _, _, hrun, hexpected.expectedEvents_eq, ?_, ?_, rfl, rfl, fun other hother => ?_⟩
    · rw [storeEvent_events, hchain]
      rfl
    · rw [storeEvent_events, hchain]
      rfl
    · rw [storeEvent_events_ne _ hother]
      exact storeEvent_events_ne _ hother

end Fresh

/-- The ledger takes what a fresh replay implies exactly when the replay's knowledge times are in
order, a same-session exit is a stop at or below the stop price, and an expiry is not early. -/
theorem reconcile_fresh_replay
    (hreplay : replayPaperOutcome ctx registration binding calendar policy observations asOf =
      .ok replay)
    (hstatus : replay.status = .open_ ∨ replay.status = .closed ∨ replay.status = .expired)
    (hregistration : ledger.getRegistration registration.registrationId = .ok registration)
    (hempty : ledger.events registration.registrationId = []) :
    AppendsExactly replay ledger ↔ LedgerTakes registration replay := by
  have hid := (replayPaperOutcome_names hreplay).registrationId
  rw [← hid] at hregistration hempty
  have hfills := replay.fills
  rcases hstatus with hopen | hclosed | hexpired
  · rw [hopen] at hfills
    obtain ⟨entry, hentry⟩ := Option.ne_none_iff_exists'.mp hfills.1
    rw [fresh_open hregistration hempty hreplay hopen hentry]
    simp [LedgerTakes, hopen, hentry]
  · rw [hclosed] at hfills
    obtain ⟨entry, hentry⟩ := Option.ne_none_iff_exists'.mp hfills.1
    obtain ⟨exit, hexit⟩ := Option.ne_none_iff_exists'.mp hfills.2
    rw [fresh_closed hregistration hempty hreplay hclosed hentry hexit]
    simp [LedgerTakes, hclosed, hentry, hexit]
  · rw [fresh_expired hregistration hempty hexpired]
    simp [LedgerTakes, hexpired]

/-- A ledger that holds one registration and no events. -/
def freshLedger (registration : PaperTradeRegistration) : LocalPaperTradeLedger :=
  ⟨[registration], fun _ => []⟩

theorem freshLedger_registered (registration : PaperTradeRegistration) :
    (freshLedger registration).getRegistration registration.registrationId = .ok registration := by
  simp [LocalPaperTradeLedger.getRegistration, freshLedger]

/-- The open replay of the sample trade is taken. -/
theorem reconcile_fresh_replay_sample : ∃ replay,
    sampleReplay (sampleRegistration 1 2 (by decide)) (istInstant 101 1100) = .ok replay ∧
      replay.status = .open_ ∧
      (AppendsExactly replay (freshLedger (sampleRegistration 1 2 (by decide))) ↔
        LedgerTakes (sampleRegistration 1 2 (by decide)) replay) := by
  obtain ⟨replay, hreplay, hopen⟩ := exists_ok_of_any
    (x := sampleReplay (sampleRegistration 1 2 (by decide)) (istInstant 101 1100))
    (p := fun replay => replay.status = .open_) (by decide +kernel)
  exact ⟨replay, hreplay, of_decide_eq_true hopen, reconcile_fresh_replay hreplay
    (.inl (of_decide_eq_true hopen)) (freshLedger_registered _) rfl⟩

/-- With a holding horizon of one session the resolver closes the trade at the close of its entry
session, and the ledger rejects that exit after it has stored the entry. -/
theorem sameSession_time_exit_rejected : ∃ replay after,
    sampleReplay (sampleRegistration 1 1 (by decide)) (istInstant 102 1100) = .ok replay ∧
      replay.status = .closed ∧
      (freshLedger (sampleRegistration 1 1 (by decide))).events 1 = [] ∧
      reconcilePaperOutcome replay (freshLedger (sampleRegistration 1 1 (by decide))) =
        (.error (.reconciliation "paper ledger append failed"), after) ∧
      (after.events 1).map (·.body.eventType) = ["ENTRY_RECORDED"] := by
  obtain ⟨replay, hreplay, hrun⟩ := exists_ok_of_any
    (x := sampleReplay (sampleRegistration 1 1 (by decide)) (istInstant 102 1100))
    (p := fun replay =>
      let outcome := reconcilePaperOutcome replay (freshLedger (sampleRegistration 1 1 (by decide)))
      replay.status = .closed ∧ outcome.1 = .error (.reconciliation "paper ledger append failed") ∧
        (outcome.2.events 1).map (·.body.eventType) = ["ENTRY_RECORDED"]) (by decide +kernel)
  obtain ⟨hclosed, herror, hevents⟩ := of_decide_eq_true hrun
  exact ⟨replay, _, hreplay, hclosed, rfl, Prod.ext herror rfl, hevents⟩

/-- The same-session exit shows that not every replay of the resolver is taken. -/
theorem not_all_fresh_replays_taken : ∃ replay,
    sampleReplay (sampleRegistration 1 1 (by decide)) (istInstant 102 1100) = .ok replay ∧
      replay.status = .closed ∧
      (freshLedger (sampleRegistration 1 1 (by decide))).getRegistration 1 =
        .ok (sampleRegistration 1 1 (by decide)) ∧
      (freshLedger (sampleRegistration 1 1 (by decide))).events 1 = [] ∧
      ¬AppendsExactly replay (freshLedger (sampleRegistration 1 1 (by decide))) := by
  obtain ⟨replay, hreplay, hrun⟩ := exists_ok_of_any
    (x := sampleReplay (sampleRegistration 1 1 (by decide)) (istInstant 102 1100))
    (p := fun replay => replay.status = .closed ∧
      (reconcilePaperOutcome replay (freshLedger (sampleRegistration 1 1 (by decide)))).1 =
        .error (.reconciliation "paper ledger append failed")) (by decide +kernel)
  obtain ⟨hclosed, herror⟩ := of_decide_eq_true hrun
  exact ⟨replay, hreplay, hclosed, rfl, rfl, fun h => h.ne_error (Prod.ext herror rfl)⟩

end IndiaSwing
