import IndiaSwing.Reconciliation

namespace IndiaSwing

open ExceptGuards
open PartialWrites PartialWrites.Writes

variable {ledger after : LocalPaperTradeLedger} {replay : PaperOutcomeReplay}
variable {registration : PaperTradeRegistration} {entry exit : PaperOutcomeFill}
variable {reason : PaperOutcomeExitReason} {next : PaperTradeStatus}

/-- What the ledger asks of an entry on an empty chain. -/
structure EntryAccepted (registration : PaperTradeRegistration) (entry : PaperOutcomeFill) : Prop where
  after_decision : registration.decisionTime ≤ entry.observedAt
  window : registration.firstSession ≤ entry.marketSession ∧
    entry.marketSession ≤ registration.expirySession
  range : registration.entryLow ≤ entry.price.val ∧ entry.price.val ≤ registration.entryHigh

/-- What the ledger asks of an exit after an entry of the same replay. -/
structure ExitAccepted (registration : PaperTradeRegistration) (entry exit : PaperOutcomeFill) : Prop where
  known_later : entry.observedAt ≤ exit.observedAt
  session_le : entry.marketSession ≤ exit.marketSession
  same_session : exit.marketSession = entry.marketSession →
    exit.reason = some .stop ∧ exit.price.val ≤ registration.stop
  later_evidence : exit.marketSession ≠ entry.marketSession → exit.evidenceId ≠ entry.evidenceId

theorem exitReasonCode_eq_stopExit : exitReasonCode reason = .stopExit ↔ reason = .stop := by
  cases reason <;> simp [exitReasonCode]

theorem entry_fits : EventFits registration [] .alerted entry.observedAt
    (entryExpectation replay entry).body next ↔ EntryAccepted registration entry ∧ next = .open_ := by
  constructor
  · rintro ⟨-, hdecision, -, hrules⟩
    obtain ⟨-, hwindow, hrange, hnext⟩ := validateEventBody_entry.mp hrules
    exact ⟨⟨hdecision, hwindow, hrange⟩, hnext⟩
  · rintro ⟨⟨hdecision, hwindow, hrange⟩, hnext⟩
    refine ⟨by simp, hdecision, rfl, ?_⟩
    exact validateEventBody_entry.mpr ⟨rfl, hwindow, hrange, hnext⟩

/-- The exit of a replay after a stored entry, which may name another replay. -/
theorem exit_fits (entry : PaperOutcomeFill) (storedLineage : ReplayLineage) {stored : PaperTradeEvent}
    (htime : stored.occurredAt = entry.observedAt)
    (hstored : stored.body = .entryRecorded entry.price entry.evidenceId entry.marketSession
      (some storedLineage))
    (hdecision : registration.decisionTime ≤ entry.observedAt) (hreason : exit.reason = some reason) :
    EventFits registration [stored] .open_ exit.observedAt (exitExpectation replay exit reason).body
        next ↔
      ExitAccepted registration entry exit ∧
        (exit.marketSession = entry.marketSession → replay.replayId = storedLineage.replayId) ∧
        next = .closed := by
  constructor
  · rintro ⟨hordered, -, -, hrules⟩
    obtain ⟨-, hsession, hsame, hlater, hnext⟩ := (validateEventBody_exit hstored).mp hrules
    have hknown : entry.observedAt ≤ exit.observedAt := htime ▸ hordered stored rfl
    refine ⟨⟨hknown, hsession, fun h => ?_, hlater⟩, fun h => ?_, hnext⟩
    · obtain ⟨hcode, -, -, hprice⟩ := hsame h
      rw [hreason, exitReasonCode_eq_stopExit.mp (Option.some.inj hcode)]
      exact ⟨rfl, hprice⟩
    · exact Option.some.inj (hsame h).2.2.1
  · rintro ⟨⟨hknown, hsession, hsame, hlater⟩, hreplay, hnext⟩
    refine ⟨?_, hdecision.trans hknown, rfl, ?_⟩
    · intro last hlast
      obtain rfl := Option.some.inj hlast
      exact htime ▸ hknown
    · refine (validateEventBody_exit hstored).mpr ⟨rfl, hsession, fun h => ?_, hlater, hnext⟩
      obtain ⟨hstop, hprice⟩ := hsame h
      obtain rfl := Option.some.inj (hreason.symm.trans hstop)
      exact ⟨rfl, by simp, congrArg some (hreplay h), hprice⟩

theorem emptyChain_status (hempty : ledger.events replay.registrationId = []) :
    ChainStatus registration (ledger.events replay.registrationId) .alerted := by
  rw [hempty]
  rfl

/-- On an empty chain a decided replay appends everything it implies. -/
theorem reconcile_empty {expected : List ExpectedEvent}
    (hregistration : ledger.getRegistration replay.registrationId = .ok registration)
    (hempty : ledger.events replay.registrationId = []) (hexpected : ExpectedShape replay expected) :
    reconcilePaperOutcome replay ledger =
      (forItems (appendExpected replay.registrationId) expected >>= fun appended =>
        pure (reconciledResult replay [] appended)) ledger := by
  have hmatch : ChainMatches (ledger.events replay.registrationId) expected := by
    rw [hempty]
    exact ⟨Nat.zero_le _, by simp⟩
  unfold reconcilePaperOutcome
  rw [if_neg hexpected.decided, reconcileDecided_match hregistration hexpected.expectedEvents_eq
    (emptyChain_status hempty) hmatch, hempty]
  rfl

theorem reconcile_single {want : ExpectedEvent}
    (hregistration : ledger.getRegistration replay.registrationId = .ok registration)
    (hempty : ledger.events replay.registrationId = []) (hexpected : ExpectedShape replay [want])
    (hfits : EventFits registration [] .alerted want.occurredAt want.body next) :
    reconcilePaperOutcome replay ledger =
      (.ok (reconciledResult replay [] [nextEvent registration [] want.occurredAt want.body]),
        ledger.storeEvent replay.registrationId
          (nextEvent registration [] want.occurredAt want.body)) := by
  rw [← hempty] at hfits
  have happend := appendExpected_of_fits want hregistration (emptyChain_status hempty) hfits
  rw [reconcile_empty hregistration hempty hexpected, bind_of_ok (forItems_cons_of_ok happend rfl),
    hempty, pure_run]

/-- Nothing is written when the first event is rejected. -/
theorem reconcile_first_rejected {want : ExpectedEvent} {rest : List ExpectedEvent}
    (hregistration : ledger.getRegistration replay.registrationId = .ok registration)
    (hempty : ledger.events replay.registrationId = [])
    (hexpected : ExpectedShape replay (want :: rest))
    (hfits : ∀ next, ¬EventFits registration [] .alerted want.occurredAt want.body next) :
    reconcilePaperOutcome replay ledger =
      (.error (.reconciliation "paper ledger append failed"), ledger) := by
  rw [← hempty] at hfits
  have hfail := appendExpected_of_not_fits want hregistration (emptyChain_status hempty) hfits
  rw [reconcile_empty hregistration hempty hexpected, bind_of_error (forItems_cons_of_error hfail)]

/-- The ledger after the entry of a replay was appended to an empty chain. -/
def entryStored (ledger : LocalPaperTradeLedger) (registration : PaperTradeRegistration)
    (replay : PaperOutcomeReplay) (entry : PaperOutcomeFill) : LocalPaperTradeLedger :=
  ledger.storeEvent replay.registrationId
    (nextEvent registration [] entry.observedAt (entryExpectation replay entry).body)

/-- A closed replay on an empty chain whose entry the ledger takes and whose exit it rejects. -/
structure EntryWithoutExit (ledger : LocalPaperTradeLedger) (replay : PaperOutcomeReplay)
    (registration : PaperTradeRegistration) (entry exit : PaperOutcomeFill) : Prop where
  registered : ledger.getRegistration replay.registrationId = .ok registration
  empty : ledger.events replay.registrationId = []
  closed : replay.status = .closed
  entry_eq : replay.entry = some entry
  exit_eq : replay.exit = some exit
  has_reason : exit.reason ≠ none
  entry_accepted : EntryAccepted registration entry
  exit_rejected : ¬ExitAccepted registration entry exit

theorem entryStored_chain (registration : PaperTradeRegistration) (entry : PaperOutcomeFill)
    (hempty : ledger.events replay.registrationId = []) :
    (entryStored ledger registration replay entry).events replay.registrationId =
      [nextEvent registration [] entry.observedAt (entryExpectation replay entry).body] := by
  rw [entryStored, storeEvent_events, hempty, List.nil_append]

theorem entryStored_registered (entry : PaperOutcomeFill)
    (hregistration : ledger.getRegistration replay.registrationId = .ok registration) :
    (entryStored ledger registration replay entry).getRegistration replay.registrationId =
      .ok registration := hregistration

section ClosedEmpty

variable (hempty : ledger.events replay.registrationId = [])
  (hentry : EntryAccepted registration entry)

include hempty hentry

theorem entryStored_status : ChainStatus registration
    ((entryStored ledger registration replay entry).events replay.registrationId) .open_ := by
  rw [entryStored_chain registration entry hempty]
  exact chainStatus_first.mpr (entry_fits.mpr ⟨hentry, rfl⟩)

theorem exit_fits_entryStored (hreason : exit.reason = some reason) : EventFits registration
    ((entryStored ledger registration replay entry).events replay.registrationId) .open_
    exit.observedAt (exitExpectation replay exit reason).body next ↔
      ExitAccepted registration entry exit ∧ next = .closed := by
  rw [entryStored_chain registration entry hempty, exit_fits entry (replayLineage replay) rfl rfl hentry.after_decision hreason]
  have hsame : replay.replayId = (replayLineage replay).replayId := rfl
  exact ⟨fun ⟨h, _, hn⟩ => ⟨h, hn⟩, fun ⟨h, hn⟩ => ⟨h, fun _ => hsame, hn⟩⟩

variable (hregistration : ledger.getRegistration replay.registrationId = .ok registration)

include hregistration

theorem appendEntry_empty : appendExpected replay.registrationId (entryExpectation replay entry) ledger =
    (.ok (nextEvent registration [] entry.observedAt (entryExpectation replay entry).body),
      entryStored ledger registration replay entry) := by
  have hfits : EventFits registration (ledger.events replay.registrationId) .alerted
      (entryExpectation replay entry).occurredAt (entryExpectation replay entry).body .open_ := by
    rw [hempty]
    exact entry_fits.mpr ⟨hentry, rfl⟩
  have happend := appendExpected_of_fits (entryExpectation replay entry) hregistration
    (emptyChain_status hempty) hfits
  rw [happend, hempty]
  rfl

variable (hreason : exit.reason = some reason) (hexpected : ExpectedShape replay
  [entryExpectation replay entry, exitExpectation replay exit reason])

include hreason hexpected

theorem reconcile_closed_accepted (hexit : ExitAccepted registration entry exit) :
    ∃ first second, reconcilePaperOutcome replay ledger =
        (.ok (reconciledResult replay [] [first, second]),
          (entryStored ledger registration replay entry).storeEvent replay.registrationId second) ∧
      first = nextEvent registration [] entry.observedAt (entryExpectation replay entry).body ∧
      second = nextEvent registration [first] exit.observedAt
        (exitExpectation replay exit reason).body := by
  have hfirst := appendEntry_empty hempty hentry hregistration
  have hsecond := appendExpected_of_fits (exitExpectation replay exit reason)
    (entryStored_registered entry hregistration) (entryStored_status hempty hentry)
    ((exit_fits_entryStored hempty hentry hreason).mpr ⟨hexit, rfl⟩)
  rw [entryStored_chain registration entry hempty] at hsecond
  refine ⟨_, _, ?_, rfl, rfl⟩
  rw [reconcile_empty hregistration hempty hexpected,
    bind_of_ok (forItems_cons_of_ok hfirst (forItems_cons_of_ok hsecond rfl))]
  rfl

/-- The entry stays behind when the exit after it is rejected. -/
theorem reconcile_exit_rejected (hexit : ¬ExitAccepted registration entry exit) :
    reconcilePaperOutcome replay ledger =
      (.error (.reconciliation "paper ledger append failed"),
        entryStored ledger registration replay entry) := by
  have hfirst := appendEntry_empty hempty hentry hregistration
  have hsecond := appendExpected_of_not_fits (exitExpectation replay exit reason)
    (entryStored_registered entry hregistration) (entryStored_status hempty hentry)
    fun next hfits => hexit ((exit_fits_entryStored hempty hentry hreason).mp hfits).1
  rw [reconcile_empty hregistration hempty hexpected,
    bind_of_error (forItems_cons_of_rest_error hfirst (forItems_cons_of_error hsecond))]

end ClosedEmpty

theorem reconcileUndecided_store (replay : PaperOutcomeReplay) (ledger : LocalPaperTradeLedger) :
    (reconcileUndecided replay ledger).2 = ledger :=
  Within.bind (R := fun s t => t = s) (Within.read _) (fun _ => Within.pure _) ledger

theorem forItems_append_error {registrationId : Digest} {wants : List ExpectedEvent} {e : PaperError}
    (hshort : wants.length ≤ 1)
    (h : forItems (appendExpected registrationId) wants ledger = (.error e, after)) : after = ledger := by
  match wants with
  | [] => cases (Prod.mk.inj h).1
  | [want] =>
    rcases bind_run_error.mp h with hfail | ⟨event, stored, -, h⟩
    · exact appendExpected_error hfail
    · cases (Prod.mk.inj h).1
  | first :: second :: rest => simp at hshort

/-- A failure that leaves anything behind leaves the entry of a closed replay, whose exit the rules
reject. -/
theorem reconcile_error {e : PaperError}
    (h : reconcilePaperOutcome replay ledger = (.error e, after)) :
    after = ledger ∨ ∃ registration entry exit, EntryWithoutExit ledger replay registration entry exit ∧
      after = entryStored ledger registration replay entry := by
  unfold reconcilePaperOutcome at h
  split at h
  next =>
    have hstore := reconcileUndecided_store replay ledger
    rw [h] at hstore
    exact .inl hstore
  next =>
    have hwhole := h
    rcases reconcileDecided_reached h with ⟨hsame, -⟩ |
      ⟨registration, status, expected, hregistration, hchain, hexpected, hmatch⟩
    · exact .inl hsame
    rw [reconcileDecided_match hregistration hexpected.expectedEvents_eq hchain hmatch] at h
    have hfail : forItems (appendExpected replay.registrationId)
        (expected.drop (ledger.events replay.registrationId).length) ledger = (.error e, after) := by
      rcases bind_run_error.mp h with hfail | ⟨appended, stored, -, h⟩
      · exact hfail
      · cases (Prod.mk.inj h).1
    by_cases hshort : (expected.drop (ledger.events replay.registrationId).length).length ≤ 1
    · exact .inl (forItems_append_error hshort hfail)
    rw [List.length_drop] at hshort
    cases hexpected with
    | expired => simp only [List.length_singleton] at hshort; omega
    | opened => simp only [List.length_singleton] at hshort; omega
    | closed status_eq entry exit reason entry_eq exit_eq reason_eq =>
      have hexpected : ExpectedShape replay
          [entryExpectation replay entry, exitExpectation replay exit reason] :=
        .closed status_eq entry exit reason entry_eq exit_eq reason_eq
      have hempty : ledger.events replay.registrationId = [] := by
        simp only [List.length_cons, List.length_nil] at hshort
        exact List.length_eq_zero_iff.mp (by omega)
      have hrun : reconcilePaperOutcome replay ledger = (.error e, after) := by
        unfold reconcilePaperOutcome
        rw [if_neg hexpected.decided, hwhole]
      by_cases hentry : EntryAccepted registration entry
      · by_cases hexit : ExitAccepted registration entry exit
        · obtain ⟨first, second, hok, -⟩ := reconcile_closed_accepted hempty hentry hregistration
            reason_eq hexpected hexit
          rw [hok] at hrun
          cases (Prod.mk.inj hrun).1
        · rw [reconcile_exit_rejected hempty hentry hregistration reason_eq hexpected hexit] at hrun
          exact .inr ⟨registration, entry, exit, ⟨hregistration, hempty, status_eq, entry_eq, exit_eq,
            by simp [reason_eq], hentry, hexit⟩, (Prod.mk.inj hrun).2.symm⟩
      · rw [reconcile_first_rejected hregistration hempty hexpected
          fun next hfits => hentry (entry_fits.mp hfits).1] at hrun
        exact .inl (Prod.mk.inj hrun).2.symm

theorem EntryWithoutExit.reconcile_eq (h : EntryWithoutExit ledger replay registration entry exit) :
    reconcilePaperOutcome replay ledger =
      (.error (.reconciliation "paper ledger append failed"),
        entryStored ledger registration replay entry) := by
  obtain ⟨reason, hreason⟩ := Option.ne_none_iff_exists'.mp h.has_reason
  exact reconcile_exit_rejected h.empty h.entry_accepted h.registered hreason
    (.closed h.closed entry exit reason h.entry_eq h.exit_eq hreason) h.exit_rejected

/-- Reconciliation that raises leaves the ledger as it was, except that the entry of a closed replay
stays on an empty chain exactly when the ledger takes it and rejects the exit after it. -/
theorem reconcile_failure_leaves_entry_only (ledger : LocalPaperTradeLedger)
    (replay : PaperOutcomeReplay) :
    (∀ e after, reconcilePaperOutcome replay ledger = (.error e, after) →
      after = ledger ∨ ∃ registration entry exit,
        EntryWithoutExit ledger replay registration entry exit ∧
          after = entryStored ledger registration replay entry) ∧
    ∀ registration entry exit, EntryWithoutExit ledger replay registration entry exit →
      reconcilePaperOutcome replay ledger =
        (.error (.reconciliation "paper ledger append failed"),
          entryStored ledger registration replay entry) :=
  ⟨fun _ _ h => reconcile_error h, fun _ _ _ h => h.reconcile_eq⟩

end IndiaSwing
