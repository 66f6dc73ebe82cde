import IndiaSwing.ResolverLedger

namespace IndiaSwing

open ExceptGuards
open PartialWrites PartialWrites.Writes

variable {ctx : DecimalContext} {registration : PaperTradeRegistration}
variable {binding : PaperInstrumentBinding} {calendar : CalendarSnapshot}
variable {policy : PaperOutcomePolicy} {observations extended : List PaperOutcomeObservation}
variable {t1 t2 : Instant} {replay r1 r2 : PaperOutcomeReplay}
variable {entry exit : PaperOutcomeFill} {ledger : LocalPaperTradeLedger}

/-- Reconciliation of a replay adds its exit, and nothing else, to a chain, which ends closed. -/
def ExitResumed (replay : PaperOutcomeReplay) (ledger : LocalPaperTradeLedger)
    (exit : PaperOutcomeFill) : Prop :=
  ∃ result after event reason, reconcilePaperOutcome replay ledger = (.ok result, after) ∧
    result.appendedEventIds = [event.eventId] ∧
    after.events replay.registrationId = ledger.events replay.registrationId ++ [event] ∧
    exit.reason = some reason ∧ event.occurredAt = exit.observedAt ∧
    event.body = (exitExpectation replay exit reason).body ∧
    summaryStatus (after.events replay.registrationId) = .closed

/-- What the ledger asks of an exit that resumes a chain whose entry another replay stored. -/
def ExitResumable (registration : PaperTradeRegistration) (r1 r2 : PaperOutcomeReplay)
    (entry exit : PaperOutcomeFill) : Prop :=
  entry.observedAt ≤ exit.observedAt ∧ (exit.marketSession = entry.marketSession →
    exit.reason = some .stop ∧ exit.price.val ≤ registration.stop ∧ r2.replayId = r1.replayId)

/-- The stored entry of one replay matches the entry of another that names the same inputs. -/
theorem chainMatches_entry {event : PaperTradeEvent} {rest : List ExpectedEvent}
    (hnames1 : ReplayNames registration binding calendar policy t1 r1)
    (hnames2 : ReplayNames registration binding calendar policy t2 r2)
    (htime : event.occurredAt = entry.observedAt) (hbody : event.body = (entryExpectation r1 entry).body) :
    ChainMatches [event] (entryExpectation r2 entry :: rest) := by
  refine ⟨by simp, fun pair hpair => ?_⟩
  obtain rfl : pair = (event, entryExpectation r2 entry) := by simpa using hpair
  refine ⟨htime, ?_⟩
  rw [if_pos (by rfl), hbody]
  simp only [entryExpectation, replayLineage, PaperTradeEventBody.withoutReplayId, Option.map_some,
    hnames1.policyId, hnames2.policyId, hnames1.bindingId, hnames2.bindingId,
    hnames1.calendarSnapshotId, hnames2.calendarSnapshotId]

/-- After a crash between entry and exit a later replay of the same trade appends exactly the missing
exit, unless the ledger rejects the exit: then it raises and leaves the chain alone. -/
theorem reconcile_after_interruption {fresh : LocalPaperTradeLedger} {event : PaperTradeEvent}
    (hobs : observations.Sublist extended) (hle : t1 ≤ t2)
    (h1 : replayPaperOutcome ctx registration binding calendar policy observations t1 = .ok r1)
    (h2 : replayPaperOutcome ctx registration binding calendar policy extended t2 = .ok r2)
    (hclosed : r1.status = .closed) (hentry : r1.entry = some entry) (hexit : r1.exit = some exit)
    (hregistration : fresh.getRegistration registration.registrationId = .ok registration)
    (hempty : fresh.events registration.registrationId = [])
    (happend : appendExpected registration.registrationId (entryExpectation r1 entry) fresh =
      (.ok event, ledger)) :
    (ExitResumed r2 ledger exit ↔ ExitResumable registration r1 r2 entry exit) ∧
      (¬ExitResumable registration r1 r2 entry exit → reconcilePaperOutcome r2 ledger =
        (.error (.reconciliation "paper ledger append failed"), ledger)) := by
  have hnames1 := replayPaperOutcome_names h1
  have hnames2 := replayPaperOutcome_names h2
  have hid := hnames2.registrationId
  obtain ⟨hclosed2, hentry2, hexit2⟩ := (replayPaperOutcome_extended hobs hle h1 h2).closed hclosed
  have hfollows := replay_exit_follows h1 hclosed hentry hexit
  obtain ⟨reason, hreason⟩ := Option.ne_none_iff_exists'.mp hfollows.has_reason
  have hexpected : ExpectedShape r2 [entryExpectation r2 entry, exitExpectation r2 exit reason] :=
    .closed hclosed2 entry exit reason (hentry2.trans hentry) (hexit2.trans hexit) hreason
  -- the state in which the crash left the chain
  obtain ⟨registration', status, next, hregistration', hchain, hfits, hevent, hstored⟩ :=
    append_ok (appendExpected_ok happend)
  obtain rfl := Except.ok.inj (hregistration.symm.trans hregistration')
  rw [hempty] at hchain hfits hevent
  obtain rfl : status = .alerted := hchain.unique rfl
  obtain ⟨haccepted, rfl⟩ := entry_fits.mp hfits
  have hevents : ledger.events r2.registrationId = [event] := by
    rw [hid, hstored, storeEvent_events, hempty, List.nil_append]
  have hregistered : ledger.getRegistration r2.registrationId = .ok registration := by
    rw [hid, hstored, storeEvent_getRegistration, hregistration]
  have hopen : ChainStatus registration (ledger.events r2.registrationId) .open_ := by
    rw [hevents, hevent]
    exact chainStatus_first.mpr (entry_fits.mpr ⟨haccepted, rfl⟩)
  have hmatch : ChainMatches (ledger.events r2.registrationId)
      [entryExpectation r2 entry, exitExpectation r2 exit reason] := by
    rw [hevents]
    exact chainMatches_entry hnames1 hnames2 (by rw [hevent]; rfl) (by rw [hevent]; rfl)
  have hrun : reconcilePaperOutcome r2 ledger =
      (forItems (appendExpected r2.registrationId) [exitExpectation r2 exit reason] >>= fun appended =>
        pure (reconciledResult r2 [event] appended)) ledger := by
    unfold reconcilePaperOutcome
    rw [if_neg hexpected.decided, reconcileDecided_match hregistered hexpected.expectedEvents_eq hopen
      hmatch, hevents]
    rfl
  have hresumable : ∀ next, EventFits registration (ledger.events r2.registrationId) .open_
      exit.observedAt (exitExpectation r2 exit reason).body next ↔
        ExitResumable registration r1 r2 entry exit ∧ next = .closed := by
    intro next
    rw [hevents, exit_fits entry (replayLineage r1) (by rw [hevent]; rfl)
      (by rw [hevent]; rfl) haccepted.after_decision hreason]
    constructor
    · rintro ⟨hexit, hreplay, hnext⟩
      refine ⟨⟨hexit.known_later, fun hsame => ?_⟩, hnext⟩
      exact ⟨(hexit.same_session hsame).1, (hexit.same_session hsame).2, hreplay hsame⟩
    · rintro ⟨⟨hknown, hsame⟩, hnext⟩
      refine ⟨⟨hknown, hfollows.session_le, fun h => ?_, hfollows.later_evidence⟩, fun h => ?_, hnext⟩
      · exact ⟨(hsame h).1, (hsame h).2.1⟩
      · exact (hsame h).2.2
  have hrejected : ¬ExitResumable registration r1 r2 entry exit → reconcilePaperOutcome r2 ledger =
      (.error (.reconciliation "paper ledger append failed"), ledger) := by
    intro hno
    have hfail := appendExpected_of_not_fits (exitExpectation r2 exit reason) hregistered hopen
      fun next hfits => hno ((hresumable next).mp hfits).1
    rw [hrun, bind_of_error (forItems_cons_of_error hfail)]
  refine ⟨⟨fun hresumed => ?_, fun hyes => ?_⟩, hrejected⟩
  · by_contra hno
    obtain ⟨result, after, stored, reason', hok, -⟩ := hresumed
    rw [hrejected hno] at hok
    cases (Prod.mk.inj hok).1
  · have hfits := (hresumable .closed).mpr ⟨hyes, rfl⟩
    have happend2 := appendExpected_of_fits (exitExpectation r2 exit reason) hregistered hopen
      hfits
    refine ⟨_, _, nextEvent registration (ledger.events r2.registrationId) exit.observedAt
      (exitExpectation r2 exit reason).body, reason,
      (hrun.trans (bind_of_ok (forItems_cons_of_ok happend2 rfl))).trans pure_run, rfl,
      storeEvent_events _, hreason, rfl, rfl, ?_⟩
    rw [storeEvent_events]
    exact ((chainStatus_nextEvent hopen).mpr hfits).shape.summaryStatus_eq

/-- The ledger of a trade whose entry was appended before a crash. -/
def interruptedLedger (registration : PaperTradeRegistration) (replay : PaperOutcomeReplay) :
    Option (PaperTradeEvent × LocalPaperTradeLedger) :=
  replay.entry.bind fun entry =>
    match appendExpected registration.registrationId (entryExpectation replay entry)
        (freshLedger registration) with
    | (.ok event, ledger) => some (event, ledger)
    | (.error _, _) => none

theorem interruptedLedger_some {event : PaperTradeEvent}
    (h : interruptedLedger registration replay = some (event, ledger)) :
    ∃ entry, replay.entry = some entry ∧
      appendExpected registration.registrationId (entryExpectation replay entry)
        (freshLedger registration) = (.ok event, ledger) := by
  obtain ⟨entry, hentry, h⟩ := Option.bind_eq_some_iff.mp h
  refine ⟨entry, hentry, ?_⟩
  split at h
  next event' ledger' hrun =>
    obtain ⟨rfl, rfl⟩ := Prod.mk.inj (Option.some.inj h)
    exact hrun
  next => cases h

/-- The sample trade, interrupted on the evening of its target and replayed ten minutes later. -/
theorem reconcile_after_interruption_sample : ∃ r1 r2 entry exit event ledger,
    sampleReplay (sampleRegistration 1 2 (by decide)) (istInstant 102 1100) = .ok r1 ∧
      sampleReplay (sampleRegistration 1 2 (by decide)) (istInstant 102 1110) = .ok r2 ∧
      appendExpected 1 (entryExpectation r1 entry) (freshLedger (sampleRegistration 1 2 (by decide))) =
        (.ok event, ledger) ∧
      ((ExitResumed r2 ledger exit ↔
          ExitResumable (sampleRegistration 1 2 (by decide)) r1 r2 entry exit) ∧
        (¬ExitResumable (sampleRegistration 1 2 (by decide)) r1 r2 entry exit →
          reconcilePaperOutcome r2 ledger =
            (.error (.reconciliation "paper ledger append failed"), ledger))) := by
  obtain ⟨r1, h1, hr1⟩ := exists_ok_of_any
    (x := sampleReplay (sampleRegistration 1 2 (by decide)) (istInstant 102 1100))
    (p := fun replay => replay.status = .closed ∧
      (interruptedLedger (sampleRegistration 1 2 (by decide)) replay).isSome) (by decide +kernel)
  obtain ⟨hclosed, hsome⟩ := of_decide_eq_true hr1
  obtain ⟨r2, h2, -⟩ := exists_ok_of_any
    (x := sampleReplay (sampleRegistration 1 2 (by decide)) (istInstant 102 1110))
    (p := fun replay => replay.status = .closed) (by decide +kernel)
  obtain ⟨⟨event, ledger⟩, hledger⟩ := Option.isSome_iff_exists.mp hsome
  obtain ⟨entry, hentry, happend⟩ := interruptedLedger_some hledger
  have hfills := r1.fills
  rw [hclosed] at hfills
  obtain ⟨exit, hexit⟩ := Option.ne_none_iff_exists'.mp hfills.2
  exact ⟨r1, r2, entry, exit, event, ledger, h1, h2, happend,
    reconcile_after_interruption (List.Sublist.refl _) (by decide) h1 h2 hclosed hentry hexit
      (freshLedger_registered _) rfl happend⟩

theorem stopLow_pos : (0 : ℚ) < 94 := by decide +kernel

theorem stopClose_pos : (0 : ℚ) < 96 := by decide +kernel

/-- Day 101, on which the entry fills and the stop is touched. -/
def stopObservation : PaperOutcomeObservation :=
  ⟨6, 5, 101, istInstant 101 930, istInstant 101 1080, "INFY", "EQ", "INE009A01021",
    some ⟨7, 101, 103, 94, 96, 100000, entryOpen_pos, entryHigh_pos, stopLow_pos, stopClose_pos,
      by decide +kernel, by decide +kernel, observedVolume_pos⟩, entry_known⟩

def stopReplay (asOf : Instant) : Except PaperError PaperOutcomeReplay :=
  replayPaperOutcome .exact (sampleRegistration 1 2 sampleHolding_pos) (sampleBinding 1) sampleCalendar
    .default [stopObservation] asOf

/-- A stop on the entry session must name the replay that stored the entry, so a replay at a later
cutoff cannot append it. -/
theorem sameSession_stop_not_resumed : ∃ r1 r2 entry exit event ledger,
    stopReplay (istInstant 101 1100) = .ok r1 ∧ stopReplay (istInstant 101 1110) = .ok r2 ∧
      r1.status = .closed ∧ r1.entry = some entry ∧ r1.exit = some exit ∧
      appendExpected 1 (entryExpectation r1 entry) (freshLedger (sampleRegistration 1 2 (by decide))) =
        (.ok event, ledger) ∧
      ¬ExitResumed r2 ledger exit := by
  obtain ⟨r1, h1, hr1⟩ := exists_ok_of_any (x := stopReplay (istInstant 101 1100))
    (p := fun r1 => r1.status = .closed ∧
      (interruptedLedger (sampleRegistration 1 2 (by decide)) r1).any fun stored =>
        (stopReplay (istInstant 101 1110)).toOption.any fun r2 =>
          (reconcilePaperOutcome r2 stored.2).1 =
            .error (.reconciliation "paper ledger append failed")) (by decide +kernel)
  obtain ⟨hclosed, hstored⟩ := of_decide_eq_true hr1
  obtain ⟨⟨event, ledger⟩, hledger, hr2⟩ := Option.any_eq_true _ _ |>.mp hstored
  obtain ⟨r2, h2, herror⟩ := exists_ok_of_any hr2
  obtain ⟨entry, hentry, happend⟩ := interruptedLedger_some hledger
  have hfills := r1.fills
  rw [hclosed] at hfills
  obtain ⟨exit, hexit⟩ := Option.ne_none_iff_exists'.mp hfills.2
  refine ⟨r1, r2, entry, exit, event, ledger, h1, h2, hclosed, hentry, hexit, happend, ?_⟩
  rintro ⟨result, after, stored, reason, hok, -⟩
  rw [hok] at herror
  cases of_decide_eq_true herror

end IndiaSwing
