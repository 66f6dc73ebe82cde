import IndiaSwing.LedgerRuns
import IndiaSwing.Reconciliation

namespace IndiaSwing

open ExceptGuards
open PartialWrites PartialWrites.Writes

variable {ledger after : LocalPaperTradeLedger} {replay : PaperOutcomeReplay}
variable {registration : PaperTradeRegistration} {status : PaperTradeStatus}
variable {registrationId : Digest}

/-- Whatever each append keeps, reconciliation keeps. -/
theorem reconcilePaperOutcome_within {R : LocalPaperTradeLedger → LocalPaperTradeLedger → Prop}
    [Std.Refl R] [IsTrans LocalPaperTradeLedger R]
    (happend : ∀ want, Within R (appendExpected replay.registrationId want)) :
    Within R (reconcilePaperOutcome replay) := by
  unfold reconcilePaperOutcome
  split
  · exact Within.bind (Within.read _) fun _ => Within.pure _
  · intro ledger
    rcases hrun : reconcileDecided replay ledger with ⟨x, after⟩
    rcases reconcileDecided_reached hrun with ⟨rfl, -⟩ |
      ⟨registration, status, expected, hregistration, hchain, hexpected, hmatch⟩
    · exact Std.Refl.refl _
    · rw [reconcileDecided_match hregistration hexpected.expectedEvents_eq hchain hmatch] at hrun
      have hwithin := Within.bind
        (Within.forItems (R := R) (appendExpected replay.registrationId)
          (expected.drop (ledger.events replay.registrationId).length) fun want _ => happend want)
        (fun appended => Within.pure
          (reconciledResult replay (ledger.events replay.registrationId) appended)) ledger
      rw [hrun] at hwithin
      exact hwithin

theorem appendExpected_grows (want : ExpectedEvent) :
    Within LedgerGrows (appendExpected registrationId want) :=
  Within.mapError _ (Within.update fun _ _ _ happend => (LedgerStep.append happend).grows)

theorem reconcilePaperOutcome_grows : Within LedgerGrows (reconcilePaperOutcome replay) :=
  reconcilePaperOutcome_within appendExpected_grows

/-- The chains of other registrations, and the registrations, stay as they are. -/
def SameElsewhere (registrationId : Digest) (ledger after : LocalPaperTradeLedger) : Prop :=
  after.registrations = ledger.registrations ∧
    ∀ other, other ≠ registrationId → after.events other = ledger.events other

instance : Std.Refl (SameElsewhere registrationId) := ⟨fun _ => ⟨rfl, fun _ _ => rfl⟩⟩

instance : IsTrans LocalPaperTradeLedger (SameElsewhere registrationId) :=
  ⟨fun _ _ _ h h' => ⟨h'.1.trans h.1, fun other hother => (h'.2 other hother).trans (h.2 other hother)⟩⟩

theorem appendExpected_sameElsewhere (want : ExpectedEvent) :
    Within (SameElsewhere registrationId) (appendExpected registrationId want) := by
  refine Within.mapError _ (Within.update fun ledger event after happend => ?_)
  obtain ⟨-, -, -, -, -, -, -, rfl⟩ := append_ok happend
  exact ⟨rfl, fun other hother => storeEvent_events_ne _ hother⟩

theorem reconcilePaperOutcome_sameElsewhere :
    Within (SameElsewhere replay.registrationId) (reconcilePaperOutcome replay) :=
  reconcilePaperOutcome_within appendExpected_sameElsewhere

/-- Appending a list of events that all fit extends the chain by exactly their bodies. -/
theorem forItems_append_ok {wants : List ExpectedEvent} {appended : List PaperTradeEvent}
    (h : forItems (appendExpected registrationId) wants ledger = (.ok appended, after))
    (hregistration : ledger.getRegistration registrationId = .ok registration)
    (hchain : ChainStatus registration (ledger.events registrationId) status) :
    after.events registrationId = ledger.events registrationId ++ appended ∧
      appended.map (·.body) = wants.map (·.body) ∧
      ∃ final, ChainStatus registration (after.events registrationId) final := by
  induction wants generalizing ledger status appended with
  | nil =>
    obtain ⟨happended, rfl⟩ := Prod.mk.inj h
    obtain rfl := Except.ok.inj happended
    exact ⟨(List.append_nil _).symm, rfl, status, hchain⟩
  | cons want wants ih =>
    obtain ⟨event, middle, rest, hevent, hrest, rfl⟩ := forItems_cons_ok h
    obtain ⟨registration', before, next, hregistration', hbefore, hfits, hevent', rfl⟩ :=
      append_ok (appendExpected_ok hevent)
    obtain rfl := Except.ok.inj (hregistration.symm.trans hregistration')
    have hnext : ChainStatus registration
        ((ledger.storeEvent registrationId event).events registrationId) next := by
      rw [storeEvent_events, hevent']
      exact (chainStatus_nextEvent hbefore).mpr hfits
    obtain ⟨hevents, hbodies, hfinal⟩ := ih hrest hregistration hnext
    refine ⟨?_, ?_, hfinal⟩
    · rw [hevents, storeEvent_events, List.append_assoc, List.singleton_append]
    · rw [List.map_cons, List.map_cons, hbodies, hevent']
      rfl

/-- The kind of an event decides the status of the chain that it ends. -/
theorem ChainShape.last {events : List PaperTradeEvent} {event : PaperTradeEvent}
    (h : ChainShape (events ++ [event]) status) :
    (event.body.isEntry = true → status = .open_) ∧ (event.body.isExit = true → status = .closed) ∧
      (event.body.isExpired = true → status = .expired) := by
  generalize hwhole : events ++ [event] = whole at h
  have hlast : whole.getLast? = some event := by rw [← hwhole, List.getLast?_concat]
  cases h with
  | unrecorded => simp at hlast
  | entered entry isEntry =>
    obtain rfl : entry = event := by simpa using hlast
    cases hbody : entry.body <;> simp_all [PaperTradeEventBody.isEntry, PaperTradeEventBody.isExit,
      PaperTradeEventBody.isExpired]
  | exited entry exit isEntry isExit =>
    obtain rfl : exit = event := by simpa using hlast
    cases hbody : exit.body <;> simp_all [PaperTradeEventBody.isEntry, PaperTradeEventBody.isExit,
      PaperTradeEventBody.isExpired]
  | expired event' isExpired =>
    obtain rfl : event' = event := by simpa using hlast
    cases hbody : event'.body <;> simp_all [PaperTradeEventBody.isEntry, PaperTradeEventBody.isExit,
      PaperTradeEventBody.isExpired]
  | invalidated event' isInvalidated =>
    obtain rfl : event' = event := by simpa using hlast
    cases hbody : event'.body <;> simp_all [PaperTradeEventBody.isEntry, PaperTradeEventBody.isExit,
      PaperTradeEventBody.isExpired, PaperTradeEventBody.isInvalidated]
  | enteredInvalidated entry event' isEntry isInvalidated =>
    obtain rfl : event' = event := by simpa using hlast
    cases hbody : event'.body <;> simp_all [PaperTradeEventBody.isEntry, PaperTradeEventBody.isExit,
      PaperTradeEventBody.isExpired, PaperTradeEventBody.isInvalidated]

/-- The status in which a decided replay leaves its chain. -/
def settledStatus : PaperOutcomeStatus → Option PaperTradeStatus
  | .open_ => some .open_
  | .closed => some .closed
  | .expired => some .expired
  | .waiting | .blocked => none

/-- Events of one type. -/
def SameKind (a b : PaperTradeEventBody) : Prop :=
  a.isEntry = b.isEntry ∧ a.isExit = b.isExit ∧ a.isExpired = b.isExpired

theorem sameKind_of_withoutReplayId {a b : PaperTradeEventBody}
    (h : a.withoutReplayId = b.withoutReplayId) : SameKind a b := by
  cases a <;> cases b <;> first | exact ⟨rfl, rfl, rfl⟩ | cases h

theorem EventMatches.sameKind {existing : PaperTradeEvent} {want : ExpectedEvent}
    (h : EventMatches existing want) : SameKind existing.body want.body := by
  obtain ⟨-, hbody⟩ := h
  split at hbody
  next => exact sameKind_of_withoutReplayId hbody
  next =>
    rw [hbody]
    exact ⟨rfl, rfl, rfl⟩

/-- A chain that starts as expected and goes on as expected ends in the expected type of event. -/
theorem chain_last_sameKind {existing appended : List PaperTradeEvent} {front : List ExpectedEvent}
    {want : ExpectedEvent} (hmatch : ChainMatches existing (front ++ [want]))
    (hbodies : appended.map (·.body) = ((front ++ [want]).drop existing.length).map (·.body)) :
    ∃ before last, existing ++ appended = before ++ [last] ∧ SameKind last.body want.body := by
  obtain ⟨hlength, hpairs⟩ := hmatch
  have hcount : appended.length = front.length + 1 - existing.length := by
    have := congrArg List.length hbodies
    simpa using this
  rw [List.length_append, List.length_singleton] at hlength
  rcases Nat.lt_or_ge existing.length (front.length + 1) with hshort | hlong
  · have hne : appended ≠ [] := by
      intro hnil
      rw [hnil, List.length_nil] at hcount
      omega
    have hdrop : (front ++ [want]).drop existing.length = front.drop existing.length ++ [want] :=
      List.drop_append_of_le_length (by omega)
    refine ⟨existing ++ appended.dropLast, appended.getLast hne, ?_, ?_⟩
    · rw [List.append_assoc, List.dropLast_append_getLast]
    · have hlast := congrArg List.getLast? hbodies
      rw [hdrop, List.map_append, List.map_singleton, List.getLast?_concat, List.getLast?_map,
        List.getLast?_eq_some_getLast hne, Option.map_some, Option.some.injEq] at hlast
      rw [hlast]
      exact ⟨rfl, rfl, rfl⟩
  · have hnil : appended = [] := List.length_eq_zero_iff.mp (by omega)
    have hne : existing ≠ [] := by
      rintro rfl
      simp at hlong
    have hfront : existing.dropLast.length = front.length := by
      rw [List.length_dropLast]
      omega
    refine ⟨existing.dropLast, existing.getLast hne, ?_, ?_⟩
    · rw [hnil, List.append_nil, List.dropLast_append_getLast]
    · refine (hpairs (existing.getLast hne, want) ?_).sameKind
      have hzip : existing.zip (front ++ [want]) =
          existing.dropLast.zip front ++ [(existing.getLast hne, want)] := by
        conv_lhs => rw [← List.dropLast_append_getLast hne]
        exact List.zip_append hfront
      rw [hzip]
      exact List.mem_append_right _ (List.mem_singleton_self _)

theorem ExpectedShape.last {expected : List ExpectedEvent} (h : ExpectedShape replay expected) :
    ∃ front want, expected = front ++ [want] ∧
      ((replay.status = .open_ ∧ want.body.isEntry = true) ∨
        (replay.status = .closed ∧ want.body.isExit = true) ∨
        (replay.status = .expired ∧ want.body.isExpired = true)) := by
  cases h with
  | expired status_eq => exact ⟨[], _, rfl, .inr (.inr ⟨status_eq, rfl⟩)⟩
  | opened status_eq entry => exact ⟨[], _, rfl, .inl ⟨status_eq, rfl⟩⟩
  | closed status_eq entry exit => exact ⟨[_], _, rfl, .inr (.inl ⟨status_eq, rfl⟩)⟩

/-- A reconciliation that succeeds leaves the chain that it returns, in the status of the replay. -/
theorem reconcilePaperOutcome_ok {result : ReconciliationResult}
    (h : reconcilePaperOutcome replay ledger = (.ok result, after)) :
    ∃ registration status, ledger.getRegistration replay.registrationId = .ok registration ∧
      ChainStatus registration (after.events replay.registrationId) status ∧
      result.events = after.events replay.registrationId ∧
      (settledStatus replay.status = none → after = ledger) ∧
      ∀ settled ∈ settledStatus replay.status, status = settled := by
  unfold reconcilePaperOutcome at h
  split at h
  next hundecided =>
    obtain ⟨existing, middle, hread, h⟩ := bind_run_ok.mp h
    obtain ⟨hlist, rfl⟩ := Prod.mk.inj hread
    obtain ⟨hresult, rfl⟩ := Prod.mk.inj h
    obtain rfl := Except.ok.inj hresult
    have hevents : ledger.listEvents replay.registrationId = .ok existing := mapError_eq_ok.mp hlist
    obtain ⟨rfl, registration, hregistration, status, hchain⟩ := listEvents_ok hevents
    refine ⟨registration, status, hregistration, hchain, rfl, fun _ => rfl, ?_⟩
    rcases hundecided with hwaiting | hblocked
    · simp [hwaiting, settledStatus]
    · simp [hblocked, settledStatus]
  next =>
    rcases reconcileDecided_reached h with ⟨-, e, herror⟩ |
      ⟨registration, before, expected, hregistration, hchain, hexpected, hmatch⟩
    · cases herror
    rw [reconcileDecided_match hregistration hexpected.expectedEvents_eq hchain hmatch] at h
    obtain ⟨appended, middle, happended, h⟩ := bind_run_ok.mp h
    obtain ⟨hresult, rfl⟩ := Prod.mk.inj h
    obtain rfl := Except.ok.inj hresult
    obtain ⟨hevents, hbodies, final, hfinal⟩ := forItems_append_ok happended hregistration hchain
    obtain ⟨front, want, rfl, hkind⟩ := hexpected.last
    obtain ⟨start, last, hlast, hsame⟩ := chain_last_sameKind hmatch hbodies
    have hshape := hfinal.shape
    rw [hevents, hlast] at hshape
    obtain ⟨hentry, hexit, hexpired⟩ := hshape.last
    refine ⟨registration, final, hregistration, hfinal, hevents.symm, ?_, ?_⟩
    · rcases hkind with ⟨hstatus, -⟩ | ⟨hstatus, -⟩ | ⟨hstatus, -⟩ <;> simp [hstatus, settledStatus]
    · rcases hkind with ⟨hstatus, hwant⟩ | ⟨hstatus, hwant⟩ | ⟨hstatus, hwant⟩
      · simp [hstatus, settledStatus, hentry (hsame.1.trans hwant)]
      · simp [hstatus, settledStatus, hexit (hsame.2.1.trans hwant)]
      · simp [hstatus, settledStatus, hexpired (hsame.2.2.trans hwant)]

end IndiaSwing
