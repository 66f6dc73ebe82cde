import Mathlib.Logic.Relation
import IndiaSwing.PaperHistory

namespace IndiaSwing

open ExceptGuards

variable {ledger after : LocalPaperTradeLedger} {registration : PaperTradeRegistration}
variable {registrationId : Digest} {status : PaperTradeStatus}

/-- The two writes of the ledger. -/
inductive LedgerStep : LocalPaperTradeLedger → LocalPaperTradeLedger → Prop
  | append {ledger after : LocalPaperTradeLedger} {registrationId : Digest} {occurredAt : Instant}
    {body : PaperTradeEventBody} {event : PaperTradeEvent}
    (appended : ledger.append registrationId occurredAt body = .ok (event, after)) :
    LedgerStep ledger after
  | register {ledger after : LocalPaperTradeLedger} {value stored : PaperTradeRegistration}
    (registered : ledger.registerValue value = .ok (stored, after)) : LedgerStep ledger after

def LedgerGrows : LocalPaperTradeLedger → LocalPaperTradeLedger → Prop := Relation.ReflTransGen LedgerStep

instance : Std.Refl LedgerGrows := ⟨fun _ => Relation.ReflTransGen.refl⟩

instance : IsTrans LocalPaperTradeLedger LedgerGrows := ⟨fun _ _ _ h h' => Relation.ReflTransGen.trans h h'⟩

theorem LedgerStep.grows (h : LedgerStep ledger after) : LedgerGrows ledger after :=
  Relation.ReflTransGen.single h

/-- Every registered trade has a chain that the rules accept, and nothing else has events. -/
structure LedgerValid (ledger : LocalPaperTradeLedger) : Prop where
  registered : ∀ registration ∈ ledger.registrations,
    ledger.getRegistration registration.registrationId = .ok registration
  chains : ∀ registration ∈ ledger.registrations, ∃ status,
    ChainStatus registration (ledger.events registration.registrationId) status
  unregistered : ∀ registrationId,
    (∀ registration ∈ ledger.registrations, registration.registrationId ≠ registrationId) →
      ledger.events registrationId = []

theorem ledgerValid_empty : LedgerValid .empty where
  registered registration hmem := by cases hmem
  chains registration hmem := by cases hmem
  unregistered registrationId _ := rfl

theorem registerValue_ok {value stored : PaperTradeRegistration}
    (h : ledger.registerValue value = .ok (stored, after)) :
    after = ledger ∨
      (∀ registration ∈ ledger.registrations, registration.registrationId ≠ value.registrationId) ∧
        after = { ledger with registrations := ledger.registrations ++ [value] } := by
  unfold LocalPaperTradeLedger.registerValue at h
  split at h
  next found hfound =>
    split at h
    next => cases h
    next => exact .inl (Prod.mk.inj (Except.ok.inj h)).2.symm
  next hnone =>
    refine .inr ⟨fun registration hmem => ?_, (Prod.mk.inj (Except.ok.inj h)).2.symm⟩
    simpa using List.find?_eq_none.mp hnone registration hmem

/-- What a step does to a registration that is there: it stays, and its chain gets no event or one
that the rules accept. -/
theorem LedgerStep.chain (h : LedgerStep ledger after)
    (hregistration : ledger.getRegistration registrationId = .ok registration) :
    after.getRegistration registrationId = .ok registration ∧
      (after.events registrationId = ledger.events registrationId ∨
        ∃ event before next, after.events registrationId = ledger.events registrationId ++ [event] ∧
          ChainStatus registration (ledger.events registrationId) before ∧ before.terminal = false ∧
          ChainStatus registration (after.events registrationId) next) := by
  cases h with
  | @append id occurredAt body event appended =>
    obtain ⟨registration', before, next, hregistration', hchain, hfits, rfl, rfl⟩ := append_ok appended
    refine ⟨hregistration, ?_⟩
    by_cases hid : registrationId = id
    · obtain rfl := hid
      obtain rfl := Except.ok.inj (hregistration.symm.trans hregistration')
      refine .inr ⟨_, before, next, storeEvent_events _, hchain, hfits.live, ?_⟩
      rw [storeEvent_events]
      exact (chainStatus_nextEvent hchain).mpr hfits
    · exact .inl (storeEvent_events_ne _ hid)
  | register registered =>
    rcases registerValue_ok registered with rfl | ⟨hnew, rfl⟩
    · exact ⟨hregistration, .inl rfl⟩
    · refine ⟨?_, .inl rfl⟩
      unfold LocalPaperTradeLedger.getRegistration at hregistration ⊢
      split at hregistration
      next found hfound =>
        rw [List.find?_append, hfound]
        exact hregistration
      next => cases hregistration

theorem LedgerStep.valid (h : LedgerStep ledger after) (hvalid : LedgerValid ledger) :
    LedgerValid after := by
  cases h with
  | @append id occurredAt body event appended =>
    have hstep := LedgerStep.append appended
    obtain ⟨found, before, next, hfound, hchain, hfits, rfl, rfl⟩ := append_ok appended
    refine ⟨hvalid.registered, fun registration hmem => ?_, fun other hother => ?_⟩
    · obtain ⟨-, hsame | ⟨event, before, next, -, -, -, hnext⟩⟩ :=
        hstep.chain (hvalid.registered registration hmem)
      · rw [hsame]
        exact hvalid.chains registration hmem
      · exact ⟨next, hnext⟩
    · have hne : other ≠ id := by
        rintro rfl
        exact hother found (getRegistration_ok hfound).1 (getRegistration_ok hfound).2
      rw [storeEvent_events_ne _ hne]
      exact hvalid.unregistered other hother
  | @register value stored registered =>
    rcases registerValue_ok registered with rfl | ⟨hnew, rfl⟩
    · exact hvalid
    have hempty : ledger.events value.registrationId = [] := hvalid.unregistered _ hnew
    refine ⟨fun registration hmem => ?_, fun registration hmem => ?_, fun other hother => ?_⟩
    · rcases List.mem_append.mp hmem with hold | hlast
      · exact ((LedgerStep.register registered).chain (hvalid.registered registration hold)).1
      · obtain rfl := List.mem_singleton.mp hlast
        have hnone : ledger.registrations.find? (·.registrationId = registration.registrationId) =
            none := List.find?_eq_none.mpr fun other hmem => by simpa using hnew other hmem
        simp [LocalPaperTradeLedger.getRegistration, List.find?_append, hnone]
    · rcases List.mem_append.mp hmem with hold | hlast
      · exact hvalid.chains registration hold
      · obtain rfl := List.mem_singleton.mp hlast
        refine ⟨.alerted, ?_⟩
        rw [hempty]
        rfl
    · exact hvalid.unregistered other fun registration hmem =>
        hother registration (List.mem_append_left _ hmem)

section Grows

variable (hgrows : LedgerGrows ledger after)

include hgrows

theorem LedgerGrows.valid (hvalid : LedgerValid ledger) : LedgerValid after := by
  induction hgrows with
  | refl => exact hvalid
  | tail _ hstep ih => exact hstep.valid ih

theorem LedgerGrows.getRegistration
    (hregistration : ledger.getRegistration registrationId = .ok registration) :
    after.getRegistration registrationId = .ok registration := by
  induction hgrows with
  | refl => exact hregistration
  | tail _ hstep ih => exact (hstep.chain ih).1

/-- A chain that ended stays as it is. -/
theorem LedgerGrows.terminal
    (hregistration : ledger.getRegistration registrationId = .ok registration)
    (hchain : ChainStatus registration (ledger.events registrationId) status)
    (hterminal : status.terminal = true) :
    after.events registrationId = ledger.events registrationId := by
  induction hgrows with
  | refl => rfl
  | @tail middle after hbefore hstep ih =>
    have hfound := LedgerGrows.getRegistration hbefore hregistration
    obtain ⟨-, hsame | ⟨event, before, next, -, hstatus, hlive, -⟩⟩ := hstep.chain hfound
    · rw [hsame, ih]
    · rw [ih] at hstatus
      rw [hchain.unique hstatus, hlive] at hterminal
      cases hterminal

end Grows

section Summaries

variable {ctx : DecimalContext} {summary : PaperTradeSummary}

/-- A summary reads one registration and its chain. -/
theorem summary_ok (h : ledger.summary ctx registrationId = .ok summary) :
    ∃ registration, ledger.getRegistration registrationId = .ok registration ∧
      ChainStatus registration (ledger.events registrationId) summary.status ∧
      summary.eventIds = (ledger.events registrationId).map (·.eventId) := by
  unfold LocalPaperTradeLedger.summary at h
  obtain ⟨registration, hregistration, h⟩ := bind_eq_ok.mp h
  obtain ⟨events, hevents, h⟩ := bind_eq_ok.mp h
  obtain rfl := Except.ok.inj h
  obtain ⟨rfl, registration', hregistration', status, hchain⟩ := listEvents_ok hevents
  obtain rfl := Except.ok.inj (hregistration.symm.trans hregistration')
  refine ⟨registration, hregistration, ?_, rfl⟩
  show ChainStatus registration _ (summaryStatus _)
  rw [hchain.shape.summaryStatus_eq]
  exact hchain

variable (ctx) in
theorem summary_of_chain (hregistration : ledger.getRegistration registrationId = .ok registration)
    (hchain : ChainStatus registration (ledger.events registrationId) status) :
    ∃ summary, ledger.summary ctx registrationId = .ok summary ∧ summary.status = status := by
  have hevents := listEvents_of_chain hregistration hchain
  refine ⟨_, by simp only [LocalPaperTradeLedger.summary, hregistration, hevents, ok_bind]; rfl, ?_⟩
  exact hchain.shape.summaryStatus_eq

theorem summary_congr
    (hregistration : after.getRegistration registrationId = ledger.getRegistration registrationId)
    (hevents : after.events registrationId = ledger.events registrationId) :
    after.summary ctx registrationId = ledger.summary ctx registrationId := by
  cases hfound : ledger.getRegistration registrationId with
  | error e =>
    rw [hfound] at hregistration
    simp only [LocalPaperTradeLedger.summary, hregistration, hfound, error_bind]
  | ok registration =>
    rw [hfound] at hregistration
    have hid := (getRegistration_ok hfound).2
    simp only [LocalPaperTradeLedger.summary, LocalPaperTradeLedger.listEvents, hregistration, hfound,
      ok_bind, hid, hevents]

/-- The summary of a trade that ended is final. -/
theorem LedgerGrows.summary_final (hgrows : LedgerGrows ledger after)
    (h : ledger.summary ctx registrationId = .ok summary) (hterminal : summary.status.terminal = true) :
    after.summary ctx registrationId = .ok summary := by
  obtain ⟨registration, hregistration, hchain, -⟩ := summary_ok h
  rw [summary_congr, h]
  · rw [hregistration, hgrows.getRegistration hregistration]
  · exact hgrows.terminal hregistration hchain hterminal

/-- The summary of a closed trade has its P&L. -/
theorem summary_closed (h : ledger.summary ctx registrationId = .ok summary)
    (hclosed : summary.status = .closed) : summary.grossPnl ≠ none := by
  obtain ⟨_, _, hchain, _⟩ := summary_ok h
  have hshape := hchain.shape
  unfold LocalPaperTradeLedger.summary at h
  obtain ⟨registration, -, h⟩ := bind_eq_ok.mp h
  obtain ⟨events, hevents, h⟩ := bind_eq_ok.mp h
  obtain rfl := Except.ok.inj h
  obtain ⟨rfl, -⟩ := listEvents_ok hevents
  rw [hclosed] at hshape
  generalize ledger.events registrationId = events at hshape
  cases hshape with
  | exited entry exit isEntry isExit =>
    cases hentry : entry.body <;> rw [hentry] at isEntry <;> try cases isEntry
    cases hexit : exit.body <;> rw [hexit] at isExit <;> try cases isExit
    simp [recordedPrice, hentry, hexit, PaperTradeEventBody.isEntry, PaperTradeEventBody.isExit,
      PaperTradeEventBody.observedPrice]

end Summaries

end IndiaSwing
