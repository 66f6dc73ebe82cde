import IndiaSwing.OutcomeRecords
import IndiaSwing.Reconciliation
import IndiaSwing.ReconciliationRuns
import IndiaSwing.ResolverSteps

namespace IndiaSwing

open ExceptGuards (raiseIf)
open PartialWrites

/-- The two stores that an outcome job writes. -/
structure OutcomeStores where
  ledger : LocalPaperTradeLedger
  outcomes : LocalPaperOutcomeRunStore

namespace OutcomeStores

def empty : OutcomeStores := ⟨.empty, .empty⟩

def onLedger {α : Type} (x : Writes LocalPaperTradeLedger PaperError α) :
    Writes OutcomeStores PaperError α :=
  .onPart (·.ledger) (fun stores ledger => { stores with ledger }) x

def onOutcomes {α : Type} (x : Writes LocalPaperOutcomeRunStore PaperError α) :
    Writes OutcomeStores PaperError α :=
  .onPart (·.outcomes) (fun stores outcomes => { stores with outcomes }) x

end OutcomeStores

section Prepare

variable (ctx : DecimalContext) (source : PaperOutcomeEvidenceSource)

/-- The evidence of a job, replayed. -/
def replayEvidence (spec : PaperOutcomeJobSpec) (evidence : PaperOutcomeEvidence) :
    Except PaperError PaperOutcomeReplay :=
  replayPaperOutcome ctx evidence.registration evidence.binding evidence.calendar spec.policy
    evidence.observations spec.asOf

/-- The spec of a job pins the replay of its evidence, which a draft with the all-zero replay id
selects. -/
def preparePaperOutcomeJobSpec (registrationId calendarMaterializationId tickSnapshotId : Digest)
    (historicalArtifactIds : List Digest) (series validatedIsin : String) (asOf : Instant)
    (policy : PaperOutcomePolicy) : Except PaperError PaperOutcomeJobSpec :=
  Except.mapError (.failSafely "paper outcome job spec preparation failed safely") do
    let draft ← PaperOutcomeJobSpec.create registrationId calendarMaterializationId tickSnapshotId
      historicalArtifactIds series validatedIsin asOf policy (.digest 0)
    let evidence ← source draft
    raiseIf (evidence.registration.registrationId ≠ draft.registrationId ∨
      evidence.binding.registrationId ≠ draft.registrationId ∨
      evidence.binding.tickSnapshotId ≠ draft.tickSnapshotId) ⟨.valueError, ""⟩
    let replay ← replayEvidence ctx draft evidence
    PaperOutcomeJobSpec.create draft.registrationId draft.calendarMaterializationId
      draft.tickSnapshotId draft.historicalArtifactIds draft.series draft.validatedIsin draft.asOf
      draft.policy replay.replayId

end Prepare

section Run

variable (ctx : DecimalContext) (source : PaperOutcomeEvidenceSource) (spec : PaperOutcomeJobSpec)

/-- A job that has its record checks it against the ledger and writes nothing. -/
def reuseRecord (existing : PaperOutcomeRunRecord) (ledger : LocalPaperTradeLedger) :
    Except PaperError PaperOutcomeRunRecord := do
  let events ← ledger.listEvents existing.registrationId
  let observedIds := events.map (·.eventId)
  raiseIf (observedIds.take existing.eventIds.length ≠ existing.eventIds)
    (.operational "terminal record differs from paper ledger")
  let summary ← ledger.summary ctx existing.registrationId
  -- An open position may have closed since; a closed record is final.
  raiseIf ((summary.grossPnl ≠ existing.grossPnl ∨
      summary.estimatedNetPnl ≠ existing.estimatedNetPnl) ∧ existing.outcomeStatus = .closed)
    (.operational "terminal record P&L differs from paper ledger")
  return existing

/-- The evidence of a job and the replay that its spec pins. -/
def resolveJob : Except PaperError (PaperOutcomeEvidence × PaperOutcomeReplay) := do
  let evidence ← source spec
  raiseIf (evidence.registration.registrationId ≠ spec.registrationId ∨
    evidence.binding.registrationId ≠ spec.registrationId) ⟨.valueError, ""⟩
  let replay ← replayEvidence ctx spec evidence
  raiseIf (replay.replayId ≠ spec.expectedReplayId) ⟨.valueError, ""⟩
  return (evidence, replay)

/-- What a registration risks up to its stop. -/
def plannedRisk (registration : PaperTradeRegistration) : ℚ :=
  ctx.mul (ctx.sub registration.entryHigh registration.stop) registration.quantity

/-- The record of a reconciled job. -/
def recordOutcome (evidence : PaperOutcomeEvidence) (replay : PaperOutcomeReplay)
    (reconciliation : ReconciliationResult) (ledger : LocalPaperTradeLedger) :
    Except PaperError PaperOutcomeRunRecord := do
  let summary ← ledger.summary ctx spec.registrationId
  let review ← buildPaperOutcomeReview ctx replay summary (plannedRisk ctx evidence.registration)
    evidence.registration.stop
  PaperOutcomeRunRecord.create {
    jobSpecId := spec.jobSpecId
    registrationId := spec.registrationId
    symbol := evidence.registration.symbol
    replayId := replay.replayId
    bindingId := evidence.binding.bindingId
    policyId := spec.policy.policyId
    calendarSnapshotId := evidence.calendar.snapshotId
    asOf := spec.asOf
    outcomeStatus := replay.status
    reasonCode := replay.reasonCode
    sourceObservationIds := replay.sourceObservationIds
    eventIds := reconciliation.events.map (·.eventId)
    appendedEventIds := reconciliation.appendedEventIds
    grossPnl := summary.grossPnl
    estimatedNetPnl := summary.estimatedNetPnl
    review }

/-- A job without a record: it writes the ledger first and its record last. -/
def runFreshJob : Writes OutcomeStores PaperError PaperOutcomeRunRecord := do
  let (evidence, replay) ← Writes.lift (resolveJob ctx source spec)
  let reconciliation ← OutcomeStores.onLedger (reconcilePaperOutcome replay)
  let record ← Writes.read fun stores : OutcomeStores =>
    recordOutcome ctx spec evidence replay reconciliation stores.ledger
  OutcomeStores.onOutcomes (.update fun store => store.put record)

def runPaperOutcomeJob : Writes OutcomeStores PaperError PaperOutcomeRunRecord := fun stores =>
  match stores.outcomes.get spec.jobSpecId with
  | some existing => (reuseRecord ctx existing stores.ledger, stores)
  | none =>
    Writes.mapError (.failSafely "paper outcome job failed safely") (runFreshJob ctx source spec) stores

end Run

end IndiaSwing

namespace IndiaSwing

open ExceptGuards
open PartialWrites PartialWrites.Writes

variable {ctx : DecimalContext} {source : PaperOutcomeEvidenceSource} {spec : PaperOutcomeJobSpec}
variable {stores after : OutcomeStores} {record : PaperOutcomeRunRecord}
variable {ledger later : LocalPaperTradeLedger}

theorem PaperOutcomeRunRecord.create_ok {value : PaperOutcomeRunRecord}
    (h : PaperOutcomeRunRecord.create value = .ok record) : record = value := by
  unfold PaperOutcomeRunRecord.create at h
  obtain ⟨-, h⟩ := raiseIf_bind_eq_ok.mp h
  obtain ⟨-, h⟩ := raiseIf_bind_eq_ok.mp h
  obtain ⟨-, h⟩ := raiseIf_bind_eq_ok.mp h
  obtain ⟨-, h⟩ := raiseIf_bind_eq_ok.mp h
  obtain ⟨-, h⟩ := raiseIf_bind_eq_ok.mp h
  obtain ⟨-, h⟩ := raiseIf_bind_eq_ok.mp h
  obtain ⟨-, h⟩ := raiseIf_bind_eq_ok.mp h
  obtain ⟨-, h⟩ := raiseIf_bind_eq_ok.mp h
  obtain ⟨-, h⟩ := raiseIf_bind_eq_ok.mp h
  exact (Except.ok.inj h).symm

/-- What the record of a job says about its replay and its ledger. -/
structure RecordedAs (ctx : DecimalContext) (spec : PaperOutcomeJobSpec) (replay : PaperOutcomeReplay)
    (events : List PaperTradeEvent) (summary : PaperTradeSummary) (record : PaperOutcomeRunRecord) :
    Prop where
  jobSpecId : record.jobSpecId = spec.jobSpecId
  registrationId : record.registrationId = spec.registrationId
  outcomeStatus : record.outcomeStatus = replay.status
  eventIds : record.eventIds = events.map (·.eventId)
  grossPnl : record.grossPnl = summary.grossPnl
  estimatedNetPnl : record.estimatedNetPnl = summary.estimatedNetPnl

theorem recordOutcome_ok {evidence : PaperOutcomeEvidence} {replay : PaperOutcomeReplay}
    {result : ReconciliationResult}
    (h : recordOutcome ctx spec evidence replay result ledger = .ok record) :
    ∃ summary, ledger.summary ctx spec.registrationId = .ok summary ∧
      RecordedAs ctx spec replay result.events summary record := by
  unfold recordOutcome at h
  obtain ⟨summary, hsummary, h⟩ := bind_eq_ok.mp h
  obtain ⟨review, -, h⟩ := bind_eq_ok.mp h
  obtain rfl := PaperOutcomeRunRecord.create_ok h
  exact ⟨summary, hsummary, rfl, rfl, rfl, rfl, rfl, rfl⟩

theorem resolveJob_ok {evidence : PaperOutcomeEvidence} {replay : PaperOutcomeReplay}
    (h : resolveJob ctx source spec = .ok (evidence, replay)) :
    replay.registrationId = spec.registrationId := by
  unfold resolveJob at h
  obtain ⟨evidence', -, h⟩ := bind_eq_ok.mp h
  obtain ⟨hids, h⟩ := raiseIf_bind_eq_ok.mp h
  obtain ⟨replay', hreplay, h⟩ := bind_eq_ok.mp h
  obtain ⟨-, h⟩ := raiseIf_bind_eq_ok.mp h
  obtain ⟨rfl, rfl⟩ := Prod.mk.inj (Except.ok.inj h)
  have hnames := replayPaperOutcome_names (show replayPaperOutcome ctx _ _ _ _ _ _ = _ from hreplay)
  rw [hnames.registrationId]
  exact not_not.mp (not_or.mp hids).1

/-- A job that wrote its record: the ledger took its replay and the record says what the ledger then
said. -/
structure FreshJob (ctx : DecimalContext) (source : PaperOutcomeEvidenceSource)
    (spec : PaperOutcomeJobSpec) (stores after : OutcomeStores) (record : PaperOutcomeRunRecord)
    (evidence : PaperOutcomeEvidence) (replay : PaperOutcomeReplay) (summary : PaperTradeSummary) :
    Prop where
  resolved : resolveJob ctx source spec = .ok (evidence, replay)
  summary_eq : after.ledger.summary ctx spec.registrationId = .ok summary
  recorded : RecordedAs ctx spec replay (after.ledger.events spec.registrationId) summary record
  undecided : settledStatus replay.status = none → after.ledger = stores.ledger
  settled : ∀ status ∈ settledStatus replay.status, summary.status = status
  outcomes : after.outcomes = ⟨Function.update stores.outcomes.records spec.jobSpecId (some record)⟩

theorem LocalPaperOutcomeRunStore.put_ok {store store' : LocalPaperOutcomeRunStore}
    {value : PaperOutcomeRunRecord} (h : store.put value = .ok (record, store'))
    (hnew : store.get value.jobSpecId = none) :
    record = value ∧ store' = ⟨Function.update store.records value.jobSpecId (some value)⟩ := by
  unfold LocalPaperOutcomeRunStore.put at h
  rw [hnew] at h
  obtain ⟨hrecord, hstore⟩ := Prod.mk.inj (Except.ok.inj h)
  exact ⟨hrecord.symm, hstore.symm⟩

theorem runFreshJob_ok (h : runFreshJob ctx source spec stores = (.ok record, after))
    (hnew : stores.outcomes.get spec.jobSpecId = none) :
    ∃ evidence replay summary, FreshJob ctx source spec stores after record evidence replay summary := by
  obtain ⟨⟨evidence, replay⟩, start, hlift, hjob⟩ := bind_run_ok.mp h
  obtain ⟨hresolved, hstart⟩ := lift_run_ok.mp hlift
  subst hstart
  obtain ⟨result, middle, hledger, hwrite⟩ := bind_run_ok.mp hjob
  obtain ⟨ledger, hreconciled, rfl⟩ := onPart_run.mp hledger
  obtain ⟨value, middle, hread, hput⟩ := bind_run_ok.mp hwrite
  obtain ⟨hrecord, rfl⟩ := read_run_ok.mp hread
  obtain ⟨outcomes, hstored, rfl⟩ := onPart_run.mp hput
  have hid := resolveJob_ok hresolved
  obtain ⟨registration, status, hregistration, hchain, hevents, hundecided, hsettled⟩ :=
    reconcilePaperOutcome_ok hreconciled
  have hgrows : LedgerGrows start.ledger (reconcilePaperOutcome replay start.ledger).2 :=
    reconcilePaperOutcome_grows start.ledger
  rw [hreconciled] at hgrows
  obtain ⟨summary, hsummary, hrecorded⟩ := recordOutcome_ok hrecord
  rw [hid] at hregistration hchain hevents
  obtain ⟨summary', hsummary', hstatus⟩ :=
    summary_of_chain ctx (hgrows.getRegistration hregistration) hchain
  obtain rfl := Except.ok.inj (hsummary.symm.trans hsummary')
  rw [← hrecorded.jobSpecId] at hnew
  obtain ⟨rfl, hstore⟩ := LocalPaperOutcomeRunStore.put_ok (update_run_ok.mp hstored) hnew
  rw [hevents] at hrecorded
  refine ⟨evidence, replay, summary, hresolved, hsummary, hrecorded, hundecided, ?_, ?_⟩
  · rw [hstatus]
    exact hsettled
  · rw [← hrecorded.jobSpecId]
    exact hstore

/-- The ledger grows, and only at one registration. -/
def LedgerWrites (registrationId : Digest) (stores after : OutcomeStores) : Prop :=
  LedgerGrows stores.ledger after.ledger ∧ SameElsewhere registrationId stores.ledger after.ledger

instance (registrationId : Digest) : Std.Refl (LedgerWrites registrationId) :=
  ⟨fun _ => ⟨Std.Refl.refl _, Std.Refl.refl _⟩⟩

instance (registrationId : Digest) : IsTrans OutcomeStores (LedgerWrites registrationId) :=
  ⟨fun _ _ _ h h' => ⟨IsTrans.trans _ _ _ h.1 h'.1, IsTrans.trans _ _ _ h.2 h'.2⟩⟩

theorem runFreshJob_ledger :
    Within (LedgerWrites spec.registrationId) (runFreshJob ctx source spec) := by
  refine Within.bind_ok (Within.lift _) fun start pair stores hlift => ?_
  obtain ⟨evidence, replay⟩ := pair
  have hid := resolveJob_ok (lift_run_ok.mp hlift).1
  refine Within.bind ?_ (fun result => Within.bind (Within.read _) fun record => ?_) stores
  · refine Within.onPart (Q := fun ledger after => LedgerGrows ledger after ∧
      SameElsewhere spec.registrationId ledger after) (fun ledger => ?_) fun stores ledger h => h
    rw [← hid]
    exact ⟨reconcilePaperOutcome_grows ledger, reconcilePaperOutcome_sameElsewhere ledger⟩
  · exact fun stores => ⟨Std.Refl.refl _, Std.Refl.refl _⟩

/-- A job that fails has stored no record. -/
theorem runFreshJob_error {e : PaperError} (h : runFreshJob ctx source spec stores = (.error e, after))
    (hnew : stores.outcomes.get spec.jobSpecId = none) : after.outcomes = stores.outcomes := by
  rcases bind_run_error.mp h with hlift | ⟨⟨evidence, replay⟩, start, hlift, hjob⟩
  · rw [← (Prod.mk.inj hlift).2]
  obtain ⟨hresolved, hstart⟩ := lift_run_ok.mp hlift
  subst hstart
  rcases bind_run_error.mp hjob with hledger | ⟨result, middle, hledger, hwrite⟩
  · rw [← (Prod.mk.inj hledger).2]
  obtain ⟨ledger, -, rfl⟩ := onPart_run.mp hledger
  rcases bind_run_error.mp hwrite with hread | ⟨record, middle, hread, hput⟩
  · rw [← (Prod.mk.inj hread).2]
  obtain ⟨hrecord, rfl⟩ := read_run_ok.mp hread
  obtain ⟨_, _, hrecorded⟩ := recordOutcome_ok hrecord
  rw [← hrecorded.jobSpecId] at hnew
  have hstored : start.outcomes.put record =
      .ok (record, ⟨Function.update start.outcomes.records record.jobSpecId (some record)⟩) := by
    simp only [LocalPaperOutcomeRunStore.put, hnew]
  have hwritten : Writes.update (fun store : LocalPaperOutcomeRunStore => store.put record)
      start.outcomes = (.ok record, _) := update_run_ok.mpr hstored
  obtain ⟨outcomes, hfailed, -⟩ := onPart_run.mp hput
  cases (Prod.mk.inj (hwritten.symm.trans hfailed)).1

/-- What a job can do: it reuses its record, writes a new one, or fails after writes to its own
chain. -/
inductive JobRun (ctx : DecimalContext) (source : PaperOutcomeEvidenceSource)
    (spec : PaperOutcomeJobSpec) (stores : OutcomeStores) :
    Except PaperError PaperOutcomeRunRecord → OutcomeStores → Prop
  | reused (record : PaperOutcomeRunRecord)
    (found : stores.outcomes.get spec.jobSpecId = some record) :
    JobRun ctx source spec stores (reuseRecord ctx record stores.ledger) stores
  | wrote (after : OutcomeStores) (record : PaperOutcomeRunRecord) (evidence : PaperOutcomeEvidence)
    (replay : PaperOutcomeReplay) (summary : PaperTradeSummary)
    (absent : stores.outcomes.get spec.jobSpecId = none)
    (ledger : LedgerWrites spec.registrationId stores after)
    (job : FreshJob ctx source spec stores after record evidence replay summary) :
    JobRun ctx source spec stores (.ok record) after
  | failed (after : OutcomeStores) (e : PaperError)
    (ledger : LedgerWrites spec.registrationId stores after)
    (outcomes : after.outcomes = stores.outcomes) : JobRun ctx source spec stores (.error e) after

theorem runPaperOutcomeJob_cases {x : Except PaperError PaperOutcomeRunRecord}
    (h : runPaperOutcomeJob ctx source spec stores = (x, after)) :
    JobRun ctx source spec stores x after := by
  unfold runPaperOutcomeJob at h
  split at h
  next existing hfound =>
    obtain ⟨rfl, rfl⟩ := Prod.mk.inj h
    exact .reused existing hfound
  next hnone =>
    have hledger : LedgerWrites spec.registrationId stores after := by
      have hwithin : LedgerWrites spec.registrationId stores
        (runFreshJob ctx source spec stores).2 := runFreshJob_ledger stores
      rwa [show (runFreshJob ctx source spec stores).2 = after from congrArg Prod.snd h] at hwithin
    cases x with
    | ok record =>
      obtain ⟨evidence, replay, summary, hjob⟩ := runFreshJob_ok (mapError_run_ok.mp h) hnone
      exact .wrote after record evidence replay summary hnone hledger hjob
    | error e =>
      obtain ⟨e', herror, -⟩ := mapError_run_error.mp h
      exact .failed after e hledger (runFreshJob_error herror hnone)

/-- The ledger closed a trade with these events and this P&L. -/
def SettledAs (ctx : DecimalContext) (ledger : LocalPaperTradeLedger) (registrationId : Digest)
    (eventIds : List ContentId) (grossPnl estimatedNetPnl : Option ℚ) : Prop :=
  ∃ summary, ledger.summary ctx registrationId = .ok summary ∧ summary.status = .closed ∧
    summary.eventIds = eventIds ∧ summary.grossPnl = grossPnl ∧
    summary.estimatedNetPnl = estimatedNetPnl

theorem SettledAs.grows {registrationId : Digest} {eventIds : List ContentId} {gross net : Option ℚ}
    (h : SettledAs ctx ledger registrationId eventIds gross net) (hgrows : LedgerGrows ledger later) :
    SettledAs ctx later registrationId eventIds gross net := by
  obtain ⟨summary, hsummary, hclosed, hfields⟩ := h
  have hterminal : summary.status.terminal = true := by rw [hclosed]; rfl
  exact ⟨summary, hgrows.summary_final hsummary hterminal, hclosed, hfields⟩

/-- The ledger is valid, a record belongs to the registration of its job, and the record of a closed
outcome is what the ledger says. -/
structure OutcomeValid (ctx : DecimalContext) (stores : OutcomeStores) : Prop where
  ledger : LedgerValid stores.ledger
  named : ∀ (spec : PaperOutcomeJobSpec) record, stores.outcomes.get spec.jobSpecId = some record →
    record.registrationId = spec.registrationId ∧ record.jobSpecId = spec.jobSpecId
  backed : ∀ jobSpecId record, stores.outcomes.get jobSpecId = some record →
    record.outcomeStatus = .closed → SettledAs ctx stores.ledger record.registrationId
      record.eventIds record.grossPnl record.estimatedNetPnl

theorem outcomeValid_empty : OutcomeValid ctx .empty where
  ledger := ledgerValid_empty
  named spec record h := by cases h
  backed jobSpecId record h := by cases h

/-- A ledger that grew keeps the records valid. -/
theorem OutcomeValid.grows (h : OutcomeValid ctx stores) (hgrows : LedgerGrows stores.ledger later) :
    OutcomeValid ctx { stores with ledger := later } where
  ledger := hgrows.valid h.ledger
  named := h.named
  backed jobSpecId record hfound hclosed := (h.backed jobSpecId record hfound hclosed).grows hgrows

section Fresh

variable {evidence : PaperOutcomeEvidence} {replay : PaperOutcomeReplay} {summary : PaperTradeSummary}
variable (hjob : FreshJob ctx source spec stores after record evidence replay summary)

include hjob

theorem FreshJob.get_self : after.outcomes.get spec.jobSpecId = some record := by
  rw [hjob.outcomes]
  exact Function.update_self ..

theorem FreshJob.get_ne {jobSpecId : ContentId} (h : jobSpecId ≠ spec.jobSpecId) :
    after.outcomes.get jobSpecId = stores.outcomes.get jobSpecId := by
  rw [hjob.outcomes]
  exact Function.update_of_ne h ..

/-- The record of a closed outcome is what the ledger says. -/
theorem FreshJob.backed (hclosed : record.outcomeStatus = .closed) :
    SettledAs ctx after.ledger record.registrationId record.eventIds record.grossPnl
      record.estimatedNetPnl := by
  have hreplay : replay.status = .closed := hjob.recorded.outcomeStatus.symm.trans hclosed
  have hstatus : summary.status = .closed := hjob.settled .closed (by rw [hreplay]; rfl)
  obtain ⟨_, _, _, hevents⟩ := summary_ok hjob.summary_eq
  rw [hjob.recorded.registrationId, hjob.recorded.eventIds, hjob.recorded.grossPnl,
    hjob.recorded.estimatedNetPnl]
  exact ⟨summary, hjob.summary_eq, hstatus, hevents, rfl, rfl⟩

theorem FreshJob.valid (hvalid : OutcomeValid ctx stores)
    (hgrows : LedgerGrows stores.ledger after.ledger) : OutcomeValid ctx after where
  ledger := hgrows.valid hvalid.ledger
  named other value hfound := by
    by_cases hid : other.jobSpecId = spec.jobSpecId
    · rw [hid, hjob.get_self] at hfound
      obtain rfl := Option.some.inj hfound
      rw [hid, PaperOutcomeJobSpec.registrationId_of_jobSpecId hid]
      exact ⟨hjob.recorded.registrationId, hjob.recorded.jobSpecId⟩
    · rw [hjob.get_ne hid] at hfound
      exact hvalid.named other value hfound
  backed jobSpecId value hfound hclosed := by
    by_cases hid : jobSpecId = spec.jobSpecId
    · rw [hid, hjob.get_self] at hfound
      obtain rfl := Option.some.inj hfound
      exact hjob.backed hclosed
    · rw [hjob.get_ne hid] at hfound
      exact (hvalid.backed jobSpecId value hfound hclosed).grows hgrows

end Fresh

theorem runPaperOutcomeJob_valid :
    Within (Keeps (OutcomeValid ctx)) (runPaperOutcomeJob ctx source spec) := by
  intro stores hvalid
  rcases hrun : runPaperOutcomeJob ctx source spec stores with ⟨x, after⟩
  show OutcomeValid ctx after
  cases runPaperOutcomeJob_cases hrun with
  | reused record found => exact hvalid
  | wrote after record evidence replay summary absent ledger job => exact job.valid hvalid ledger.1
  | failed after e ledger outcomes =>
    have hsame : after = { stores with ledger := after.ledger } := by rw [← outcomes]
    rw [hsame]
    exact hvalid.grows ledger.1

theorem runPaperOutcomeJob_ledger :
    Within (LedgerWrites spec.registrationId) (runPaperOutcomeJob ctx source spec) := by
  intro stores
  rcases hrun : runPaperOutcomeJob ctx source spec stores with ⟨x, after⟩
  cases runPaperOutcomeJob_cases hrun with
  | reused record found => exact Std.Refl.refl _
  | wrote after record evidence replay summary absent ledger job => exact ledger
  | failed after e ledger outcomes => exact ledger

end IndiaSwing
