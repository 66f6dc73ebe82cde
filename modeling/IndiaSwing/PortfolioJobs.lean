import IndiaSwing.OutcomeJob
import IndiaSwing.PortfolioBatch

namespace IndiaSwing

open ExceptGuards
open PartialWrites PartialWrites.Writes

variable {ctx : DecimalContext} {source : PaperOutcomeEvidenceSource} {job : PaperOutcomeJobSpec}
variable {jobs : List PaperOutcomeJobSpec} {stores after : OutcomeStores}
variable {record : PaperOutcomeRunRecord} {position : PaperPortfolioPosition}

theorem PaperPortfolioPosition.create_ok {value : PaperPortfolioPosition}
    (h : PaperPortfolioPosition.create ctx value = .ok position) :
    position = value ∧ (value.outcomeStatus ≠ .closed → value.grossPnl = none) := by
  unfold PaperPortfolioPosition.create at h
  obtain ⟨-, h⟩ := raiseIf_bind_eq_ok.mp h
  obtain ⟨-, h⟩ := raiseIf_bind_eq_ok.mp h
  obtain ⟨-, h⟩ := raiseIf_bind_eq_ok.mp h
  obtain ⟨-, h⟩ := raiseIf_bind_eq_ok.mp h
  obtain ⟨-, h⟩ := raiseIf_bind_eq_ok.mp h
  obtain ⟨-, h⟩ := raiseIf_bind_eq_ok.mp h
  dsimp only at h
  split at h
  next hclosed =>
    obtain ⟨-, h⟩ := raiseIf_bind_eq_ok.mp h
    obtain ⟨-, h⟩ := raiseIf_bind_eq_ok.mp h
    obtain ⟨-, h⟩ := raiseIf_bind_eq_ok.mp h
    exact ⟨(Except.ok.inj h).symm, fun hopen => absurd hclosed hopen⟩
  next hopen =>
    obtain ⟨hpnl, h⟩ := raiseIf_bind_eq_ok.mp h
    obtain ⟨-, h⟩ := raiseIf_bind_eq_ok.mp h
    exact ⟨(Except.ok.inj h).symm, fun _ => (not_not.mp hpnl).1⟩

/-- What a position takes over from the record it is made of. -/
structure PositionOf (record : PaperOutcomeRunRecord) (position : PaperPortfolioPosition) : Prop where
  registrationId : position.registrationId = record.registrationId
  jobSpecId : position.jobSpecId = record.jobSpecId
  outcomeStatus : position.outcomeStatus = record.outcomeStatus
  eventIds : position.eventIds = record.eventIds
  grossPnl : position.grossPnl = record.grossPnl
  estimatedNetPnl : position.estimatedNetPnl = record.estimatedNetPnl
  /-- Only a closed position carries P&L. -/
  unclosed : record.outcomeStatus ≠ .closed → record.grossPnl = none

theorem positionFromRecord_ok {ledger : LocalPaperTradeLedger}
    (h : positionFromRecord ctx record ledger = .ok position) : PositionOf record position := by
  unfold positionFromRecord at h
  obtain ⟨registration, -, h⟩ := bind_eq_ok.mp h
  obtain ⟨summary, -, h⟩ := bind_eq_ok.mp h
  obtain ⟨rfl, hunclosed⟩ := PaperPortfolioPosition.create_ok h
  exact ⟨rfl, rfl, rfl, rfl, rfl, rfl, hunclosed⟩

/-- Where the status of a job's position comes from: the record that the job had, or the replay that
the ledger took. -/
inductive JobOrigin (ctx : DecimalContext) (source : PaperOutcomeEvidenceSource)
    (stores after : OutcomeStores) (job : PaperOutcomeJobSpec) : PaperOutcomeStatus → Prop
  | stored (record : PaperOutcomeRunRecord)
    (found : stores.outcomes.get job.jobSpecId = some record)
    (unchanged : after.ledger.events job.registrationId = stores.ledger.events job.registrationId) :
    JobOrigin ctx source stores after job record.outcomeStatus
  | fresh (evidence : PaperOutcomeEvidence) (replay : PaperOutcomeReplay) (summary : PaperTradeSummary)
    (absent : stores.outcomes.get job.jobSpecId = none)
    (resolved : resolveJob ctx source job = .ok (evidence, replay))
    (summary_eq : after.ledger.summary ctx job.registrationId = .ok summary)
    (undecided : settledStatus replay.status = none →
      after.ledger.events job.registrationId = stores.ledger.events job.registrationId)
    (settled : ∀ status ∈ settledStatus replay.status, summary.status = status)
    (unclosed : summary.status = .closed → replay.status = .closed) :
    JobOrigin ctx source stores after job replay.status

/-- The position of a job, between the stores before the batch and after it. -/
structure JobResult (ctx : DecimalContext) (source : PaperOutcomeEvidenceSource)
    (stores after : OutcomeStores) (job : PaperOutcomeJobSpec) (position : PaperPortfolioPosition) :
    Prop where
  registrationId : position.registrationId = job.registrationId
  jobSpecId : position.jobSpecId = job.jobSpecId
  origin : JobOrigin ctx source stores after job position.outcomeStatus
  settled : position.outcomeStatus = .closed → SettledAs ctx after.ledger position.registrationId
    position.eventIds position.grossPnl position.estimatedNetPnl

theorem reuseRecord_ok {existing : PaperOutcomeRunRecord} {ledger : LocalPaperTradeLedger}
    (h : reuseRecord ctx existing ledger = .ok record) : record = existing := by
  unfold reuseRecord at h
  obtain ⟨events, -, h⟩ := bind_eq_ok.mp h
  dsimp only at h
  obtain ⟨-, h⟩ := raiseIf_bind_eq_ok.mp h
  obtain ⟨summary, -, h⟩ := bind_eq_ok.mp h
  obtain ⟨-, h⟩ := raiseIf_bind_eq_ok.mp h
  exact (Except.ok.inj h).symm

theorem executeJob_ok (hvalid : OutcomeValid ctx stores)
    (h : executeJob ctx source job stores = (.ok position, after)) :
    JobResult ctx source stores after job position := by
  obtain ⟨record, middle, hrun, hread⟩ := bind_run_ok.mp h
  obtain ⟨hposition, rfl⟩ := read_run_ok.mp hread
  have hof := positionFromRecord_ok hposition
  have hcases := runPaperOutcomeJob_cases hrun
  generalize hx : (Except.ok record : Except PaperError PaperOutcomeRunRecord) = x at hcases
  cases hcases with
  | reused existing found =>
    obtain rfl := reuseRecord_ok hx.symm
    obtain ⟨hregistration, hjob⟩ := hvalid.named job record found
    refine ⟨hof.registrationId.trans hregistration, hof.jobSpecId.trans hjob, ?_, fun hclosed => ?_⟩
    · rw [hof.outcomeStatus]
      exact .stored record found rfl
    · rw [hof.registrationId, hof.eventIds, hof.grossPnl, hof.estimatedNetPnl]
      exact hvalid.backed _ record found (hof.outcomeStatus.symm.trans hclosed)
  | wrote _ record' evidence replay summary absent ledger hfresh =>
    obtain rfl := Except.ok.inj hx
    have hrecorded := hfresh.recorded
    refine ⟨hof.registrationId.trans hrecorded.registrationId,
      hof.jobSpecId.trans hrecorded.jobSpecId, ?_, fun hclosed => ?_⟩
    · rw [hof.outcomeStatus, hrecorded.outcomeStatus]
      refine .fresh evidence replay summary absent hfresh.resolved hfresh.summary_eq (fun hnone => ?_)
        hfresh.settled fun hclosed => ?_
      · rw [hfresh.undecided hnone]
      · -- the ledger's P&L is in the record, and the position took it
        by_contra hopen
        have hnone := hof.unclosed (by rwa [hrecorded.outcomeStatus])
        rw [hrecorded.grossPnl] at hnone
        exact summary_closed hfresh.summary_eq hclosed hnone
    · rw [hof.registrationId, hof.eventIds, hof.grossPnl, hof.estimatedNetPnl]
      exact hfresh.backed (hof.outcomeStatus.symm.trans hclosed)
  | failed _ e ledger outcomes => cases hx

/-- Jobs write the ledger only at their registrations. -/
structure BatchWrites (registrationIds : List Digest) (stores after : OutcomeStores) : Prop where
  grows : LedgerGrows stores.ledger after.ledger
  registrations : after.ledger.registrations = stores.ledger.registrations
  events : ∀ id, id ∉ registrationIds → after.ledger.events id = stores.ledger.events id

instance (registrationIds : List Digest) : Std.Refl (BatchWrites registrationIds) :=
  ⟨fun _ => ⟨Std.Refl.refl _, rfl, fun _ _ => rfl⟩⟩

instance (registrationIds : List Digest) : IsTrans OutcomeStores (BatchWrites registrationIds) :=
  ⟨fun _ _ _ h h' => ⟨IsTrans.trans _ _ _ h.grows h'.grows, h'.registrations.trans h.registrations,
    fun id hid => (h'.events id hid).trans (h.events id hid)⟩⟩

theorem executeJob_writes {registrationIds : List Digest} (hmem : job.registrationId ∈ registrationIds) :
    Within (BatchWrites registrationIds) (executeJob ctx source job) := by
  refine Within.bind (fun stores => ?_) fun record => Within.read _
  obtain ⟨hgrows, hregistrations, hevents⟩ : LedgerWrites job.registrationId stores
    (runPaperOutcomeJob ctx source job stores).2 := runPaperOutcomeJob_ledger stores
  refine ⟨hgrows, hregistrations, fun id hid => hevents id ?_⟩
  rintro rfl
  exact hid hmem

theorem forItems_executeJob_writes :
    Within (BatchWrites (jobs.map (·.registrationId))) (forItems (executeJob ctx source) jobs) :=
  Within.forItems _ jobs fun _ hmem => executeJob_writes (List.mem_map_of_mem hmem)

theorem executeJob_valid : Within (Keeps (OutcomeValid ctx)) (executeJob ctx source job) :=
  Within.bind runPaperOutcomeJob_valid fun _ => Within.read _

theorem forItems_executeJob_valid :
    Within (Keeps (OutcomeValid ctx)) (forItems (executeJob ctx source) jobs) :=
  Within.forItems _ jobs fun _ _ => executeJob_valid

/-- A job writes no record but its own. -/
theorem executeJob_records {jobSpecId : ContentId} (hne : jobSpecId ≠ job.jobSpecId) :
    Within (fun stores after : OutcomeStores =>
      after.outcomes.get jobSpecId = stores.outcomes.get jobSpecId) (executeJob ctx source job) := by
  intro stores
  rcases hrun : runPaperOutcomeJob ctx source job stores with ⟨x, after⟩
  have hsame : after.outcomes.get jobSpecId = stores.outcomes.get jobSpecId := by
    cases runPaperOutcomeJob_cases hrun with
    | reused record found => rfl
    | wrote after record evidence replay summary absent ledger hfresh => exact hfresh.get_ne hne
    | failed after e ledger outcomes => rw [outcomes]
  have hstores : (executeJob ctx source job stores).2 = after := by
    unfold executeJob
    cases x with
    | ok record => rw [bind_of_ok hrun, read_run]
    | error e => rw [bind_of_error hrun]
  rw [hstores]
  exact hsame

/-- Two pairs of stores that agree on the chain and the record of a job give it the same result. -/
theorem JobResult.transport {stores' after' : OutcomeStores}
    (h : JobResult ctx source stores after job position)
    (hrecord : stores'.outcomes.get job.jobSpecId = stores.outcomes.get job.jobSpecId)
    (hbefore : stores'.ledger.events job.registrationId = stores.ledger.events job.registrationId)
    (hafter : after'.ledger.events job.registrationId = after.ledger.events job.registrationId)
    (hregistrations : after'.ledger.registrations = after.ledger.registrations) :
    JobResult ctx source stores' after' job position := by
  have hsummary : after'.ledger.summary ctx job.registrationId =
      after.ledger.summary ctx job.registrationId := by
    refine summary_congr ?_ hafter
    unfold LocalPaperTradeLedger.getRegistration
    rw [hregistrations]
  refine ⟨h.registrationId, h.jobSpecId, ?_, fun hclosed => ?_⟩
  · have horigin := h.origin
    generalize position.outcomeStatus = status at horigin ⊢
    cases horigin with
    | stored record found unchanged =>
      refine .stored record (hrecord.trans found) ?_
      rw [hafter, hbefore, unchanged]
    | fresh evidence replay summary absent resolved summary_eq undecided settled unclosed =>
      refine .fresh evidence replay summary (hrecord.trans absent) resolved
        (hsummary.trans summary_eq) (fun hnone => ?_) settled unclosed
      rw [hafter, hbefore, undecided hnone]
  · obtain ⟨summary, hfound, hfields⟩ := h.settled hclosed
    rw [h.registrationId] at hfound ⊢
    exact ⟨summary, hsummary.trans hfound, hfields⟩

/-- The positions of a batch are those of its jobs, in their order. -/
structure BatchResults (ctx : DecimalContext) (source : PaperOutcomeEvidenceSource)
    (stores after : OutcomeStores) (jobs : List PaperOutcomeJobSpec)
    (positions : List PaperPortfolioPosition) : Prop where
  ids : positions.map (·.registrationId) = jobs.map (·.registrationId)
  ofJob : ∀ job ∈ jobs, ∃ position ∈ positions, JobResult ctx source stores after job position
  ofPosition : ∀ position ∈ positions, ∃ job ∈ jobs, JobResult ctx source stores after job position

/-- Every job of a batch with one job for each registration gets its own result. -/
theorem forItems_executeJob_ok {positions : List PaperPortfolioPosition}
    (hvalid : OutcomeValid ctx stores) (hnodup : (jobs.map (·.registrationId)).Nodup)
    (h : forItems (executeJob ctx source) jobs stores = (.ok positions, after)) :
    BatchResults ctx source stores after jobs positions := by
  induction jobs generalizing stores positions with
  | nil =>
    obtain ⟨hpositions, -⟩ := Prod.mk.inj h
    obtain rfl := Except.ok.inj hpositions
    exact ⟨rfl, fun job hmem => (List.not_mem_nil hmem).elim,
      fun position hmem => (List.not_mem_nil hmem).elim⟩
  | cons job jobs ih =>
    obtain ⟨position, middle, rest, hfirst, hrest, rfl⟩ := forItems_cons_ok h
    rw [List.map_cons, List.nodup_cons] at hnodup
    obtain ⟨hnew, hnodup⟩ := hnodup
    have hmiddle : OutcomeValid ctx (executeJob ctx source job stores).2 :=
      executeJob_valid stores hvalid
    have hearlier : BatchWrites [job.registrationId] stores (executeJob ctx source job stores).2 :=
      executeJob_writes (List.mem_singleton_self _) stores
    have hlater : BatchWrites (jobs.map (·.registrationId)) middle
      (forItems (executeJob ctx source) jobs middle).2 := forItems_executeJob_writes middle
    rw [hfirst] at hmiddle hearlier
    rw [hrest] at hlater
    have hresult : JobResult ctx source stores after job position :=
      (executeJob_ok hvalid hfirst).transport rfl rfl (hlater.events _ hnew) hlater.registrations
    have htransport : ∀ other ∈ jobs, ∀ result, JobResult ctx source middle after other result →
        JobResult ctx source stores after other result := by
      intro other hmem result hother
      have hne : other.registrationId ≠ job.registrationId := by
        intro heq
        exact hnew (heq ▸ List.mem_map_of_mem hmem)
      have hid : other.jobSpecId ≠ job.jobSpecId := fun heq =>
        hne (PaperOutcomeJobSpec.registrationId_of_jobSpecId heq)
      have hrecords : (executeJob ctx source job stores).2.outcomes.get other.jobSpecId =
        stores.outcomes.get other.jobSpecId := executeJob_records hid stores
      rw [hfirst] at hrecords
      exact hother.transport hrecords.symm (hearlier.events _ (by simpa using hne)).symm rfl rfl
    obtain ⟨hids, hjobs, hpositions⟩ := ih hmiddle hnodup hrest
    refine ⟨?_, fun other hmem => ?_, fun result hmem => ?_⟩
    · rw [List.map_cons, List.map_cons, hids, hresult.registrationId]
    · rcases List.mem_cons.mp hmem with rfl | htail
      · exact ⟨position, List.mem_cons_self, hresult⟩
      · obtain ⟨result, hin, hother⟩ := hjobs other htail
        exact ⟨result, List.mem_cons_of_mem _ hin, htransport other htail result hother⟩
    · rcases List.mem_cons.mp hmem with rfl | htail
      · exact ⟨job, List.mem_cons_self, hresult⟩
      · obtain ⟨other, hin, hother⟩ := hpositions result htail
        exact ⟨other, List.mem_cons_of_mem _ hin, htransport other hin result hother⟩

end IndiaSwing
