import IndiaSwing.PortfolioRuns
import IndiaSwing.ResolverMonotone

namespace IndiaSwing

open ActionRuns
open ExceptGuards
open PartialWrites PartialWrites.Writes
open SortedTuples (SortedUnique)

variable {ctx : DecimalContext} {source : PaperOutcomeEvidenceSource} {spec : PaperPortfolioBatchSpec}
variable {stores after : PaperStores} {state : PaperPortfolioState} {registrationId : Digest}
variable {ledger later : LocalPaperTradeLedger}

/-- The summary of the registration is `CLOSED`. -/
def LedgerClosed (ctx : DecimalContext) (ledger : LocalPaperTradeLedger) (registrationId : Digest) :
    Prop := ∃ summary, ledger.summary ctx registrationId = .ok summary ∧ summary.status = .closed

theorem LedgerClosed.grows (h : LedgerClosed ctx ledger registrationId)
    (hgrows : LedgerGrows ledger later) : LedgerClosed ctx later registrationId := by
  obtain ⟨summary, hsummary, hclosed⟩ := h
  exact ⟨summary, hgrows.summary_final hsummary (by rw [hclosed]; rfl), hclosed⟩

/-- The registration is a closed position. -/
def ClosedPosition (positions : List PaperPortfolioPosition) (registrationId : Digest) : Prop :=
  ∃ position ∈ positions, position.registrationId = registrationId ∧ position.outcomeStatus = .closed

/-- The step stores no portfolio state that misses a registration which the ledger has closed. -/
def KeepsClosures (ctx : DecimalContext) (stores : PaperStores) : PaperAction → Prop
  | .runBatch source spec => ∀ state after,
      runPaperPortfolioBatch ctx source spec stores = (.ok state, after) →
      stores.portfolio.get spec.batchId = none →
      ∀ registrationId, LedgerClosed ctx after.outcome.ledger registrationId →
        ClosedPosition state.positions registrationId
  | _ => True

/-- A batch can collect a registration that is already closed when its job has no record of an
earlier status, or when it has no job and is a closed position of the last state. -/
def ClosureCollected (stores : PaperStores) (spec : PaperPortfolioBatchSpec) (registrationId : Digest) :
    Prop :=
  (∃ job ∈ spec.outcomeJobs, job.registrationId = registrationId ∧
    ∀ record, stores.outcome.outcomes.get job.jobSpecId = some record →
      record.outcomeStatus = .closed) ∨
  (registrationId ∉ spec.jobIds ∧
    ClosedPosition (priorPositions stores.portfolio.states.getLast?) registrationId)

def CollectsClosures (ctx : DecimalContext) (stores : PaperStores) : PaperAction → Prop
  | .runBatch source spec => ∀ state after,
      runPaperPortfolioBatch ctx source spec stores = (.ok state, after) →
      stores.portfolio.get spec.batchId = none →
      ∀ registrationId, LedgerClosed ctx stores.outcome.ledger registrationId →
        ClosureCollected stores spec registrationId
  | _ => True

theorem BatchWrites.summary_of_notMem {ids : List Digest} {before after : OutcomeStores}
    (h : BatchWrites ids before after) (hid : registrationId ∉ ids) :
    after.ledger.summary ctx registrationId = before.ledger.summary ctx registrationId := by
  refine summary_congr ?_ (h.events registrationId hid)
  unfold LocalPaperTradeLedger.getRegistration
  rw [h.registrations]

/-- A job leaves no registration closed behind a position that is not, unless its record is older
than the closure. -/
theorem JobOrigin.closed {before after : OutcomeStores} {job : PaperOutcomeJobSpec}
    {status : PaperOutcomeStatus} (h : JobOrigin ctx source before after job status)
    (hregistrations : after.ledger.registrations = before.ledger.registrations)
    (hclosed : LedgerClosed ctx after.ledger job.registrationId) :
    status = .closed ∨ LedgerClosed ctx before.ledger job.registrationId ∧
      ∃ record, before.outcomes.get job.jobSpecId = some record ∧ record.outcomeStatus = status := by
  obtain ⟨summary, hsummary, hstatus⟩ := hclosed
  cases h with
  | stored record found unchanged =>
    refine .inr ⟨⟨summary, ?_, hstatus⟩, record, found, rfl⟩
    rw [← hsummary]
    refine summary_congr ?_ unchanged.symm
    unfold LocalPaperTradeLedger.getRegistration
    rw [hregistrations]
  | fresh evidence replay summary' absent resolved summary_eq undecided settled unclosed =>
    obtain rfl := Except.ok.inj (hsummary.symm.trans summary_eq)
    exact .inl (unclosed hstatus)

section Stored

variable {previous : Option PaperPortfolioState} {updated : List PaperPortfolioPosition}
variable (hvalid : PortfolioValid ctx stores)
variable (hbatch : StoredBatch ctx source spec stores after previous updated state)

include hvalid hbatch

theorem StoredBatch.keeps_closed
    (hcollected : LedgerClosed ctx stores.outcome.ledger registrationId →
      ClosureCollected stores spec registrationId)
    (hclosed : LedgerClosed ctx after.outcome.ledger registrationId) :
    ClosedPosition state.positions registrationId := by
  have hlast := (hbatch.previous_eq hvalid).1
  have hwrites := hbatch.touches.writes
  by_cases hjob : registrationId ∈ spec.jobIds
  · obtain ⟨job, hmem, rfl⟩ := List.mem_map.mp hjob
    obtain ⟨position, hposition, hresult⟩ := (hbatch.results hvalid).ofJob job hmem
    refine ⟨position, hbatch.mem_positions.mpr (.inr hposition), hresult.registrationId, ?_⟩
    rcases hresult.origin.closed hwrites.registrations hclosed with hstatus | ⟨hbefore, record, hrecord, hstatus⟩
    · exact hstatus
    rcases hcollected hbefore with ⟨job', hmem', hid, hrecords⟩ | ⟨hnot, -⟩
    · have hsame : job' = job := List.inj_on_of_nodup_map spec.ordered.1 hmem' hmem hid
      rw [← hstatus]
      exact hrecords record (by rw [hsame]; exact hrecord)
    · exact absurd hjob hnot
  · have hbefore : LedgerClosed ctx stores.outcome.ledger registrationId := by
      obtain ⟨summary, hsummary, hstatus⟩ := hclosed
      exact ⟨summary, by rw [← hwrites.summary_of_notMem hjob]; exact hsummary, hstatus⟩
    rcases hcollected hbefore with ⟨job, hmem, rfl, -⟩ | ⟨-, position, hprior, hid, hstatus⟩
    · exact absurd (List.mem_map_of_mem hmem) hjob
    · rw [← hlast] at hprior
      exact ⟨position, hbatch.mem_positions.mpr (.inl ⟨hprior, by rwa [hid]⟩), hid, hstatus⟩

theorem StoredBatch.collects_closed (hposition : ClosedPosition state.positions registrationId) :
    ClosureCollected stores spec registrationId := by
  have hlast := (hbatch.previous_eq hvalid).1
  obtain ⟨position, hmem, rfl, hstatus⟩ := hposition
  rcases hbatch.mem_positions.mp hmem with ⟨hprior, hnot⟩ | hupdated
  · rw [hlast] at hprior
    exact .inr ⟨hnot, position, hprior, rfl, hstatus⟩
  · obtain ⟨job, hjob, hresult⟩ := (hbatch.results hvalid).ofPosition position hupdated
    refine .inl ⟨job, hjob, hresult.registrationId.symm, fun record hrecord => ?_⟩
    have horigin := hresult.origin
    rw [hstatus] at horigin
    generalize PaperOutcomeStatus.closed = status at horigin ⊢
    cases horigin with
    | stored record' found unchanged =>
      rw [Option.some.inj (hrecord.symm.trans found)]
    | fresh evidence replay summary absent resolved summary_eq undecided settled unclosed =>
      cases hrecord.symm.trans absent

end Stored

theorem keepsClosures_iff (hvalid : PortfolioValid ctx stores) (action : PaperAction) :
    KeepsClosures ctx stores action ↔ CollectsClosures ctx stores action := by
  cases action with
  | register value => exact Iff.rfl
  | recordEvent registrationId occurredAt body => exact Iff.rfl
  | interruptBatch source spec completed => exact Iff.rfl
  | runBatch source spec =>
    refine forall₂_congr fun state after => forall₂_congr fun hrun hnew => ?_
    have hcases := runPaperPortfolioBatch_cases hrun
    generalize hx : (Except.ok state : Except PaperError PaperPortfolioState) = x at hcases
    cases hcases with
    | existing state found => cases hnew.symm.trans found
    | failed _ e portfolio => cases hx
    | stored _ previous updated state' absent hbatch =>
      obtain rfl := Except.ok.inj hx
      constructor
      · intro hkept registrationId hclosed
        exact hbatch.collects_closed hvalid
          (hkept registrationId (hclosed.grows hbatch.touches.writes.grows))
      · intro hcollected registrationId hclosed
        exact hbatch.keeps_closed hvalid (hcollected registrationId) hclosed

/-- A run keeps every closure exactly when each of its batches collects the closures that are already
in the ledger. -/
theorem closures_kept_iff (ctx : DecimalContext) (actions : List PaperAction) :
    EveryAction ctx (KeepsClosures ctx) actions ↔ EveryAction ctx (CollectsClosures ctx) actions :=
  everyStep_congr portfolioValid_empty (fun _ _ h => perform_valid h)
    fun _ action h => keepsClosures_iff h action

section Sample

/-- The sample trade for each registration, with the same evidence. -/
def sampleSource (observations : List PaperOutcomeObservation) : PaperOutcomeEvidenceSource := fun spec =>
  .ok ⟨sampleRegistration spec.registrationId 2 (by decide), sampleBinding spec.registrationId,
    sampleCalendar, observations⟩

/-- The evidence of days 101 and 102. -/
def bothDays : List PaperOutcomeObservation :=
  [entryObservation, targetObservation (istInstant 102 1080) target_known]

/-- A preparation that lists some registrations of the sample trade. -/
def samplePreparation (ids : List Digest) (ordered : SortedUnique ids) (asOf : Instant)
    (previous : Option PortfolioBinding) : PaperPortfolioPreparationSpec where
  asOf := asOf
  calendarMaterializationId := 5
  historicalArtifactIds := [6, 8]
  listings := ids.map fun id => ⟨id, 3, "EQ", "INE009A01021"⟩
  policy := .default
  previous := previous
  dailyLossLimit := 1000
  cumulativeLossLimit := 2000
  artifacts := by decide
  ordered := by simpa [List.map_map, Function.comp_def] using ordered
  daily_pos := by decide +kernel
  cumulative_pos := by decide +kernel

def prepareSample (ids : List Digest) (ordered : SortedUnique ids) (asOf : Instant)
    (previous : Option PortfolioBinding) (stores : PaperStores) :
    Except PaperError PaperPortfolioBatchSpec :=
  preparePaperPortfolioBatch .exact (sampleSource bothDays)
    (samplePreparation ids ordered asOf previous) stores.outcome.ledger stores.portfolio

def registerSample (registrationId : Digest) : PaperAction :=
  .register (sampleRegistration registrationId 2 (by decide))

def twoRegistered : List PaperAction := [registerSample 1, registerSample 2]

end Sample

/-- The first batch closes one of two registrations and stops. The batch prepared next lists only the
other one, and its state misses the closure. -/
theorem interrupted_closure_lost : ∃ first second state after,
    BatchesPrepared .exact (twoRegistered ++ [.interruptBatch (sampleSource bothDays) first 1] ++
      [.runBatch (sampleSource bothDays) second]) ∧
    runPaperPortfolioBatch .exact (sampleSource bothDays) second
      (performAll .exact (twoRegistered ++ [.interruptBatch (sampleSource bothDays) first 1])) =
        (.ok state, after) ∧
    LocalPaperPortfolioStateStore.get (performAll .exact (twoRegistered ++
      [.interruptBatch (sampleSource bothDays) first 1])).portfolio second.batchId = none ∧
    LedgerClosed .exact after.outcome.ledger 1 ∧ state.positions.map (·.registrationId) = [2] := by
  obtain ⟨first, hfirst, hsecond⟩ := exists_ok_of_any
    (x := prepareSample [1, 2] (by decide) (istInstant 102 1100) none (performAll .exact twoRegistered))
    (p := fun first =>
      let stores := performAll .exact (twoRegistered ++
        [.interruptBatch (sampleSource bothDays) first 1])
      (prepareSample [2] (by decide) (istInstant 102 1110) none stores).toOption.any fun second =>
        let outcome := runPaperPortfolioBatch .exact (sampleSource bothDays) second stores
        (stores.portfolio.get second.batchId).isNone &&
        (outcome.2.outcome.ledger.summary .exact 1).toOption.any (·.status = .closed) &&
          outcome.1.toOption.any (·.positions.map (·.registrationId) = [2])) (by decide +kernel)
  obtain ⟨second, hsecond, hrun⟩ := exists_ok_of_any hsecond
  obtain ⟨hrun, hstate⟩ := Bool.and_eq_true_iff.mp hrun
  obtain ⟨hnew, hclosed⟩ := Bool.and_eq_true_iff.mp hrun
  obtain ⟨state, hstate, hpositions⟩ := exists_ok_of_any hstate
  obtain ⟨summary, hsummary, hstatus⟩ := exists_ok_of_any hclosed
  refine ⟨first, second, state, _, ?_, Prod.ext hstate rfl,
    Option.isNone_iff_eq_none.mp hnew, ⟨summary, hsummary, of_decide_eq_true hstatus⟩, of_decide_eq_true hpositions⟩
  have hregistered : BatchesPrepared .exact twoRegistered := by
    refine .append [registerSample 1] _ (.append [] _ .nil ?_) ?_ <;>
      exact fun spec hspec => by cases hspec
  refine .append _ _ (.append _ _ hregistered ?_) ?_
  · intro spec hspec
    obtain rfl := Option.some.inj hspec
    exact ⟨twoRegistered, List.prefix_rfl, _, _, hfirst⟩
  · intro spec hspec
    obtain rfl := Option.some.inj hspec
    exact ⟨_, List.prefix_rfl, _, _, hsecond⟩

/-- A run over prepared batches can lose a closure. -/
theorem not_all_closures_kept :
    ¬∀ ctx actions, BatchesPrepared ctx actions → EveryAction ctx (KeepsClosures ctx) actions := by
  intro h
  obtain ⟨first, second, state, after, hprepared, hrun, hnew, hclosed, hpositions⟩ :=
    interrupted_closure_lost
  have hstep := (everyStep_concat.mp (h _ _ hprepared)).2
  obtain ⟨position, hmem, hid, -⟩ := hstep state after hrun hnew 1 hclosed
  have hin : (1 : Digest) ∈ state.positions.map (·.registrationId) := hid ▸ List.mem_map_of_mem hmem
  rw [hpositions] at hin
  simp at hin

end IndiaSwing
