import IndiaSwing.Lib.LinkedRecords
import IndiaSwing.PortfolioJobs

namespace IndiaSwing

open ExceptGuards
open LinkedRecords
open PartialWrites PartialWrites.Writes

variable {ctx : DecimalContext} {source : PaperOutcomeEvidenceSource} {spec : PaperPortfolioBatchSpec}
variable {stores after : PaperStores} {state : PaperPortfolioState}
variable {previous : Option PaperPortfolioState} {store : LocalPaperPortfolioStateStore}

/-- A batch touches the ledger and the records only through its jobs, which keep them valid. -/
structure BatchTouches (ctx : DecimalContext) (registrationIds : List Digest)
    (stores after : PaperStores) : Prop where
  writes : BatchWrites registrationIds stores.outcome after.outcome
  valid : OutcomeValid ctx stores.outcome → OutcomeValid ctx after.outcome

instance (registrationIds : List Digest) : Std.Refl (BatchTouches ctx registrationIds) :=
  ⟨fun _ => ⟨Std.Refl.refl _, id⟩⟩

instance (registrationIds : List Digest) : IsTrans PaperStores (BatchTouches ctx registrationIds) :=
  ⟨fun _ _ _ h h' => ⟨IsTrans.trans _ _ _ h.writes h'.writes, fun hs => h'.valid (h.valid hs)⟩⟩

theorem executeJobs_touches {jobs : List PaperOutcomeJobSpec} {registrationIds : List Digest}
    (hsub : jobs.map (·.registrationId) ⊆ registrationIds) :
    Within (BatchTouches ctx registrationIds) (PaperStores.onOutcome (executeJobs ctx source jobs)) := by
  refine fun stores => ⟨?_, forItems_executeJob_valid stores.outcome⟩
  refine Within.forItems _ jobs (fun job hmem => ?_) stores.outcome
  exact executeJob_writes (hsub (List.mem_map_of_mem hmem))

theorem runFreshBatch_touches :
    Within (BatchTouches ctx spec.jobIds) (runFreshBatch ctx source spec) := by
  refine Within.bind (Within.read _) fun previous => Within.bind ?_ fun updated => ?_
  · exact executeJobs_touches fun id hid => hid
  · refine Within.bind (Within.lift _) fun state stores => ?_
    exact ⟨Std.Refl.refl _, id⟩

theorem runPaperPortfolioBatch_touches :
    Within (BatchTouches ctx spec.jobIds) (runPaperPortfolioBatch ctx source spec) := by
  intro stores
  unfold runPaperPortfolioBatch
  split
  · exact Std.Refl.refl _
  · exact runFreshBatch_touches stores

theorem interruptPaperPortfolioBatch_touches {completed : ℕ} :
    Within (BatchTouches ctx spec.jobIds) (interruptPaperPortfolioBatch ctx source spec completed) := by
  intro stores
  unfold interruptPaperPortfolioBatch
  split
  · exact Std.Refl.refl _
  · refine Within.bind (Within.read _) (fun previous => Within.bind ?_ fun updated => Within.pure _) stores
    refine executeJobs_touches fun id hid => ?_
    obtain ⟨job, hmem, rfl⟩ := List.mem_map.mp hid
    exact List.mem_map_of_mem (List.mem_of_mem_take hmem)

def SamePortfolio (stores after : PaperStores) : Prop := after.portfolio = stores.portfolio

instance : Std.Refl SamePortfolio := ⟨fun _ => rfl⟩

instance : IsTrans PaperStores SamePortfolio := ⟨fun _ _ _ h h' => h'.trans h⟩

/-- A batch that stops early stores no state. -/
theorem interruptPaperPortfolioBatch_portfolio {completed : ℕ} :
    Within SamePortfolio (interruptPaperPortfolioBatch ctx source spec completed) := by
  intro stores
  unfold interruptPaperPortfolioBatch
  split
  · exact Std.Refl.refl _
  · refine Within.bind (Within.read _) (fun previous => Within.bind ?_ fun updated => Within.pure _) stores
    exact fun stores => rfl

/-- A batch that fails stores no state. -/
theorem runFreshBatch_error {e : PaperError}
    (h : runFreshBatch ctx source spec stores = (.error e, after)) :
    after.portfolio = stores.portfolio := by
  rcases bind_run_error.mp h with hstart | ⟨previous, start, hstart, hjobs⟩
  · rw [← (Prod.mk.inj hstart).2]
  obtain ⟨-, rfl⟩ := read_run_ok.mp hstart
  rcases bind_run_error.mp hjobs with hfailed | ⟨updated, middle, hupdated, hcreate⟩
  · obtain ⟨outcome, -, rfl⟩ := onPart_run.mp hfailed
    rfl
  obtain ⟨outcome, -, rfl⟩ := onPart_run.mp hupdated
  rcases bind_run_error.mp hcreate with hfailed | ⟨state, middle, hstate, hput⟩
  · rw [← (Prod.mk.inj hfailed).2]
  obtain ⟨-, rfl⟩ := lift_run_ok.mp hstate
  obtain ⟨portfolio, hfailed, rfl⟩ := onPart_run.mp hput
  exact (update_run_error.mp hfailed).2

theorem PaperPortfolioState.create_ok {value : PaperPortfolioState}
    (h : PaperPortfolioState.create ctx value = .ok state) :
    state = value ∧ (value.positions.map (·.registrationId)).Nodup := by
  unfold PaperPortfolioState.create at h
  obtain ⟨-, h⟩ := raiseIf_bind_eq_ok.mp h
  obtain ⟨-, h⟩ := raiseIf_bind_eq_ok.mp h
  obtain ⟨hordered, h⟩ := raiseIf_bind_eq_ok.mp h
  obtain ⟨-, h⟩ := raiseIf_bind_eq_ok.mp h
  obtain ⟨-, h⟩ := raiseIf_bind_eq_ok.mp h
  obtain ⟨-, h⟩ := raiseIf_bind_eq_ok.mp h
  obtain ⟨-, h⟩ := raiseIf_bind_eq_ok.mp h
  obtain ⟨-, h⟩ := raiseIf_bind_eq_ok.mp h
  obtain ⟨-, h⟩ := raiseIf_bind_eq_ok.mp h
  obtain ⟨-, h⟩ := raiseIf_bind_eq_ok.mp h
  obtain ⟨-, h⟩ := raiseIf_bind_eq_ok.mp h
  obtain ⟨-, h⟩ := raiseIf_bind_eq_ok.mp h
  exact ⟨(Except.ok.inj h).symm, (not_not.mp hordered).1⟩

theorem LocalPaperPortfolioStateStore.put_ok {value : PaperPortfolioState}
    {store' : LocalPaperPortfolioStateStore} (h : store.put value = .ok (state, store'))
    (hnew : store.get value.batchId = none) :
    state = value ∧ store' = ⟨store.states ++ [value]⟩ := by
  unfold LocalPaperPortfolioStateStore.put at h
  rw [hnew] at h
  dsimp only at h
  split at h
  next =>
    obtain ⟨-, h⟩ := raiseIf_bind_eq_ok.mp h
    obtain ⟨hstate, hstore⟩ := Prod.mk.inj (Except.ok.inj h)
    exact ⟨hstate.symm, hstore.symm⟩
  next =>
    obtain ⟨-, h⟩ := raiseIf_bind_eq_ok.mp h
    obtain ⟨-, h⟩ := raiseIf_bind_eq_ok.mp h
    obtain ⟨hstate, hstore⟩ := Prod.mk.inj (Except.ok.inj h)
    exact ⟨hstate.symm, hstore.symm⟩

/-- A batch that stored its state. -/
structure StoredBatch (ctx : DecimalContext) (source : PaperOutcomeEvidenceSource)
    (spec : PaperPortfolioBatchSpec) (stores after : PaperStores)
    (previous : Option PaperPortfolioState) (updated : List PaperPortfolioPosition)
    (state : PaperPortfolioState) : Prop where
  started : startBatch spec stores.portfolio = .ok previous
  jobs : forItems (executeJob ctx source) spec.outcomeJobs stores.outcome =
    (.ok updated, after.outcome)
  state_eq : state = nextState ctx previous spec
    (mergePositions (priorPositions previous) spec.jobIds updated)
  unique : (state.positions.map (·.registrationId)).Nodup
  states : after.portfolio.states = stores.portfolio.states ++ [state]

theorem runFreshBatch_ok (h : runFreshBatch ctx source spec stores = (.ok state, after))
    (hnew : stores.portfolio.get spec.batchId = none) :
    ∃ previous updated, StoredBatch ctx source spec stores after previous updated state := by
  obtain ⟨previous, start, hstart, hjobs⟩ := bind_run_ok.mp h
  obtain ⟨hstarted, rfl⟩ := read_run_ok.mp hstart
  obtain ⟨updated, middle, hupdated, hcreate⟩ := bind_run_ok.mp hjobs
  obtain ⟨outcome, hexecuted, rfl⟩ := onPart_run.mp hupdated
  obtain ⟨value, middle, hvalue, hput⟩ := bind_run_ok.mp hcreate
  obtain ⟨hcreated, rfl⟩ := lift_run_ok.mp hvalue
  obtain ⟨portfolio, hstored, rfl⟩ := onPart_run.mp hput
  obtain ⟨rfl, hunique⟩ := PaperPortfolioState.create_ok hcreated
  obtain ⟨rfl, hstates⟩ := LocalPaperPortfolioStateStore.put_ok (update_run_ok.mp hstored) hnew
  exact ⟨previous, updated, hstarted, mapError_run_ok.mp hexecuted, rfl, hunique,
    congrArg (·.states) hstates⟩

/-- What a batch can do: it returns its state, stores a new one, or fails without a state. -/
inductive BatchRun (ctx : DecimalContext) (source : PaperOutcomeEvidenceSource)
    (spec : PaperPortfolioBatchSpec) (stores : PaperStores) :
    Except PaperError PaperPortfolioState → PaperStores → Prop
  | existing (state : PaperPortfolioState)
    (found : stores.portfolio.get spec.batchId = some state) :
    BatchRun ctx source spec stores (.ok state) stores
  | stored (after : PaperStores) (previous : Option PaperPortfolioState)
    (updated : List PaperPortfolioPosition) (state : PaperPortfolioState)
    (absent : stores.portfolio.get spec.batchId = none)
    (batch : StoredBatch ctx source spec stores after previous updated state) :
    BatchRun ctx source spec stores (.ok state) after
  | failed (after : PaperStores) (e : PaperError) (portfolio : after.portfolio = stores.portfolio) :
    BatchRun ctx source spec stores (.error e) after

theorem runPaperPortfolioBatch_cases {x : Except PaperError PaperPortfolioState}
    (h : runPaperPortfolioBatch ctx source spec stores = (x, after)) :
    BatchRun ctx source spec stores x after := by
  unfold runPaperPortfolioBatch at h
  split at h
  next existing hfound =>
    obtain ⟨rfl, rfl⟩ := Prod.mk.inj h
    exact .existing existing hfound
  next hnone =>
    cases x with
    | ok state =>
      obtain ⟨previous, updated, hstored⟩ := runFreshBatch_ok h hnone
      exact .stored after previous updated state hnone hstored
    | error e => exact .failed after e (runFreshBatch_error h)

end IndiaSwing
