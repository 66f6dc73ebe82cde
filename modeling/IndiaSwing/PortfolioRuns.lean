import IndiaSwing.Lib.ActionRuns
import IndiaSwing.PortfolioSteps
import IndiaSwing.PortfolioBatch

namespace IndiaSwing

open ExceptGuards
open LinkedRecords
open PartialWrites PartialWrites.Writes

variable {ctx : DecimalContext} {source : PaperOutcomeEvidenceSource} {spec : PaperPortfolioBatchSpec}
variable {stores after : PaperStores} {state : PaperPortfolioState}
variable {previous : Option PaperPortfolioState} {store : LocalPaperPortfolioStateStore}
variable {position : PaperPortfolioPosition} {updated : List PaperPortfolioPosition}

theorem PaperPortfolioState.asOf_of_stateId {a b : PaperPortfolioState} (h : a.stateId = b.stateId) :
    a.asOf = b.asOf := by
  have hfields := (ContentId.ofFields_inj.mp h).2
  simp only [List.cons.injEq, ContentId.int.injEq] at hfields
  exact hfields.2.2.2.1

/-- The states form one chain, in the order of their cutoffs. -/
structure StateChain (states : List PaperPortfolioState) : Prop where
  linked : Linked PaperPortfolioState.binding PaperPortfolioState.previous states
  increasing : states.Pairwise fun a b => a.asOf < b.asOf

theorem StateChain.nodup {states : List PaperPortfolioState} (h : StateChain states) :
    (states.map (·.stateId)).Nodup := by
  refine List.pairwise_map.mpr (h.increasing.imp fun hlt heq => ?_)
  exact hlt.ne (PaperPortfolioState.asOf_of_stateId heq)

/-- The chain has its last state as its only leaf. -/
theorem StateChain.leaves {front : List PaperPortfolioState} {last : PaperPortfolioState}
    (h : StateChain (front ++ [last])) :
    LocalPaperPortfolioStateStore.leaves ⟨front ++ [last]⟩ = [last] :=
  leaves_concat (h.linked.map (·.stateId)) h.nodup

/-- A batch follows the last state. -/
theorem selectPredecessor_ok (hchain : StateChain store.states)
    (h : selectPredecessor spec store = .ok previous) :
    previous = store.states.getLast? ∧ ∀ value ∈ previous, value.asOf < spec.asOf := by
  unfold selectPredecessor at h
  split at h
  next =>
    obtain ⟨hempty, h⟩ := raiseIf_bind_eq_ok.mp h
    obtain rfl := Except.ok.inj h
    rw [not_not.mp hempty]
    exact ⟨rfl, fun value hvalue => by cases hvalue⟩
  next binding =>
    split at h
    next => cases h
    next value hfound =>
      obtain ⟨hdiffers, h⟩ := raiseIf_bind_eq_ok.mp h
      obtain ⟨hleaf, h⟩ := raiseIf_bind_eq_ok.mp h
      obtain rfl := Except.ok.inj h
      obtain ⟨-, hlater⟩ := not_or.mp hdiffers
      have hmem : value ∈ store.states := List.mem_of_find?_eq_some hfound
      rcases List.eq_nil_or_concat store.states with hnil | ⟨front, last, hstates⟩
      · rw [hnil] at hmem
        cases hmem
      rw [List.concat_eq_append] at hstates
      have hstore : store = ⟨front ++ [last]⟩ := by rw [← hstates]
      rw [hstates] at hchain
      have hids : last.stateId = value.stateId := by
        have hsame := not_not.mp hleaf
        rw [hstore, hchain.leaves] at hsame
        simpa using hsame
      have hlast : value = last := by
        refine List.inj_on_of_nodup_map hchain.nodup ?_ (by simp) hids.symm
        rwa [← hstates]
      refine ⟨?_, fun value' hvalue' => ?_⟩
      · rw [hstates, List.getLast?_concat, hlast]
      · obtain rfl := Option.some.inj hvalue'
        exact not_le.mp hlater

theorem startBatch_ok (h : startBatch spec store = .ok previous) :
    selectPredecessor spec store = .ok previous ∧
      missingActive (priorPositions previous) spec.jobIds = [] := by
  unfold startBatch at h
  obtain ⟨value, hselected, h⟩ := bind_eq_ok.mp h
  obtain ⟨hmissing, h⟩ := raiseIf_bind_eq_ok.mp h
  obtain rfl := Except.ok.inj h
  exact ⟨hselected, not_not.mp hmissing⟩

theorem mem_mergePositions {prior : List PaperPortfolioPosition} {jobIds : List Digest} :
    position ∈ mergePositions prior jobIds updated ↔
      (position ∈ prior ∧ position.registrationId ∉ jobIds) ∨ position ∈ updated := by
  simp [mergePositions, List.mem_insertionSort, List.mem_append, List.mem_filter]

/-- A closed position says what the ledger says. -/
def PositionSettled (ctx : DecimalContext) (ledger : LocalPaperTradeLedger)
    (position : PaperPortfolioPosition) : Prop :=
  SettledAs ctx ledger position.registrationId position.eventIds position.grossPnl
    position.estimatedNetPnl

/-- What holds of the stores in every run. -/
structure PortfolioValid (ctx : DecimalContext) (stores : PaperStores) : Prop where
  outcome : OutcomeValid ctx stores.outcome
  chain : StateChain stores.portfolio.states
  settled : ∀ state ∈ stores.portfolio.states, ∀ position ∈ state.positions,
    position.outcomeStatus = .closed → PositionSettled ctx stores.outcome.ledger position
  unique : ∀ state ∈ stores.portfolio.states, (state.positions.map (·.registrationId)).Nodup

theorem portfolioValid_empty : PortfolioValid ctx .empty where
  outcome := outcomeValid_empty
  chain := ⟨linked_nil, .nil⟩
  settled state hmem := by cases hmem
  unique state hmem := by cases hmem

/-- Writes that store no state keep the stores valid. -/
theorem PortfolioValid.outcome_grows (h : PortfolioValid ctx stores)
    (hportfolio : after.portfolio = stores.portfolio) (houtcome : OutcomeValid ctx after.outcome)
    (hgrows : LedgerGrows stores.outcome.ledger after.outcome.ledger) : PortfolioValid ctx after where
  outcome := houtcome
  chain := by
    rw [hportfolio]
    exact h.chain
  settled state hmem position hposition hclosed := by
    rw [hportfolio] at hmem
    exact (h.settled state hmem position hposition hclosed).grows hgrows
  unique state hmem := by
    rw [hportfolio] at hmem
    exact h.unique state hmem

section Stored

variable (hbatch : StoredBatch ctx source spec stores after previous updated state)

include hbatch

theorem StoredBatch.mem_positions : position ∈ state.positions ↔
    (position ∈ priorPositions previous ∧ position.registrationId ∉ spec.jobIds) ∨
      position ∈ updated := by
  rw [hbatch.state_eq]
  exact mem_mergePositions

theorem StoredBatch.touches : BatchTouches ctx spec.jobIds stores after := by
  have hwrites : BatchWrites spec.jobIds stores.outcome
    (forItems (executeJob ctx source) spec.outcomeJobs stores.outcome).2 :=
    forItems_executeJob_writes stores.outcome
  have hvalid : Keeps (OutcomeValid ctx) stores.outcome
    (forItems (executeJob ctx source) spec.outcomeJobs stores.outcome).2 :=
    forItems_executeJob_valid stores.outcome
  rw [hbatch.jobs] at hwrites hvalid
  exact ⟨hwrites, hvalid⟩

variable (hvalid : PortfolioValid ctx stores)

include hvalid

theorem StoredBatch.results : BatchResults ctx source stores.outcome after.outcome spec.outcomeJobs
    updated :=
  forItems_executeJob_ok hvalid.outcome spec.ordered.1 hbatch.jobs

theorem StoredBatch.previous_eq : previous = stores.portfolio.states.getLast? ∧
    ∀ value ∈ previous, value.asOf < spec.asOf :=
  selectPredecessor_ok hvalid.chain (startBatch_ok hbatch.started).1

/-- The positions of the predecessor are positions of a stored state. -/
theorem StoredBatch.prior_mem (hprior : position ∈ priorPositions previous) :
    ∃ last ∈ previous, last ∈ stores.portfolio.states ∧ position ∈ last.positions := by
  have hlast := (hbatch.previous_eq hvalid).1
  cases previous with
  | none => cases hprior
  | some last => exact ⟨last, rfl, List.mem_of_getLast? hlast.symm, hprior⟩

theorem StoredBatch.settled (hposition : position ∈ state.positions)
    (hclosed : position.outcomeStatus = .closed) :
    PositionSettled ctx after.outcome.ledger position := by
  rcases hbatch.mem_positions.mp hposition with ⟨hprior, -⟩ | hupdated
  · obtain ⟨last, -, hmem, hposition⟩ := hbatch.prior_mem hvalid hprior
    exact (hvalid.settled last hmem position hposition hclosed).grows hbatch.touches.writes.grows
  · obtain ⟨job, -, hresult⟩ := (hbatch.results hvalid).ofPosition position hupdated
    exact hresult.settled hclosed

theorem StoredBatch.chain : StateChain (stores.portfolio.states ++ [state]) := by
  obtain ⟨hlast, hlater⟩ := hbatch.previous_eq hvalid
  have hprevious : state.previous = previous.map (·.binding) := by rw [hbatch.state_eq]; rfl
  have hasOf : state.asOf = spec.asOf := by rw [hbatch.state_eq]; rfl
  refine ⟨linked_concat.mpr ⟨hvalid.chain.linked, by rw [hprevious, hlast]⟩, ?_⟩
  refine List.pairwise_append.mpr ⟨hvalid.chain.increasing, List.pairwise_singleton .., ?_⟩
  intro value hmem value' hmem'
  obtain rfl := List.mem_singleton.mp hmem'
  rw [hasOf]
  rcases List.eq_nil_or_concat stores.portfolio.states with hnil | ⟨front, last, hstates⟩
  · rw [hnil] at hmem
    cases hmem
  rw [List.concat_eq_append] at hstates
  rw [hstates, List.getLast?_concat] at hlast
  have hbefore := hlater last hlast
  have hincreasing := hvalid.chain.increasing
  rw [hstates] at hmem hincreasing
  rcases List.mem_append.mp hmem with hfront | hend
  · have hlt := (List.pairwise_append.mp hincreasing).2.2 value hfront last (by simp)
    exact hlt.trans hbefore
  · obtain rfl := List.mem_singleton.mp hend
    exact hbefore

theorem StoredBatch.valid : PortfolioValid ctx after where
  outcome := hbatch.touches.valid hvalid.outcome
  chain := by
    rw [hbatch.states]
    exact hbatch.chain hvalid
  settled value hmem position hposition hclosed := by
    rw [hbatch.states] at hmem
    rcases List.mem_append.mp hmem with hold | hnew
    · exact (hvalid.settled value hold position hposition hclosed).grows hbatch.touches.writes.grows
    · obtain rfl := List.mem_singleton.mp hnew
      exact hbatch.settled hvalid hposition hclosed
  unique value hmem := by
    rw [hbatch.states] at hmem
    rcases List.mem_append.mp hmem with hold | hnew
    · exact hvalid.unique value hold
    · obtain rfl := List.mem_singleton.mp hnew
      exact hbatch.unique

end Stored

end IndiaSwing

namespace IndiaSwing

open ActionRuns
open ExceptGuards
open PartialWrites PartialWrites.Writes

/-- The steps of a run: a new registration, an event recorded by hand, a batch, and a batch that
stops after its first `completed` jobs. -/
inductive PaperAction
  | register (value : PaperTradeRegistration)
  | recordEvent (registrationId : Digest) (occurredAt : Instant) (body : PaperTradeEventBody)
  | runBatch (source : PaperOutcomeEvidenceSource) (spec : PaperPortfolioBatchSpec)
  | interruptBatch (source : PaperOutcomeEvidenceSource) (spec : PaperPortfolioBatchSpec)
    (completed : ℕ)

def PaperStores.withLedger (stores : PaperStores) (ledger : LocalPaperTradeLedger) : PaperStores :=
  { stores with outcome := { stores.outcome with ledger } }

/-- The ledger after a write, which a refusal leaves as it was. -/
def LocalPaperTradeLedger.written {α : Type} (ledger : LocalPaperTradeLedger) :
    Except PaperError (α × LocalPaperTradeLedger) → LocalPaperTradeLedger
  | .ok (_, after) => after
  | .error _ => ledger

/-- The stores after a step. -/
def perform (ctx : DecimalContext) (stores : PaperStores) : PaperAction → PaperStores
  | .register value =>
    stores.withLedger (stores.outcome.ledger.written (stores.outcome.ledger.registerValue value))
  | .recordEvent registrationId occurredAt body =>
    stores.withLedger (stores.outcome.ledger.written
      (stores.outcome.ledger.append registrationId occurredAt body))
  | .runBatch source spec => (runPaperPortfolioBatch ctx source spec stores).2
  | .interruptBatch source spec completed =>
    (interruptPaperPortfolioBatch ctx source spec completed stores).2

/-- The stores that a run leads to from empty ones. -/
def performAll (ctx : DecimalContext) (actions : List PaperAction) : PaperStores :=
  run (perform ctx) .empty actions

/-- A property of every step of a run from empty stores. -/
def EveryAction (ctx : DecimalContext) (P : PaperStores → PaperAction → Prop)
    (actions : List PaperAction) : Prop := EveryStep (perform ctx) .empty P actions

/-- The batch that a step executes. -/
def PaperAction.batch : PaperAction → Option PaperPortfolioBatchSpec
  | .register _ | .recordEvent _ _ _ => none
  | .runBatch _ spec | .interruptBatch _ spec _ => some spec

/-- The batch is what a preparation returns after the actions. -/
def PreparedAfter (ctx : DecimalContext) (actions : List PaperAction) (spec : PaperPortfolioBatchSpec) :
    Prop :=
  ∃ source preparation, preparePaperPortfolioBatch ctx source preparation
    (performAll ctx actions).outcome.ledger (performAll ctx actions).portfolio = .ok spec

/-- The runs that execute only batches which were prepared at an earlier point of the run. -/
inductive BatchesPrepared (ctx : DecimalContext) : List PaperAction → Prop
  | nil : BatchesPrepared ctx []
  | append (actions : List PaperAction) (action : PaperAction)
    (before : BatchesPrepared ctx actions)
    (prepared : ∀ spec ∈ action.batch, ∃ earlier, earlier <+: actions ∧ PreparedAfter ctx earlier spec) :
    BatchesPrepared ctx (actions ++ [action])

variable {ctx : DecimalContext} {stores : PaperStores} {action : PaperAction}
variable {ledger : LocalPaperTradeLedger}

theorem withLedger_valid (h : PortfolioValid ctx stores)
    (hgrows : LedgerGrows stores.outcome.ledger ledger) :
    PortfolioValid ctx (stores.withLedger ledger) :=
  h.outcome_grows rfl (h.outcome.grows hgrows) hgrows

theorem written_grows {α : Type} {x : Except PaperError (α × LocalPaperTradeLedger)}
    (h : ∀ a after, x = .ok (a, after) → LedgerStep ledger after) :
    LedgerGrows ledger (ledger.written x) := by
  cases x with
  | error e => exact Std.Refl.refl _
  | ok pair => exact (h pair.1 pair.2 rfl).grows

theorem register_grows {value : PaperTradeRegistration} :
    LedgerGrows ledger (ledger.written (ledger.registerValue value)) :=
  written_grows fun _ _ h => .register h

theorem append_grows {registrationId : Digest} {occurredAt : Instant} {body : PaperTradeEventBody} :
    LedgerGrows ledger (ledger.written (ledger.append registrationId occurredAt body)) :=
  written_grows fun _ _ h => .append h

theorem runBatch_valid {source : PaperOutcomeEvidenceSource} {spec : PaperPortfolioBatchSpec}
    (h : PortfolioValid ctx stores) :
    PortfolioValid ctx (runPaperPortfolioBatch ctx source spec stores).2 := by
  have htouches : BatchTouches ctx spec.jobIds stores
    (runPaperPortfolioBatch ctx source spec stores).2 := runPaperPortfolioBatch_touches stores
  rcases hrun : runPaperPortfolioBatch ctx source spec stores with ⟨x, after⟩
  rw [hrun] at htouches
  cases runPaperPortfolioBatch_cases hrun with
  | existing state found => exact h
  | stored after previous updated state absent batch => exact batch.valid h
  | failed after e portfolio =>
    exact h.outcome_grows portfolio (htouches.valid h.outcome) htouches.writes.grows

theorem perform_valid (h : PortfolioValid ctx stores) :
    PortfolioValid ctx (perform ctx stores action) := by
  cases action with
  | register value => exact withLedger_valid h register_grows
  | recordEvent registrationId occurredAt body => exact withLedger_valid h append_grows
  | runBatch source spec => exact runBatch_valid h
  | interruptBatch source spec completed =>
    have htouches : BatchTouches ctx spec.jobIds stores
      (interruptPaperPortfolioBatch ctx source spec completed stores).2 :=
      interruptPaperPortfolioBatch_touches stores
    exact h.outcome_grows (interruptPaperPortfolioBatch_portfolio stores)
      (htouches.valid h.outcome) htouches.writes.grows

theorem performAll_valid (actions : List PaperAction) : PortfolioValid ctx (performAll ctx actions) :=
  run_invariant portfolioValid_empty (fun _ _ h => perform_valid h) actions

end IndiaSwing
