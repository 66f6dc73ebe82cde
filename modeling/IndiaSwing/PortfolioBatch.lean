import IndiaSwing.Portfolio

namespace IndiaSwing

open ExceptGuards (raiseIf)
open PartialWrites
open SortedTuples (sorted SortedUnique)

/-- The ledger, the outcome records and the portfolio states. -/
structure PaperStores where
  outcome : OutcomeStores
  portfolio : LocalPaperPortfolioStateStore

namespace PaperStores

def empty : PaperStores := ⟨.empty, .empty⟩

def onOutcome {α : Type} (x : Writes OutcomeStores PaperError α) : Writes PaperStores PaperError α :=
  .onPart (·.outcome) (fun stores outcome => { stores with outcome }) x

def onPortfolio {α : Type} (x : Writes LocalPaperPortfolioStateStore PaperError α) :
    Writes PaperStores PaperError α :=
  .onPart (·.portfolio) (fun stores portfolio => { stores with portfolio }) x

end PaperStores

/-- `PaperPortfolioError` and its subclasses. -/
def PaperErrorClass.isPortfolio : PaperErrorClass → Bool
  | .paperPortfolioError | .paperPortfolioNotFound | .paperPortfolioConflict
  | .paperPortfolioPreparationError => true
  | _ => false

def PaperError.failBatch (e : PaperError) : PaperError :=
  if e.class_.isPortfolio then e else .portfolio "paper portfolio outcome execution failed safely"

section Positions

variable (ctx : DecimalContext)

/-- `_position_from_record` -/
def positionFromRecord (record : PaperOutcomeRunRecord) (ledger : LocalPaperTradeLedger) :
    Except PaperError PaperPortfolioPosition := do
  let registration ← ledger.getRegistration record.registrationId
  let summary ← ledger.summary ctx record.registrationId
  PaperPortfolioPosition.create ctx {
    registrationId := record.registrationId
    symbol := registration.symbol
    outcomeStatus := record.outcomeStatus
    jobSpecId := record.jobSpecId
    recordId := record.recordId
    replayId := record.replayId
    eventIds := record.eventIds
    quantity := registration.quantity
    plannedRisk := plannedRisk ctx registration
    entryNotional := summary.entryPrice.elim 0 fun price => ctx.mul price registration.quantity
    estimatedCost := registration.estimatedRoundTripCost
    grossPnl := record.grossPnl
    estimatedNetPnl := record.estimatedNetPnl
    realizedR := record.estimatedNetPnl.map (ctx.div · (plannedRisk ctx registration)) }

variable (previous : Option PaperPortfolioState)

def priorPositions : List PaperPortfolioPosition := previous.elim [] (·.positions)

/-- The prior positions that have no job, and the position of each job. -/
def mergePositions (prior : List PaperPortfolioPosition) (jobIds : List Digest)
    (updated : List PaperPortfolioPosition) : List PaperPortfolioPosition :=
  (prior.filter (·.registrationId ∉ jobIds) ++ updated).insertionSort
    fun a b => a.registrationId ≤ b.registrationId

/-- The positions that are closed and were not closed before. -/
def newlyClosedPositions (prior positions : List PaperPortfolioPosition) :
    List PaperPortfolioPosition :=
  positions.filter fun value =>
    value.closed && !prior.any fun before => before.registrationId = value.registrationId && before.closed

/-- The active prior positions that have no job. -/
def missingActive (prior : List PaperPortfolioPosition) (jobIds : List Digest) :
    List PaperPortfolioPosition :=
  prior.filter fun value => value.outcomeStatus.active && value.registrationId ∉ jobIds

/-- The state that a batch makes of its merged positions. -/
def nextState (spec : PaperPortfolioBatchSpec) (positions : List PaperPortfolioPosition) :
    PaperPortfolioState :=
  let newlyClosed := (newlyClosedPositions (priorPositions previous) positions).map (·.registrationId)
  let daily := ctx.sum 0 ((positions.filter (·.registrationId ∈ newlyClosed)).map (·.net))
  let priorCumulative := previous.elim 0 (·.cumulativeRealizedPnl)
  let cumulative := ctx.add priorCumulative daily
  let priorPeak := previous.elim 0 (·.peakRealizedPnl)
  let peak := max priorPeak cumulative
  { batchId := spec.batchId
    outcomeJobSpecIds := spec.outcomeJobs.map (·.jobSpecId)
    previous := previous.map (·.binding)
    asOf := spec.asOf
    positions
    newlyClosedRegistrationIds := sorted newlyClosed
    dailyRealizedPnl := daily
    priorCumulativeRealizedPnl := priorCumulative
    cumulativeRealizedPnl := cumulative
    priorPeakRealizedPnl := priorPeak
    peakRealizedPnl := peak
    drawdown := ctx.sub peak cumulative
    totals := portfolioTotals ctx positions
    dailyLossLimit := spec.dailyLossLimit
    cumulativeLossLimit := spec.cumulativeLossLimit
    riskHaltReasons := riskHaltReasons ctx daily cumulative spec.dailyLossLimit
      spec.cumulativeLossLimit }

end Positions

section Batch

variable (ctx : DecimalContext) (source : PaperOutcomeEvidenceSource)
variable (spec : PaperPortfolioBatchSpec)

/-- The state that a batch follows: none for the first one, else the unique leaf. -/
def selectPredecessor (store : LocalPaperPortfolioStateStore) :
    Except PaperError (Option PaperPortfolioState) :=
  match spec.previous with
  | none => do
    raiseIf (store.states ≠ []) (.portfolio "paper portfolio predecessor is required")
    return none
  | some binding =>
    match store.get binding.batchId with
    | none => .error ⟨.paperPortfolioNotFound, "paper portfolio state was not found"⟩
    | some previous => do
      raiseIf (previous.stateId ≠ binding.stateId ∨ spec.asOf ≤ previous.asOf)
        (.portfolio "previous paper portfolio state differs")
      raiseIf (store.leaves.map (·.stateId) ≠ [previous.stateId])
        (.portfolio "paper portfolio predecessor is not the unique leaf")
      return some previous

/-- The checks before the first job. -/
def startBatch (store : LocalPaperPortfolioStateStore) :
    Except PaperError (Option PaperPortfolioState) := do
  let previous ← selectPredecessor spec store
  raiseIf (missingActive (priorPositions previous) spec.jobIds ≠ [])
    (.portfolio "paper portfolio batch omits an active position")
  return previous

def executeJob (job : PaperOutcomeJobSpec) : Writes OutcomeStores PaperError PaperPortfolioPosition := do
  let record ← runPaperOutcomeJob ctx source job
  Writes.read fun stores : OutcomeStores => positionFromRecord ctx record stores.ledger

def executeJobs (jobs : List PaperOutcomeJobSpec) :
    Writes OutcomeStores PaperError (List PaperPortfolioPosition) :=
  Writes.mapError .failBatch (Writes.forItems (executeJob ctx source) jobs)

/-- A batch that has no state yet. -/
def runFreshBatch : Writes PaperStores PaperError PaperPortfolioState := do
  let previous ← Writes.read fun stores : PaperStores => startBatch spec stores.portfolio
  let updated ← PaperStores.onOutcome (executeJobs ctx source spec.outcomeJobs)
  let positions := mergePositions (priorPositions previous) spec.jobIds updated
  let state ← Writes.lift (PaperPortfolioState.create ctx (nextState ctx previous spec positions))
  PaperStores.onPortfolio (.update fun store => store.put state)

def runPaperPortfolioBatch : Writes PaperStores PaperError PaperPortfolioState := fun stores =>
  match stores.portfolio.get spec.batchId with
  | some existing => (.ok existing, stores)
  | none => runFreshBatch ctx source spec stores

/-- A batch that stops at a job boundary, after its first `completed` jobs. -/
def interruptPaperPortfolioBatch (completed : ℕ) : Writes PaperStores PaperError Unit := fun stores =>
  match stores.portfolio.get spec.batchId with
  | some _ => (.ok (), stores)
  | none => (do
      let _ ← Writes.read fun stores : PaperStores => startBatch spec stores.portfolio
      let _ ← PaperStores.onOutcome (executeJobs ctx source (spec.outcomeJobs.take completed))
      return () : Writes PaperStores PaperError Unit) stores

end Batch

def PaperError.preparation (message : String) : PaperError := ⟨.paperPortfolioPreparationError, message⟩

def PaperError.failPreparation (e : PaperError) : PaperError :=
  if e.class_ = .paperPortfolioPreparationError then e
  else .preparation "portfolio preparation failed safely"

structure PaperRegistrationListing where
  registrationId : Digest
  tickSnapshotId : Digest
  series : String
  validatedIsin : String
  deriving DecidableEq, Repr

@[ext] structure PaperPortfolioPreparationSpec where
  asOf : Instant
  calendarMaterializationId : Digest
  historicalArtifactIds : List Digest
  listings : List PaperRegistrationListing
  policy : PaperOutcomePolicy
  previous : Option PortfolioBinding
  dailyLossLimit : ℚ
  cumulativeLossLimit : ℚ
  artifacts : historicalArtifactIds ≠ [] ∧ historicalArtifactIds.Nodup
  ordered : SortedUnique (listings.map (·.registrationId))
  daily_pos : 0 < dailyLossLimit
  cumulative_pos : 0 < cumulativeLossLimit

instance : DecidableEq PaperPortfolioPreparationSpec := fun _ _ => decidable_of_iff _ PaperPortfolioPreparationSpec.ext_iff.symm

/-- `_ACTIVE_LEDGER_STATUSES` -/
def PaperTradeStatus.active : PaperTradeStatus → Bool
  | .alerted | .open_ => true
  | .closed | .expired | .invalidated => false

section Prepare

variable (ctx : DecimalContext) (source : PaperOutcomeEvidenceSource)

/-- The registrations whose trade has not ended. -/
def activeRegistrationIds (ledger : LocalPaperTradeLedger) :
    List PaperTradeRegistration → Except PaperError (List Digest)
  | [] => .ok []
  | registration :: rest => do
    let summary ← ledger.summary ctx registration.registrationId
    let ids ← activeRegistrationIds ledger rest
    return if summary.status.active then registration.registrationId :: ids else ids

variable (spec : PaperPortfolioPreparationSpec)

/-- The predecessor checks of a preparation. -/
def checkPreparationPredecessor (store : LocalPaperPortfolioStateStore) : Except PaperError Unit :=
  match spec.previous with
  | none => raiseIf (store.states ≠ []) (.preparation "preparation predecessor is required")
  | some binding =>
    match store.get binding.batchId with
    | none => .error ⟨.paperPortfolioNotFound, "paper portfolio state was not found"⟩
    | some previous => do
      raiseIf (previous.stateId ≠ binding.stateId ∨ spec.asOf ≤ previous.asOf)
        (.preparation "preparation predecessor differs")
      raiseIf (store.leaves.map (·.stateId) ≠ [previous.stateId])
        (.preparation "preparation predecessor is not the unique portfolio leaf")

/-- The job of one listing. -/
def prepareListing (listing : PaperRegistrationListing) : Except PaperError PaperOutcomeJobSpec :=
  preparePaperOutcomeJobSpec ctx source listing.registrationId spec.calendarMaterializationId
    listing.tickSnapshotId spec.historicalArtifactIds listing.series listing.validatedIsin spec.asOf
    spec.policy

def preparePaperPortfolioBatch (ledger : LocalPaperTradeLedger)
    (store : LocalPaperPortfolioStateStore) : Except PaperError PaperPortfolioBatchSpec :=
  Except.mapError .failPreparation do
    let activeIds ← activeRegistrationIds ctx ledger ledger.listRegistrations
    raiseIf (activeIds ≠ spec.listings.map (·.registrationId))
      (.preparation "preparation listing coverage differs from active paper registrations")
    raiseIf (activeIds = []) (.preparation "no active paper registrations exist")
    checkPreparationPredecessor spec store
    let jobs ← spec.listings.mapM (prepareListing ctx source spec)
    PaperPortfolioBatchSpec.create spec.asOf jobs spec.previous spec.dailyLossLimit
      spec.cumulativeLossLimit

end Prepare

end IndiaSwing
