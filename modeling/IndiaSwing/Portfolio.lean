import IndiaSwing.Lib.SortedTuples
import IndiaSwing.OutcomeJob

namespace IndiaSwing

open ExceptGuards (raiseIf)
open SortedTuples (SortedUnique sorted)

def PaperError.portfolio (message : String) : PaperError := ⟨.paperPortfolioError, message⟩

/-- The batch and the state that a batch, or a state, follows. -/
structure PortfolioBinding where
  batchId : ContentId
  stateId : ContentId
  deriving DecidableEq, Repr

def PortfolioBinding.encode (binding : PortfolioBinding) : ContentId :=
  .pair binding.batchId binding.stateId

/-- `_ACTIVE` -/
def PaperOutcomeStatus.active : PaperOutcomeStatus → Bool
  | .waiting | .open_ | .blocked => true
  | .expired | .closed => false

@[ext] structure PaperPortfolioBatchSpec where
  asOf : Instant
  outcomeJobs : List PaperOutcomeJobSpec
  previous : Option PortfolioBinding
  dailyLossLimit : ℚ
  cumulativeLossLimit : ℚ
  jobs_ne : outcomeJobs ≠ []
  cutoff : ∀ job ∈ outcomeJobs, job.asOf = asOf
  ordered : SortedUnique (outcomeJobs.map (·.registrationId))
  daily_pos : 0 < dailyLossLimit
  cumulative_pos : 0 < cumulativeLossLimit

instance : DecidableEq PaperPortfolioBatchSpec := fun _ _ => decidable_of_iff _ PaperPortfolioBatchSpec.ext_iff.symm

namespace PaperPortfolioBatchSpec

def create (asOf : Instant) (outcomeJobs : List PaperOutcomeJobSpec)
    (previous : Option PortfolioBinding) (dailyLossLimit cumulativeLossLimit : ℚ) :
    Except PaperError PaperPortfolioBatchSpec :=
  if hne : outcomeJobs = [] then .error (.portfolio "paper portfolio batch requires outcome jobs")
  else if hcutoff : ¬∀ job ∈ outcomeJobs, job.asOf = asOf then
    .error (.portfolio "paper portfolio job cutoff differs from its batch")
  else if hordered : ¬SortedUnique (outcomeJobs.map (·.registrationId)) then
    .error (.portfolio "paper portfolio jobs must be unique and registration ordered")
  else if hdaily : dailyLossLimit ≤ 0 then .error (.portfolio "daily_loss_limit must be positive")
  else if hcumulative : cumulativeLossLimit ≤ 0 then
    .error (.portfolio "cumulative_loss_limit must be positive")
  else .ok ⟨asOf, outcomeJobs, previous, dailyLossLimit, cumulativeLossLimit, hne,
    not_not.mp hcutoff, not_not.mp hordered, positive_of_check hdaily, positive_of_check hcumulative⟩

def batchId (spec : PaperPortfolioBatchSpec) : ContentId :=
  .ofFields "paper-portfolio-batch-spec/v1"
    [.int spec.asOf, .list (spec.outcomeJobs.map (·.jobSpecId)), .option (·.encode) spec.previous,
      .decimal spec.dailyLossLimit, .decimal spec.cumulativeLossLimit]

def jobIds (spec : PaperPortfolioBatchSpec) : List Digest := spec.outcomeJobs.map (·.registrationId)

end PaperPortfolioBatchSpec

structure PaperPortfolioPosition where
  registrationId : Digest
  symbol : String
  outcomeStatus : PaperOutcomeStatus
  jobSpecId : ContentId
  recordId : ContentId
  replayId : ContentId
  eventIds : List ContentId
  quantity : ℕ
  plannedRisk : ℚ
  entryNotional : ℚ
  estimatedCost : ℚ
  grossPnl : Option ℚ
  estimatedNetPnl : Option ℚ
  realizedR : Option ℚ
  deriving DecidableEq

namespace PaperPortfolioPosition

/-- The checks of the constructor. -/
def create (ctx : DecimalContext) (value : PaperPortfolioPosition) :
    Except PaperError PaperPortfolioPosition := do
  raiseIf (¬value.eventIds.Nodup) (.portfolio "paper position event IDs must be unique")
  raiseIf (value.quantity = 0) (.portfolio "paper position quantity must be positive")
  raiseIf (value.plannedRisk < 0) (.portfolio "planned_risk cannot be negative")
  raiseIf (value.entryNotional < 0) (.portfolio "entry_notional cannot be negative")
  raiseIf (value.estimatedCost < 0) (.portfolio "estimated_cost cannot be negative")
  raiseIf (value.plannedRisk ≤ 0 ∨ value.estimatedCost ≤ 0)
    (.portfolio "paper position risk and costs must be positive")
  if value.outcomeStatus = .closed then
    raiseIf (value.grossPnl = none ∨ value.estimatedNetPnl = none ∨ value.realizedR = none)
      (.portfolio "closed paper position requires P&L")
    raiseIf (value.realizedR ≠ value.estimatedNetPnl.map (ctx.div · value.plannedRisk))
      (.portfolio "paper position realized R differs")
  else
    raiseIf (¬(value.grossPnl = none ∧ value.estimatedNetPnl = none ∧ value.realizedR = none))
      (.portfolio "non-closed paper position cannot carry P&L")
  raiseIf (value.outcomeStatus = .open_ ∧ value.entryNotional ≤ 0)
    (.portfolio "open paper position requires entry notional")
  return value

def positionId (value : PaperPortfolioPosition) : ContentId :=
  .ofFields "paper-portfolio-position/v1"
    [.digest value.registrationId, .text value.symbol, .text value.outcomeStatus.value,
      value.jobSpecId, value.recordId, value.replayId, .list value.eventIds, .int value.quantity,
      .decimal value.plannedRisk, .decimal value.entryNotional, .decimal value.estimatedCost,
      .option .decimal value.grossPnl, .option .decimal value.estimatedNetPnl,
      .option .decimal value.realizedR]

def closed (value : PaperPortfolioPosition) : Bool := value.outcomeStatus = .closed

def open_ (value : PaperPortfolioPosition) : Bool := value.outcomeStatus = .open_

/-- The P&L of a closed position. -/
def net (value : PaperPortfolioPosition) : ℚ := value.estimatedNetPnl.getD 0

def realized (value : PaperPortfolioPosition) : ℚ := value.realizedR.getD 0

end PaperPortfolioPosition

/-- What a position list adds up to. -/
structure PortfolioTotals where
  totalEstimatedCosts : ℚ
  openRisk : ℚ
  openNotional : ℚ
  closedCount : ℕ
  winningCount : ℕ
  losingCount : ℕ
  winRate : ℚ
  expectancyPnl : ℚ
  expectancyR : ℚ
  deriving DecidableEq, Repr

def closedPositions (positions : List PaperPortfolioPosition) : List PaperPortfolioPosition :=
  positions.filter (·.closed)

def openPositions (positions : List PaperPortfolioPosition) : List PaperPortfolioPosition :=
  positions.filter (·.open_)

/-- An average over the closed positions, zero when there is none. -/
def closedAverage (ctx : DecimalContext) (closed : List PaperPortfolioPosition)
    (value : PaperPortfolioPosition → ℚ) : ℚ :=
  if closed = [] then 0 else ctx.div (ctx.sum 0 (closed.map value)) closed.length

def portfolioTotals (ctx : DecimalContext) (positions : List PaperPortfolioPosition) :
    PortfolioTotals :=
  let closed := closedPositions positions
  let wins := closed.countP fun value => 0 ≤ value.net
  { totalEstimatedCosts := ctx.sum 0 (closed.map (·.estimatedCost))
    openRisk := ctx.sum 0 ((openPositions positions).map (·.plannedRisk))
    openNotional := ctx.sum 0 ((openPositions positions).map (·.entryNotional))
    closedCount := closed.length
    winningCount := wins
    losingCount := closed.length - wins
    winRate := if closed = [] then 0 else ctx.div wins closed.length
    expectancyPnl := closedAverage ctx closed (·.net)
    expectancyR := closedAverage ctx closed (·.realized) }

/-- The halts of a day's loss and of the cumulative loss, in the order of their names. -/
def riskHaltReasons (ctx : DecimalContext) (daily cumulative dailyLimit cumulativeLimit : ℚ) :
    List String :=
  (if cumulative ≤ ctx.round (-cumulativeLimit) then ["CUMULATIVE_REALIZED_LOSS_HALT"] else []) ++
    (if daily ≤ ctx.round (-dailyLimit) then ["DAILY_REALIZED_LOSS_HALT"] else [])

structure PaperPortfolioState where
  batchId : ContentId
  outcomeJobSpecIds : List ContentId
  previous : Option PortfolioBinding
  asOf : Instant
  positions : List PaperPortfolioPosition
  newlyClosedRegistrationIds : List Digest
  dailyRealizedPnl : ℚ
  priorCumulativeRealizedPnl : ℚ
  cumulativeRealizedPnl : ℚ
  priorPeakRealizedPnl : ℚ
  peakRealizedPnl : ℚ
  drawdown : ℚ
  totals : PortfolioTotals
  dailyLossLimit : ℚ
  cumulativeLossLimit : ℚ
  riskHaltReasons : List String
  deriving DecidableEq

namespace PaperPortfolioState

/-- The positions that a state attributes to its day. -/
def newlyClosed (value : PaperPortfolioState) : List PaperPortfolioPosition :=
  value.positions.filter (·.registrationId ∈ value.newlyClosedRegistrationIds)

/-- The checks of the constructor. -/
def create (ctx : DecimalContext) (value : PaperPortfolioState) :
    Except PaperError PaperPortfolioState := do
  raiseIf (value.outcomeJobSpecIds = [] ∨ ¬value.outcomeJobSpecIds.Nodup)
    (.portfolio "paper portfolio job spec IDs are invalid")
  raiseIf (value.positions = []) (.portfolio "paper portfolio state requires positions")
  raiseIf (¬SortedUnique (value.positions.map (·.registrationId)))
    (.portfolio "paper portfolio positions must be unique and ordered")
  raiseIf (¬value.outcomeJobSpecIds ⊆ value.positions.map (·.jobSpecId))
    (.portfolio "paper portfolio job lineage is incomplete")
  raiseIf (¬(SortedUnique value.newlyClosedRegistrationIds ∧
      value.newlyClosedRegistrationIds ⊆ value.positions.map (·.registrationId)))
    (.portfolio "newly closed position IDs are invalid")
  raiseIf (value.dailyLossLimit ≤ 0 ∨ value.cumulativeLossLimit ≤ 0)
    (.portfolio "paper portfolio loss limits must be positive")
  raiseIf (value.cumulativeRealizedPnl ≠
      ctx.add value.priorCumulativeRealizedPnl value.dailyRealizedPnl)
    (.portfolio "cumulative paper P&L chain differs")
  raiseIf (value.peakRealizedPnl ≠ max value.priorPeakRealizedPnl value.cumulativeRealizedPnl)
    (.portfolio "paper portfolio peak P&L differs")
  raiseIf (value.drawdown ≠ ctx.sub value.peakRealizedPnl value.cumulativeRealizedPnl ∨
      value.drawdown < 0) (.portfolio "paper portfolio drawdown differs")
  raiseIf ((∃ position ∈ value.newlyClosed, position.outcomeStatus ≠ .closed) ∨
      value.dailyRealizedPnl ≠ ctx.sum 0 (value.newlyClosed.map (·.net)))
    (.portfolio "daily paper P&L attribution differs")
  raiseIf (value.totals ≠ portfolioTotals ctx value.positions)
    (.portfolio "paper portfolio aggregates do not replay")
  raiseIf (value.riskHaltReasons ≠ IndiaSwing.riskHaltReasons ctx value.dailyRealizedPnl
      value.cumulativeRealizedPnl value.dailyLossLimit value.cumulativeLossLimit)
    (.portfolio "paper portfolio halt reasons are invalid")
  return value

/-- The totals follow from the positions. -/
def stateId (value : PaperPortfolioState) : ContentId :=
  .ofFields "paper-portfolio-state/v1"
    [value.batchId, .list value.outcomeJobSpecIds, .option (·.encode) value.previous,
      .int value.asOf, .list (value.positions.map (·.positionId)),
      .list (value.newlyClosedRegistrationIds.map fun id => .digest id),
      .decimal value.dailyRealizedPnl, .decimal value.priorCumulativeRealizedPnl,
      .decimal value.cumulativeRealizedPnl, .decimal value.priorPeakRealizedPnl,
      .decimal value.peakRealizedPnl, .decimal value.drawdown, .decimal value.dailyLossLimit,
      .decimal value.cumulativeLossLimit, .list (value.riskHaltReasons.map .text)]

def binding (value : PaperPortfolioState) : PortfolioBinding := ⟨value.batchId, value.stateId⟩

end PaperPortfolioState

/-- The create-once states, in the order in which they were stored. -/
structure LocalPaperPortfolioStateStore where
  states : List PaperPortfolioState

namespace LocalPaperPortfolioStateStore

def empty : LocalPaperPortfolioStateStore := ⟨[]⟩

variable (store : LocalPaperPortfolioStateStore)

/-- `get`, with `none` for `PaperPortfolioNotFound`. -/
def get (batchId : ContentId) : Option PaperPortfolioState :=
  store.states.find? (·.batchId = batchId)

/-- The stored states that no stored state follows. -/
def leaves : List PaperPortfolioState :=
  let predecessorIds := store.states.filterMap fun value => value.previous.map (·.stateId)
  store.states.filter (·.stateId ∉ predecessorIds)

def put (value : PaperPortfolioState) :
    Except PaperError (PaperPortfolioState × LocalPaperPortfolioStateStore) :=
  match store.get value.batchId with
  | some stored =>
    if stored ≠ value then
      .error ⟨.paperPortfolioConflict, "paper portfolio batch already has another state"⟩
    else .ok (stored, store)
  | none => do
    if store.states = [] then
      raiseIf (value.previous ≠ none)
        ⟨.paperPortfolioConflict, "paper portfolio predecessor state is absent"⟩
    else
      raiseIf (value.previous = none)
        ⟨.paperPortfolioConflict, "paper portfolio cannot create another genesis"⟩
      raiseIf (store.leaves.map (·.binding) ≠ value.previous.toList)
        ⟨.paperPortfolioConflict, "paper portfolio append is not on the unique leaf"⟩
    return (value, ⟨store.states ++ [value]⟩)

end LocalPaperPortfolioStateStore

end IndiaSwing
