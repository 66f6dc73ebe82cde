import IndiaSwing.Simulator

namespace IndiaSwing

@[ext] structure EvaluationTradeIntent where
  signalId : ContentId
  universeSnapshotId : ContentId
  isin : String
  entryOrder : LimitEntryOrder
  stopPrice : ℚ
  targetPrice : ℚ
  maxHoldingSessions : ℕ
  stop_pos : 0 < stopPrice
  target_pos : 0 < targetPrice
  stop_onTick : OnTick stopPrice entryOrder.tickSize
  target_onTick : OnTick targetPrice entryOrder.tickSize
  stop_lt : stopPrice < entryOrder.limitPrice
  lt_target : entryOrder.limitPrice < targetPrice
  holding_pos : 0 < maxHoldingSessions
  deriving Repr

instance : DecidableEq EvaluationTradeIntent := fun _ _ => decidable_of_iff _ EvaluationTradeIntent.ext_iff.symm

def EvaluationTradeIntent.intentId (intent : EvaluationTradeIntent) : ContentId :=
  .ofFields "trial-evaluation-trade-intent/v1"
    [intent.signalId, intent.universeSnapshotId, .text intent.isin, intent.entryOrder.orderId,
      .decimal intent.stopPrice, .decimal intent.targetPrice, .int intent.maxHoldingSessions]

/-- A research intent, with the planned reward to risk at its limit price. -/
@[ext] structure PromotedResearchTradeIntent where
  evaluationIntent : EvaluationTradeIntent
  estimatedCostBuffer : ℚ
  plannedNetRewardRisk : ℚ
  buffer_pos : 0 < estimatedCostBuffer
  planned_ge : 5 / 2 ≤ plannedNetRewardRisk
  risk_pos : 0 < evaluationIntent.entryOrder.limitPrice - evaluationIntent.stopPrice +
    estimatedCostBuffer
  planned_eq : (evaluationIntent.targetPrice - evaluationIntent.entryOrder.limitPrice -
      estimatedCostBuffer) /
    (evaluationIntent.entryOrder.limitPrice - evaluationIntent.stopPrice + estimatedCostBuffer) =
      plannedNetRewardRisk
  deriving Repr

instance : DecidableEq PromotedResearchTradeIntent := fun _ _ => decidable_of_iff _ PromotedResearchTradeIntent.ext_iff.symm

/-- The planned ratio is positive, so the reward at the limit price is. -/
theorem PromotedResearchTradeIntent.reward_pos (intent : PromotedResearchTradeIntent) :
    0 < intent.evaluationIntent.targetPrice - intent.evaluationIntent.entryOrder.limitPrice -
      intent.estimatedCostBuffer := by
  have hratio : 0 < (intent.evaluationIntent.targetPrice -
      intent.evaluationIntent.entryOrder.limitPrice - intent.estimatedCostBuffer) /
      (intent.evaluationIntent.entryOrder.limitPrice - intent.evaluationIntent.stopPrice +
        intent.estimatedCostBuffer) := by
    have := intent.planned_ge
    rw [intent.planned_eq]
    linarith
  exact (div_pos_iff_of_pos_right intent.risk_pos).mp hratio

def listingKeyCharacter (c : Char) : Bool :=
  c.isUpper || c.isDigit || c == '&' || c == '.' || c == '-'

/-- The pattern `NSE:[A-Z0-9&.\-]{1,32}` -/
def isListingKey (text : String) : Bool :=
  text.toList.take 4 = ['N', 'S', 'E', ':'] && (text.toList.drop 4).all listingKeyCharacter &&
    1 ≤ (text.toList.drop 4).length && (text.toList.drop 4).length ≤ 32

structure PromotedOperationalCandidate where
  researchIntent : PromotedResearchTradeIntent
  listingKey : String
  listingKey_valid : isListingKey listingKey = true
  listingKey_eq : listingKey = "NSE:" ++ researchIntent.evaluationIntent.entryOrder.symbol
  deriving DecidableEq, Repr

end IndiaSwing

namespace IndiaSwing

open ExceptGuards

structure DailyExecutionPolicy where
  slippageBps : ℚ
  maximumParticipation : ℚ
  stressedSlippageBps : Option ℚ
  version : String
  participation : 0 < maximumParticipation ∧ maximumParticipation ≤ 1
  stressed : ∀ stressed ∈ stressedSlippageBps, 0 < stressed ∧ slippageBps < stressed
  version_ne : version ≠ ""

structure EvaluatedTrade where
  intentId : ContentId
  isin : String
  entryFill : SimulatedFill
  exitFill : SimulatedFill
  buys : entryFill.side = .buy
  sells : exitFill.side = .sell
  symbol_eq : entryFill.symbol = exitFill.symbol
  quantity_eq : entryFill.quantity = exitFill.quantity
  session_le : entryFill.session ≤ exitFill.session
  deriving DecidableEq, Repr

def EvaluatedTrade.create (intentId : ContentId) (isin : String)
    (entryFill exitFill : SimulatedFill) : Except ValueError EvaluatedTrade :=
  if hsides : ¬(entryFill.side = .buy ∧ exitFill.side = .sell) then
    .error ⟨"evaluated trade requires buy then sell fills"⟩
  else if hfills : ¬(entryFill.symbol = exitFill.symbol ∧ entryFill.quantity = exitFill.quantity ∧
      entryFill.session ≤ exitFill.session) then
    .error ⟨"evaluated trade fills are inconsistent"⟩
  else
    .ok ⟨intentId, isin, entryFill, exitFill, (not_not.mp hsides).1, (not_not.mp hsides).2,
      (not_not.mp hfills).1, (not_not.mp hfills).2.1, (not_not.mp hfills).2.2⟩

def EvaluatedTrade.grossPnl (ctx : DecimalContext) (trade : EvaluatedTrade) : ℚ :=
  ctx.mul (ctx.sub trade.exitFill.fillPrice trade.entryFill.fillPrice) trade.entryFill.quantity

section EvaluateIntent

variable (ctx : DecimalContext)

/-- The bar of a session; of several the last one counts, as in a dictionary. -/
def barOn (bars : List SimulationBar) (session : SessionDate) : Option SimulationBar :=
  bars.reverse.find? (·.session = session)

/-- The sessions of the entry window, in order, until one fills the order. -/
def entryScan (order : LimitEntryOrder) (bars : List SimulationBar) (selectedSlippage : ℚ) :
    List SessionDate → Except ValueError (Option SimulatedFill)
  | [] => .ok none
  | session :: rest =>
    if session < order.firstEligibleSession then entryScan order bars selectedSlippage rest
    else if order.expirySession < session then .ok none
    else
      match barOn bars session with
      | none => .error ⟨"entry window contains a missing daily bar"⟩
      | some bar => do
        match ← simulateLimitEntry ctx order bar selectedSlippage with
        | some fill => return some fill
        | none => entryScan order bars selectedSlippage rest

/-- The holding sessions, in order, until a stop or a target fills; the last one ends in a time
exit. -/
def exitScan (order : ProtectiveExitOrder) (bars : List SimulationBar) (selectedSlippage : ℚ) :
    List SessionDate → Except ValueError (Option SimulatedFill)
  | [] => .ok none
  | session :: rest =>
    match barOn bars session with
    | none => .error ⟨"holding window contains a missing daily bar"⟩
    | some bar => do
      match ← simulateProtectiveExit ctx order bar selectedSlippage with
      | some fill => return some fill
      | none =>
        if rest = [] then simulateTimeExit ctx order bar selectedSlippage
        else exitScan order bars selectedSlippage rest

/-- The order that protects a filled entry. -/
def protectiveExitOrder (intent : EvaluationTradeIntent) (entryFill : SimulatedFill)
    (policy : DailyExecutionPolicy) : Except ValueError ProtectiveExitOrder :=
  ProtectiveExitOrder.create entryFill.symbol entryFill.quantity entryFill.session
    entryFill.fillPrice intent.stopPrice intent.targetPrice intent.entryOrder.tickSize
    policy.maximumParticipation

/-- The evaluation of a filled entry. -/
def evaluateHolding (intent : EvaluationTradeIntent) (bars : List SimulationBar)
    (sessions : List SessionDate) (policy : DailyExecutionPolicy) (selectedSlippage : ℚ)
    (entryFill : SimulatedFill) : Except ValueError EvaluatedTrade := do
  let entryIndex := sessions.idxOf entryFill.session
  let horizonIndex := entryIndex + intent.maxHoldingSessions - 1
  raiseIf (sessions.length ≤ horizonIndex) ⟨"dataset does not mature the full holding horizon"⟩
  let exitOrder ← protectiveExitOrder intent entryFill policy
  let holding := (sessions.drop entryIndex).take (horizonIndex + 1 - entryIndex)
  match ← exitScan ctx exitOrder bars selectedSlippage holding with
  | none => throw ⟨"position could not be liquidated by its horizon"⟩
  | some exitFill => EvaluatedTrade.create intent.intentId intent.isin entryFill exitFill

def evaluateIntent (intent : EvaluationTradeIntent) (bars : List SimulationBar)
    (sessions : List SessionDate) (policy : DailyExecutionPolicy) (selectedSlippage : ℚ) :
    Except ValueError (Option EvaluatedTrade) := do
  match ← entryScan ctx intent.entryOrder bars selectedSlippage sessions with
  | none => return none
  | some entryFill =>
    let trade ← evaluateHolding ctx intent bars sessions policy selectedSlippage entryFill
    return some trade

end EvaluateIntent

end IndiaSwing
