import IndiaSwing.SwingProposals

namespace IndiaSwing.Signals

open ExceptGuards KeySort TextPatterns Windows

section Quotes

/-- The fields of a `KiteDepthLevel`. -/
structure KiteDepthLevel where
  price : ℚ
  quantity : ℕ
  orders : ℕ
  deriving DecidableEq, Repr

/-- The fields of a `KiteFullQuote`. -/
structure KiteFullQuoteFields where
  listingKey : String
  instrumentToken : ℕ
  exchangeTimestamp : Instant
  lastTradeTime : Option Instant
  lastPrice : ℚ
  lowerCircuitLimit : ℚ
  upperCircuitLimit : ℚ
  depthBuy : List KiteDepthLevel
  depthSell : List KiteDepthLevel
  deriving DecidableEq, Repr

def isSymbolStart (c : Char) : Bool := ('A' ≤ c && c ≤ 'Z') || c.isDigit

def isSymbolRest (c : Char) : Bool := isSymbolStart c || c = '&' || c = '-'

/-- `LISTING_KEY_PATTERN` -/
def isListingKey (key : String) : Bool :=
  match key.toList with
  | 'N' :: 'S' :: 'E' :: ':' :: first :: rest => isSymbolStart first && rest.all isSymbolRest && decide (rest.length ≤ 31)
  | _ => false

namespace KiteFullQuoteFields

variable (q : KiteFullQuoteFields)

/-- The first level of a side with a positive price. -/
def bestOf (side : List KiteDepthLevel) : Option ℚ := (side.find? (0 < ·.price)).map (·.price)

def bestBid : Option ℚ := bestOf q.depthBuy

def bestAsk : Option ℚ := bestOf q.depthSell

def hasTwoSidedDepth : Bool := q.bestBid.isSome && q.bestAsk.isSome

/-- `spread_bps`, around the middle of the best prices -/
def spreadBps : Option ℚ :=
  match q.bestBid, q.bestAsk with
  | some bestBid, some bestAsk =>
    let mid := signalContext.div (signalContext.add bestBid bestAsk) 2
    some (signalContext.mul (signalContext.div (signalContext.sub bestAsk bestBid) mid) 10000)
  | _, _ => none

def atLowerCircuit : Bool := q.lastPrice = q.lowerCircuitLimit

def atUpperCircuit : Bool := q.lastPrice = q.upperCircuitLimit

/-- `KiteDepthLevel._validate` -/
def checkLevel (level : KiteDepthLevel) : Except SignalError Unit := do
  raiseIf (level.price < 0) (.marketData "depth price cannot be negative")
  raiseIf (level.price = 0 ∧ (level.quantity ≠ 0 ∨ level.orders ≠ 0))
    (.marketData "a zero-priced depth level must have zero quantity and orders")

def positivePrices (side : List KiteDepthLevel) : List ℚ := (side.map (·.price)).filter (0 < ·)

/-- The amounts that have to be positive, with their names. -/
def amounts : List (String × ℚ) :=
  [("last_price", q.lastPrice), ("lower_circuit_limit", q.lowerCircuitLimit),
    ("upper_circuit_limit", q.upperCircuitLimit)]

/-- `KiteFullQuote._validate` -/
def check : Except SignalError Unit := do
  raiseIf (¬isListingKey q.listingKey) (.marketData "quote listing_key must be canonical NSE:TRADINGSYMBOL text")
  raiseIf (q.instrumentToken = 0) (.marketData "quote instrument_token must be a positive integer")
  raiseIf (∃ time ∈ q.lastTradeTime, q.exchangeTimestamp < time)
    (.marketData "last_trade_time cannot be after the exchange timestamp")
  q.amounts.forM fun (name, value) => raiseIf (value ≤ 0) (.marketData ("quote." ++ name ++ " must be positive"))
  raiseIf (¬(q.lowerCircuitLimit ≤ q.lastPrice ∧ q.lastPrice ≤ q.upperCircuitLimit))
    (.marketData "last_price must be within its circuit limits")
  q.depthBuy.forM checkLevel
  q.depthSell.forM checkLevel
  raiseIf (∃ step ∈ steps (positivePrices q.depthBuy), step.1 < step.2)
    (.marketData "depth_buy positive prices must be non-increasing")
  raiseIf (∃ step ∈ steps (positivePrices q.depthSell), step.2 < step.1)
    (.marketData "depth_sell positive prices must be non-decreasing")
  raiseIf (∃ bestBid ∈ q.bestBid, ∃ bestAsk ∈ q.bestAsk, bestAsk < bestBid)
    (.marketData "crossed depth: best ask is below best bid")

def sideId (side : List KiteDepthLevel) : ContentId :=
  .list (side.map fun level => .ofFields "KiteDepthLevel" [.decimal level.price, .int level.quantity, .int level.orders])

/-- The quote within a content id. -/
def identity : ContentId :=
  .ofFields "KiteFullQuote" [.text q.listingKey, .int q.instrumentToken, .int q.exchangeTimestamp,
    .option .int q.lastTradeTime, .decimal q.lastPrice, .decimal q.lowerCircuitLimit, .decimal q.upperCircuitLimit,
    sideId q.depthBuy, sideId q.depthSell]

end KiteFullQuoteFields

abbrev KiteFullQuote := { q : KiteFullQuoteFields // q.check = .ok () }

def maximumAggregatedQuoteKeys : ℕ := 10000

/-- The fields of a `FullQuoteBatch`. -/
structure FullQuoteBatchFields where
  requestedKeys : List String
  requestedAt : Instant
  observedAt : Instant
  providerVersion : String
  quotes : List KiteFullQuote
  deriving DecidableEq

/-- `require_canonical_listing_keys` -/
def requireCanonicalListingKeys (keys : List String) (maximumKeys : ℕ) : Except SignalError Unit := do
  raiseIf (keys = []) (.marketData "listing_keys must be a non-empty exact tuple")
  raiseIf (maximumKeys < keys.length) (.marketData ("listing_keys cannot exceed " ++ toString maximumKeys ++ " keys"))
  raiseIf (∃ key ∈ keys, ¬isListingKey key)
    (.marketData "listing_keys must be canonical uppercase NSE:TRADINGSYMBOL text")
  raiseIf (¬keys.Nodup) (.marketData "listing_keys must be unique")
  raiseIf (keys ≠ sortOn id keys) (.marketData "listing_keys must already be in sorted canonical order")

/-- `FullQuoteBatch.__post_init__` -/
def FullQuoteBatchFields.check (b : FullQuoteBatchFields) : Except SignalError Unit := do
  requireCanonicalListingKeys b.requestedKeys maximumAggregatedQuoteKeys
  raiseIf (b.observedAt < b.requestedAt) (.marketData "requested_at cannot be after observed_at")
  raiseIf (stripText b.providerVersion.toList = []) (.marketData "provider_version is required")
  raiseIf (b.quotes.map (·.1.listingKey) ≠ b.requestedKeys)
    (.marketData "quotes must exactly cover requested_keys in request order")
  raiseIf (¬(b.quotes.map (·.1.instrumentToken)).Nodup) (.marketData "quote batch contains duplicate instrument tokens")
  raiseIf (∃ quote ∈ b.quotes, b.observedAt < quote.1.exchangeTimestamp)
    (.marketData "quote batch contains a future-known exchange timestamp")

abbrev FullQuoteBatch := { b : FullQuoteBatchFields // b.check = .ok () }

end Quotes

section Quality

/-- The reasons of the quote quality and of the gate. -/
inductive SwingQuoteGateReason
  | entryWindowNotOpen
  | entryWindowExpired
  | quoteOutsideEntryWindow
  | quoteStale
  | lastTradeTimeMissing
  | lastTradeOutsideEntryWindow
  | lastTradeStale
  | twoSidedDepthMissing
  | spreadUnavailable
  | spreadAbovePolicyMax
  | circuitLocked
  | lastPriceOutsideEntryRange
  | bestAskOutsideEntryRange
  deriving DecidableEq, Repr

def SwingQuoteGateReason.value : SwingQuoteGateReason → String
  | .entryWindowNotOpen => "ENTRY_WINDOW_NOT_OPEN"
  | .entryWindowExpired => "ENTRY_WINDOW_EXPIRED"
  | .quoteOutsideEntryWindow => "QUOTE_OUTSIDE_ENTRY_WINDOW"
  | .quoteStale => "QUOTE_STALE"
  | .lastTradeTimeMissing => "LAST_TRADE_TIME_MISSING"
  | .lastTradeOutsideEntryWindow => "LAST_TRADE_OUTSIDE_ENTRY_WINDOW"
  | .lastTradeStale => "LAST_TRADE_STALE"
  | .twoSidedDepthMissing => "TWO_SIDED_DEPTH_MISSING"
  | .spreadUnavailable => "SPREAD_UNAVAILABLE"
  | .spreadAbovePolicyMax => "SPREAD_ABOVE_POLICY_MAX"
  | .circuitLocked => "CIRCUIT_LOCKED"
  | .lastPriceOutsideEntryRange => "LAST_PRICE_OUTSIDE_ENTRY_RANGE"
  | .bestAskOutsideEntryRange => "BEST_ASK_OUTSIDE_ENTRY_RANGE"

/-- `tuple(sorted(reasons))` of a set -/
def canonicalReasons (reasons : List SwingQuoteGateReason) : List SwingQuoteGateReason :=
  sortOn (·.value) reasons.dedup

/-- `reasons.add(reason)` under a condition -/
def reasonIf (bad : Prop) [Decidable bad] (reason : SwingQuoteGateReason) : List SwingQuoteGateReason :=
  if bad then [reason] else []

def seconds (n : ℕ) : ℤ := 1000000 * n

/-- A point in time that is not within a window. -/
def outside (notBefore deadline time : Instant) : Prop := time < notBefore ∨ deadline < time

/-- A time after the evaluation, or longer before it than a number of seconds. -/
def stale (evaluatedAt time : Instant) (maximumAgeSeconds : ℕ) : Prop :=
  evaluatedAt - time < 0 ∨ seconds maximumAgeSeconds < evaluatedAt - time

instance (notBefore deadline time : Instant) : Decidable (outside notBefore deadline time) :=
  inferInstanceAs (Decidable (_ ∨ _))

instance (evaluatedAt time : Instant) (maximumAgeSeconds : ℕ) : Decidable (stale evaluatedAt time maximumAgeSeconds) :=
  inferInstanceAs (Decidable (_ ∨ _))

/-- The reasons of the last trade. -/
def lastTradeReasons (notBefore deadline evaluatedAt : Instant) (maximumAgeSeconds : ℕ) :
    Option Instant → List SwingQuoteGateReason
  | none => [.lastTradeTimeMissing]
  | some time => reasonIf (outside notBefore deadline time) .lastTradeOutsideEntryWindow ++
    reasonIf (stale evaluatedAt time maximumAgeSeconds) .lastTradeStale

/-- The reasons of the spread. -/
def spreadReasons (maximumSpreadBps : ℚ) : Option ℚ → List SwingQuoteGateReason
  | none => [.spreadUnavailable]
  | some spread => reasonIf (maximumSpreadBps < spread) .spreadAbovePolicyMax

/-- The fields of a `SwingQuoteGatePolicy`. -/
structure SwingQuoteGatePolicyFields where
  maximumBatchCollectionSeconds : ℕ
  maximumQuoteAgeSeconds : ℕ
  maximumLastTradeAgeSeconds : ℕ
  maximumSpreadBps : ℚ
  deriving DecidableEq, Repr

namespace SwingQuoteGatePolicyFields

variable (p : SwingQuoteGatePolicyFields)

def limits : List (String × ℕ) :=
  [("maximum_batch_collection_seconds", p.maximumBatchCollectionSeconds),
    ("maximum_quote_age_seconds", p.maximumQuoteAgeSeconds),
    ("maximum_last_trade_age_seconds", p.maximumLastTradeAgeSeconds)]

/-- `SwingQuoteGatePolicy.__post_init__` -/
def check : Except SignalError Unit := do
  p.limits.forM fun (name, value) => raiseIf (value = 0) (.quoteGate (name ++ " must be a positive integer"))
  raiseIf (p.maximumSpreadBps ≤ 0) (.quoteGate "maximum_spread_bps must be positive")

/-- `policy_id` -/
def policyId : ContentId :=
  .ofFields "swing-quote-gate-policy/v1" [.int p.maximumBatchCollectionSeconds, .int p.maximumQuoteAgeSeconds,
    .int p.maximumLastTradeAgeSeconds, .decimal p.maximumSpreadBps]

end SwingQuoteGatePolicyFields

abbrev SwingQuoteGatePolicy := { p : SwingQuoteGatePolicyFields // p.check = .ok () }

/-- `SwingQuoteGatePolicy()` -/
def defaultSwingQuoteGatePolicy : SwingQuoteGatePolicy := ⟨⟨15, 15, 300, 50⟩, by decide +kernel⟩

structure QuoteQualityResult where
  reasonCodes : List SwingQuoteGateReason
  observedSpreadBps : Option ℚ
  deriving DecidableEq, Repr

variable (quote : KiteFullQuote) (expectedListingKey : String) (decisionNotBefore decisionDeadline evaluatedAt : Instant)
  (maximumQuoteAgeSeconds maximumLastTradeAgeSeconds : ℕ) (maximumSpreadBps : ℚ)

/-- The reasons that `evaluate_quote_quality` adds, in its order. -/
def qualityReasons : List SwingQuoteGateReason :=
  reasonIf (evaluatedAt < decisionNotBefore) .entryWindowNotOpen ++
  reasonIf (decisionDeadline < evaluatedAt) .entryWindowExpired ++
  reasonIf (outside decisionNotBefore decisionDeadline quote.1.exchangeTimestamp) .quoteOutsideEntryWindow ++
  reasonIf (stale evaluatedAt quote.1.exchangeTimestamp maximumQuoteAgeSeconds) .quoteStale ++
  lastTradeReasons decisionNotBefore decisionDeadline evaluatedAt maximumLastTradeAgeSeconds quote.1.lastTradeTime ++
  reasonIf (¬quote.1.hasTwoSidedDepth) .twoSidedDepthMissing ++
  spreadReasons maximumSpreadBps quote.1.spreadBps ++
  reasonIf (quote.1.atLowerCircuit ∨ quote.1.atUpperCircuit) .circuitLocked

/-- `evaluate_quote_quality`, which raises a `QuoteQualityError` with the message -/
def evaluateQuoteQuality : Except String QuoteQualityResult := do
  raiseIf (expectedListingKey = "") "expected_listing_key must be non-empty text"
  raiseIf (quote.1.listingKey ≠ expectedListingKey) "quote listing key does not match the expected subject"
  raiseIf (decisionDeadline ≤ decisionNotBefore) "decision_not_before must be strictly before decision_deadline"
  raiseIf (maximumQuoteAgeSeconds = 0) "maximum_quote_age_seconds must be a positive exact integer"
  raiseIf (maximumLastTradeAgeSeconds = 0) "maximum_last_trade_age_seconds must be a positive exact integer"
  raiseIf (maximumSpreadBps ≤ 0) "maximum_spread_bps must be a positive finite Decimal"
  return ⟨canonicalReasons (qualityReasons quote decisionNotBefore decisionDeadline evaluatedAt maximumQuoteAgeSeconds
    maximumLastTradeAgeSeconds maximumSpreadBps), quote.1.spreadBps⟩

end Quality

section Gate

inductive SwingQuoteGateDisposition
  | pass
  | veto
  deriving DecidableEq, Repr

def SwingQuoteGateDisposition.value : SwingQuoteGateDisposition → String
  | .pass => "PASS"
  | .veto => "VETO"

/-- What `_evaluate_quote_gate` returns. -/
structure QuoteGateEvaluation where
  disposition : SwingQuoteGateDisposition
  reasonCodes : List SwingQuoteGateReason
  observedSpreadBps : Option ℚ
  effectiveCostBps : Option ℚ
  quoteAdjustedLevels : Option SwingTradeLevels
  deriving DecidableEq

/-- The listing key of a symbol. -/
def nseKey (symbol : String) : String := "NSE:" ++ symbol

/-- The reasons of the gate beside those of the quality. -/
def priceReasons (levels : SwingTradeLevels) (quote : KiteFullQuote) : List SwingQuoteGateReason :=
  reasonIf (¬(levels.1.entryLow ≤ quote.1.lastPrice ∧ quote.1.lastPrice ≤ levels.1.entryHigh))
    .lastPriceOutsideEntryRange ++
  reasonIf (∃ bestAsk ∈ quote.1.bestAsk, ¬(levels.1.entryLow ≤ bestAsk ∧ bestAsk ≤ levels.1.entryHigh))
    .bestAskOutsideEntryRange

/-- `_evaluate_quote_gate` -/
def evaluateQuoteGate (proposal : SwingTechnicalProposal) (quote : KiteFullQuote) (evaluatedAt : Instant)
    (policy : SwingQuoteGatePolicy) : Except SignalError QuoteGateEvaluation := do
  let window := proposal.1.entryWindow
  let quality ← (evaluateQuoteQuality quote (nseKey proposal.1.symbol) window.1.earliestEntryAt window.1.entryExpiresAt
    evaluatedAt policy.1.maximumQuoteAgeSeconds policy.1.maximumLastTradeAgeSeconds
    policy.1.maximumSpreadBps).mapError .quoteGate
  let reasons := canonicalReasons (quality.reasonCodes ++ priceReasons proposal.1.levels quote)
  if reasons ≠ [] then
    return ⟨.veto, reasons, quality.observedSpreadBps, none, none⟩
  else do
    let observedSpreadBps ← quality.observedSpreadBps.elim (.error (.python "TypeError")) .ok
    let effectiveCostBps := max proposal.1.config.1.baseRoundTripCostBps observedSpreadBps
    let history := proposal.1.assembly.history
    let current ← barFromEnd 1 history.1.bars
    let quoteAdjustedLevels ← calculateSwingTradeLevels current.1.close history.1.tickSize proposal.1.metrics.1.atr
      effectiveCostBps proposal.1.config
    return ⟨.pass, [], quality.observedSpreadBps, some effectiveCostBps, some quoteAdjustedLevels⟩

/-- `except SwingQuoteGateError: raise`, and another exception with a message of its own. -/
def asGateError (message : String) : SignalError → SignalError
  | .quoteGate own => .quoteGate own
  | _ => .quoteGate message

/-- The fields of a `SwingQuoteGateOutcome`. -/
structure SwingQuoteGateOutcomeFields where
  proposal : SwingTechnicalProposal
  quote : KiteFullQuote
  evaluatedAt : Instant
  policy : SwingQuoteGatePolicy
  evaluation : QuoteGateEvaluation
  deriving DecidableEq

namespace SwingQuoteGateOutcomeFields

variable (o : SwingQuoteGateOutcomeFields)

def passed : Bool := o.evaluation.disposition = .pass

/-- The end of `_verify`: what an outcome carries under its disposition. -/
def checkCarried (replayed : QuoteGateEvaluation) : Except SignalError Unit :=
  match o.evaluation.disposition with
  | .pass => do
    raiseIf (o.evaluation.reasonCodes ≠ []) (.quoteGate "a PASS outcome cannot carry reason codes")
    raiseIf (o.evaluation.effectiveCostBps = none ∨ o.evaluation.quoteAdjustedLevels = none)
      (.quoteGate "a PASS outcome requires effective cost and quote-adjusted levels")
    raiseIf (replayed.quoteAdjustedLevels.map (·.1.levelsId) ≠ o.evaluation.quoteAdjustedLevels.map (·.1.levelsId))
      (.quoteGate "quote-adjusted levels do not replay from bound inputs")
    raiseIf (o.evaluation.effectiveCostBps ≠ replayed.effectiveCostBps)
      (.quoteGate "effective cost does not replay from bound inputs")
  | .veto => do
    raiseIf (o.evaluation.reasonCodes = []) (.quoteGate "a VETO outcome requires at least one reason code")
    raiseIf (o.evaluation.effectiveCostBps ≠ none ∨ o.evaluation.quoteAdjustedLevels ≠ none)
      (.quoteGate "a VETO outcome cannot carry effective cost or quote-adjusted levels")

/-- `_verify` -/
def check : Except SignalError Unit := do
  o.proposal.1.check
  o.quote.1.check
  raiseIf (o.quote.1.listingKey ≠ nseKey o.proposal.1.symbol)
    (.quoteGate "quote listing key does not match the proposal subject")
  let replayed ← (evaluateQuoteGate o.proposal o.quote o.evaluatedAt o.policy).mapError
    (asGateError "quote gate replay failed")
  raiseIf (replayed.disposition ≠ o.evaluation.disposition)
    (.quoteGate "outcome disposition does not replay from bound inputs")
  raiseIf (o.evaluation.reasonCodes ≠ replayed.reasonCodes)
    (.quoteGate "outcome reasons do not replay from bound inputs")
  raiseIf (o.evaluation.reasonCodes ≠ canonicalReasons o.evaluation.reasonCodes)
    (.quoteGate "reason codes must be sorted and unique")
  raiseIf (o.evaluation.observedSpreadBps ≠ replayed.observedSpreadBps)
    (.quoteGate "observed spread does not replay from bound inputs")
  o.checkCarried replayed

/-- `outcome_id` -/
def outcomeId : ContentId :=
  .ofFields "swing-quote-gate-outcome/v1" [o.proposal.1.proposalId, o.quote.1.identity, .int o.evaluatedAt,
    o.policy.1.policyId, .text o.evaluation.disposition.value, .list (o.evaluation.reasonCodes.map (.text ·.value)),
    .option .decimal o.evaluation.observedSpreadBps, .option .decimal o.evaluation.effectiveCostBps,
    .option (·.1.levelsId) o.evaluation.quoteAdjustedLevels]

end SwingQuoteGateOutcomeFields

abbrev SwingQuoteGateOutcome := { o : SwingQuoteGateOutcomeFields // o.check = .ok () }

/-- The fields of a `SwingQuoteGateBatch`. -/
structure SwingQuoteGateBatchFields where
  proposalBatch : SwingProposalBatch
  quoteBatch : FullQuoteBatch
  policy : SwingQuoteGatePolicy
  evaluatedAt : Instant
  outcomes : List SwingQuoteGateOutcome
  passCount : ℕ
  vetoCount : ℕ

/-- The checks of a quote batch before its quotes are evaluated. -/
def checkQuoteBatch (proposalBatch : SwingProposalBatch) (quoteBatch : FullQuoteBatch) (evaluatedAt : Instant)
    (policy : SwingQuoteGatePolicy) : Except SignalError Unit := do
  raiseIf (quoteBatch.1.requestedKeys ≠ sortOn id (proposalBatch.1.proposals.map fun p => nseKey p.1.symbol))
    (.quoteGate "quote batch keys do not exactly match the proposal batch")
  raiseIf (evaluatedAt < quoteBatch.1.observedAt)
    (.quoteGate "quote batch was observed after the evaluation time")
  raiseIf (seconds policy.1.maximumBatchCollectionSeconds < quoteBatch.1.observedAt - quoteBatch.1.requestedAt)
    (.quoteGate "quote batch collection duration exceeded the policy maximum")

/-- `quote_by_key[f"NSE:{proposal.symbol}"]` -/
def quoteOf (quoteBatch : FullQuoteBatch) (proposal : SwingTechnicalProposal) : Except SignalError KiteFullQuote :=
  (Grouping.lastUnder (·.1.listingKey) quoteBatch.1.quotes (nseKey proposal.1.symbol)).elim
    (.error (.python "KeyError")) .ok

namespace SwingQuoteGateBatchFields

variable (b : SwingQuoteGateBatchFields)

/-- The checks of one outcome against its proposal and its quote. -/
def checkOutcome (proposal : SwingTechnicalProposal) (outcome : SwingQuoteGateOutcome) : Except SignalError Unit := do
  let quote ← quoteOf b.quoteBatch proposal
  raiseIf (outcome.1.proposal.1.proposalId ≠ proposal.1.proposalId)
    (.quoteGate "outcome is not bound to its proposal batch proposal")
  raiseIf (outcome.1.quote ≠ quote) (.quoteGate "outcome is not bound to its quote batch quote")
  raiseIf (outcome.1.evaluatedAt ≠ b.evaluatedAt) (.quoteGate "outcome evaluated_at differs from the gate batch")
  raiseIf (outcome.1.policy.1.policyId ≠ b.policy.1.policyId) (.quoteGate "outcome policy differs from the gate batch")

/-- `_verify_coverage` -/
def check : Except SignalError Unit := do
  b.proposalBatch.1.check
  b.quoteBatch.1.check
  checkQuoteBatch b.proposalBatch b.quoteBatch b.evaluatedAt b.policy
  raiseIf (b.outcomes.length ≠ b.proposalBatch.1.proposals.length)
    (.quoteGate "outcome coverage does not match the proposal batch")
  b.outcomes.forM (·.1.check)
  (b.proposalBatch.1.proposals.zip b.outcomes).forM fun (proposal, outcome) => b.checkOutcome proposal outcome
  let expectedPass := (b.outcomes.filter (·.1.passed)).length
  raiseIf (b.passCount ≠ expectedPass ∨ b.vetoCount ≠ b.outcomes.length - expectedPass)
    (.quoteGate "pass/veto counts are inconsistent")

end SwingQuoteGateBatchFields

abbrev SwingQuoteGateBatch := { b : SwingQuoteGateBatchFields // b.check = .ok () }

variable (proposalBatch : SwingProposalBatch) (quoteBatch : FullQuoteBatch) (evaluatedAt : Instant)

/-- The body of the loop of `assemble_swing_quote_gate_batch`. -/
def assembleOutcome (policy : SwingQuoteGatePolicy) (proposal : SwingTechnicalProposal) :
    Except SignalError SwingQuoteGateOutcome := do
  let quote ← quoteOf quoteBatch proposal
  let evaluation ← (evaluateQuoteGate proposal quote evaluatedAt policy).mapError
    (asGateError "quote gate evaluation failed")
  Checked.build SwingQuoteGateOutcomeFields.check ⟨proposal, quote, evaluatedAt, policy, evaluation⟩

/-- `assemble_swing_quote_gate_batch` -/
def assembleSwingQuoteGateBatch (policy : Option SwingQuoteGatePolicy) : Except SignalError SwingQuoteGateBatch := do
  let policy := policy.getD defaultSwingQuoteGatePolicy
  checkQuoteBatch proposalBatch quoteBatch evaluatedAt policy
  let outcomes ← proposalBatch.1.proposals.mapM (assembleOutcome quoteBatch evaluatedAt policy)
  let passCount := (outcomes.filter (·.1.passed)).length
  Checked.build SwingQuoteGateBatchFields.check
    { proposalBatch := proposalBatch
      quoteBatch := quoteBatch
      policy := policy
      evaluatedAt := evaluatedAt
      outcomes := outcomes
      passCount := passCount
      vetoCount := outcomes.length - passCount }

end Gate

end IndiaSwing.Signals
