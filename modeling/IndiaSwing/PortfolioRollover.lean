import Mathlib.Data.String.Basic
import IndiaSwing.Lib.Checked
import IndiaSwing.Lib.DecimalPrecision
import IndiaSwing.Lib.KeySort
import IndiaSwing.Portfolio

namespace IndiaSwing

open ExceptGuards KeySort

/-- The errors of a rollover, by the module that raises them. -/
inductive RolloverError
  | rollover (message : String)
  | sizing (message : String)
  | artifact (message : String)
  deriving DecidableEq, Repr

/-- The context that Python computes in where no other one is set. -/
def ambientContext : DecimalContext := .ofPrecision 28

/-- The context of the sums of a rollover. -/
def rolloverContext : DecimalContext := .ofPrecision 50

section Marks

def symbolFirst (c : Char) : Bool := c.isUpper || c.isDigit

def symbolRest (c : Char) : Bool := symbolFirst c || c = '&' || c = '-'

/-- `LISTING_KEY_PATTERN` -/
def matchesListingKey : List Char → Bool
  | 'N' :: 'S' :: 'E' :: ':' :: first :: rest =>
    symbolFirst first && rest.all symbolRest && decide (rest.length ≤ 31)
  | _ => false

structure PortfolioMarkFields where
  registrationId : Digest
  positionId : ContentId
  symbol : String
  listingKey : String
  series : String
  validatedIsin : String
  artifactId : Digest
  calendarSnapshotId : Digest
  barId : Digest
  observationId : ContentId
  marketSession : SessionDate
  sessionCloseAt : Instant
  knowledgeTime : Instant
  close : ℚ
  priceBasis : String
  deriving DecidableEq, Repr

/-- The checks of a mark, on texts of the right form. -/
def PortfolioMarkFields.check (m : PortfolioMarkFields) : Except RolloverError Unit := do
  raiseIf (matchesListingKey m.listingKey.toList = false) (.rollover "open listing keys are invalid")
  raiseIf (m.listingKey ≠ "NSE:" ++ m.symbol) (.rollover "paper portfolio mark listing differs")
  raiseIf (m.knowledgeTime ≤ m.sessionCloseAt) (.rollover "paper portfolio mark knowledge time is invalid")
  raiseIf (m.close ≤ 0) (.rollover "paper portfolio mark close must be positive")
  raiseIf (m.priceBasis ≠ "RAW_UNADJUSTED") (.rollover "paper portfolio mark price basis is unsupported")

abbrev PaperPortfolioMark := { m : PortfolioMarkFields // m.check = .ok () }

/-- `mark_id` -/
def PortfolioMarkFields.markId (m : PortfolioMarkFields) : ContentId :=
  .ofFields "paper-portfolio-mark/v1" [.digest m.registrationId, m.positionId, .text m.symbol, .text m.listingKey,
    .text m.series, .text m.validatedIsin, .digest m.artifactId, .digest m.calendarSnapshotId, .digest m.barId,
    m.observationId, .int m.marketSession, .int m.sessionCloseAt, .int m.knowledgeTime, .decimal m.close,
    .text m.priceBasis]

def maximumQuoteKeys : ℕ := 500

/-- `_canonical_keys` of keys that have the pattern -/
def checkCanonicalKeys (keys : List String) : Except RolloverError Unit :=
  raiseIf (keys ≠ [] ∧ (maximumQuoteKeys < keys.length ∨ ¬keys.Nodup ∨ keys ≠ sortOn id keys))
    (.rollover "open listing keys are invalid")

end Marks

section Artifacts

/-- The fields of a `SwingPortfolioSnapshot`. -/
structure PortfolioSnapshotFields where
  capital : ℚ
  cashAvailable : ℚ
  grossExposure : ℚ
  openRisk : ℚ
  openPositions : ℕ
  dailyRealizedPnl : ℚ
  pilotRealizedPnl : ℚ
  asOf : Instant
  deriving DecidableEq, Repr

/-- `SwingPortfolioSnapshot.__post_init__` in the ambient context -/
def PortfolioSnapshotFields.check (p : PortfolioSnapshotFields) : Except RolloverError Unit := do
  raiseIf (p.capital ≤ 0) (.sizing "portfolio capital must be positive")
  raiseIf (p.cashAvailable < 0 ∨ p.grossExposure < 0 ∨ p.openRisk < 0)
    (.sizing "portfolio cash, exposure, and open risk must be non-negative")
  raiseIf (p.capital < ambientContext.add p.cashAvailable p.grossExposure)
    (.sizing "portfolio cash and gross exposure exceed capital")
  raiseIf (p.capital < p.openRisk) (.sizing "portfolio open risk exceeds capital")

/-- `portfolio_snapshot_id` -/
def PortfolioSnapshotFields.portfolioSnapshotId (p : PortfolioSnapshotFields) : ContentId :=
  .ofFields "SwingPortfolioSnapshot" [.decimal p.capital, .decimal p.cashAvailable, .decimal p.grossExposure,
    .decimal p.openRisk, .int p.openPositions, .decimal p.dailyRealizedPnl, .decimal p.pilotRealizedPnl, .int p.asOf]

inductive EvidenceKind
  | brokerFunds
  | brokerPositions
  | engineRiskLedger
  | enginePnlLedger
  deriving DecidableEq, Repr

def EvidenceKind.value : EvidenceKind → String
  | .brokerFunds => "BROKER_FUNDS"
  | .brokerPositions => "BROKER_POSITIONS"
  | .engineRiskLedger => "ENGINE_RISK_LEDGER"
  | .enginePnlLedger => "ENGINE_PNL_LEDGER"

def manualEvidenceKinds : List EvidenceKind := [.brokerFunds, .brokerPositions, .engineRiskLedger, .enginePnlLedger]

/-- `SwingPortfolioEvidenceBinding` -/
structure EvidenceBinding where
  kind : EvidenceKind
  evidenceId : ContentId
  observedAt : Instant
  sourceVersion : String
  deriving DecidableEq, Repr

inductive VerificationStatus
  | manualReconciledPaperOnly
  | derivedReconciledPaperOnly
  deriving DecidableEq, Repr

def VerificationStatus.value : VerificationStatus → String
  | .manualReconciledPaperOnly => "MANUAL_RECONCILED_PAPER_ONLY"
  | .derivedReconciledPaperOnly => "DERIVED_RECONCILED_PAPER_ONLY"

/-- The fields of a `SwingPortfolioSnapshotArtifact`. -/
structure PortfolioArtifactFields where
  portfolio : PortfolioSnapshotFields
  evidence : List EvidenceBinding
  reconciledAt : Instant
  verificationStatus : VerificationStatus
  deriving DecidableEq, Repr

/-- `SwingPortfolioSnapshotArtifact.__post_init__` -/
def PortfolioArtifactFields.check (a : PortfolioArtifactFields) : Except RolloverError Unit := do
  a.portfolio.check
  raiseIf (a.evidence.map (·.kind) ≠ manualEvidenceKinds)
    (.artifact "portfolio evidence must contain every required kind in canonical order")
  raiseIf (¬(a.evidence.map (·.evidenceId)).Nodup) (.artifact "portfolio evidence IDs must be unique")
  raiseIf (a.reconciledAt ≠ a.portfolio.asOf ∨ ∃ e ∈ a.evidence, a.reconciledAt < e.observedAt)
    (.artifact "portfolio reconciliation time is inconsistent")

abbrev SwingPortfolioSnapshotArtifact := { a : PortfolioArtifactFields // a.check = .ok () }

/-- `artifact_id` -/
def PortfolioArtifactFields.artifactId (a : PortfolioArtifactFields) : ContentId :=
  .ofFields "SwingPortfolioSnapshotArtifact" [a.portfolio.portfolioSnapshotId,
    .list (a.evidence.map fun e => .ofFields "SwingPortfolioEvidenceBinding"
      [.text e.kind.value, e.evidenceId, .int e.observedAt, .text e.sourceVersion]),
    .int a.reconciledAt, .text a.verificationStatus.value]

end Artifacts

section Rollovers

/-- The fields of a `PaperPortfolioRollover`. -/
structure PortfolioRolloverFields where
  genesisArtifactId : ContentId
  previousRolloverId : Option ContentId
  previousPortfolioArtifactId : ContentId
  paperPortfolioStateId : ContentId
  paperPortfolioBatchId : ContentId
  asOf : Instant
  marks : List PaperPortfolioMark
  openListingKeys : List String
  startingCapital : ℚ
  realizedEquity : ℚ
  peakRealizedPnl : ℚ
  openEntryNotional : ℚ
  reservedOpenCosts : ℚ
  cashAvailable : ℚ
  grossExposure : ℚ
  unrealizedGrossPnl : ℚ
  unrealizedNetPnl : ℚ
  nav : ℚ
  priorPeakNav : ℚ
  peakNav : ℚ
  navDrawdown : ℚ
  portfolioArtifact : SwingPortfolioSnapshotArtifact
  deriving DecidableEq

/-- The amounts of a rollover agree with each other in the ambient context. -/
def PortfolioRolloverFields.checkAmounts (r : PortfolioRolloverFields) : Except RolloverError Unit := do
  raiseIf (r.nav ≠ ambientContext.add r.cashAvailable r.grossExposure)
    (.rollover "paper portfolio NAV does not reconcile")
  raiseIf (r.unrealizedGrossPnl ≠ ambientContext.sub r.grossExposure r.openEntryNotional)
    (.rollover "paper portfolio gross mark P&L differs")
  raiseIf (r.unrealizedNetPnl ≠ ambientContext.sub r.unrealizedGrossPnl r.reservedOpenCosts ∨
      r.nav ≠ ambientContext.add r.realizedEquity r.unrealizedNetPnl)
    (.rollover "paper portfolio net mark P&L differs")
  raiseIf (r.peakNav ≠ max r.priorPeakNav r.nav) (.rollover "paper portfolio peak NAV differs")
  raiseIf (r.navDrawdown ≠ ambientContext.sub r.peakNav r.nav) (.rollover "paper portfolio NAV drawdown differs")

/-- `PaperPortfolioRollover.__post_init__` -/
def PortfolioRolloverFields.check (r : PortfolioRolloverFields) : Except RolloverError Unit := do
  raiseIf (¬((r.marks.map (·.1.registrationId)).Nodup ∧
      r.marks.map (·.1.registrationId) = sortOn id (r.marks.map (·.1.registrationId))))
    (.rollover "paper portfolio marks are not canonical")
  checkCanonicalKeys r.openListingKeys
  raiseIf (r.openListingKeys ≠ sortOn id (r.marks.map (·.1.listingKey)))
    (.rollover "paper portfolio open listings differ")
  raiseIf (r.startingCapital ≤ 0 ∨ r.realizedEquity ≤ 0 ∨ r.peakRealizedPnl < 0 ∨ r.cashAvailable < 0 ∨
      r.grossExposure < 0 ∨ r.openEntryNotional < 0 ∨ r.reservedOpenCosts < 0 ∨ r.nav ≤ 0 ∨ r.priorPeakNav ≤ 0 ∨
      r.peakNav ≤ 0 ∨ r.navDrawdown < 0)
    (.rollover "paper portfolio rollover amounts are invalid")
  r.checkAmounts
  raiseIf (r.portfolioArtifact.1.verificationStatus ≠ .derivedReconciledPaperOnly ∨
      r.portfolioArtifact.1.reconciledAt ≠ r.asOf ∨ r.portfolioArtifact.1.portfolio.asOf ≠ r.asOf ∨
      r.portfolioArtifact.1.portfolio.capital ≠ r.nav ∨
      r.portfolioArtifact.1.portfolio.cashAvailable ≠ r.cashAvailable ∨
      r.portfolioArtifact.1.portfolio.grossExposure ≠ r.grossExposure ∨
      r.portfolioArtifact.1.portfolio.openPositions ≠ r.marks.length)
    (.rollover "rollover portfolio snapshot differs")

abbrev PaperPortfolioRollover := { r : PortfolioRolloverFields // r.check = .ok () }

/-- `rollover_id` -/
def PortfolioRolloverFields.rolloverId (r : PortfolioRolloverFields) : ContentId :=
  .ofFields "paper-portfolio-rollover/v1" [r.genesisArtifactId, .option id r.previousRolloverId,
    r.previousPortfolioArtifactId, r.paperPortfolioStateId, r.paperPortfolioBatchId, .int r.asOf,
    .list (r.marks.map (·.1.markId)), .list (r.openListingKeys.map .text), .decimal r.startingCapital,
    .decimal r.realizedEquity, .decimal r.peakRealizedPnl, .decimal r.openEntryNotional, .decimal r.reservedOpenCosts,
    .decimal r.cashAvailable, .decimal r.grossExposure, .decimal r.unrealizedGrossPnl, .decimal r.unrealizedNetPnl,
    .decimal r.nav, .decimal r.priorPeakNav, .decimal r.peakNav, .decimal r.navDrawdown,
    r.portfolioArtifact.1.artifactId]

end Rollovers

section Roll

variable (state : PaperPortfolioState) (genesis : SwingPortfolioSnapshotArtifact) (marks : List PaperPortfolioMark)
variable (asOf : Instant) (previous : Option PaperPortfolioRollover)

/-- The checks of the genesis and of the cutoff. -/
def checkGenesis : Except RolloverError Unit := do
  raiseIf (genesis.1.verificationStatus ≠ .manualReconciledPaperOnly ∨
      genesis.1.portfolio.cashAvailable ≠ genesis.1.portfolio.capital ∨ genesis.1.portfolio.grossExposure ≠ 0 ∨
      genesis.1.portfolio.openRisk ≠ 0 ∨ genesis.1.portfolio.openPositions ≠ 0 ∨
      genesis.1.portfolio.dailyRealizedPnl ≠ 0 ∨ genesis.1.portfolio.pilotRealizedPnl ≠ 0 ∨
      state.asOf ≤ genesis.1.portfolio.asOf) (.rollover "paper portfolio genesis is invalid")
  raiseIf (asOf < state.asOf) (.rollover "paper portfolio rollover is future-known")

/-- What a rollover takes over from the one before it. -/
structure RolloverLink where
  previousRolloverId : Option ContentId
  previousArtifactId : ContentId
  priorPeakNav : ℚ
  deriving DecidableEq, Repr

def checkPredecessor : Except RolloverError RolloverLink :=
  match previous with
  | none => do
    raiseIf (state.previous ≠ none ∨ state.priorCumulativeRealizedPnl ≠ 0 ∨ state.priorPeakRealizedPnl ≠ 0)
      (.rollover "paper portfolio predecessor is missing")
    return ⟨none, genesis.1.artifactId, genesis.1.portfolio.capital⟩
  | some r => do
    raiseIf (r.1.genesisArtifactId ≠ genesis.1.artifactId ∨
        state.previous ≠ some ⟨r.1.paperPortfolioBatchId, r.1.paperPortfolioStateId⟩ ∨
        state.priorCumulativeRealizedPnl ≠ r.1.portfolioArtifact.1.portfolio.pilotRealizedPnl ∨
        state.priorPeakRealizedPnl ≠ r.1.peakRealizedPnl ∨ state.asOf ≤ r.1.asOf ∨ asOf ≤ r.1.asOf)
      (.rollover "paper portfolio predecessor differs")
    return ⟨some r.1.rolloverId, r.1.portfolioArtifact.1.artifactId, r.1.peakNav⟩

/-- `_UNRESOLVED` -/
def PaperOutcomeStatus.unresolved : PaperOutcomeStatus → Bool
  | .waiting | .blocked => true
  | .open_ | .expired | .closed => false

/-- The open positions, by registration. -/
def orderedPositions : List PaperPortfolioPosition := sortOn (·.registrationId) (openPositions state.positions)

/-- One mark for each open position, of one session and known at the cutoffs. -/
def checkMarks : Except RolloverError Unit := do
  raiseIf (∃ p ∈ state.positions, p.outcomeStatus.unresolved = true)
    (.rollover "paper portfolio has unresolved positions")
  raiseIf (marks ≠ sortOn (·.1.registrationId) marks ∨ marks.length ≠ (orderedPositions state).length)
    (.rollover "paper portfolio mark coverage differs")
  raiseIf (∃ pair ∈ (orderedPositions state).zip marks, pair.2.1.registrationId ≠ pair.1.registrationId ∨
      pair.2.1.positionId ≠ pair.1.positionId ∨ pair.2.1.symbol ≠ pair.1.symbol ∨
      state.asOf < pair.2.1.knowledgeTime ∨ asOf < pair.2.1.knowledgeTime)
    (.rollover "paper portfolio mark lineage differs")
  raiseIf (¬(∀ m ∈ marks, ∀ m' ∈ marks, m.1.marketSession = m'.1.marketSession ∧
      m.1.calendarSnapshotId = m'.1.calendarSnapshotId))
    (.rollover "paper portfolio marks span different sessions")

/-- The amounts of a rollover. -/
structure RolloverAmounts where
  startingCapital : ℚ
  realizedEquity : ℚ
  openEntryNotional : ℚ
  reservedOpenCosts : ℚ
  cashAvailable : ℚ
  grossExposure : ℚ
  unrealizedGrossPnl : ℚ
  unrealizedNetPnl : ℚ
  nav : ℚ
  peakNav : ℚ
  navDrawdown : ℚ
  deriving DecidableEq, Repr

/-- The block under `localcontext()`, where `+` rounds once more. -/
def rolloverAmounts (ctx : DecimalContext) (capital cumulative : ℚ)
    (pairs : List (PaperPortfolioPosition × PaperPortfolioMark)) (priorPeakNav : ℚ) : RolloverAmounts :=
  let startingCapital := ctx.round capital
  let realizedEquity := ctx.round (ctx.add startingCapital cumulative)
  let openEntryNotional := ctx.round (ctx.sum 0 (pairs.map (·.1.entryNotional)))
  let reservedOpenCosts := ctx.round (ctx.sum 0 (pairs.map (·.1.estimatedCost)))
  let cashAvailable := ctx.round (ctx.sub (ctx.sub realizedEquity openEntryNotional) reservedOpenCosts)
  let grossExposure := ctx.round (ctx.sum 0 (pairs.map fun pair => ctx.mul pair.2.1.close pair.1.quantity))
  let unrealizedGrossPnl := ctx.round (ctx.sub grossExposure openEntryNotional)
  let unrealizedNetPnl := ctx.round (ctx.sub unrealizedGrossPnl reservedOpenCosts)
  let nav := ctx.round (ctx.add cashAvailable grossExposure)
  let peakNav := ctx.round (max priorPeakNav nav)
  let navDrawdown := ctx.round (ctx.sub peakNav nav)
  ⟨startingCapital, realizedEquity, openEntryNotional, reservedOpenCosts, cashAvailable, grossExposure,
    unrealizedGrossPnl, unrealizedNetPnl, nav, peakNav, navDrawdown⟩

def RolloverAmounts.checkCapital (a : RolloverAmounts) (openRisk : ℚ) : Except RolloverError Unit :=
  raiseIf (a.realizedEquity ≤ 0 ∨ a.cashAvailable < 0 ∨ a.nav ≤ 0 ∨ a.nav < openRisk)
    (.rollover "paper portfolio has exhausted safe capital")

/-- `_evidence_id` -/
def evidenceId (kind : String) (body : List ContentId) : ContentId := .ofFields "evidence" [.text kind, .list body]

/-- The evidence of a rolled portfolio: cash, marks, risk and P&L. -/
def rolloverEvidence (a : RolloverAmounts) (keys : List String) : List EvidenceBinding :=
  let sourceVersion := "paper-portfolio-rollover/v1"
  [⟨.brokerFunds, evidenceId "PAPER_CASH_LEDGER" [state.stateId, .decimal a.startingCapital,
      .decimal state.cumulativeRealizedPnl, .decimal state.peakRealizedPnl, .decimal a.openEntryNotional,
      .decimal a.reservedOpenCosts, .decimal a.cashAvailable], state.asOf, sourceVersion⟩,
    ⟨.brokerPositions, evidenceId "PAPER_POSITION_MARKS" [state.stateId, .list (marks.map (·.1.markId)),
      .list (keys.map .text)], ((marks.map (·.1.knowledgeTime)).max?).getD state.asOf, sourceVersion⟩,
    ⟨.engineRiskLedger, evidenceId "ENGINE_RISK_LEDGER" [state.stateId, .decimal state.totals.openRisk,
      .list (state.riskHaltReasons.map .text)], state.asOf, sourceVersion⟩,
    ⟨.enginePnlLedger, evidenceId "ENGINE_PNL_LEDGER" [state.stateId, .decimal state.dailyRealizedPnl,
      .decimal state.cumulativeRealizedPnl, .decimal a.nav, .decimal a.peakNav, .decimal a.navDrawdown],
      state.asOf, sourceVersion⟩]

/-- The portfolio that the next run starts from. -/
def rolledPortfolio (a : RolloverAmounts) : PortfolioSnapshotFields where
  capital := a.nav
  cashAvailable := a.cashAvailable
  grossExposure := a.grossExposure
  openRisk := state.totals.openRisk
  openPositions := marks.length
  dailyRealizedPnl := state.dailyRealizedPnl
  pilotRealizedPnl := state.cumulativeRealizedPnl
  asOf := asOf

def rolledFields (link : RolloverLink) (a : RolloverAmounts) (keys : List String)
    (artifact : SwingPortfolioSnapshotArtifact) : PortfolioRolloverFields where
  genesisArtifactId := genesis.1.artifactId
  previousRolloverId := link.previousRolloverId
  previousPortfolioArtifactId := link.previousArtifactId
  paperPortfolioStateId := state.stateId
  paperPortfolioBatchId := state.batchId
  asOf := asOf
  marks := marks
  openListingKeys := keys
  startingCapital := a.startingCapital
  realizedEquity := a.realizedEquity
  peakRealizedPnl := state.peakRealizedPnl
  openEntryNotional := a.openEntryNotional
  reservedOpenCosts := a.reservedOpenCosts
  cashAvailable := a.cashAvailable
  grossExposure := a.grossExposure
  unrealizedGrossPnl := a.unrealizedGrossPnl
  unrealizedNetPnl := a.unrealizedNetPnl
  nav := a.nav
  priorPeakNav := link.priorPeakNav
  peakNav := a.peakNav
  navDrawdown := a.navDrawdown
  portfolioArtifact := artifact

/-- `roll_paper_portfolio` -/
def rollPaperPortfolio : Except RolloverError PaperPortfolioRollover := do
  checkGenesis state genesis asOf
  let link ← checkPredecessor state genesis asOf previous
  checkMarks state marks asOf
  let amounts := rolloverAmounts rolloverContext genesis.1.portfolio.capital state.cumulativeRealizedPnl
    ((orderedPositions state).zip marks) link.priorPeakNav
  amounts.checkCapital state.totals.openRisk
  let keys := sortOn id (marks.map (·.1.listingKey))
  checkCanonicalKeys keys
  (rolledPortfolio state marks asOf amounts).check
  let artifact ← Checked.build PortfolioArtifactFields.check
    ⟨rolledPortfolio state marks asOf amounts, rolloverEvidence state marks amounts keys, asOf,
      .derivedReconciledPaperOnly⟩
  Checked.build PortfolioRolloverFields.check (rolledFields state genesis marks asOf link amounts keys artifact)

end Roll

end IndiaSwing
