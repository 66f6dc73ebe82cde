import Mathlib.Tactic.Ring
import IndiaSwing.Lib.TickGrid
import IndiaSwing.RiskGateBounds
import IndiaSwing.SwingQuoteGateSteps

namespace IndiaSwing.Signals

open ExceptGuards TickGrid

section Contexts

variable (ctx : DecimalContext)

/-- The levels around a close in a context, before they are checked. -/
def tradeLevelsIn (currentClose tick atr estimatedCostBps : ℚ) (config : DeterministicSwingSignalConfig) :
    SwingTradeLevelsFields :=
  let tickFloor := fun value => ctx.mul ⌊ctx.div value tick⌋ tick
  let tickCeiling := fun value => ctx.mul ⌈ctx.div value tick⌉ tick
  let entryLow := tickFloor currentClose
  let entryHigh := tickCeiling (ctx.add currentClose (ctx.mul config.1.entryAtrBuffer atr))
  let stop := tickFloor (ctx.sub entryLow (ctx.mul config.1.stopAtrMultiple atr))
  let costPerShare := ctx.div (ctx.mul entryHigh estimatedCostBps) 10000
  let netLossPerShare := ctx.add (ctx.sub entryHigh stop) costPerShare
  let target := tickCeiling (ctx.add (ctx.add entryHigh costPerShare)
    (ctx.mul config.1.targetNetRewardRisk netLossPerShare))
  ⟨entryLow, entryHigh, stop, target, estimatedCostBps⟩

/-- `calculate_swing_trade_levels` in a context -/
def calculateSwingTradeLevelsIn (currentClose tick atr estimatedCostBps : ℚ)
    (config : DeterministicSwingSignalConfig) : Except SignalError SwingTradeLevels := do
  raiseIf (currentClose ≤ 0) (.signal "current_close must be positive")
  raiseIf (tick ≤ 0) (.signal "tick must be positive")
  raiseIf (atr ≤ 0) (.signal "atr must be positive")
  raiseIf (estimatedCostBps < 0) (.signal "estimated_cost_bps cannot be negative")
  raiseIf (currentClose ≠ ctx.mul ⌊ctx.div currentClose tick⌋ tick) (.signal "signal close is not tick-aligned")
  Checked.build SwingTradeLevelsFields.check (tradeLevelsIn ctx currentClose tick atr estimatedCostBps config)

/-- `_evaluate_quote_gate` in a context, on the fields of a proposal -/
def evaluateQuoteGateIn (proposal : SwingTechnicalProposalFields) (quote : KiteFullQuote) (evaluatedAt : Instant)
    (policy : SwingQuoteGatePolicy) : Except SignalError QuoteGateEvaluation := do
  let window := proposal.entryWindow
  let quality ← (evaluateQuoteQuality quote (nseKey proposal.symbol) window.1.earliestEntryAt window.1.entryExpiresAt
    evaluatedAt policy.1.maximumQuoteAgeSeconds policy.1.maximumLastTradeAgeSeconds
    policy.1.maximumSpreadBps).mapError .quoteGate
  let reasons := canonicalReasons (quality.reasonCodes ++ priceReasons proposal.levels quote)
  if reasons ≠ [] then
    return ⟨.veto, reasons, quality.observedSpreadBps, none, none⟩
  else do
    let observedSpreadBps ← quality.observedSpreadBps.elim (.error (.python "TypeError")) .ok
    let effectiveCostBps := max proposal.config.1.baseRoundTripCostBps observedSpreadBps
    let history := proposal.assembly.history
    let current ← barFromEnd 1 history.1.bars
    let quoteAdjustedLevels ← calculateSwingTradeLevelsIn ctx current.1.close history.1.tickSize proposal.metrics.1.atr
      effectiveCostBps proposal.config
    return ⟨.pass, [], quality.observedSpreadBps, some effectiveCostBps, some quoteAdjustedLevels⟩

/-- At 28 digits these are the kernels that the signals run. -/
theorem calculateSwingTradeLevelsIn_signalContext :
    calculateSwingTradeLevelsIn signalContext = calculateSwingTradeLevels := rfl

theorem evaluateQuoteGateIn_signalContext (proposal : SwingTechnicalProposal) (quote : KiteFullQuote)
    (evaluatedAt : Instant) (policy : SwingQuoteGatePolicy) :
    evaluateQuoteGateIn signalContext proposal.1 quote evaluatedAt policy =
      evaluateQuoteGate proposal quote evaluatedAt policy := rfl

end Contexts

section Exact

variable {config : DeterministicSwingSignalConfig} {close tick atr cost : ℚ} {levels : SwingTradeLevels}

namespace SwingTradeLevelsFields

variable (l : SwingTradeLevelsFields)

/-- `cost_per_share` -/
def costPerShare : ℚ := l.entryHigh * l.estimatedCostBps / 10000

/-- `net_reward_risk` -/
def netRewardRisk : ℚ := (l.target - l.entryHigh - l.costPerShare) / (l.entryHigh - l.stop + l.costPerShare)

end SwingTradeLevelsFields

/-- The levels around an aligned close, written with the grid. -/
theorem tradeLevelsIn_exact : tradeLevelsIn .exact close tick atr cost config =
    { entryLow := floorTo close tick
      entryHigh := ceilingTo (close + config.1.entryAtrBuffer * atr) tick
      stop := floorTo (floorTo close tick - config.1.stopAtrMultiple * atr) tick
      target := ceilingTo (ceilingTo (close + config.1.entryAtrBuffer * atr) tick +
        ceilingTo (close + config.1.entryAtrBuffer * atr) tick * cost / 10000 + config.1.targetNetRewardRisk *
          (ceilingTo (close + config.1.entryAtrBuffer * atr) tick -
            floorTo (floorTo close tick - config.1.stopAtrMultiple * atr) tick +
            ceilingTo (close + config.1.entryAtrBuffer * atr) tick * cost / 10000)) tick
      estimatedCostBps := cost } := rfl

/-- What a calculation of levels has checked. -/
structure Calculated (config : DeterministicSwingSignalConfig) (close tick atr cost : ℚ)
    (l : SwingTradeLevelsFields) : Prop where
  close_pos : 0 < close
  tick_pos : 0 < tick
  atr_pos : 0 < atr
  cost_nonneg : 0 ≤ cost
  aligned : floorTo close tick = close
  levels : l = tradeLevelsIn .exact close tick atr cost config
  stop_pos : 0 < l.stop

theorem calculated (h : calculateSwingTradeLevelsIn .exact close tick atr cost config = .ok levels) :
    Calculated config close tick atr cost levels.1 := by
  unfold calculateSwingTradeLevelsIn at h
  simp only [raiseIf_bind_eq_ok, not_le, not_lt, not_not] at h
  obtain ⟨hclose, htick, hatr, hcost, haligned, hbuild⟩ := h
  have hlevels := Checked.build_eq_ok.mp hbuild
  have hvalid := levels.2
  unfold SwingTradeLevelsFields.check at hvalid
  simp only [raiseIf_bind_eq_ok, not_le] at hvalid
  exact ⟨hclose, htick, hatr, hcost, haligned.symm, hlevels.symm, hvalid.2.2.2.1⟩

/-- Levels in order, on the grid, whose net reward is at least the configured multiple of their net risk. -/
structure KeepsPromise (config : DeterministicSwingSignalConfig) (tick : ℚ) (l : SwingTradeLevelsFields) : Prop where
  stop_pos : 0 < l.stop
  stop_lt : l.stop < l.entryLow
  low_lt : l.entryLow < l.entryHigh
  high_lt : l.entryHigh < l.target
  onGrid : ∀ level ∈ [l.entryLow, l.entryHigh, l.stop, l.target], OnGrid tick level
  rewardRisk : config.1.targetNetRewardRisk ≤ l.netRewardRisk

theorem Calculated.keepsPromise {l : SwingTradeLevelsFields} (h : Calculated config close tick atr cost l) :
    KeepsPromise config tick l := by
  have hconfig := configFacts config
  have hbuffer : 0 < config.1.entryAtrBuffer * atr := mul_pos hconfig.buffer h.atr_pos
  have hmultiple : 0 < config.1.stopAtrMultiple * atr := mul_pos hconfig.stopMultiple h.atr_pos
  have hstop := h.stop_pos
  rw [h.levels, tradeLevelsIn_exact] at hstop ⊢
  dsimp only at hstop
  rw [h.aligned] at hstop ⊢
  generalize hhigh : ceilingTo (close + config.1.entryAtrBuffer * atr) tick = high
  generalize hlow : floorTo (close - config.1.stopAtrMultiple * atr) tick = stop at hstop ⊢
  have hcloseHigh : close < high := by
    have hle := le_ceilingTo h.tick_pos (close + config.1.entryAtrBuffer * atr)
    rw [hhigh] at hle
    linarith
  have hstopClose : stop < close := by
    have hle := floorTo_le h.tick_pos (close - config.1.stopAtrMultiple * atr)
    rw [hlow] at hle
    linarith
  have hshare : 0 ≤ high * cost / 10000 :=
    div_nonneg (mul_nonneg (h.close_pos.trans hcloseHigh).le h.cost_nonneg) (by norm_num)
  have hloss : 0 < high - stop + high * cost / 10000 := by linarith
  have hreward : 0 < config.1.targetNetRewardRisk * (high - stop + high * cost / 10000) :=
    mul_pos hconfig.rewardRisk hloss
  have htarget := le_ceilingTo h.tick_pos
    (high + high * cost / 10000 + config.1.targetNetRewardRisk * (high - stop + high * cost / 10000))
  refine ⟨hstop, hstopClose, hcloseHigh, ?_, ?_, ?_⟩
  · dsimp only
    linarith
  · simp only [List.forall_mem_cons, List.not_mem_nil, false_implies, forall_true_iff, and_true]
    refine ⟨?_, ?_, ?_, onGrid_ceilingTo _ _⟩
    · rw [← h.aligned]
      exact onGrid_floorTo _ _
    · rw [← hhigh]
      exact onGrid_ceilingTo _ _
    · rw [← hlow]
      exact onGrid_floorTo _ _
  · unfold SwingTradeLevelsFields.netRewardRisk SwingTradeLevelsFields.costPerShare
    rw [le_div_iff₀ hloss]
    dsimp only
    linarith

/-- Two calculations that differ at most by a higher target at the second one's cost. -/
structure TargetMoves (l l' : SwingTradeLevelsFields) : Prop where
  entryLow : l'.entryLow = l.entryLow
  entryHigh : l'.entryHigh = l.entryHigh
  stop : l'.stop = l.stop
  target : l.target ≤ l'.target

/-- A higher cost raises the target at most, and is refused by no check. -/
theorem Calculated.raise {l : SwingTradeLevelsFields} (h : Calculated config close tick atr cost l) {cost' : ℚ}
    (hle : cost ≤ cost') : ∃ levels' : SwingTradeLevels,
      calculateSwingTradeLevelsIn .exact close tick atr cost' config = .ok levels' ∧
        levels'.1.estimatedCostBps = cost' ∧ TargetMoves l levels'.1 := by
  have hconfig := configFacts config
  have hpromise := h.keepsPromise
  have hcost' : 0 ≤ cost' := h.cost_nonneg.trans hle
  have hmoves : TargetMoves l (tradeLevelsIn .exact close tick atr cost' config) := by
    rw [h.levels, tradeLevelsIn_exact, tradeLevelsIn_exact]
    refine ⟨rfl, rfl, rfl, ceilingTo_mono h.tick_pos ?_⟩
    have hhigh : 0 ≤ l.entryHigh := (hpromise.stop_pos.trans (hpromise.stop_lt.trans hpromise.low_lt)).le
    rw [h.levels, tradeLevelsIn_exact] at hhigh
    dsimp only at hhigh
    generalize ceilingTo (close + config.1.entryAtrBuffer * atr) tick = high at hhigh ⊢
    have hshare : high * cost / 10000 ≤ high * cost' / 10000 :=
      div_le_div_of_nonneg_right (mul_le_mul_of_nonneg_left hle hhigh) (by norm_num)
    have hscaled := mul_le_mul_of_nonneg_left hshare hconfig.rewardRisk.le
    linarith
  have hcheck : (tradeLevelsIn .exact close tick atr cost' config).check = .ok () := by
    have hstop := hpromise.stop_pos
    have hlow := hstop.trans hpromise.stop_lt
    have hhigh := hlow.trans hpromise.low_lt
    have htarget := (hhigh.trans hpromise.high_lt).trans_le hmoves.target
    rw [← hmoves.stop] at hstop
    rw [← hmoves.entryLow] at hlow
    rw [← hmoves.entryHigh] at hhigh
    unfold SwingTradeLevelsFields.check
    rw [raiseIf_neg (not_le.mpr hlow), ok_bind, raiseIf_neg (not_le.mpr hhigh), ok_bind,
      raiseIf_neg (not_le.mpr htarget), ok_bind, raiseIf_neg (not_le.mpr hstop), ok_bind]
    exact raiseIf_neg (not_lt.mpr hcost')
  refine ⟨⟨_, hcheck⟩, ?_, rfl, hmoves⟩
  have haligned : ¬close ≠ DecimalContext.exact.mul ⌊DecimalContext.exact.div close tick⌋ tick :=
    not_not.mpr h.aligned.symm
  unfold calculateSwingTradeLevelsIn
  rw [raiseIf_neg (not_le.mpr h.close_pos), ok_bind, raiseIf_neg (not_le.mpr h.tick_pos), ok_bind,
    raiseIf_neg (not_le.mpr h.atr_pos), ok_bind, raiseIf_neg (not_lt.mpr hcost'), ok_bind, raiseIf_neg haligned, ok_bind]
  exact Checked.build_of_ok hcheck

end Exact

section Gates

variable {proposal : SwingTechnicalProposalFields} {quote : KiteFullQuote} {evaluatedAt : Instant}
  {policy : SwingQuoteGatePolicy}

/-- The levels of a proposal replay in exact arithmetic, at the cost of its configuration. -/
def LevelsReplay (p : SwingTechnicalProposalFields) : Prop :=
  ∃ current, barFromEnd 1 p.assembly.history.1.bars = .ok current ∧
    calculateSwingTradeLevelsIn .exact current.1.close p.assembly.history.1.tickSize p.metrics.1.atr
      p.config.1.baseRoundTripCostBps p.config = .ok p.levels

/-- A quality without a reason against the quote knows its spread. -/
theorem spread_of_no_reason {p : SwingTechnicalProposalFields} {quality : QuoteQualityResult}
    (h : evaluateQuoteQuality quote (nseKey p.symbol) p.entryWindow.1.earliestEntryAt p.entryWindow.1.entryExpiresAt
      evaluatedAt policy.1.maximumQuoteAgeSeconds policy.1.maximumLastTradeAgeSeconds policy.1.maximumSpreadBps =
        .ok quality) (hnone : quality.reasonCodes = []) : ∃ spread, quality.observedSpreadBps = some spread := by
  unfold evaluateQuoteQuality at h
  simp only [raiseIf_bind_eq_ok] at h
  obtain ⟨-, -, -, -, -, -, h⟩ := h
  obtain rfl := Except.ok.inj h
  have hreasons := canonicalReasons_eq_nil.mp hnone
  unfold qualityReasons at hreasons
  simp only [List.append_eq_nil_iff] at hreasons
  obtain ⟨spread, hspread, -⟩ := spreadReasons_eq_nil.mp hreasons.1.2
  exact ⟨spread, hspread⟩

variable (proposal quote evaluatedAt policy) in
/-- What the gate passes has levels that at most have a higher target, and what it raises is about the quote. -/
def GateKeepsLevels : Prop :=
  (∀ e, evaluateQuoteGateIn .exact proposal quote evaluatedAt policy = .ok e →
    ∀ levels ∈ e.quoteAdjustedLevels, TargetMoves proposal.levels.1 levels.1) ∧
  ∀ error, evaluateQuoteGateIn .exact proposal quote evaluatedAt policy = .error error →
    ∃ message, error = .quoteGate message ∧
      evaluateQuoteQuality quote (nseKey proposal.symbol) proposal.entryWindow.1.earliestEntryAt
        proposal.entryWindow.1.entryExpiresAt evaluatedAt policy.1.maximumQuoteAgeSeconds
        policy.1.maximumLastTradeAgeSeconds policy.1.maximumSpreadBps = .error message

theorem gate_levels (h : LevelsReplay proposal) : GateKeepsLevels proposal quote evaluatedAt policy := by
  unfold GateKeepsLevels
  obtain ⟨current, hcurrent, hlevels⟩ := h
  cases hquality : evaluateQuoteQuality quote (nseKey proposal.symbol) proposal.entryWindow.1.earliestEntryAt
      proposal.entryWindow.1.entryExpiresAt evaluatedAt policy.1.maximumQuoteAgeSeconds
      policy.1.maximumLastTradeAgeSeconds policy.1.maximumSpreadBps with
  | error message =>
    have hgate : evaluateQuoteGateIn .exact proposal quote evaluatedAt policy = .error (.quoteGate message) := by
      unfold evaluateQuoteGateIn
      dsimp only
      rw [hquality]
      rfl
    rw [hgate]
    constructor
    · intro e he
      cases he
    · intro error herror
      obtain rfl := Except.error.inj herror
      exact ⟨message, rfl, rfl⟩
  | ok quality =>
    by_cases hnone : canonicalReasons (quality.reasonCodes ++ priceReasons proposal.levels quote) = []
    · obtain ⟨hreasons, -⟩ := List.append_eq_nil_iff.mp (canonicalReasons_eq_nil.mp hnone)
      obtain ⟨spread, hspread⟩ := spread_of_no_reason hquality hreasons
      obtain ⟨levels', hcalculated, -, hmoves⟩ :=
        (calculated hlevels).raise (le_max_left proposal.config.1.baseRoundTripCostBps spread)
      have hgate : evaluateQuoteGateIn .exact proposal quote evaluatedAt policy =
          .ok ⟨.pass, [], some spread, some (max proposal.config.1.baseRoundTripCostBps spread), some levels'⟩ := by
        unfold evaluateQuoteGateIn
        dsimp only
        rw [hquality]
        show (if canonicalReasons (quality.reasonCodes ++ priceReasons proposal.levels quote) ≠ [] then _ else _) = _
        rw [if_neg (not_not.mpr hnone), hspread]
        dsimp only [Option.elim_some]
        rw [ok_bind, hcurrent, ok_bind, hcalculated, ok_bind]
        rfl
      rw [hgate]
      constructor
      · intro e he levels hmem
        obtain rfl := Except.ok.inj he
        obtain rfl := Option.some.inj hmem
        exact hmoves
      · intro error herror
        cases herror
    · have hgate : evaluateQuoteGateIn .exact proposal quote evaluatedAt policy =
          .ok ⟨.veto, canonicalReasons (quality.reasonCodes ++ priceReasons proposal.levels quote),
            quality.observedSpreadBps, none, none⟩ := by
        unfold evaluateQuoteGateIn
        dsimp only
        rw [hquality]
        exact if_pos hnone
      rw [hgate]
      constructor
      · intro e he levels hmem
        obtain rfl := Except.ok.inj he
        cases hmem
      · intro error herror
        cases herror

end Gates

section Risk

open Decision

variable {config : DeterministicSwingSignalConfig} {close tick atr cost : ℚ} {l : SwingTradeLevelsFields}

/-- A candidate whose setup stands at given levels and whose signals name their cost. -/
structure SetupAt (l : SwingTradeLevelsFields) (candidate : Candidate) : Prop where
  entryHigh : candidate.setup.entryHigh = l.entryHigh
  stop : candidate.setup.stop = l.stop
  target : candidate.setup.target = l.target
  cost : candidate.signals.estimatedCostBps = l.estimatedCostBps

theorem mem_findings {cases : List (Bool × String)} {message : String} :
    message ∈ findings cases ↔ (true, message) ∈ cases := by
  simp [findings]

/-- A policy that asks for no more than the levels promise has no reason against their reward and risk. -/
theorem Calculated.rewardRisk_accepted (h : Calculated config close tick atr cost l) {policy : RiskPolicy}
    {candidate : Candidate} (hsetup : SetupAt l candidate) (hcost : policy.estimatedRoundTripCostBps ≤ cost)
    (hminimum : policy.minNetRewardRisk ≤ config.1.targetNetRewardRisk) :
    0 < netLossPerShare policy candidate ∧ 0 < netRewardPerShare policy candidate ∧
      policy.minNetRewardRisk ≤ Decision.netRewardRisk policy candidate := by
  have hpromise := h.keepsPromise
  have hbps : costBps policy candidate = l.estimatedCostBps := by
    have hname : l.estimatedCostBps = cost := by
      rw [h.levels]
      rfl
    rw [costBps, hsetup.cost, hname]
    exact max_eq_right hcost
  have hshare : Decision.costPerShare policy candidate = l.costPerShare := by
    rw [Decision.costPerShare, hbps, hsetup.entryHigh]
    rfl
  have hcostPos : 0 ≤ l.costPerShare := by
    have hnonneg : 0 ≤ l.estimatedCostBps := by
      rw [h.levels]
      exact h.cost_nonneg
    have hhigh := (hpromise.stop_pos.trans (hpromise.stop_lt.trans hpromise.low_lt)).le
    exact div_nonneg (mul_nonneg hhigh hnonneg) (by norm_num)
  have hloss : netLossPerShare policy candidate = l.entryHigh - l.stop + l.costPerShare := by
    rw [netLossPerShare, hshare, hsetup.entryHigh, hsetup.stop]
  have hreward : netRewardPerShare policy candidate = l.target - l.entryHigh - l.costPerShare := by
    rw [netRewardPerShare, hshare, hsetup.entryHigh, hsetup.target]
  have hlossPos : 0 < netLossPerShare policy candidate := by
    have hstop := hpromise.stop_lt
    have hlow := hpromise.low_lt
    rw [hloss]
    linarith
  have hratio : config.1.targetNetRewardRisk ≤ netRewardPerShare policy candidate / netLossPerShare policy candidate := by
    rw [hreward, hloss]
    exact hpromise.rewardRisk
  have hrewardPos : 0 < netRewardPerShare policy candidate :=
    (div_pos_iff_of_pos_right hlossPos).mp ((configFacts config).rewardRisk.trans_le hratio)
  refine ⟨hlossPos, hrewardPos, ?_⟩
  have hopen : ¬(netLossPerShare policy candidate ≤ 0 ∨ netRewardPerShare policy candidate ≤ 0) :=
    not_or.mpr ⟨not_le.mpr hlossPos, not_le.mpr hrewardPos⟩
  rw [Decision.netRewardRisk, if_neg hopen]
  exact hminimum.trans hratio

/-- The engine has no reason against the reward and the risk of such a setup. -/
theorem Calculated.not_rejected (h : Calculated config close tick atr cost l) {policy : RiskPolicy}
    {candidate : Candidate} (hsetup : SetupAt l candidate) (hcost : policy.estimatedRoundTripCostBps ≤ cost)
    (hminimum : policy.minNetRewardRisk ≤ config.1.targetNetRewardRisk) {research : ResearchAssessment}
    {portfolio : PortfolioState} {rank : ℤ} {identityContext : ContentId} {referenceReadiness : String}
    {executionEligible : Bool} {evaluation : RiskEvaluation}
    (heval : evaluateRisk .exact policy candidate research portfolio rank identityContext referenceReadiness
      executionEligible = .ok evaluation) :
    "setup has non-positive net risk or reward" ∉ evaluation.reasons ∧
      "net reward-to-risk is below the policy minimum" ∉ evaluation.reasons := by
  obtain ⟨hloss, hreward, hratio⟩ := h.rewardRisk_accepted hsetup hcost hminimum
  have hreasons : evaluation.reasons = [] ∨ evaluation.reasons = rejectionReasons policy candidate research portfolio
      (-policy.maxDailyLoss) (-policy.maxPilotDrawdown) (exactAmounts policy candidate portfolio) := by
    rw [evaluateRisk_of_priced priced_exact] at heval
    split at heval
    · obtain rfl := Except.ok.inj heval
      exact .inr rfl
    · obtain ⟨decision, -, heval⟩ := bind_eq_ok.mp heval
      obtain rfl := Except.ok.inj heval
      exact .inl rfl
  rcases hreasons with hnone | hsome
  · rw [hnone]
    exact ⟨List.not_mem_nil, List.not_mem_nil⟩
  · rw [hsome, rejectionReasons]
    have hverdict : ∀ verdict : ResearchVerdict,
        "setup has non-positive net risk or reward" ≠ "research verdict is " ++ verdict.value ∧
          "net reward-to-risk is below the policy minimum" ≠ "research verdict is " ++ verdict.value := by
      intro verdict
      cases verdict <;> decide
    have hlossNot := not_le.mpr hloss
    have hrewardNot := not_le.mpr hreward
    have hratioNot := not_lt.mpr hratio
    simp only [List.mem_append, not_or, haltReasons, amountReasons, mem_findings, exactAmounts]
    simp [hverdict, hlossNot, hrewardNot, hratioNot]

/-- In exact arithmetic calculated levels are in order, on the grid and worth their configured net reward; a higher
cost raises the target at most; the gate keeps the other levels and fails on no levels; and an engine that asks for
no more has no reason against their reward and risk. -/
theorem swing_levels_keep_promise {levels : SwingTradeLevels}
    (h : calculateSwingTradeLevelsIn .exact close tick atr cost config = .ok levels) :
    KeepsPromise config tick levels.1 ∧
    (∀ cost', cost ≤ cost' → ∃ levels' : SwingTradeLevels,
      calculateSwingTradeLevelsIn .exact close tick atr cost' config = .ok levels' ∧
        levels'.1.estimatedCostBps = cost' ∧ TargetMoves levels.1 levels'.1) ∧
    (∀ proposal quote evaluatedAt policy, LevelsReplay proposal →
      GateKeepsLevels proposal quote evaluatedAt policy) ∧
    ∀ policy candidate research portfolio rank identityContext referenceReadiness executionEligible evaluation,
      SetupAt levels.1 candidate → policy.estimatedRoundTripCostBps ≤ cost →
      policy.minNetRewardRisk ≤ config.1.targetNetRewardRisk →
      evaluateRisk .exact policy candidate research portfolio rank identityContext referenceReadiness
        executionEligible = .ok evaluation →
      "setup has non-positive net risk or reward" ∉ evaluation.reasons ∧
        "net reward-to-risk is below the policy minimum" ∉ evaluation.reasons := by
  have hcalculated := calculated h
  refine ⟨hcalculated.keepsPromise, fun cost' hle => hcalculated.raise hle, fun _ _ _ _ hreplay => gate_levels hreplay, ?_⟩
  intro policy candidate research portfolio rank identityContext referenceReadiness executionEligible evaluation
    hsetup hcost hminimum heval
  exact hcalculated.not_rejected hsetup hcost hminimum heval

/-- A close of 100 with an average true range of 2, at 30 basis points. -/
theorem swing_levels_keep_promise_sample : ∃ levels : SwingTradeLevels,
    calculateSwingTradeLevelsIn .exact 100 (1 / 20) 2 30 defaultSwingSignalConfig = .ok levels ∧
      levels.1.entryLow = 100 ∧ levels.1.entryHigh = 501 / 5 ∧ levels.1.stop = 97 ∧
      KeepsPromise defaultSwingSignalConfig (1 / 20) levels.1 := by
  obtain ⟨levels, hlevels, htests⟩ := @exists_ok_of_any _ _
    (calculateSwingTradeLevelsIn .exact 100 (1 / 20) 2 30 defaultSwingSignalConfig)
    (fun levels : SwingTradeLevels => levels.1.entryLow = 100 ∧ levels.1.entryHigh = 501 / 5 ∧ levels.1.stop = 97)
    (by decide +kernel)
  obtain ⟨hlow, hhigh, hstop⟩ := of_decide_eq_true htests
  exact ⟨levels, hlevels, hlow, hhigh, hstop, (swing_levels_keep_promise hlevels).1⟩

end Risk

end IndiaSwing.Signals
