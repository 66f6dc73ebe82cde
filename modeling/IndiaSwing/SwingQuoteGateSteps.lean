import IndiaSwing.SwingQuoteGate
import IndiaSwing.SwingSignalSteps

namespace IndiaSwing.Signals

open ExceptGuards KeySort

section Ids

/-- Metrics with one id are the same. -/
theorem metricsId_inj {m m' : SwingTechnicalMetrics} (h : m.1.metricsId = m'.1.metricsId) : m = m' := by
  obtain ⟨⟨_, _, _, _, _, _, _, ids⟩, _⟩ := m
  obtain ⟨⟨_, _, _, _, _, _, _, ids'⟩, _⟩ := m'
  obtain ⟨-, hfields⟩ := ContentId.ofFields_inj.mp h
  have htexts : Function.Injective ContentId.text := fun _ _ heq => ContentId.text.inj heq
  simp only [List.cons.injEq, ContentId.decimal.injEq, ContentId.list_injective.eq_iff,
    (List.map_injective_iff.mpr htexts).eq_iff] at hfields
  obtain ⟨rfl, rfl, rfl, rfl, rfl, rfl, rfl, rfl, -⟩ := hfields
  rfl

/-- Levels with one id are the same. -/
theorem levelsId_inj {l l' : SwingTradeLevels} (h : l.1.levelsId = l'.1.levelsId) : l = l' := by
  obtain ⟨⟨_, _, _, _, _⟩, _⟩ := l
  obtain ⟨⟨_, _, _, _, _⟩, _⟩ := l'
  obtain ⟨-, hfields⟩ := ContentId.ofFields_inj.mp h
  simp only [List.cons.injEq, ContentId.decimal.injEq] at hfields
  obtain ⟨rfl, rfl, rfl, rfl, rfl, -⟩ := hfields
  rfl

end Ids

section Reasons

variable {reasons others : List SwingQuoteGateReason} {bad : Prop} [Decidable bad] {reason : SwingQuoteGateReason}

@[simp] theorem reasonIf_eq_nil : reasonIf bad reason = [] ↔ ¬bad := by
  unfold reasonIf
  split <;> simp_all

@[simp] theorem canonicalReasons_eq_nil : canonicalReasons reasons = [] ↔ reasons = [] := by
  constructor
  · intro h
    have hperm := perm_sortOn (·.value) reasons.dedup
    unfold canonicalReasons at h
    rw [h] at hperm
    exact List.dedup_eq_nil reasons |>.mp hperm.symm.eq_nil
  · rintro rfl
    rfl

theorem canonicalReasons_idem : canonicalReasons (canonicalReasons reasons) = canonicalReasons reasons := by
  have hnodup : (canonicalReasons reasons).Nodup := (perm_sortOn _ _).nodup_iff.mpr (List.nodup_dedup reasons)
  show sortOn _ (canonicalReasons reasons).dedup = _
  rw [hnodup.dedup]
  exact sortOn_of_pairwise _ (sortOn_pairwise _ _)

end Reasons

section Proposals

/-- What the checks of a proposal establish. -/
structure ProposalFacts (p : SwingTechnicalProposalFields) : Prop where
  key : p.key = entryKey p.universeEntry
  metrics : MetricsFacts p.config p.assembly.history.1.bars p.metrics.1
  levels : ∃ current, barFromEnd 1 p.assembly.history.1.bars = .ok current ∧
    calculateSwingTradeLevels current.1.close p.assembly.history.1.tickSize p.metrics.1.atr
      p.config.1.baseRoundTripCostBps p.config = .ok p.levels
  window : p.entryWindow.1.earliestEntryAt < p.entryWindow.1.entryExpiresAt

theorem proposalFacts (proposal : SwingTechnicalProposal) : ProposalFacts proposal.1 := by
  obtain ⟨_, hbindings, hreplay⟩ := bind_eq_ok.mp proposal.2
  obtain ⟨_, -, hbindings⟩ := bind_eq_ok.mp hbindings
  obtain ⟨hsubject, -⟩ := raiseIf_bind_eq_ok.mp hbindings
  obtain ⟨metrics, hmetrics, hreplay⟩ := bind_eq_ok.mp hreplay
  obtain ⟨hmetricsId, hreplay⟩ := raiseIf_bind_eq_ok.mp hreplay
  obtain ⟨current, hcurrent, hreplay⟩ := bind_eq_ok.mp hreplay
  obtain ⟨levels, hlevels, hreplay⟩ := bind_eq_ok.mp hreplay
  obtain ⟨hlevelsId, -⟩ := raiseIf_bind_eq_ok.mp hreplay
  obtain rfl := metricsId_inj (not_not.mp hmetricsId)
  obtain rfl := levelsId_inj (not_not.mp hlevelsId)
  have hwindow := (raiseIf_bind_eq_ok.mp proposal.1.entryWindow.2).1
  have hkey : proposal.1.key = entryKey proposal.1.universeEntry :=
    Prod.ext (not_not.mp (not_or.mp hsubject).1) (not_not.mp (not_or.mp hsubject).2)
  exact ⟨hkey, metricsFacts hmetrics, ⟨current, hcurrent, hlevels⟩, not_le.mp hwindow⟩

/-- The levels of a proposal at another cost: the cost moves the target only. -/
theorem adjustedLevels_ok (proposal : SwingTechnicalProposal) {cost : ℚ} (hcost : 0 ≤ cost) :
    ∃ current, barFromEnd 1 proposal.1.assembly.history.1.bars = .ok current ∧
      ∃ levels, calculateSwingTradeLevels current.1.close proposal.1.assembly.history.1.tickSize proposal.1.metrics.1.atr
        cost proposal.1.config = .ok levels := by
  have hfacts := proposalFacts proposal
  obtain ⟨current, hcurrent, hlevels⟩ := hfacts.levels
  have htick := (historyFacts proposal.1.assembly.history).tick
  have hbase : 0 ≤ proposal.1.config.1.baseRoundTripCostBps := (configFacts proposal.1.config).cost.le
  refine ⟨current, hcurrent, ?_⟩
  have hlevelled : Levelled proposal.1.config current.1.close proposal.1.assembly.history.1.tickSize
      proposal.1.metrics.1.atr := by
    rcases levels_cases (close_pos current) htick hfacts.metrics.atr hbase with ⟨h, -⟩ | ⟨-, _, -, herror⟩
    · exact h
    · rw [herror] at hlevels
      cases hlevels
  rcases levels_cases (close_pos current) htick hfacts.metrics.atr hcost with ⟨-, levels, hok, -⟩ | ⟨hnot, -⟩
  · exact ⟨levels, hok⟩
  · exact absurd hlevelled hnot

end Proposals

section Quotes

/-- What the checks of a quote establish about its depth. -/
theorem uncrossed (quote : KiteFullQuote) {bestBid bestAsk : ℚ} (hbid : quote.1.bestBid = some bestBid)
    (hask : quote.1.bestAsk = some bestAsk) : bestBid ≤ bestAsk := by
  obtain ⟨-, h⟩ := raiseIf_bind_eq_ok.mp quote.2
  obtain ⟨-, h⟩ := raiseIf_bind_eq_ok.mp h
  obtain ⟨-, h⟩ := raiseIf_bind_eq_ok.mp h
  obtain ⟨_, -, h⟩ := bind_eq_ok.mp h
  obtain ⟨-, h⟩ := raiseIf_bind_eq_ok.mp h
  obtain ⟨_, -, h⟩ := bind_eq_ok.mp h
  obtain ⟨_, -, h⟩ := bind_eq_ok.mp h
  obtain ⟨-, h⟩ := raiseIf_bind_eq_ok.mp h
  obtain ⟨-, h⟩ := raiseIf_bind_eq_ok.mp h
  by_contra hcrossed
  exact raiseIf_eq_ok.mp h ⟨bestBid, hbid, bestAsk, hask, not_le.mp hcrossed⟩

/-- What the checks of a quote batch establish. -/
structure QuoteBatchFacts (b : FullQuoteBatchFields) : Prop where
  nodup : b.requestedKeys.Nodup
  sorted : b.requestedKeys = sortOn id b.requestedKeys
  covered : b.quotes.map (·.1.listingKey) = b.requestedKeys

theorem quoteBatchFacts (quotes : FullQuoteBatch) : QuoteBatchFacts quotes.1 := by
  obtain ⟨_, hkeys, h⟩ := bind_eq_ok.mp quotes.2
  obtain ⟨-, h⟩ := raiseIf_bind_eq_ok.mp h
  obtain ⟨-, h⟩ := raiseIf_bind_eq_ok.mp h
  obtain ⟨hcovered, -⟩ := raiseIf_bind_eq_ok.mp h
  obtain ⟨-, hkeys⟩ := raiseIf_bind_eq_ok.mp hkeys
  obtain ⟨-, hkeys⟩ := raiseIf_bind_eq_ok.mp hkeys
  obtain ⟨-, hkeys⟩ := raiseIf_bind_eq_ok.mp hkeys
  obtain ⟨hnodup, hsorted⟩ := raiseIf_bind_eq_ok.mp hkeys
  exact ⟨not_not.mp hnodup, not_not.mp (raiseIf_eq_ok.mp hsorted), not_not.mp hcovered⟩

/-- What the checks of a gate policy establish. -/
structure GatePolicyFacts (p : SwingQuoteGatePolicyFields) : Prop where
  quoteAge : p.maximumQuoteAgeSeconds ≠ 0
  lastTradeAge : p.maximumLastTradeAgeSeconds ≠ 0
  spread : 0 < p.maximumSpreadBps

theorem gatePolicyFacts (policy : SwingQuoteGatePolicy) : GatePolicyFacts policy.1 := by
  obtain ⟨_, hlimits, hspread⟩ := bind_eq_ok.mp policy.2
  have hpos : ∀ limit ∈ policy.1.limits, limit.2 ≠ 0 := fun limit hlimit =>
    raiseIf_eq_ok.mp (forM_eq_ok.mp hlimits limit hlimit)
  simp only [SwingQuoteGatePolicyFields.limits, List.forall_mem_cons] at hpos
  exact ⟨hpos.2.1, hpos.2.2.1, not_le.mp (raiseIf_eq_ok.mp hspread)⟩

end Quotes

section Live

variable {proposal : SwingTechnicalProposal} {quote : KiteFullQuote} {evaluatedAt : Instant}
  {policy strict loose : SwingQuoteGatePolicy}

/-- A quote on which a proposal can be entered at a time under a policy. -/
structure LiveQuote (p : SwingTechnicalProposalFields) (q : KiteFullQuoteFields) (evaluatedAt : Instant)
    (policy : SwingQuoteGatePolicyFields) : Prop where
  evaluation : p.entryWindow.1.earliestEntryAt ≤ evaluatedAt ∧ evaluatedAt ≤ p.entryWindow.1.entryExpiresAt
  quoteWindow : p.entryWindow.1.earliestEntryAt ≤ q.exchangeTimestamp ∧ q.exchangeTimestamp ≤ p.entryWindow.1.entryExpiresAt
  quoteAge : q.exchangeTimestamp ≤ evaluatedAt ∧ evaluatedAt - q.exchangeTimestamp ≤ seconds policy.maximumQuoteAgeSeconds
  lastTrade : ∃ time, q.lastTradeTime = some time ∧
    (p.entryWindow.1.earliestEntryAt ≤ time ∧ time ≤ p.entryWindow.1.entryExpiresAt) ∧
    time ≤ evaluatedAt ∧ evaluatedAt - time ≤ seconds policy.maximumLastTradeAgeSeconds
  depth : ∃ bestBid bestAsk, q.bestBid = some bestBid ∧ q.bestAsk = some bestAsk ∧ bestBid ≤ bestAsk ∧
    p.levels.1.entryLow ≤ bestAsk ∧ bestAsk ≤ p.levels.1.entryHigh
  spread : ∃ spread, q.spreadBps = some spread ∧ spread ≤ policy.maximumSpreadBps
  circuit : q.lastPrice ≠ q.lowerCircuitLimit ∧ q.lastPrice ≠ q.upperCircuitLimit
  price : p.levels.1.entryLow ≤ q.lastPrice ∧ q.lastPrice ≤ p.levels.1.entryHigh

theorem seconds_mono {m n : ℕ} (h : m ≤ n) : seconds m ≤ seconds n := by
  unfold seconds
  omega

/-- Each limit of a policy is at most that of another one. -/
def Tightens (strict loose : SwingQuoteGatePolicyFields) : Prop :=
  strict.maximumBatchCollectionSeconds ≤ loose.maximumBatchCollectionSeconds ∧
    strict.maximumQuoteAgeSeconds ≤ loose.maximumQuoteAgeSeconds ∧
    strict.maximumLastTradeAgeSeconds ≤ loose.maximumLastTradeAgeSeconds ∧
    strict.maximumSpreadBps ≤ loose.maximumSpreadBps

theorem LiveQuote.loosen {p : SwingTechnicalProposalFields} {q : KiteFullQuoteFields}
    {strict loose : SwingQuoteGatePolicyFields} (h : LiveQuote p q evaluatedAt strict) (hle : Tightens strict loose) :
    LiveQuote p q evaluatedAt loose := by
  obtain ⟨-, hquote, htrade, hspread⟩ := hle
  obtain ⟨time, htime, hwindow, hbefore, hage⟩ := h.lastTrade
  obtain ⟨spread, hvalue, hmaximum⟩ := h.spread
  exact { h with
    quoteAge := ⟨h.quoteAge.1, h.quoteAge.2.trans (seconds_mono hquote)⟩
    lastTrade := ⟨time, htime, hwindow, hbefore, hage.trans (seconds_mono htrade)⟩
    spread := ⟨spread, hvalue, hmaximum.trans hspread⟩ }

theorem outside_iff {notBefore deadline time : Instant} :
    ¬outside notBefore deadline time ↔ notBefore ≤ time ∧ time ≤ deadline := by
  unfold outside
  rw [not_or, not_lt, not_lt]

theorem stale_iff {time : Instant} {maximum : ℕ} :
    ¬stale evaluatedAt time maximum ↔ time ≤ evaluatedAt ∧ evaluatedAt - time ≤ seconds maximum := by
  unfold stale
  rw [not_or, not_lt, not_lt, sub_nonneg]

theorem lastTradeReasons_eq_nil {notBefore deadline : Instant} {maximum : ℕ} {lastTradeTime : Option Instant} :
    lastTradeReasons notBefore deadline evaluatedAt maximum lastTradeTime = [] ↔ ∃ time, lastTradeTime = some time ∧
      (notBefore ≤ time ∧ time ≤ deadline) ∧ time ≤ evaluatedAt ∧ evaluatedAt - time ≤ seconds maximum := by
  cases lastTradeTime with
  | none => simp [lastTradeReasons]
  | some time =>
    unfold lastTradeReasons
    rw [List.append_eq_nil_iff, reasonIf_eq_nil, reasonIf_eq_nil, outside_iff, stale_iff]
    simp

theorem spreadReasons_eq_nil {maximum : ℚ} {spread : Option ℚ} :
    spreadReasons maximum spread = [] ↔ ∃ value, spread = some value ∧ value ≤ maximum := by
  cases spread with
  | none => simp [spreadReasons]
  | some value => simp [spreadReasons]

/-- The gate has no reason against a quote exactly when it is live. -/
theorem reasons_eq_nil_iff : qualityReasons quote proposal.1.entryWindow.1.earliestEntryAt
      proposal.1.entryWindow.1.entryExpiresAt evaluatedAt policy.1.maximumQuoteAgeSeconds
      policy.1.maximumLastTradeAgeSeconds policy.1.maximumSpreadBps = [] ∧
      priceReasons proposal.1.levels quote = [] ↔ LiveQuote proposal.1 quote.1 evaluatedAt policy.1 := by
  unfold qualityReasons priceReasons
  simp only [List.append_eq_nil_iff, reasonIf_eq_nil, outside_iff, stale_iff, lastTradeReasons_eq_nil,
    spreadReasons_eq_nil, not_lt, not_not]
  constructor
  · rintro ⟨⟨⟨⟨⟨⟨⟨⟨hopen, hexpired⟩, hwindow⟩, hage⟩, htrade⟩, hdepth⟩, hspread⟩, hcircuit⟩, hprice, hask⟩
    obtain ⟨hbid, hasks⟩ := Bool.and_eq_true_iff.mp hdepth
    obtain ⟨bestBid, hbestBid⟩ := Option.isSome_iff_exists.mp hbid
    obtain ⟨bestAsk, hbestAsk⟩ := Option.isSome_iff_exists.mp hasks
    have hrange : proposal.1.levels.1.entryLow ≤ bestAsk ∧ bestAsk ≤ proposal.1.levels.1.entryHigh := by
      by_contra hnot
      exact hask ⟨bestAsk, hbestAsk, hnot⟩
    have hlower : quote.1.lastPrice ≠ quote.1.lowerCircuitLimit := fun heq => hcircuit (.inl (decide_eq_true heq))
    have hupper : quote.1.lastPrice ≠ quote.1.upperCircuitLimit := fun heq => hcircuit (.inr (decide_eq_true heq))
    exact ⟨⟨hopen, hexpired⟩, hwindow, hage, htrade,
      ⟨bestBid, bestAsk, hbestBid, hbestAsk, uncrossed quote hbestBid hbestAsk, hrange⟩, hspread, ⟨hlower, hupper⟩, hprice⟩
  · intro h
    obtain ⟨bestBid, bestAsk, hbestBid, hbestAsk, -, hrange⟩ := h.depth
    have hdepth : quote.1.hasTwoSidedDepth = true := by
      unfold KiteFullQuoteFields.hasTwoSidedDepth
      rw [hbestBid, hbestAsk]
      rfl
    have hcircuit : ¬(quote.1.atLowerCircuit = true ∨ quote.1.atUpperCircuit = true) := by
      rintro (hlower | hupper)
      · exact h.circuit.1 (of_decide_eq_true hlower)
      · exact h.circuit.2 (of_decide_eq_true hupper)
    refine ⟨⟨⟨⟨⟨⟨⟨⟨h.evaluation.1, h.evaluation.2⟩, h.quoteWindow⟩, h.quoteAge⟩, h.lastTrade⟩, hdepth⟩, h.spread⟩,
      hcircuit⟩, h.price, ?_⟩
    rintro ⟨ask, hask, hnot⟩
    obtain rfl : ask = bestAsk := Option.some.inj (hask.symm.trans hbestAsk)
    exact hnot hrange

/-- What an evaluation carries: it passes exactly on a live quote. -/
structure Evaluated (proposal : SwingTechnicalProposal) (quote : KiteFullQuote) (evaluatedAt : Instant)
    (policy : SwingQuoteGatePolicy) (e : QuoteGateEvaluation) : Prop where
  pass_iff : e.disposition = .pass ↔ LiveQuote proposal.1 quote.1 evaluatedAt policy.1
  canonical : e.reasonCodes = canonicalReasons e.reasonCodes
  spread : e.observedSpreadBps = quote.1.spreadBps
  carried : (e.disposition = .pass ∧ e.reasonCodes = [] ∧ e.effectiveCostBps ≠ none ∧ e.quoteAdjustedLevels ≠ none) ∨
    (e.disposition = .veto ∧ e.reasonCodes ≠ [] ∧ e.effectiveCostBps = none ∧ e.quoteAdjustedLevels = none)

theorem nseKey_ne_empty (symbol : String) : nseKey symbol ≠ "" := by
  intro h
  have hlist := congrArg String.toList h
  unfold nseKey at hlist
  rw [String.toList_append] at hlist
  simp at hlist

/-- The gate evaluates every quote of its subject. -/
theorem evaluateQuoteGate_ok (hkey : quote.1.listingKey = nseKey proposal.1.symbol) :
    ∃ e, evaluateQuoteGate proposal quote evaluatedAt policy = .ok e ∧ Evaluated proposal quote evaluatedAt policy e := by
  have hpolicy := gatePolicyFacts policy
  have hquality : evaluateQuoteQuality quote (nseKey proposal.1.symbol) proposal.1.entryWindow.1.earliestEntryAt
      proposal.1.entryWindow.1.entryExpiresAt evaluatedAt policy.1.maximumQuoteAgeSeconds
      policy.1.maximumLastTradeAgeSeconds policy.1.maximumSpreadBps =
        .ok ⟨canonicalReasons (qualityReasons quote proposal.1.entryWindow.1.earliestEntryAt
          proposal.1.entryWindow.1.entryExpiresAt evaluatedAt policy.1.maximumQuoteAgeSeconds
          policy.1.maximumLastTradeAgeSeconds policy.1.maximumSpreadBps), quote.1.spreadBps⟩ := by
    unfold evaluateQuoteQuality
    rw [raiseIf_neg (nseKey_ne_empty _), ok_bind, raiseIf_neg (not_not.mpr hkey), ok_bind,
      raiseIf_neg (not_le.mpr (proposalFacts proposal).window), ok_bind, raiseIf_neg hpolicy.quoteAge, ok_bind,
      raiseIf_neg hpolicy.lastTradeAge, ok_bind, raiseIf_neg (not_le.mpr hpolicy.spread), ok_bind]
    rfl
  have hlive := @reasons_eq_nil_iff proposal quote evaluatedAt policy
  unfold evaluateQuoteGate
  dsimp only
  rw [hquality]
  generalize qualityReasons quote proposal.1.entryWindow.1.earliestEntryAt
    proposal.1.entryWindow.1.entryExpiresAt evaluatedAt policy.1.maximumQuoteAgeSeconds
    policy.1.maximumLastTradeAgeSeconds policy.1.maximumSpreadBps = quality at hlive
  show ∃ e, (if canonicalReasons (canonicalReasons quality ++ priceReasons proposal.1.levels quote) ≠ [] then _ else _) =
    Except.ok e ∧ _
  by_cases hnone : canonicalReasons (canonicalReasons quality ++ priceReasons proposal.1.levels quote) = []
  · have hboth : quality = [] ∧ priceReasons proposal.1.levels quote = [] := by
      obtain ⟨hleft, hright⟩ := List.append_eq_nil_iff.mp (canonicalReasons_eq_nil.mp hnone)
      exact ⟨canonicalReasons_eq_nil.mp hleft, hright⟩
    have hquote := hlive.mp hboth
    obtain ⟨spread, hspread, -⟩ := hquote.spread
    have hcost : 0 ≤ max proposal.1.config.1.baseRoundTripCostBps spread :=
      le_max_of_le_left (configFacts proposal.1.config).cost.le
    obtain ⟨current, hcurrent, levels, hlevels⟩ := adjustedLevels_ok proposal hcost
    rw [if_neg (not_not.mpr hnone), hspread, Option.elim_some, ok_bind, hcurrent, ok_bind, hlevels, ok_bind]
    refine ⟨_, rfl, ⟨fun _ => hquote, fun _ => rfl⟩, rfl, hspread.symm, .inl ⟨rfl, rfl, ?_, ?_⟩⟩
    · exact fun h => by cases h
    · exact fun h => by cases h
  · rw [if_pos hnone]
    refine ⟨_, rfl, ⟨fun h => (by cases h), fun h => ?_⟩, canonicalReasons_idem.symm, rfl, .inr ⟨rfl, hnone, rfl, rfl⟩⟩
    obtain ⟨hquality, hprice⟩ := hlive.mpr h
    exact absurd (canonicalReasons_eq_nil.mpr (List.append_eq_nil_iff.mpr ⟨canonicalReasons_eq_nil.mpr hquality, hprice⟩)) hnone

end Live

section Outcomes

variable {batch : SwingProposalBatch} {quotes : FullQuoteBatch} {evaluatedAt : Instant} {policy : SwingQuoteGatePolicy}
  {proposal : SwingTechnicalProposal} {outcome : SwingQuoteGateOutcome}

/-- An outcome of an evaluation passes its checks. -/
theorem outcome_check {quote : KiteFullQuote} {e : QuoteGateEvaluation} (hkey : quote.1.listingKey = nseKey proposal.1.symbol)
    (hok : evaluateQuoteGate proposal quote evaluatedAt policy = .ok e) (he : Evaluated proposal quote evaluatedAt policy e) :
    SwingQuoteGateOutcomeFields.check ⟨proposal, quote, evaluatedAt, policy, e⟩ = .ok () := by
  have hcarried : SwingQuoteGateOutcomeFields.checkCarried ⟨proposal, quote, evaluatedAt, policy, e⟩ e = .ok () := by
    unfold SwingQuoteGateOutcomeFields.checkCarried
    dsimp only
    rcases he.carried with ⟨hdisposition, hreasons, hcost, hlevels⟩ | ⟨hdisposition, hreasons, hcost, hlevels⟩
    · have hboth : ¬(e.effectiveCostBps = none ∨ e.quoteAdjustedLevels = none) := not_or.mpr ⟨hcost, hlevels⟩
      rw [hdisposition]
      dsimp only
      rw [raiseIf_neg (not_not.mpr hreasons), ok_bind, raiseIf_neg hboth, ok_bind, raiseIf_neg (not_not.mpr rfl), ok_bind,
        raiseIf_neg (not_not.mpr rfl)]
    · have hboth : ¬(e.effectiveCostBps ≠ none ∨ e.quoteAdjustedLevels ≠ none) :=
        not_or.mpr ⟨not_not.mpr hcost, not_not.mpr hlevels⟩
      rw [hdisposition]
      dsimp only
      rw [raiseIf_neg hreasons, ok_bind, raiseIf_neg hboth]
  unfold SwingQuoteGateOutcomeFields.check
  dsimp only
  rw [proposal.2, ok_bind, quote.2, ok_bind, raiseIf_neg (not_not.mpr hkey), ok_bind, hok]
  show (do
    raiseIf (e.disposition ≠ e.disposition) _
    raiseIf (e.reasonCodes ≠ e.reasonCodes) _
    raiseIf (e.reasonCodes ≠ canonicalReasons e.reasonCodes) _
    raiseIf (e.observedSpreadBps ≠ e.observedSpreadBps) _
    SwingQuoteGateOutcomeFields.checkCarried ⟨proposal, quote, evaluatedAt, policy, e⟩ e) = Except.ok ()
  rw [raiseIf_neg (not_not.mpr rfl), ok_bind, raiseIf_neg (not_not.mpr rfl), ok_bind,
    raiseIf_neg (not_not.mpr he.canonical), ok_bind, raiseIf_neg (not_not.mpr rfl), ok_bind, hcarried]

/-- What binds an outcome to its proposal and to the quote of its symbol. -/
structure Gated (quotes : FullQuoteBatch) (evaluatedAt : Instant) (policy : SwingQuoteGatePolicy)
    (proposal : SwingTechnicalProposal) (o : SwingQuoteGateOutcome) : Prop where
  proposed : o.1.proposal = proposal
  quote : quoteOf quotes proposal = .ok o.1.quote
  time : o.1.evaluatedAt = evaluatedAt
  limits : o.1.policy = policy
  evaluated : Evaluated proposal o.1.quote evaluatedAt policy o.1.evaluation

theorem Gated.passed_iff (h : Gated quotes evaluatedAt policy proposal outcome) :
    outcome.1.passed = true ↔ LiveQuote proposal.1 outcome.1.quote.1 evaluatedAt policy.1 :=
  decide_eq_true_iff.trans h.evaluated.pass_iff

theorem nseKey_injective : Function.Injective nseKey := by
  intro a b h
  have hlist := congrArg String.toList h
  unfold nseKey at hlist
  rw [String.toList_append, String.toList_append] at hlist
  exact String.toList_inj.mp (List.append_cancel_left hlist)

/-- The keys of a quote batch that covers the symbols of a proposal batch are those that the gate expects. -/
theorem requestedKeys_eq (hsymbols : (batch.1.proposals.map (·.1.symbol)).Nodup)
    (hcovers : ∀ key, key ∈ quotes.1.requestedKeys ↔ key ∈ batch.1.proposals.map fun p => nseKey p.1.symbol) :
    quotes.1.requestedKeys = sortOn id (batch.1.proposals.map fun p => nseKey p.1.symbol) := by
  have hfacts := quoteBatchFacts quotes
  have hnodup : (batch.1.proposals.map fun p => nseKey p.1.symbol).Nodup := by
    have hmap := hsymbols.map nseKey_injective
    rwa [List.map_map] at hmap
  rw [hfacts.sorted]
  exact sortOn_eq_of_perm id ((List.perm_ext_iff_of_nodup hfacts.nodup hnodup).mpr hcovers) fun _ _ _ _ h => h

/-- Each proposal has its quote. -/
theorem quoteOf_ok (hkeys : quotes.1.requestedKeys = sortOn id (batch.1.proposals.map fun p => nseKey p.1.symbol))
    (hproposal : proposal ∈ batch.1.proposals) :
    ∃ quote ∈ quotes.1.quotes, quoteOf quotes proposal = .ok quote ∧ quote.1.listingKey = nseKey proposal.1.symbol := by
  have hfacts := quoteBatchFacts quotes
  have hmem : nseKey proposal.1.symbol ∈ quotes.1.quotes.map (·.1.listingKey) := by
    rw [hfacts.covered, hkeys]
    exact (perm_sortOn id _).mem_iff.mpr (List.mem_map.mpr ⟨proposal, hproposal, rfl⟩)
  obtain ⟨quote, hquote, hkey⟩ := List.mem_map.mp hmem
  have hnodup : (quotes.1.quotes.map (·.1.listingKey)).Nodup := hfacts.covered ▸ hfacts.nodup
  have hfound : Grouping.lastUnder (fun q : KiteFullQuote => q.1.listingKey) quotes.1.quotes (nseKey proposal.1.symbol) =
      some quote := hkey ▸ Grouping.lastUnder_name hnodup hquote
  refine ⟨quote, hquote, ?_, hkey⟩
  unfold quoteOf
  rw [hfound]
  rfl

theorem assembleOutcome_ok
    (hkeys : quotes.1.requestedKeys = sortOn id (batch.1.proposals.map fun p => nseKey p.1.symbol))
    (hproposal : proposal ∈ batch.1.proposals) : ∃ outcome, assembleOutcome quotes evaluatedAt policy proposal = .ok outcome ∧
      Gated quotes evaluatedAt policy proposal outcome := by
  obtain ⟨quote, -, hquote, hkey⟩ := quoteOf_ok hkeys hproposal
  obtain ⟨e, hok, he⟩ := @evaluateQuoteGate_ok proposal quote evaluatedAt policy hkey
  have hcheck := outcome_check hkey hok he
  unfold assembleOutcome
  rw [hquote, ok_bind, hok]
  exact ⟨⟨_, hcheck⟩, Checked.build_of_ok hcheck, ⟨rfl, hquote, rfl, rfl, he⟩⟩

/-- What an assembled gate batch is made of. -/
structure Gates (batch : SwingProposalBatch) (quotes : FullQuoteBatch) (evaluatedAt : Instant)
    (policy : SwingQuoteGatePolicy) (gate : SwingQuoteGateBatch) : Prop where
  proposalBatch : gate.1.proposalBatch = batch
  outcomes : List.Forall₂ (Gated quotes evaluatedAt policy) batch.1.proposals gate.1.outcomes

theorem checkOutcomes_ok {gate : SwingQuoteGateBatchFields} {proposals : List SwingTechnicalProposal}
    {outcomes : List SwingQuoteGateOutcome} (hpairs : List.Forall₂ (Gated quotes evaluatedAt policy) proposals outcomes)
    (hquotes : gate.quoteBatch = quotes) (htime : gate.evaluatedAt = evaluatedAt) (hpolicy : gate.policy = policy) :
    (proposals.zip outcomes).forM (fun (proposal, outcome) => gate.checkOutcome proposal outcome) = .ok () := by
  refine forM_eq_ok.mpr fun pair hpair => ?_
  have hgated := (List.forall₂_iff_zip.mp hpairs).2 hpair
  show gate.checkOutcome pair.1 pair.2 = .ok ()
  unfold SwingQuoteGateBatchFields.checkOutcome
  rw [hquotes, hgated.quote, ok_bind, hgated.proposed, raiseIf_neg (not_not.mpr rfl), ok_bind,
    raiseIf_neg (not_not.mpr rfl), ok_bind, hgated.time, htime, raiseIf_neg (not_not.mpr rfl), ok_bind,
    hgated.limits, hpolicy, raiseIf_neg (not_not.mpr rfl)]

/-- A gate batch is assembled from quotes that cover the proposals. -/
theorem quoteGate_ok (choice : Option SwingQuoteGatePolicy) (hpolicy : choice.getD defaultSwingQuoteGatePolicy = policy)
    (hkeys : quotes.1.requestedKeys = sortOn id (batch.1.proposals.map fun p => nseKey p.1.symbol))
    (hobserved : quotes.1.observedAt ≤ evaluatedAt)
    (hcollection : quotes.1.observedAt - quotes.1.requestedAt ≤ seconds policy.1.maximumBatchCollectionSeconds) :
    ∃ gate, assembleSwingQuoteGateBatch batch quotes evaluatedAt choice = .ok gate ∧
      Gates batch quotes evaluatedAt policy gate := by
  have hbatch : checkQuoteBatch batch quotes evaluatedAt policy = .ok () := by
    unfold checkQuoteBatch
    rw [raiseIf_neg (not_not.mpr hkeys), ok_bind, raiseIf_neg (not_lt.mpr hobserved), ok_bind,
      raiseIf_neg (not_lt.mpr hcollection)]
  obtain ⟨outcomes, houtcomes, hpairs⟩ := mapM_exists fun proposal hproposal =>
    @assembleOutcome_ok batch quotes evaluatedAt policy proposal hkeys hproposal
  have hverified : outcomes.forM (·.1.check) = .ok () := forM_eq_ok.mpr fun outcome _ => outcome.2
  have hcounts : ¬((outcomes.filter (·.1.passed)).length ≠ (outcomes.filter (·.1.passed)).length ∨
      outcomes.length - (outcomes.filter (·.1.passed)).length ≠ outcomes.length - (outcomes.filter (·.1.passed)).length) := by
    simp
  have hcheck : SwingQuoteGateBatchFields.check
      { proposalBatch := batch
        quoteBatch := quotes
        policy := policy
        evaluatedAt := evaluatedAt
        outcomes := outcomes
        passCount := (outcomes.filter (·.1.passed)).length
        vetoCount := outcomes.length - (outcomes.filter (·.1.passed)).length } = .ok () := by
    unfold SwingQuoteGateBatchFields.check
    dsimp only
    rw [batch.2, ok_bind, quotes.2, ok_bind, hbatch, ok_bind, raiseIf_neg (not_not.mpr hpairs.length_eq.symm), ok_bind,
      hverified, ok_bind, checkOutcomes_ok hpairs rfl rfl rfl, ok_bind, raiseIf_neg hcounts]
  unfold assembleSwingQuoteGateBatch
  rw [hpolicy]
  dsimp only
  rw [hbatch, ok_bind, houtcomes, ok_bind]
  exact ⟨⟨_, hcheck⟩, Checked.build_of_ok hcheck, ⟨rfl, hpairs⟩⟩

/-- An assembled gate batch is what its inputs determine. -/
theorem gates_of_ok {choice : Option SwingQuoteGatePolicy} {gate : SwingQuoteGateBatch}
    (h : assembleSwingQuoteGateBatch batch quotes evaluatedAt choice = .ok gate) :
    Gates batch quotes evaluatedAt (choice.getD defaultSwingQuoteGatePolicy) gate := by
  unfold assembleSwingQuoteGateBatch at h
  obtain ⟨_, hbatch, _⟩ := bind_eq_ok.mp h
  obtain ⟨hkeys, hbatch⟩ := raiseIf_bind_eq_ok.mp hbatch
  obtain ⟨hobserved, hcollection⟩ := raiseIf_bind_eq_ok.mp hbatch
  obtain ⟨found, hfound, hgates⟩ := @quoteGate_ok batch quotes evaluatedAt _ choice rfl (not_not.mp hkeys)
    (not_lt.mp hobserved) (not_lt.mp (raiseIf_eq_ok.mp hcollection))
  obtain rfl : found = gate := Except.ok.inj (hfound.symm.trans h)
  exact hgates

end Outcomes

end IndiaSwing.Signals
