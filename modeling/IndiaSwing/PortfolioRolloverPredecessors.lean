import IndiaSwing.PortfolioRolloverChains

namespace IndiaSwing

open ActionRuns
open ExceptGuards KeySort
open ListSplits (split_concat)
open PartialWrites PartialWrites.Writes

variable {ctx : DecimalContext} {source : PaperOutcomeEvidenceSource} {spec : PaperPortfolioBatchSpec}
variable {stores after : PaperStores} {states front : List PaperPortfolioState} {state leaf : PaperPortfolioState}
variable {previous : Option PaperPortfolioState} {updated : List PaperPortfolioPosition}
variable {position : PaperPortfolioPosition}

section States

/-- What the constructor of a position says about its amounts. -/
structure PositionAmounts (position : PaperPortfolioPosition) : Prop where
  plannedRisk : 0 < position.plannedRisk
  entryNotional : 0 ≤ position.entryNotional
  estimatedCost : 0 < position.estimatedCost

theorem PaperPortfolioPosition.create_amounts {value : PaperPortfolioPosition}
    (h : PaperPortfolioPosition.create ctx value = .ok position) : PositionAmounts position := by
  obtain ⟨rfl, -⟩ := PaperPortfolioPosition.create_ok h
  unfold PaperPortfolioPosition.create at h
  obtain ⟨-, h⟩ := raiseIf_bind_eq_ok.mp h
  obtain ⟨-, h⟩ := raiseIf_bind_eq_ok.mp h
  obtain ⟨-, h⟩ := raiseIf_bind_eq_ok.mp h
  obtain ⟨hnotional, h⟩ := raiseIf_bind_eq_ok.mp h
  obtain ⟨-, h⟩ := raiseIf_bind_eq_ok.mp h
  obtain ⟨hamounts, -⟩ := raiseIf_bind_eq_ok.mp h
  obtain ⟨hrisk, hcost⟩ := not_or.mp hamounts
  exact ⟨not_le.mp hrisk, not_lt.mp hnotional, not_le.mp hcost⟩

theorem executeJob_amounts {job : PaperOutcomeJobSpec} {stores after : OutcomeStores}
    (h : executeJob ctx source job stores = (.ok position, after)) : PositionAmounts position := by
  obtain ⟨record, middle, -, hread⟩ := bind_run_ok.mp h
  obtain ⟨hposition, -⟩ := read_run_ok.mp hread
  unfold positionFromRecord at hposition
  obtain ⟨registration, -, hposition⟩ := bind_eq_ok.mp hposition
  obtain ⟨summary, -, hposition⟩ := bind_eq_ok.mp hposition
  exact PaperPortfolioPosition.create_amounts hposition

theorem forItems_executeJob_amounts {jobs : List PaperOutcomeJobSpec} {stores after : OutcomeStores}
    (h : forItems (executeJob ctx source) jobs stores = (.ok updated, after)) :
    ∀ position ∈ updated, PositionAmounts position := by
  induction jobs generalizing stores updated with
  | nil =>
    obtain ⟨hupdated, -⟩ := Prod.mk.inj h
    obtain rfl := Except.ok.inj hupdated
    exact fun position hmem => (List.not_mem_nil hmem).elim
  | cons job jobs ih =>
    obtain ⟨first, middle, rest, hfirst, hrest, rfl⟩ := forItems_cons_ok h
    intro position hmem
    rcases List.mem_cons.mp hmem with rfl | htail
    · exact executeJob_amounts hfirst
    · exact ih hrest position htail

/-- What a stored state has of the one before it, and what its constructors say about its amounts. -/
structure Continues (ctx : DecimalContext) (previous : Option PaperPortfolioState) (state : PaperPortfolioState) :
    Prop where
  priorCumulative : state.priorCumulativeRealizedPnl = previous.elim 0 (·.cumulativeRealizedPnl)
  priorPeak : state.priorPeakRealizedPnl = previous.elim 0 (·.peakRealizedPnl)
  peak : 0 ≤ state.peakRealizedPnl
  totals : state.totals = portfolioTotals ctx state.positions
  amounts : ∀ position ∈ state.positions, PositionAmounts position

/-- Every state continues the one before it. -/
def EachContinues (ctx : DecimalContext) (states : List PaperPortfolioState) : Prop :=
  ∀ front state back, states = front ++ state :: back → Continues ctx front.getLast? state

theorem EachContinues.of_mem (h : EachContinues ctx states) (hmem : state ∈ states) :
    ∃ previous, Continues ctx previous state := by
  obtain ⟨front, back, hsplit⟩ := List.append_of_mem hmem
  exact ⟨_, h front state back hsplit⟩

theorem EachContinues.concat (h : EachContinues ctx states) (hnext : Continues ctx states.getLast? state) :
    EachContinues ctx (states ++ [state]) := by
  intro front value back hsplit
  rcases split_concat hsplit with ⟨rfl, rfl, -⟩ | ⟨init, hinit, -⟩
  · exact hnext
  · exact h front value init hinit

theorem StoredBatch.continues (hbatch : StoredBatch ctx source spec stores after previous updated state)
    (hvalid : PortfolioValid ctx stores) (h : EachContinues ctx stores.portfolio.states) :
    Continues ctx stores.portfolio.states.getLast? state := by
  obtain ⟨hlast, -⟩ := hbatch.previous_eq hvalid
  rw [← hlast]
  have hpeak : state.peakRealizedPnl = max (previous.elim 0 (·.peakRealizedPnl)) state.cumulativeRealizedPnl := by
    rw [hbatch.state_eq]
    rfl
  refine ⟨by rw [hbatch.state_eq]; rfl, by rw [hbatch.state_eq]; rfl, ?_, by rw [hbatch.state_eq]; rfl, ?_⟩
  · have hprior : 0 ≤ previous.elim 0 (·.peakRealizedPnl) := by
      cases previous with
      | none => exact le_rfl
      | some last =>
        obtain ⟨_, hcontinues⟩ := h.of_mem (List.mem_of_getLast? hlast.symm)
        exact hcontinues.peak
    rw [hpeak]
    exact hprior.trans (le_max_left _ _)
  · intro position hposition
    rcases hbatch.mem_positions.mp hposition with ⟨hprior, -⟩ | hupdated
    · obtain ⟨last, -, hmem, hposition⟩ := hbatch.prior_mem hvalid hprior
      obtain ⟨_, hcontinues⟩ := h.of_mem hmem
      exact hcontinues.amounts position hposition
    · exact forItems_executeJob_amounts hbatch.jobs position hupdated

theorem perform_continues (hvalid : PortfolioValid ctx stores) {action : PaperAction}
    (h : EachContinues ctx stores.portfolio.states) :
    EachContinues ctx (perform ctx stores action).portfolio.states := by
  cases action with
  | register value => exact h
  | recordEvent registrationId occurredAt body => exact h
  | runBatch source spec =>
    rcases hrun : runPaperPortfolioBatch ctx source spec stores with ⟨x, after⟩
    show EachContinues ctx (runPaperPortfolioBatch ctx source spec stores).2.portfolio.states
    rw [hrun]
    cases runPaperPortfolioBatch_cases hrun with
    | existing state found => exact h
    | stored _ previous updated state absent batch =>
      rw [batch.states]
      exact h.concat (batch.continues hvalid h)
    | failed _ e portfolio =>
      rw [portfolio]
      exact h
  | interruptBatch source spec completed =>
    have hportfolio : SamePortfolio stores (interruptPaperPortfolioBatch ctx source spec completed
      stores).2 := interruptPaperPortfolioBatch_portfolio stores
    show EachContinues ctx (interruptPaperPortfolioBatch ctx source spec completed stores).2.portfolio.states
    rw [hportfolio]
    exact h

theorem performAll_continues (actions : List PaperAction) :
    EachContinues ctx (performAll ctx actions).portfolio.states := by
  have hboth : PortfolioValid ctx (performAll ctx actions) ∧
      EachContinues ctx (performAll ctx actions).portfolio.states :=
    run_invariant (I := fun stores => PortfolioValid ctx stores ∧ EachContinues ctx stores.portfolio.states)
    ⟨portfolioValid_empty, fun front _ _ h => by cases front <;> cases h⟩
    (fun _ _ h => ⟨perform_valid h.1, perform_continues h.1 h.2⟩) actions
  exact hboth.2

end States

section Leaf

variable {genesis : SwingPortfolioSnapshotArtifact} {marks : List PaperPortfolioMark} {asOf : Instant}
variable {link : RolloverLink} {predecessor : Option PaperPortfolioRollover} {r : PaperPortfolioRollover}

/-- The mark prices the position, and is known at the cutoff of the state. -/
def MarkOf (leaf : PaperPortfolioState) (p : PaperPortfolioPosition) (m : PaperPortfolioMark) : Prop :=
  m.1.registrationId = p.registrationId ∧ m.1.positionId = p.positionId ∧ m.1.symbol = p.symbol ∧
    m.1.knowledgeTime ≤ leaf.asOf

/-- A state without waiting or blocked positions, whose open positions are marked in their order at its
cutoff, on one session and for one listing each. -/
structure LeafMarked (leaf : PaperPortfolioState) (marks : List PaperPortfolioMark) : Prop where
  resolved : ∀ p ∈ leaf.positions, p.outcomeStatus.unresolved = false
  marked : List.Forall₂ (MarkOf leaf) (orderedPositions leaf) marks
  session : ∀ m ∈ marks, ∀ m' ∈ marks, m.1.marketSession = m'.1.marketSession ∧
    m.1.calendarSnapshotId = m'.1.calendarSnapshotId
  listings : (marks.map (·.1.listingKey)).Nodup
  count : marks.length ≤ maximumQuoteKeys

/-- The capital is not exhausted. -/
structure CapitalLeft (genesis : SwingPortfolioSnapshotArtifact) (leaf : PaperPortfolioState)
    (marks : List PaperPortfolioMark) (priorPeakNav : ℚ) : Prop where
  equity : 0 < (rollAmounts leaf genesis marks priorPeakNav).realizedEquity
  cash : 0 ≤ (rollAmounts leaf genesis marks priorPeakNav).cashAvailable
  nav : 0 < (rollAmounts leaf genesis marks priorPeakNav).nav
  risk : leaf.totals.openRisk ≤ (rollAmounts leaf genesis marks priorPeakNav).nav

theorem LeafMarked.ids (h : LeafMarked leaf marks) :
    marks.map (·.1.registrationId) = (orderedPositions leaf).map (·.registrationId) := by
  refine (forall₂_map_eq h.marked fun p m hmark => ?_).symm
  exact hmark.1.symm

theorem LeafMarked.sorted (h : LeafMarked leaf marks) : marks = sortOn (·.1.registrationId) marks := by
  have hpositions : ((orderedPositions leaf).map (·.registrationId)).Pairwise (· ≤ ·) :=
    List.pairwise_map.mpr (sortOn_pairwise _ _)
  rw [← h.ids] at hpositions
  exact (List.Pairwise.insertionSort_eq (List.pairwise_map.mp hpositions)).symm

theorem mem_orderedPositions {p : PaperPortfolioPosition} (h : p ∈ orderedPositions leaf) : p ∈ leaf.positions :=
  List.mem_of_mem_filter ((perm_sortOn _ _).mem_iff.mp h)

theorem orderedPositions_nodup (hunique : (leaf.positions.map (·.registrationId)).Nodup) :
    ((orderedPositions leaf).map (·.registrationId)).Nodup := by
  have hopen : ((openPositions leaf.positions).map (·.registrationId)).Nodup :=
    hunique.sublist (List.filter_sublist.map _)
  exact (((perm_sortOn _ _).map _).nodup_iff).mpr hopen

theorem LeafMarked.checkMarks (h : LeafMarked leaf marks) (hcutoff : leaf.asOf ≤ asOf) :
    checkMarks leaf marks asOf = .ok () := by
  have hresolved : ¬∃ p ∈ leaf.positions, p.outcomeStatus.unresolved = true := by
    rintro ⟨p, hp, hunresolved⟩
    exact absurd ((h.resolved p hp).symm.trans hunresolved) Bool.false_ne_true
  have hcoverage : ¬(marks ≠ sortOn (·.1.registrationId) marks ∨ marks.length ≠ (orderedPositions leaf).length) := by
    rintro (hsorted | hlength)
    · exact hsorted h.sorted
    · exact hlength h.marked.length_eq.symm
  have hlineage : ¬∃ pair ∈ (orderedPositions leaf).zip marks, pair.2.1.registrationId ≠ pair.1.registrationId ∨
      pair.2.1.positionId ≠ pair.1.positionId ∨ pair.2.1.symbol ≠ pair.1.symbol ∨
      leaf.asOf < pair.2.1.knowledgeTime ∨ asOf < pair.2.1.knowledgeTime := by
    rintro ⟨⟨p, m⟩, hpair, hdiffers⟩
    obtain ⟨hid, hposition, hsymbol, hknown⟩ := List.forall₂_zip h.marked hpair
    rcases hdiffers with hne | hne | hne | hlt | hlt
    · exact hne hid
    · exact hne hposition
    · exact hne hsymbol
    · exact absurd hknown (not_le.mpr hlt)
    · exact absurd (hknown.trans hcutoff) (not_le.mpr hlt)
  unfold IndiaSwing.checkMarks
  rw [raiseIf_neg hresolved, ok_bind, raiseIf_neg hcoverage, ok_bind, raiseIf_neg hlineage, ok_bind]
  exact raiseIf_neg (not_not.mpr h.session)

theorem LeafMarked.checkKeys (h : LeafMarked leaf marks) :
    checkCanonicalKeys (sortOn id (marks.map (·.1.listingKey))) = .ok () := by
  have hperm : (sortOn id (marks.map (·.1.listingKey))).Perm (marks.map (·.1.listingKey)) := perm_sortOn _ _
  unfold checkCanonicalKeys
  refine raiseIf_neg ?_
  rintro ⟨-, hcount | hnodup | hsorted⟩
  · rw [hperm.length_eq, List.length_map] at hcount
    exact absurd h.count (not_le.mpr hcount)
  · exact hnodup (hperm.nodup_iff.mpr h.listings)
  · exact hsorted (List.Pairwise.insertionSort_eq (sortOn_pairwise _ _)).symm

/-- The four pieces of evidence of a roll are of different kinds. -/
theorem rolloverEvidence_nodup (a : RolloverAmounts) (keys : List String) :
    ((rolloverEvidence leaf marks a keys).map (·.evidenceId)).Nodup := by
  unfold rolloverEvidence evidenceId
  simp [ContentId.ofFields_inj]

theorem rolloverEvidence_observed (h : LeafMarked leaf marks) (hcutoff : leaf.asOf ≤ asOf) (a : RolloverAmounts)
    (keys : List String) : ∀ e ∈ rolloverEvidence leaf marks a keys, e.observedAt ≤ asOf := by
  have hknown : ((marks.map (·.1.knowledgeTime)).max?).getD leaf.asOf ≤ asOf := by
    cases hmax : (marks.map (·.1.knowledgeTime)).max? with
    | none => exact hcutoff
    | some latest =>
      obtain ⟨m, hm, rfl⟩ := List.mem_map.mp (List.max?_mem hmax)
      obtain ⟨p, -, hmark⟩ := mem_of_forall₂_left h.marked.flip hm
      exact hmark.2.2.2.trans hcutoff
  intro e he
  unfold rolloverEvidence at he
  simp only [List.mem_cons, List.not_mem_nil, or_false] at he
  rcases he with rfl | rfl | rfl | rfl
  · exact hcutoff
  · exact hknown
  · exact hcutoff
  · exact hcutoff

theorem genesis_capital_pos : 0 < genesis.1.portfolio.capital := by
  obtain ⟨_, hsnapshot, -⟩ := bind_eq_ok.mp genesis.2
  obtain ⟨hcapital, -⟩ := raiseIf_bind_eq_ok.mp hsnapshot
  exact not_le.mp hcapital

variable (genesis marks) in
/-- The exact amounts of a leaf are not negative. -/
theorem rollAmounts_nonneg (priorPeakNav : ℚ) (hcontinues : Continues ctx previous leaf) :
    0 ≤ (rollAmounts leaf genesis marks priorPeakNav).openEntryNotional ∧
      0 ≤ (rollAmounts leaf genesis marks priorPeakNav).reservedOpenCosts ∧
      0 ≤ (rollAmounts leaf genesis marks priorPeakNav).grossExposure := by
  have hamounts : ∀ pair ∈ (orderedPositions leaf).zip marks, PositionAmounts pair.1 := fun pair hpair =>
    hcontinues.amounts _ (mem_orderedPositions (List.of_mem_zip hpair).1)
  rw [rollAmounts_eq]
  dsimp only
  refine ⟨List.sum_nonneg fun v hv => ?_, List.sum_nonneg fun v hv => ?_, List.sum_nonneg fun v hv => ?_⟩
  · obtain ⟨pair, hpair, rfl⟩ := List.mem_map.mp hv
    exact (hamounts pair hpair).entryNotional
  · obtain ⟨pair, hpair, rfl⟩ := List.mem_map.mp hv
    exact (hamounts pair hpair).estimatedCost.le
  · obtain ⟨pair, -, rfl⟩ := List.mem_map.mp hv
    have hclose : 0 < pair.2.1.close := by
      have hcheck := pair.2.2
      unfold PortfolioMarkFields.check at hcheck
      obtain ⟨-, hcheck⟩ := raiseIf_bind_eq_ok.mp hcheck
      obtain ⟨-, hcheck⟩ := raiseIf_bind_eq_ok.mp hcheck
      obtain ⟨-, hcheck⟩ := raiseIf_bind_eq_ok.mp hcheck
      exact not_le.mp (raiseIf_bind_eq_ok.mp hcheck).1
    exact mul_nonneg hclose.le (Nat.cast_nonneg _)

theorem openRisk_nonneg (hcontinues : Continues ambientContext previous leaf) : 0 ≤ leaf.totals.openRisk := by
  rw [hcontinues.totals]
  refine DecimalContext.sum_nonneg_of le_rfl fun v hv => ?_
  obtain ⟨p, hp, rfl⟩ := List.mem_map.mp hv
  exact (hcontinues.amounts p (List.mem_of_mem_filter hp)).plannedRisk.le

section Rolled

/-- What a roll asks of its leaf, apart from the predecessor: a genesis before it, its marks, capital, and
amounts of few enough digits. -/
structure RollInputs (genesis : SwingPortfolioSnapshotArtifact) (leaf : PaperPortfolioState)
    (marks : List PaperPortfolioMark) (asOf : Instant) (priorPeakNav : ℚ) : Prop where
  genesisOk : checkGenesis leaf genesis asOf = .ok ()
  marked : LeafMarked leaf marks
  capital : CapitalLeft genesis leaf marks priorPeakNav
  sums : SumsFit leaf genesis marks priorPeakNav
  rechecks : RechecksFit leaf genesis marks priorPeakNav

variable {priorPeakNav : ℚ} (h : RollInputs genesis leaf marks asOf priorPeakNav)
variable (hcontinues : Continues ambientContext previous leaf)

include h

theorem RollInputs.cutoff : leaf.asOf ≤ asOf := by
  obtain ⟨-, hcutoff⟩ := raiseIf_bind_eq_ok.mp h.genesisOk
  exact not_lt.mp (raiseIf_eq_ok.mp hcutoff)

theorem RollInputs.checkCapital :
    (rollAmounts leaf genesis marks priorPeakNav).checkCapital leaf.totals.openRisk = .ok () := by
  refine raiseIf_neg ?_
  rintro (hequity | hcash | hnav | hrisk)
  · exact absurd h.capital.equity (not_lt.mpr hequity)
  · exact absurd h.capital.cash (not_le.mpr hcash)
  · exact absurd h.capital.nav (not_lt.mpr hnav)
  · exact absurd h.capital.risk (not_le.mpr hrisk)

include hcontinues

theorem RollInputs.snapshotCheck :
    (rolledPortfolio leaf marks asOf (rollAmounts leaf genesis marks priorPeakNav)).check = .ok () := by
  obtain ⟨-, -, hgross⟩ := rollAmounts_nonneg genesis marks priorPeakNav hcontinues
  have hnav : ambientContext.add (rollAmounts leaf genesis marks priorPeakNav).cashAvailable
      (rollAmounts leaf genesis marks priorPeakNav).grossExposure =
        (rollAmounts leaf genesis marks priorPeakNav).nav :=
    h.rechecks (rollAmounts leaf genesis marks priorPeakNav).nav List.mem_cons_self
  have hamounts : ¬((rollAmounts leaf genesis marks priorPeakNav).cashAvailable < 0 ∨
      (rollAmounts leaf genesis marks priorPeakNav).grossExposure < 0 ∨ leaf.totals.openRisk < 0) := by
    rintro (hneg | hneg | hneg)
    · exact absurd h.capital.cash (not_le.mpr hneg)
    · exact absurd hgross (not_le.mpr hneg)
    · exact absurd (openRisk_nonneg hcontinues) (not_le.mpr hneg)
  unfold PortfolioSnapshotFields.check rolledPortfolio
  dsimp only
  rw [raiseIf_neg (not_le.mpr h.capital.nav), ok_bind, raiseIf_neg hamounts, ok_bind, hnav, raiseIf_neg (lt_irrefl _),
    ok_bind, raiseIf_neg (not_lt.mpr h.capital.risk)]

theorem RollInputs.artifactCheck (keys : List String) : PortfolioArtifactFields.check
    ⟨rolledPortfolio leaf marks asOf (rollAmounts leaf genesis marks priorPeakNav),
      rolloverEvidence leaf marks (rollAmounts leaf genesis marks priorPeakNav) keys, asOf,
      .derivedReconciledPaperOnly⟩ = .ok () := by
  have hkinds : (rolloverEvidence leaf marks (rollAmounts leaf genesis marks priorPeakNav) keys).map (·.kind) =
    manualEvidenceKinds := rfl
  unfold PortfolioArtifactFields.check
  dsimp only
  rw [h.snapshotCheck hcontinues, ok_bind, raiseIf_neg (not_not.mpr hkinds), ok_bind,
    raiseIf_neg (not_not.mpr (rolloverEvidence_nodup _ _)), ok_bind]
  refine raiseIf_neg ?_
  rintro (hne | ⟨e, he, hlate⟩)
  · exact hne rfl
  · exact absurd (rolloverEvidence_observed h.marked h.cutoff _ _ e he) (not_le.mpr hlate)

theorem RollInputs.rolloverCheck (hunique : (leaf.positions.map (·.registrationId)).Nodup)
    (hlink : link.priorPeakNav = priorPeakNav) (hprior : 0 < priorPeakNav)
    {artifact : SwingPortfolioSnapshotArtifact}
    (hartifact : artifact.1.verificationStatus = .derivedReconciledPaperOnly ∧ artifact.1.reconciledAt = asOf ∧
      artifact.1.portfolio = rolledPortfolio leaf marks asOf (rollAmounts leaf genesis marks priorPeakNav)) :
    (rolledFields leaf genesis marks asOf link (rollAmounts leaf genesis marks priorPeakNav)
      (sortOn id (marks.map (·.1.listingKey))) artifact).check = .ok () := by
  subst hlink
  obtain ⟨hnotional, hcosts, hgross⟩ := rollAmounts_nonneg genesis marks link.priorPeakNav hcontinues
  obtain ⟨hstatus, hreconciled, hportfolio⟩ := hartifact
  have hstarting : 0 < (rollAmounts leaf genesis marks link.priorPeakNav).startingCapital := genesis_capital_pos
  have hpeak : (rollAmounts leaf genesis marks link.priorPeakNav).nav ≤
      (rollAmounts leaf genesis marks link.priorPeakNav).peakNav := le_max_right _ _
  have hcanonical : ¬¬((marks.map (·.1.registrationId)).Nodup ∧
      marks.map (·.1.registrationId) = sortOn id (marks.map (·.1.registrationId))) := by
    refine not_not.mpr ⟨?_, ?_⟩
    · rw [h.marked.ids]
      exact orderedPositions_nodup hunique
    · have hsorted := map_sortOn (fun m : PaperPortfolioMark => m.1.registrationId) id
        (fun m : PaperPortfolioMark => m.1.registrationId) (fun _ => rfl) marks
      rwa [← h.marked.sorted] at hsorted
  have hamounts : ¬((rollAmounts leaf genesis marks link.priorPeakNav).startingCapital ≤ 0 ∨
      (rollAmounts leaf genesis marks link.priorPeakNav).realizedEquity ≤ 0 ∨ leaf.peakRealizedPnl < 0 ∨
      (rollAmounts leaf genesis marks link.priorPeakNav).cashAvailable < 0 ∨
      (rollAmounts leaf genesis marks link.priorPeakNav).grossExposure < 0 ∨
      (rollAmounts leaf genesis marks link.priorPeakNav).openEntryNotional < 0 ∨
      (rollAmounts leaf genesis marks link.priorPeakNav).reservedOpenCosts < 0 ∨
      (rollAmounts leaf genesis marks link.priorPeakNav).nav ≤ 0 ∨ link.priorPeakNav ≤ 0 ∨
      (rollAmounts leaf genesis marks link.priorPeakNav).peakNav ≤ 0 ∨
      (rollAmounts leaf genesis marks link.priorPeakNav).navDrawdown < 0) := by
    have hdrawdown : 0 ≤ (rollAmounts leaf genesis marks link.priorPeakNav).navDrawdown := sub_nonneg.mpr hpeak
    have hequity := h.capital.equity
    have hcash := h.capital.cash
    have hnav := h.capital.nav
    have hrealized := hcontinues.peak
    have hpeakPos := hnav.trans_le hpeak
    simp only [not_or, not_le, not_lt]
    exact ⟨hstarting, hequity, hrealized, hcash, hgross, hnotional, hcosts, hnav, hprior, hpeakPos, hdrawdown⟩
  unfold PortfolioRolloverFields.check
  rw [checkAmounts_iff.mpr h.rechecks]
  unfold rolledFields
  dsimp only
  rw [raiseIf_neg hcanonical, ok_bind, h.marked.checkKeys, ok_bind, raiseIf_neg (not_not.mpr rfl), ok_bind,
    raiseIf_neg hamounts, ok_bind, ok_bind]
  refine raiseIf_neg ?_
  rw [hstatus, hreconciled, hportfolio]
  simp [rolledPortfolio]

/-- With its inputs, a leaf that passes the check of its predecessor is rolled. -/
theorem RollInputs.roll (hunique : (leaf.positions.map (·.registrationId)).Nodup)
    (hlinkOk : checkPredecessor leaf genesis asOf predecessor = .ok link) (hlink : link.priorPeakNav = priorPeakNav)
    (hprior : 0 < priorPeakNav) : ∃ r, rollPaperPortfolio leaf genesis marks asOf predecessor = .ok r := by
  have hsums := h.sums
  have hcapital := h.checkCapital
  have hsnapshot := h.snapshotCheck hcontinues
  subst hlink
  have hartifact := h.artifactCheck hcontinues (sortOn id (marks.map (·.1.listingKey)))
  have hrollover : (rolledFields leaf genesis marks asOf link (rollAmounts leaf genesis marks link.priorPeakNav)
      (sortOn id (marks.map (·.1.listingKey))) ⟨_, hartifact⟩).check = .ok () :=
    h.rolloverCheck hcontinues hunique rfl hprior ⟨rfl, rfl, rfl⟩
  refine ⟨⟨_, hrollover⟩, ?_⟩
  unfold rollPaperPortfolio
  rw [h.genesisOk, ok_bind, hlinkOk, ok_bind, h.marked.checkMarks h.cutoff, ok_bind]
  dsimp only
  rw [rolloverAmounts_of_sumsFit hsums, hcapital, ok_bind, h.marked.checkKeys, ok_bind, hsnapshot, ok_bind,
    Checked.build_of_ok hartifact, ok_bind]
  exact Checked.build_of_ok _

end Rolled

section Derived

variable {derived : List PaperPortfolioRollover}

/-- A rollover that was made of an earlier state. -/
def DerivedFrom (front : List PaperPortfolioState) (r : PaperPortfolioRollover) : Prop :=
  ∃ state ∈ front, ∃ genesis marks asOf previous, rollPaperPortfolio state genesis marks asOf previous = .ok r

/-- The rollover is one of the state right before the leaf, from the same genesis and an earlier cutoff. -/
def RolledBefore (genesis : SwingPortfolioSnapshotArtifact) (front : List PaperPortfolioState)
    (leaf : PaperPortfolioState) (r : PaperPortfolioRollover) : Prop :=
  r.1.genesisArtifactId = genesis.1.artifactId ∧
    front.getLast?.map (·.stateId) = some r.1.paperPortfolioStateId ∧ r.1.asOf < leaf.asOf

instance : Decidable (RolledBefore genesis front leaf r) := inferInstanceAs (Decidable (_ ∧ _ ∧ _ < _))

theorem DerivedFrom.peakNav_pos (r : PaperPortfolioRollover) : 0 < r.1.peakNav := by
  have hcheck := r.2
  unfold PortfolioRolloverFields.check at hcheck
  obtain ⟨-, hcheck⟩ := raiseIf_bind_eq_ok.mp hcheck
  obtain ⟨-, -, hcheck⟩ := bind_eq_ok.mp hcheck
  obtain ⟨-, hcheck⟩ := raiseIf_bind_eq_ok.mp hcheck
  obtain ⟨hamounts, -⟩ := raiseIf_bind_eq_ok.mp hcheck
  simp only [not_or, not_le] at hamounts
  exact hamounts.2.2.2.2.2.2.2.2.2.1

/-- What a derived rollover says about its state. -/
theorem DerivedFrom.state_eq (h : DerivedFrom front r) : ∃ state ∈ front, r.1.paperPortfolioStateId = state.stateId ∧
    r.1.paperPortfolioBatchId = state.batchId ∧ r.1.peakRealizedPnl = state.peakRealizedPnl ∧
    r.1.portfolioArtifact.1.portfolio.pilotRealizedPnl = state.cumulativeRealizedPnl := by
  obtain ⟨state, hmem, genesis, marks, asOf, previous, hroll⟩ := h
  obtain ⟨link, hrolled⟩ := rollPaperPortfolio_ok hroll
  obtain ⟨artifact, hportfolio, hfields⟩ := hrolled.fields
  refine ⟨state, hmem, by rw [hfields]; rfl, by rw [hfields]; rfl, by rw [hfields]; rfl, ?_⟩
  rw [hfields]
  show artifact.1.portfolio.pilotRealizedPnl = _
  rw [hportfolio]
  rfl

/-- The first state follows no rollover. -/
theorem checkPredecessor_first (hprevious : leaf.previous = none) (hcontinues : Continues ctx none leaf) :
    checkPredecessor leaf genesis asOf none = .ok ⟨none, genesis.1.artifactId, genesis.1.portfolio.capital⟩ := by
  have hno : ¬(leaf.previous ≠ none ∨ leaf.priorCumulativeRealizedPnl ≠ 0 ∨ leaf.priorPeakRealizedPnl ≠ 0) := by
    rintro (hne | hne | hne)
    · exact hne hprevious
    · exact hne hcontinues.priorCumulative
    · exact hne hcontinues.priorPeak
  unfold checkPredecessor
  dsimp only
  rw [raiseIf_neg hno]
  rfl

/-- A later state follows a rollover of the state before it. -/
theorem checkPredecessor_next {last : PaperPortfolioState} (hprevious : leaf.previous = some last.binding)
    (hcontinues : Continues ctx (some last) leaf) (hgenesis : r.1.genesisArtifactId = genesis.1.artifactId)
    (hstate : r.1.paperPortfolioStateId = last.stateId) (hbatch : r.1.paperPortfolioBatchId = last.batchId)
    (hpeak : r.1.peakRealizedPnl = last.peakRealizedPnl)
    (hpilot : r.1.portfolioArtifact.1.portfolio.pilotRealizedPnl = last.cumulativeRealizedPnl)
    (hearlier : r.1.asOf < leaf.asOf) (hcutoff : leaf.asOf ≤ asOf) :
    checkPredecessor leaf genesis asOf (some r) =
      .ok ⟨some r.1.rolloverId, r.1.portfolioArtifact.1.artifactId, r.1.peakNav⟩ := by
  have hbinding : leaf.previous = some ⟨r.1.paperPortfolioBatchId, r.1.paperPortfolioStateId⟩ := by
    rw [hprevious, hstate, hbatch]
    rfl
  have hno : ¬(r.1.genesisArtifactId ≠ genesis.1.artifactId ∨
      leaf.previous ≠ some ⟨r.1.paperPortfolioBatchId, r.1.paperPortfolioStateId⟩ ∨
      leaf.priorCumulativeRealizedPnl ≠ r.1.portfolioArtifact.1.portfolio.pilotRealizedPnl ∨
      leaf.priorPeakRealizedPnl ≠ r.1.peakRealizedPnl ∨ leaf.asOf ≤ r.1.asOf ∨ asOf ≤ r.1.asOf) := by
    rintro (hne | hne | hne | hne | hle | hle)
    · exact hne hgenesis
    · exact hne hbinding
    · exact hne (hcontinues.priorCumulative.trans hpilot.symm)
    · exact hne (hcontinues.priorPeak.trans hpeak.symm)
    · exact absurd hearlier (not_lt.mpr hle)
    · exact absurd (hearlier.trans_le hcutoff) (not_lt.mpr hle)
  unfold checkPredecessor
  dsimp only
  rw [raiseIf_neg hno]
  rfl

/-- A leaf with its marks and its capital is rolled from a derived rollover, or from none, exactly if it is the
first state or the state right before it has been rolled. -/
theorem leaf_rolled_iff {actions : List PaperAction}
    (hstates : (performAll ambientContext actions).portfolio.states = front ++ [leaf])
    (hderived : ∀ r ∈ derived, DerivedFrom front r)
    (hcutoff : leaf.asOf ≤ asOf)
    (hinputs : ∀ previous ∈ none :: derived.map some, ∀ link,
      checkPredecessor leaf genesis asOf previous = .ok link → RollInputs genesis leaf marks asOf link.priorPeakNav) :
    (∃ previous ∈ none :: derived.map some, ∃ r, rollPaperPortfolio leaf genesis marks asOf previous = .ok r) ↔
      front = [] ∨ ∃ r ∈ derived, RolledBefore genesis front leaf r := by
  have hvalid : PortfolioValid ambientContext (performAll ambientContext actions) := performAll_valid actions
  have hcontinues : Continues ambientContext front.getLast? leaf :=
    performAll_continues actions front leaf [] hstates
  have hunique := hvalid.unique leaf (by simp [hstates])
  have hprevious : leaf.previous = front.getLast?.map (·.binding) :=
    hvalid.chain.linked front leaf [] hstates
  have hids := hvalid.chain.nodup
  rw [hstates, List.map_append] at hids
  constructor
  · rintro ⟨previous, hmem, r', hroll⟩
    obtain ⟨link, hrolled⟩ := rollPaperPortfolio_ok hroll
    have hlink := hrolled.linkOk
    unfold checkPredecessor at hlink
    cases previous with
    | none =>
      obtain ⟨hfirst, -⟩ := raiseIf_bind_eq_ok.mp hlink
      rw [hprevious] at hfirst
      exact .inl (by simpa using (not_or.mp hfirst).1)
    | some r =>
      obtain ⟨hno, -⟩ := raiseIf_bind_eq_ok.mp hlink
      simp only [not_or, not_not, not_le] at hno
      obtain ⟨hgenesis, hbinding, -, -, hearlier, -⟩ := hno
      have hr : r ∈ derived := by simpa using hmem
      rw [hprevious, Option.map_eq_some_iff] at hbinding
      obtain ⟨last, hlast, hbinding⟩ := hbinding
      have hstate : front.getLast?.map (·.stateId) = some r.1.paperPortfolioStateId :=
        Option.map_eq_some_iff.mpr ⟨last, hlast, congrArg (·.stateId) hbinding⟩
      exact .inr ⟨r, hr, hgenesis, hstate, hearlier⟩
  · rintro (rfl | ⟨r, hr, hgenesis, hlastState, hearlier⟩)
    · have hlink : checkPredecessor leaf genesis asOf none = _ := checkPredecessor_first hprevious hcontinues
      have hin := hinputs none List.mem_cons_self _ hlink
      exact ⟨none, List.mem_cons_self, hin.roll hcontinues hunique hlink rfl genesis_capital_pos⟩
    · obtain ⟨last, hlast, hstate⟩ := Option.map_eq_some_iff.mp hlastState
      obtain ⟨state, hstateMem, hid, hbatch, hpeak, hpilot⟩ := (hderived r hr).state_eq
      have hsame : state = last :=
        List.inj_on_of_nodup_map (List.nodup_append.mp hids).1 hstateMem (List.mem_of_getLast? hlast)
          (hid.symm.trans hstate.symm)
      subst hsame
      rw [hlast] at hcontinues hprevious
      have hlink := checkPredecessor_next hprevious hcontinues hgenesis hstate.symm hbatch hpeak hpilot hearlier hcutoff
      have hmem : some r ∈ none :: derived.map some := List.mem_cons_of_mem _ (List.mem_map_of_mem hr)
      have hin := hinputs (some r) hmem _ hlink
      refine ⟨some r, hmem, ?_⟩
      exact hin.roll hcontinues hunique hlink rfl (DerivedFrom.peakNav_pos r)

end Derived

end Leaf

section Sample

/-- The two states of a run have a property. -/
def bothStates (states : List PaperPortfolioState) (p : PaperPortfolioState → PaperPortfolioState → Bool) : Bool :=
  match states with
  | [one, leaf] => p one leaf
  | _ => false

theorem bothStates_iff {p : PaperPortfolioState → PaperPortfolioState → Bool} :
    bothStates states p = true ↔ ∃ one leaf, states = [one, leaf] ∧ p one leaf = true := by
  constructor
  · intro h
    unfold bothStates at h
    split at h
    next one leaf => exact ⟨one, leaf, rfl, h⟩
    next => cases h
  · rintro ⟨one, leaf, rfl, h⟩
    exact h

/-- A batch of sample trades in the ambient context, after the last state of a run. -/
def nextBatch (ids : List Digest) (asOf : Instant) (actions : List PaperAction) :
    Except PaperError PaperPortfolioBatchSpec := do
  let jobs ← ids.mapM fun id => preparePaperOutcomeJobSpec ambientContext artifactSource id 5 3 [6, 8] "EQ"
    "INE009A01021" asOf .default
  let last := (performAll ambientContext actions).portfolio.states.getLast?
  PaperPortfolioBatchSpec.create asOf jobs (last.map (·.binding)) 1000 2000

/-- Two batches after the registrations of two trades. -/
def twoBatches (first second : PaperPortfolioBatchSpec) : List PaperAction :=
  [registerSample 1, registerSample 2, .runBatch artifactSource first, .runBatch artifactSource second]

/-- The leaf has no open position, and its roll has what it asks for after a peak. -/
def readyLeaf (leaf : PaperPortfolioState) (priorPeakNav : ℚ) : Bool :=
  let a := rollAmounts leaf sampleGenesis [] priorPeakNav
  decide (sampleGenesis.1.portfolio.asOf < leaf.asOf) && leaf.positions.all (·.closed) &&
    (decide (0 < a.realizedEquity) && decide (0 ≤ a.cashAvailable) && decide (0 < a.nav) &&
      decide (leaf.totals.openRisk ≤ a.nav)) &&
    (decide (SumsFit leaf sampleGenesis [] priorPeakNav) && decide (RechecksFit leaf sampleGenesis [] priorPeakNav))

theorem readyLeaf_inputs {priorPeakNav : ℚ} (h : readyLeaf leaf priorPeakNav = true) :
    RollInputs sampleGenesis leaf [] leaf.asOf priorPeakNav := by
  unfold readyLeaf at h
  simp only [Bool.and_eq_true, decide_eq_true_eq, List.all_eq_true] at h
  obtain ⟨⟨⟨hgenesis, hclosed⟩, ⟨⟨hequity, hcash⟩, hnav⟩, hrisk⟩, hsums, hrechecks⟩ := h
  have hstatus : ∀ p ∈ leaf.positions, p.outcomeStatus = .closed := fun p hp => of_decide_eq_true (hclosed p hp)
  have hnone : orderedPositions leaf = [] := by
    refine List.eq_nil_iff_forall_not_mem.mpr fun p hp => ?_
    have hopen : p.outcomeStatus = .open_ :=
      of_decide_eq_true (List.mem_filter.mp ((perm_sortOn _ _).mem_iff.mp hp)).2
    exact absurd (hopen.symm.trans (hstatus p (mem_orderedPositions hp))) (by decide)
  refine ⟨?_, ⟨fun p hp => ?_, ?_, fun m hm => ?_, .nil, Nat.zero_le _⟩, ⟨hequity, hcash, hnav, hrisk⟩, hsums, hrechecks⟩
  · have hvalid : ¬(sampleGenesis.1.verificationStatus ≠ .manualReconciledPaperOnly ∨
        sampleGenesis.1.portfolio.cashAvailable ≠ sampleGenesis.1.portfolio.capital ∨
        sampleGenesis.1.portfolio.grossExposure ≠ 0 ∨ sampleGenesis.1.portfolio.openRisk ≠ 0 ∨
        sampleGenesis.1.portfolio.openPositions ≠ 0 ∨ sampleGenesis.1.portfolio.dailyRealizedPnl ≠ 0 ∨
        sampleGenesis.1.portfolio.pilotRealizedPnl ≠ 0 ∨ leaf.asOf ≤ sampleGenesis.1.portfolio.asOf) := by
      simp [sampleGenesis, sampleArtifact]
      exact hgenesis
    unfold checkGenesis
    rw [raiseIf_neg hvalid, ok_bind]
    exact raiseIf_neg (lt_irrefl _)
  · rw [hstatus p hp]
    rfl
  · rw [hnone]
    exact .nil
  · cases hm

end Sample

/-- A trade closed on one day and another on the next: the second day is rolled from the rollover of the first. -/
theorem leaf_rolled_iff_sample : ∃ first second one leaf r,
    (performAll ambientContext (twoBatches first second)).portfolio.states = [one] ++ [leaf] ∧
    rollPaperPortfolio one sampleGenesis [] one.asOf none = .ok r ∧
    ∃ previous ∈ [none, some r], ∃ r', rollPaperPortfolio leaf sampleGenesis [] leaf.asOf previous = .ok r' := by
  obtain ⟨first, -, hfirst⟩ := exists_ok_of_any
    (x := nextBatch [1] (istInstant 102 1100) [registerSample 1, registerSample 2])
    (p := fun first =>
      (nextBatch [2] (istInstant 102 1110) [registerSample 1, registerSample 2,
        .runBatch artifactSource first]).toOption.any fun second =>
        bothStates (performAll ambientContext (twoBatches first second)).portfolio.states fun one leaf =>
          (rollPaperPortfolio one sampleGenesis [] one.asOf none).toOption.any fun r =>
            decide (RolledBefore sampleGenesis [one] leaf r) && readyLeaf leaf r.1.peakNav)
    (by decide +kernel)
  obtain ⟨second, -, hsecond⟩ := exists_ok_of_any hfirst
  obtain ⟨one, leaf, hstates, hboth⟩ := bothStates_iff.mp hsecond
  obtain ⟨r, hroll, hr⟩ := exists_ok_of_any hboth
  obtain ⟨hbefore, hready⟩ := Bool.and_eq_true_iff.mp hr
  refine ⟨first, second, one, leaf, r, hstates, hroll, ?_⟩
  have hderived : ∀ r' ∈ [r], DerivedFrom [one] r' := by
    intro r' hr'
    rw [List.mem_singleton.mp hr']
    exact ⟨one, List.mem_cons_self, sampleGenesis, [], one.asOf, none, hroll⟩
  have hprevious : leaf.previous = some one.binding := (performAll_valid _).chain.linked [one] leaf [] hstates
  have hinputs : ∀ previous ∈ none :: [r].map some, ∀ link,
      checkPredecessor leaf sampleGenesis leaf.asOf previous = .ok link →
        RollInputs sampleGenesis leaf [] leaf.asOf link.priorPeakNav := by
    intro previous hmem link hlink
    rcases List.mem_cons.mp hmem with rfl | hmem
    · obtain ⟨hfirst, -⟩ := raiseIf_bind_eq_ok.mp hlink
      rw [hprevious] at hfirst
      exact absurd (.inl (Option.some_ne_none _)) hfirst
    · rw [checkPredecessor_prior hlink, List.mem_singleton.mp hmem]
      exact readyLeaf_inputs hready
  exact (leaf_rolled_iff hstates hderived le_rfl hinputs).mpr
    (.inr ⟨r, List.mem_singleton_self r, of_decide_eq_true hbefore⟩)

/-- A day with a waiting position is not rolled, and no later day is. -/
theorem waiting_day_ends_chain : ∃ first second waiting leaf,
    (performAll ambientContext (twoBatches first second)).portfolio.states = [waiting] ++ [leaf] ∧
    (∀ r, ¬DerivedFrom [waiting] r) ∧ RollInputs sampleGenesis leaf [] leaf.asOf 100000 ∧
    rollPaperPortfolio leaf sampleGenesis [] leaf.asOf none =
      .error (.rollover "paper portfolio predecessor is missing") := by
  obtain ⟨first, -, hfirst⟩ := exists_ok_of_any
    (x := nextBatch [1] (istInstant 101 1000) [registerSample 1, registerSample 2])
    (p := fun first =>
      (nextBatch [1] (istInstant 102 1100) [registerSample 1, registerSample 2,
        .runBatch artifactSource first]).toOption.any fun second =>
        bothStates (performAll ambientContext (twoBatches first second)).portfolio.states fun waiting leaf =>
          waiting.positions.any (·.outcomeStatus.unresolved) && readyLeaf leaf 100000 &&
            decide (rollPaperPortfolio leaf sampleGenesis [] leaf.asOf none =
              .error (.rollover "paper portfolio predecessor is missing")))
    (by decide +kernel)
  obtain ⟨second, -, hsecond⟩ := exists_ok_of_any hfirst
  obtain ⟨waiting, leaf, hstates, hboth⟩ := bothStates_iff.mp hsecond
  obtain ⟨hboth, hmissing⟩ := Bool.and_eq_true_iff.mp hboth
  obtain ⟨hwaiting, hready⟩ := Bool.and_eq_true_iff.mp hboth
  refine ⟨first, second, waiting, leaf, hstates, ?_, readyLeaf_inputs hready, of_decide_eq_true hmissing⟩
  rintro r ⟨state, hmem, genesis, marks, asOf, previous, hroll⟩
  rw [List.mem_singleton.mp hmem] at hroll
  obtain ⟨link, hrolled⟩ := rollPaperPortfolio_ok hroll
  obtain ⟨p, hp, hunresolved⟩ := List.any_eq_true.mp hwaiting
  have hresolved := (checkMarks_ok hrolled.marksOk).resolved p hp
  exact absurd (hresolved.symm.trans hunresolved) Bool.false_ne_true

/-- Not every leaf with its marks and its capital is rolled from some earlier rollover. -/
theorem not_all_leaves_rolled :
    ¬∀ (actions : List PaperAction) front leaf genesis marks asOf (derived : List PaperPortfolioRollover),
      (performAll ambientContext actions).portfolio.states = front ++ [leaf] →
      (∀ r ∈ derived, DerivedFrom front r) → (∀ r, DerivedFrom front r → r ∈ derived) →
      (∀ priorPeakNav ∈ genesis.1.portfolio.capital :: derived.map (·.1.peakNav),
        RollInputs genesis leaf marks asOf priorPeakNav) →
      ∃ previous ∈ none :: derived.map some, ∃ r, rollPaperPortfolio leaf genesis marks asOf previous = .ok r := by
  intro h
  obtain ⟨first, second, waiting, leaf, hstates, hunrolled, hinputs, hmissing⟩ := waiting_day_ends_chain
  obtain ⟨previous, hmem, r, hroll⟩ := h (twoBatches first second) [waiting] leaf sampleGenesis [] leaf.asOf []
    hstates (fun r hr => absurd hr List.not_mem_nil) (fun r hr => absurd hr (hunrolled r)) fun priorPeakNav hprior => by
      rw [List.mem_singleton.mp hprior]
      exact hinputs
  rw [List.mem_singleton.mp hmem, hmissing] at hroll
  cases hroll

end IndiaSwing
