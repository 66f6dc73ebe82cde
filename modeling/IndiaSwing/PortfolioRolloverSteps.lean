import Mathlib.Tactic.Linarith
import Mathlib.Tactic.Ring
import IndiaSwing.PortfolioRollover

namespace IndiaSwing

open ExceptGuards KeySort

variable {ctx : DecimalContext} {state : PaperPortfolioState} {genesis : SwingPortfolioSnapshotArtifact}
variable {marks : List PaperPortfolioMark} {asOf : Instant} {previous : Option PaperPortfolioRollover}
variable {r : PaperPortfolioRollover}

section Amounts

variable {capital cumulative : ℚ} {pairs : List (PaperPortfolioPosition × PaperPortfolioMark)} {priorPeakNav : ℚ}

/-- A mark's price times the quantity of its position. -/
def exposure (pair : PaperPortfolioPosition × PaperPortfolioMark) : ℚ := pair.2.1.close * (pair.1.quantity : ℚ)

variable (capital cumulative pairs priorPeakNav) in
/-- The exact results that are rounded to the digits of the rollover's context. -/
def summedAmounts : List ℚ :=
  let a := rolloverAmounts .exact capital cumulative pairs priorPeakNav
  [a.startingCapital, a.realizedEquity, a.realizedEquity - a.openEntryNotional, a.cashAvailable,
      a.unrealizedGrossPnl, a.unrealizedNetPnl, a.nav, a.peakNav, a.navDrawdown] ++
    (pairs.map exposure ++ (DecimalContext.partialSums (pairs.map (·.1.entryNotional)) ++
      (DecimalContext.partialSums (pairs.map (·.1.estimatedCost)) ++
        DecimalContext.partialSums (pairs.map exposure))))

variable (capital cumulative pairs priorPeakNav) in
/-- The exact results that are checked again in the ambient context. -/
def recheckedAmounts : List ℚ :=
  let a := rolloverAmounts .exact capital cumulative pairs priorPeakNav
  [a.nav, a.unrealizedGrossPnl, a.unrealizedNetPnl, a.navDrawdown]

theorem exactAmounts_eq : rolloverAmounts .exact capital cumulative pairs priorPeakNav =
    let equity := capital + cumulative
    let notional := (pairs.map (·.1.entryNotional)).sum
    let costs := (pairs.map (·.1.estimatedCost)).sum
    let gross := (pairs.map exposure).sum
    let nav := equity - notional - costs + gross
    ⟨capital, equity, notional, costs, equity - notional - costs, gross, gross - notional, gross - notional - costs,
      nav, max priorPeakNav nav, max priorPeakNav nav - nav⟩ := by
  unfold rolloverAmounts
  simp only [DecimalContext.exact_add, DecimalContext.exact_sub, DecimalContext.exact_sum, DecimalContext.exact_mul,
    zero_add]
  rfl

/-- Amounts that are not rounded are the exact ones. -/
theorem rolloverAmounts_eq_exact
    (h : ∀ v ∈ summedAmounts capital cumulative pairs priorPeakNav, ctx.round v = v) :
    rolloverAmounts ctx capital cumulative pairs priorPeakNav =
      rolloverAmounts .exact capital cumulative pairs priorPeakNav := by
  unfold summedAmounts at h
  rw [exactAmounts_eq] at h ⊢
  dsimp only at h ⊢
  simp only [List.forall_mem_append, List.forall_mem_cons] at h
  obtain ⟨⟨hcapital, hequity, hrest, hcash, hgross, hnet, hnav, hpeak, hdrawdown, -⟩, hexposures, hnotional, hcosts,
    hexposure⟩ := h
  have hproducts : pairs.map (fun pair => ctx.mul pair.2.1.close pair.1.quantity) = pairs.map exposure := by
    refine List.map_congr_left fun pair hpair => ?_
    exact hexposures _ (List.mem_map_of_mem hpair)
  unfold rolloverAmounts
  simp only [hproducts, DecimalContext.round_sum hnotional, DecimalContext.round_sum hcosts,
    DecimalContext.round_sum hexposure, DecimalContext.add, DecimalContext.sub, hcapital, hequity, hrest, hcash, hgross,
    hnet, hnav, hpeak, hdrawdown]

end Amounts

section Roll

variable (state genesis marks) in
/-- The exact amounts of a roll. -/
def rollAmounts (priorPeakNav : ℚ) : RolloverAmounts :=
  rolloverAmounts .exact genesis.1.portfolio.capital state.cumulativeRealizedPnl ((orderedPositions state).zip marks)
    priorPeakNav

theorem rollAmounts_eq {priorPeakNav : ℚ} : rollAmounts state genesis marks priorPeakNav =
    let pairs := (orderedPositions state).zip marks
    let equity := genesis.1.portfolio.capital + state.cumulativeRealizedPnl
    let notional := (pairs.map (·.1.entryNotional)).sum
    let costs := (pairs.map (·.1.estimatedCost)).sum
    let gross := (pairs.map exposure).sum
    let nav := equity - notional - costs + gross
    ⟨genesis.1.portfolio.capital, equity, notional, costs, equity - notional - costs, gross, gross - notional,
      gross - notional - costs, nav, max priorPeakNav nav, max priorPeakNav nav - nav⟩ := exactAmounts_eq

variable (state genesis marks) in
/-- No sum of the roll needs more digits than its context has. -/
def SumsFit (priorPeakNav : ℚ) : Prop :=
  ∀ v ∈ summedAmounts genesis.1.portfolio.capital state.cumulativeRealizedPnl ((orderedPositions state).zip marks)
    priorPeakNav, DecimalContext.Fits 50 v

variable (state genesis marks) in
/-- No amount that is checked again needs more digits than the ambient context has. -/
def RechecksFit (priorPeakNav : ℚ) : Prop :=
  ∀ v ∈ recheckedAmounts genesis.1.portfolio.capital state.cumulativeRealizedPnl ((orderedPositions state).zip marks)
    priorPeakNav, DecimalContext.Fits 28 v

instance (priorPeakNav : ℚ) : Decidable (SumsFit state genesis marks priorPeakNav) :=
  inferInstanceAs (Decidable (∀ v ∈ summedAmounts _ _ _ _, _))

instance (priorPeakNav : ℚ) : Decidable (RechecksFit state genesis marks priorPeakNav) :=
  inferInstanceAs (Decidable (∀ v ∈ recheckedAmounts _ _ _ _, _))

/-- What the ambient context makes of sums that another context has taken. -/
def recheckErrors : List RolloverError :=
  [.sizing "portfolio cash and gross exposure exceed capital", .rollover "paper portfolio NAV does not reconcile",
    .rollover "paper portfolio gross mark P&L differs", .rollover "paper portfolio net mark P&L differs",
    .rollover "paper portfolio peak NAV differs", .rollover "paper portfolio NAV drawdown differs",
    .rollover "rollover portfolio snapshot differs"]

variable {link : RolloverLink} {keys : List String} {artifact : SwingPortfolioSnapshotArtifact} {e : RolloverError}

/-- The amounts agree in the ambient context exactly if it rounds none of the four that it computes. -/
theorem checkAmounts_iff :
    (rolledFields state genesis marks asOf link (rollAmounts state genesis marks link.priorPeakNav) keys
      artifact).checkAmounts = .ok () ↔ RechecksFit state genesis marks link.priorPeakNav := by
  unfold PortfolioRolloverFields.checkAmounts
  rw [raiseIf_bind_eq_ok, raiseIf_bind_eq_ok, raiseIf_bind_eq_ok, raiseIf_bind_eq_ok, raiseIf_eq_ok]
  unfold RechecksFit recheckedAmounts rolledFields rollAmounts
  rw [exactAmounts_eq]
  dsimp only
  generalize genesis.1.portfolio.capital + state.cumulativeRealizedPnl = equity
  generalize (((orderedPositions state).zip marks).map (·.1.entryNotional)).sum = notional
  generalize (((orderedPositions state).zip marks).map (·.1.estimatedCost)).sum = costs
  generalize (((orderedPositions state).zip marks).map exposure).sum = gross
  have hnav : equity + (gross - notional - costs) = equity - notional - costs + gross := by ring
  simp only [not_or, not_not, DecimalContext.add, DecimalContext.sub, hnav, List.forall_mem_cons, DecimalContext.Fits]
  show _ ∧ _ ∧ (_ ∧ _) ∧ _ ∧ _ ↔ ambientContext.round _ = _ ∧ ambientContext.round _ = _ ∧ ambientContext.round _ = _ ∧
    ambientContext.round _ = _ ∧ _
  constructor
  · rintro ⟨h₁, h₂, ⟨h₃, -⟩, -, h₅⟩
    exact ⟨h₁.symm, h₂.symm, h₃.symm, h₅.symm, fun _ hv => absurd hv List.not_mem_nil⟩
  · rintro ⟨h₁, h₂, h₃, h₅, -⟩
    exact ⟨h₁.symm, h₂.symm, ⟨h₃.symm, h₁.symm⟩, trivial, h₅.symm⟩

/-- A roll that ended well: what it took over, and the rollover it made of its amounts. -/
structure RolledFrom (state : PaperPortfolioState) (genesis : SwingPortfolioSnapshotArtifact)
    (marks : List PaperPortfolioMark) (asOf : Instant) (previous : Option PaperPortfolioRollover)
    (r : PaperPortfolioRollover) (link : RolloverLink) : Prop where
  genesisOk : checkGenesis state genesis asOf = .ok ()
  linkOk : checkPredecessor state genesis asOf previous = .ok link
  marksOk : checkMarks state marks asOf = .ok ()
  fields : ∃ artifact : SwingPortfolioSnapshotArtifact, artifact.1.portfolio = rolledPortfolio state marks asOf
      (rolloverAmounts rolloverContext genesis.1.portfolio.capital state.cumulativeRealizedPnl
        ((orderedPositions state).zip marks) link.priorPeakNav) ∧
    r.1 = rolledFields state genesis marks asOf link
      (rolloverAmounts rolloverContext genesis.1.portfolio.capital state.cumulativeRealizedPnl
        ((orderedPositions state).zip marks) link.priorPeakNav) (sortOn id (marks.map (·.1.listingKey))) artifact

theorem rollPaperPortfolio_ok (h : rollPaperPortfolio state genesis marks asOf previous = .ok r) :
    ∃ link, RolledFrom state genesis marks asOf previous r link := by
  unfold rollPaperPortfolio at h
  obtain ⟨_, hgenesis, h⟩ := bind_eq_ok.mp h
  obtain ⟨link, hlink, h⟩ := bind_eq_ok.mp h
  obtain ⟨_, hmarks, h⟩ := bind_eq_ok.mp h
  obtain ⟨-, -, h⟩ := bind_eq_ok.mp h
  obtain ⟨-, -, h⟩ := bind_eq_ok.mp h
  obtain ⟨-, -, h⟩ := bind_eq_ok.mp h
  obtain ⟨artifact, hartifact, h⟩ := bind_eq_ok.mp h
  have hbuilt := Checked.build_eq_ok.mp hartifact
  exact ⟨link, hgenesis, hlink, hmarks, artifact, by rw [← hbuilt], (Checked.build_eq_ok.mp h).symm⟩

theorem rolloverAmounts_of_sumsFit {priorPeakNav : ℚ} (h : SumsFit state genesis marks priorPeakNav) :
    rolloverAmounts rolloverContext genesis.1.portfolio.capital state.cumulativeRealizedPnl
      ((orderedPositions state).zip marks) priorPeakNav = rollAmounts state genesis marks priorPeakNav :=
  rolloverAmounts_eq_exact h

/-- A rollover exists only where the rechecked amounts fit. -/
theorem RolledFrom.rechecksFit (h : RolledFrom state genesis marks asOf previous r link)
    (hfit : SumsFit state genesis marks link.priorPeakNav) : RechecksFit state genesis marks link.priorPeakNav := by
  obtain ⟨artifact, -, hfields⟩ := h.fields
  have hcheck := r.2
  rw [hfields, rolloverAmounts_of_sumsFit hfit] at hcheck
  unfold PortfolioRolloverFields.check at hcheck
  obtain ⟨-, hcheck⟩ := raiseIf_bind_eq_ok.mp hcheck
  obtain ⟨-, -, hcheck⟩ := bind_eq_ok.mp hcheck
  obtain ⟨-, hcheck⟩ := raiseIf_bind_eq_ok.mp hcheck
  obtain ⟨-, hcheck⟩ := raiseIf_bind_eq_ok.mp hcheck
  obtain ⟨_, hamounts, -⟩ := bind_eq_ok.mp hcheck
  exact checkAmounts_iff.mp hamounts

theorem checkGenesis_error (h : checkGenesis state genesis asOf = .error e) : e ∉ recheckErrors := by
  rcases raiseIf_bind_eq_error.mp h with ⟨-, rfl⟩ | ⟨-, h⟩
  · decide
  · obtain ⟨-, rfl⟩ := raiseIf_eq_error.mp h
    decide

theorem checkPredecessor_error (h : checkPredecessor state genesis asOf previous = .error e) : e ∉ recheckErrors := by
  unfold checkPredecessor at h
  split at h
  · rcases raiseIf_bind_eq_error.mp h with ⟨-, rfl⟩ | ⟨-, h⟩
    · decide
    · cases h
  · rcases raiseIf_bind_eq_error.mp h with ⟨-, rfl⟩ | ⟨-, h⟩
    · decide
    · cases h

theorem checkMarks_error (h : checkMarks state marks asOf = .error e) : e ∉ recheckErrors := by
  rcases raiseIf_bind_eq_error.mp h with ⟨-, rfl⟩ | ⟨-, h⟩
  · decide
  rcases raiseIf_bind_eq_error.mp h with ⟨-, rfl⟩ | ⟨-, h⟩
  · decide
  rcases raiseIf_bind_eq_error.mp h with ⟨-, rfl⟩ | ⟨-, h⟩
  · decide
  obtain ⟨-, rfl⟩ := raiseIf_eq_error.mp h
  decide

/-- Where cash and exposure add up to the NAV, the snapshot's own sum raises no error. -/
theorem snapshotCheck_error {p : PortfolioSnapshotFields}
    (hsum : ambientContext.add p.cashAvailable p.grossExposure = p.capital) (h : p.check = .error e) :
    e ∉ recheckErrors := by
  rcases raiseIf_bind_eq_error.mp h with ⟨-, rfl⟩ | ⟨-, h⟩
  · decide
  rcases raiseIf_bind_eq_error.mp h with ⟨-, rfl⟩ | ⟨-, h⟩
  · decide
  rcases raiseIf_bind_eq_error.mp h with ⟨hover, -⟩ | ⟨-, h⟩
  · rw [hsum] at hover
    exact absurd hover (lt_irrefl _)
  obtain ⟨-, rfl⟩ := raiseIf_eq_error.mp h
  decide

theorem artifactCheck_error {p : PortfolioArtifactFields}
    (hsum : ambientContext.add p.portfolio.cashAvailable p.portfolio.grossExposure = p.portfolio.capital)
    (h : p.check = .error e) : e ∉ recheckErrors := by
  rcases bind_eq_error.mp h with h | ⟨_, -, h⟩
  · exact snapshotCheck_error hsum h
  rcases raiseIf_bind_eq_error.mp h with ⟨-, rfl⟩ | ⟨-, h⟩
  · decide
  rcases raiseIf_bind_eq_error.mp h with ⟨-, rfl⟩ | ⟨-, h⟩
  · decide
  obtain ⟨-, rfl⟩ := raiseIf_eq_error.mp h
  decide

theorem rolloverCheck_error
    (hfit : RechecksFit state genesis marks link.priorPeakNav)
    (hartifact : artifact.1.verificationStatus = .derivedReconciledPaperOnly ∧ artifact.1.reconciledAt = asOf ∧
      artifact.1.portfolio = rolledPortfolio state marks asOf (rollAmounts state genesis marks link.priorPeakNav))
    (h : (rolledFields state genesis marks asOf link (rollAmounts state genesis marks link.priorPeakNav) keys
      artifact).check = .error e) : e ∉ recheckErrors := by
  rcases raiseIf_bind_eq_error.mp h with ⟨-, rfl⟩ | ⟨-, h⟩
  · decide
  rcases bind_eq_error.mp h with h | ⟨_, -, h⟩
  · obtain ⟨-, rfl⟩ := raiseIf_eq_error.mp h
    decide
  rcases raiseIf_bind_eq_error.mp h with ⟨-, rfl⟩ | ⟨-, h⟩
  · decide
  rcases raiseIf_bind_eq_error.mp h with ⟨-, rfl⟩ | ⟨-, h⟩
  · decide
  rw [checkAmounts_iff.mpr hfit, ok_bind] at h
  obtain ⟨hdiffers, -⟩ := raiseIf_eq_error.mp h
  obtain ⟨hstatus, hreconciled, hportfolio⟩ := hartifact
  simp [rolledFields, hstatus, hreconciled, hportfolio, rolledPortfolio] at hdiffers

theorem build_eq_error {α : Type} {check : α → Except RolloverError Unit} {a : α}
    (h : Checked.build check a = .error e) : check a = .error e := by
  unfold Checked.build at h
  split at h
  · cases h
  · rename_i e' he
    rwa [← Except.error.inj h]

/-- With sums and rechecked amounts that fit, no roll fails for its rechecks. -/
theorem roll_error_of_fits (hsums : ∀ link, checkPredecessor state genesis asOf previous = .ok link →
      SumsFit state genesis marks link.priorPeakNav ∧ RechecksFit state genesis marks link.priorPeakNav)
    (h : rollPaperPortfolio state genesis marks asOf previous = .error e) : e ∉ recheckErrors := by
  unfold rollPaperPortfolio at h
  rcases bind_eq_error.mp h with h | ⟨_, -, h⟩
  · exact checkGenesis_error h
  rcases bind_eq_error.mp h with h | ⟨link, hlink, h⟩
  · exact checkPredecessor_error h
  obtain ⟨hsum, hrecheck⟩ := hsums link hlink
  rcases bind_eq_error.mp h with h | ⟨_, -, h⟩
  · exact checkMarks_error h
  dsimp only at h
  rw [rolloverAmounts_of_sumsFit hsum] at h
  have hnav : ambientContext.add (rollAmounts state genesis marks link.priorPeakNav).cashAvailable
      (rollAmounts state genesis marks link.priorPeakNav).grossExposure =
        (rollAmounts state genesis marks link.priorPeakNav).nav := by
    have hfits := hrecheck (rollAmounts state genesis marks link.priorPeakNav).nav List.mem_cons_self
    have hsame : (rollAmounts state genesis marks link.priorPeakNav).nav =
        (rollAmounts state genesis marks link.priorPeakNav).cashAvailable +
          (rollAmounts state genesis marks link.priorPeakNav).grossExposure := rfl
    rw [hsame] at hfits ⊢
    exact hfits
  rcases bind_eq_error.mp h with h | ⟨_, -, h⟩
  · obtain ⟨-, rfl⟩ := raiseIf_eq_error.mp h
    decide
  rcases bind_eq_error.mp h with h | ⟨_, -, h⟩
  · obtain ⟨-, rfl⟩ := raiseIf_eq_error.mp h
    decide
  rcases bind_eq_error.mp h with h | ⟨_, -, h⟩
  · exact snapshotCheck_error hnav h
  rcases bind_eq_error.mp h with h | ⟨artifact, hartifact, h⟩
  · exact artifactCheck_error hnav (build_eq_error h)
  have hbuilt := Checked.build_eq_ok.mp hartifact
  exact rolloverCheck_error hrecheck ⟨by rw [← hbuilt], by rw [← hbuilt], by rw [← hbuilt]⟩ (build_eq_error h)

end Roll

end IndiaSwing
