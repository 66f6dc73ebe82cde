import IndiaSwing.PortfolioRolloverSteps
import IndiaSwing.RealizedOutcomes

namespace IndiaSwing

open ActionRuns
open ExceptGuards KeySort

variable {state state' : PaperPortfolioState} {genesis : SwingPortfolioSnapshotArtifact}
variable {marks : List PaperPortfolioMark} {asOf : Instant} {previous : Option PaperPortfolioRollover}
variable {r r' : PaperPortfolioRollover} {link : RolloverLink}

section Values

/-- The close of the mark of a position. -/
def markClose (marks : List PaperPortfolioMark) (p : PaperPortfolioPosition) : ℚ :=
  ((marks.find? (·.1.registrationId = p.registrationId)).map (·.1.close)).getD 0

/-- What a position adds to the capital: its realized P&L, or the P&L of its mark after its cost. -/
def positionValue (marks : List PaperPortfolioMark) (p : PaperPortfolioPosition) : ℚ :=
  match p.outcomeStatus with
  | .closed => p.net
  | .open_ => markClose marks p * p.quantity - p.entryNotional - p.estimatedCost
  | _ => 0

theorem sum_positionValue (marks : List PaperPortfolioMark) (positions : List PaperPortfolioPosition) :
    (positions.map (positionValue marks)).sum =
      ((closedPositions positions).map (·.net)).sum + ((openPositions positions).map fun p =>
        markClose marks p * p.quantity - p.entryNotional - p.estimatedCost).sum := by
  induction positions with
  | nil => simp [closedPositions, openPositions]
  | cons p positions ih =>
    have hclosed : closedPositions (p :: positions) =
        if p.closed = true then p :: closedPositions positions else closedPositions positions := List.filter_cons
    have hopen : openPositions (p :: positions) =
        if p.open_ = true then p :: openPositions positions else openPositions positions := List.filter_cons
    rw [List.map_cons, List.sum_cons, ih, hclosed, hopen]
    unfold positionValue PaperPortfolioPosition.closed PaperPortfolioPosition.open_
    cases hstatus : p.outcomeStatus <;> simp <;> ring

theorem sum_markValue (marks : List PaperPortfolioMark) (positions : List PaperPortfolioPosition) :
    (positions.map fun p => markClose marks p * p.quantity - p.entryNotional - p.estimatedCost).sum =
      (positions.map fun p => markClose marks p * p.quantity).sum - (positions.map (·.entryNotional)).sum -
        (positions.map (·.estimatedCost)).sum := by
  induction positions with
  | nil => simp
  | cons p positions ih =>
    simp only [List.map_cons, List.sum_cons, ih]
    ring

theorem markClose_of_mem (hnodup : (marks.map (·.1.registrationId)).Nodup) {m : PaperPortfolioMark} (hm : m ∈ marks)
    {p : PaperPortfolioPosition} (hid : m.1.registrationId = p.registrationId) : markClose marks p = m.1.close := by
  unfold markClose
  cases hfind : marks.find? (fun x => decide (x.1.registrationId = p.registrationId)) with
  | none => exact absurd (decide_eq_true hid) (List.find?_eq_none.mp hfind m hm)
  | some found =>
    have hfound : found.1.registrationId = p.registrationId := by simpa using List.find?_some hfind
    have hsame := List.inj_on_of_nodup_map hnodup (List.mem_of_find?_eq_some hfind) hm (hfound.trans hid.symm)
    rw [hsame]
    rfl

end Values

section Amounts

/-- What the checks of the marks say. -/
structure MarksOf (state : PaperPortfolioState) (marks : List PaperPortfolioMark) : Prop where
  resolved : ∀ p ∈ state.positions, p.outcomeStatus.unresolved = false
  length : (orderedPositions state).length = marks.length
  ids : ∀ pair ∈ (orderedPositions state).zip marks, pair.2.1.registrationId = pair.1.registrationId

theorem checkMarks_ok (h : checkMarks state marks asOf = .ok ()) : MarksOf state marks := by
  obtain ⟨hresolved, h⟩ := raiseIf_bind_eq_ok.mp h
  obtain ⟨hcoverage, h⟩ := raiseIf_bind_eq_ok.mp h
  obtain ⟨hlineage, -⟩ := raiseIf_bind_eq_ok.mp h
  refine ⟨fun p hp => ?_, ?_, fun pair hpair => ?_⟩
  · by_contra hunresolved
    exact hresolved ⟨p, hp, Bool.not_eq_false _ ▸ hunresolved⟩
  · by_contra hlength
    exact hcoverage (.inr fun heq => hlength heq.symm)
  · by_contra hid
    exact hlineage ⟨pair, hpair, .inl hid⟩

theorem sum_ordered (state : PaperPortfolioState) (f : PaperPortfolioPosition → ℚ) :
    ((orderedPositions state).map f).sum = ((openPositions state.positions).map f).sum :=
  ((perm_sortOn _ _).map f).sum_eq

theorem sum_fst_zip (h : MarksOf state marks) (f : PaperPortfolioPosition → ℚ) :
    (((orderedPositions state).zip marks).map fun pair => f pair.1).sum =
      ((openPositions state.positions).map f).sum := by
  have hfst : (((orderedPositions state).zip marks).map fun pair => f pair.1) =
      (((orderedPositions state).zip marks).map Prod.fst).map f := by
    rw [List.map_map]
    rfl
  rw [hfst, List.map_fst_zip h.length.le, sum_ordered]

theorem sum_exposure (h : MarksOf state marks) (hnodup : (marks.map (·.1.registrationId)).Nodup) :
    (((orderedPositions state).zip marks).map exposure).sum =
      ((openPositions state.positions).map fun p => markClose marks p * p.quantity).sum := by
  rw [← sum_fst_zip h]
  refine congrArg List.sum (List.map_congr_left fun pair hpair => ?_)
  rw [markClose_of_mem hnodup (List.of_mem_zip hpair).2 (h.ids pair hpair)]
  rfl

theorem RolledFrom.marks_eq (h : RolledFrom state genesis marks asOf previous r link) :
    r.1.marks = marks ∧ (marks.map (·.1.registrationId)).Nodup := by
  obtain ⟨artifact, -, hfields⟩ := h.fields
  have hmarks : r.1.marks = marks := by rw [hfields]; rfl
  have hcheck := r.2
  unfold PortfolioRolloverFields.check at hcheck
  obtain ⟨hcanonical, -⟩ := raiseIf_bind_eq_ok.mp hcheck
  rw [hmarks] at hcanonical
  exact ⟨hmarks, (not_not.mp hcanonical).1⟩

/-- The amounts of a rollover whose sums fit, from its state and its marks. -/
structure AmountsOf (capital : ℚ) (state : PaperPortfolioState) (r : PaperPortfolioRollover) (priorPeakNav : ℚ) :
    Prop where
  cash : r.1.cashAvailable = capital + state.cumulativeRealizedPnl -
    ((openPositions state.positions).map (·.entryNotional)).sum -
    ((openPositions state.positions).map (·.estimatedCost)).sum
  nav : r.1.nav = r.1.cashAvailable +
    ((openPositions state.positions).map fun p => markClose r.1.marks p * p.quantity).sum
  peak : r.1.peakNav = max priorPeakNav r.1.nav

theorem RolledFrom.amountsOf (h : RolledFrom state genesis marks asOf previous r link)
    (hfit : SumsFit state genesis marks link.priorPeakNav) :
    AmountsOf genesis.1.portfolio.capital state r link.priorPeakNav := by
  obtain ⟨hmarks, hnodup⟩ := h.marks_eq
  obtain ⟨artifact, -, hfields⟩ := h.fields
  have hof := checkMarks_ok h.marksOk
  rw [rolloverAmounts_of_sumsFit hfit] at hfields
  have hcash : r.1.cashAvailable = (rollAmounts state genesis marks link.priorPeakNav).cashAvailable := by
    rw [hfields]
    rfl
  have hnav : r.1.nav = (rollAmounts state genesis marks link.priorPeakNav).nav := by
    rw [hfields]
    rfl
  have hpeak : r.1.peakNav = (rollAmounts state genesis marks link.priorPeakNav).peakNav := by
    rw [hfields]
    rfl
  rw [rollAmounts_eq] at hcash hnav hpeak
  dsimp only at hcash hnav hpeak
  refine ⟨?_, ?_, hpeak.trans (by rw [hnav])⟩
  · rw [hcash, sum_fst_zip hof, sum_fst_zip hof]
  · rw [hnav, ← hcash, sum_exposure hof hnodup, hmarks]

end Amounts

section Chains

variable {pairs before : List (PaperPortfolioState × PaperPortfolioRollover)}

/-- The rollover that the next one follows. -/
def lastRollover (pairs : List (PaperPortfolioState × PaperPortfolioRollover)) : Option PaperPortfolioRollover :=
  pairs.getLast?.map (·.2)

variable (genesis) in
/-- States that were rolled one after the other from one genesis, with sums that fit. -/
inductive RolloverChain : List (PaperPortfolioState × PaperPortfolioRollover) → Prop
  | nil : RolloverChain []
  | roll (before : List (PaperPortfolioState × PaperPortfolioRollover)) (state : PaperPortfolioState)
    (marks : List PaperPortfolioMark) (asOf : Instant) (link : RolloverLink) (r : PaperPortfolioRollover) :
    RolloverChain before → rollPaperPortfolio state genesis marks asOf (lastRollover before) = .ok r →
    checkPredecessor state genesis asOf (lastRollover before) = .ok link →
    SumsFit state genesis marks link.priorPeakNav → RolloverChain (before ++ [(state, r)])

/-- The capital of a genesis is kept in a rollover after earlier ones. -/
structure Conserved (capital : ℚ) (earlier : List PaperPortfolioRollover) (state : PaperPortfolioState)
    (r : PaperPortfolioRollover) : Prop where
  cash : r.1.cashAvailable = capital + ((closedPositions state.positions).map (·.net)).sum -
    ((openPositions state.positions).map (·.entryNotional)).sum -
    ((openPositions state.positions).map (·.estimatedCost)).sum
  nav : r.1.nav = r.1.cashAvailable +
    ((openPositions state.positions).map fun p => markClose r.1.marks p * p.quantity).sum
  peak : r.1.peakNav = ((earlier ++ [r]).map (·.1.nav)).foldl max capital

theorem Conserved.nav_eq {capital : ℚ} {earlier : List PaperPortfolioRollover} (h : Conserved capital earlier state r) :
    r.1.nav = capital + (state.positions.map (positionValue r.1.marks)).sum := by
  rw [h.nav, h.cash, sum_positionValue, sum_markValue]
  ring

theorem peak_prior {capital : ℚ} (r : PaperPortfolioRollover)
    (hpeak : ∀ front last, pairs = front ++ [last] →
      last.2.1.peakNav = ((front.map (·.2) ++ [last.2]).map (·.1.nav)).foldl max capital) :
    max (((lastRollover pairs).map (·.1.peakNav)).getD capital) r.1.nav =
      ((pairs.map (·.2) ++ [r]).map (·.1.nav)).foldl max capital := by
  unfold lastRollover
  rw [List.map_append, List.foldl_append]
  rcases List.eq_nil_or_concat pairs with rfl | ⟨front, last, hpairs⟩
  · rfl
  · rw [List.concat_eq_append] at hpairs
    have hlast := hpeak front last hpairs
    rw [hpairs, List.getLast?_concat, List.map_append, List.map_cons, List.map_nil, ← hlast]
    rfl

theorem checkPredecessor_prior (h : checkPredecessor state genesis asOf previous = .ok link) :
    link.priorPeakNav = (previous.map (·.1.peakNav)).getD genesis.1.portfolio.capital := by
  unfold checkPredecessor at h
  split at h
  · obtain ⟨-, h⟩ := raiseIf_bind_eq_ok.mp h
    rw [← Except.ok.inj h]
    rfl
  · obtain ⟨-, h⟩ := raiseIf_bind_eq_ok.mp h
    rw [← Except.ok.inj h]
    rfl

/-- Every rollover of a chain over states that count each outcome once keeps the capital. -/
theorem RolloverChain.conserved {states : List PaperPortfolioState} (hchain : RolloverChain genesis pairs)
    (hstates : ∀ pair ∈ pairs, pair.1 ∈ states) (hcounted : CountedOnce states) :
    ∀ front pair back, pairs = front ++ pair :: back →
      Conserved genesis.1.portfolio.capital (front.map (·.2)) pair.1 pair.2 := by
  induction hchain with
  | nil =>
    intro front pair back h
    cases front <;> cases h
  | roll before state marks asOf link r hbefore hroll hlink hfit ih =>
    have hold := ih fun pair hpair => hstates pair (List.mem_append_left _ hpair)
    intro front pair back hsplit
    rcases ListSplits.split_concat hsplit with ⟨rfl, rfl, -⟩ | ⟨init, hinit, -⟩
    swap
    · exact hold front pair init hinit
    obtain ⟨link', hrolled⟩ := rollPaperPortfolio_ok hroll
    obtain rfl := Except.ok.inj (hlink.symm.trans hrolled.linkOk)
    have hamounts := hrolled.amountsOf hfit
    have hmem : state ∈ states := hstates (state, r) (List.mem_append_right _ List.mem_cons_self)
    refine ⟨?_, hamounts.nav, ?_⟩
    · rw [hamounts.cash, hcounted.cumulative state hmem]
    · rw [hamounts.peak, checkPredecessor_prior hlink]
      refine peak_prior r fun init last hfront => ?_
      exact (hold init last [] hfront).peak

/-- An open position of a state is closed in the next one, at its mark price and for its reserved cost; the
others and their marks stay. -/
def ClosedAtMark (state : PaperPortfolioState) (r : PaperPortfolioRollover) (state' : PaperPortfolioState)
    (r' : PaperPortfolioRollover) : Prop :=
  ∃ front p p' back, state.positions = front ++ p :: back ∧ state'.positions = front ++ p' :: back ∧
    p.outcomeStatus = .open_ ∧ p'.outcomeStatus = .closed ∧
    p'.net = markClose r.1.marks p * p.quantity - p.entryNotional - p.estimatedCost ∧
    ∀ q ∈ front ++ back, q.outcomeStatus = .open_ → markClose r'.1.marks q = markClose r.1.marks q

theorem ClosedAtMark.nav {capital : ℚ} {earlier earlier' : List PaperPortfolioRollover}
    (h : Conserved capital earlier state r) (h' : Conserved capital earlier' state' r')
    (hclosed : ClosedAtMark state r state' r') : r'.1.nav = r.1.nav := by
  obtain ⟨front, p, p', back, hstate, hstate', hopen, hnow, hnet, hmarks⟩ := hclosed
  have hsame : ∀ q ∈ front ++ back, positionValue r'.1.marks q = positionValue r.1.marks q := by
    intro q hq
    unfold positionValue
    cases hstatus : q.outcomeStatus with
    | open_ =>
      dsimp only
      rw [hmarks q hq hstatus]
    | _ => rfl
  have hfront : front.map (positionValue r'.1.marks) = front.map (positionValue r.1.marks) :=
    List.map_congr_left fun q hq => hsame q (List.mem_append_left _ hq)
  have hback : back.map (positionValue r'.1.marks) = back.map (positionValue r.1.marks) :=
    List.map_congr_left fun q hq => hsame q (List.mem_append_right _ hq)
  have hvalue : positionValue r'.1.marks p' = positionValue r.1.marks p := by
    unfold positionValue
    rw [hnow, hopen]
    exact hnet
  rw [h.nav_eq, h'.nav_eq, hstate, hstate', List.map_append, List.map_append, List.map_cons, List.map_cons, hfront,
    hback, hvalue]

/-- Closing a position at its mark changes neither the NAV nor its peak. -/
theorem ClosedAtMark.unchanged {capital : ℚ} {earlier : List PaperPortfolioRollover}
    (h : Conserved capital earlier state r) (h' : Conserved capital (earlier ++ [r]) state' r')
    (hclosed : ClosedAtMark state r state' r') : r'.1.nav = r.1.nav ∧ r'.1.peakNav = r.1.peakNav := by
  have hnav := hclosed.nav h h'
  refine ⟨hnav, ?_⟩
  have hpeak : r'.1.peakNav = max r.1.peakNav r'.1.nav := by
    rw [h'.peak, List.map_append, List.foldl_append, ← h.peak]
    rfl
  have hle : r.1.nav ≤ r.1.peakNav := by
    rw [h.peak, List.map_append, List.foldl_append]
    exact le_max_right _ _
  rw [hpeak, hnav, max_eq_left hle]

/-- Rolled over states that count each outcome once, with sums that fit their digits, the capital of the
genesis is conserved, and a roll fails for its rechecks only where they do not fit theirs. -/
theorem rolled_capital_conserved {actions : List PaperAction}
    (hrun : EveryAction ambientContext (CountsClosures ambientContext) actions)
    (hchain : RolloverChain genesis pairs)
    (hstates : ∀ pair ∈ pairs, pair.1 ∈ (performAll ambientContext actions).portfolio.states) :
    (∀ front pair back, pairs = front ++ pair :: back →
      Conserved genesis.1.portfolio.capital (front.map (·.2)) pair.1 pair.2) ∧
    (∀ front one two back, pairs = front ++ one :: two :: back → ClosedAtMark one.1 one.2 two.1 two.2 →
      two.2.1.nav = one.2.1.nav ∧ two.2.1.peakNav = one.2.1.peakNav) ∧
    ∀ state marks asOf link, checkPredecessor state genesis asOf (lastRollover pairs) = .ok link →
      SumsFit state genesis marks link.priorPeakNav →
        (RechecksFit state genesis marks link.priorPeakNav → ∀ e,
          rollPaperPortfolio state genesis marks asOf (lastRollover pairs) = .error e → e ∉ recheckErrors) ∧
        ∀ r, rollPaperPortfolio state genesis marks asOf (lastRollover pairs) = .ok r →
          RechecksFit state genesis marks link.priorPeakNav := by
  have hconserved := hchain.conserved hstates (performAll_counted hrun)
  refine ⟨hconserved, fun front one two back hsplit hclosed => ?_, fun state marks asOf link hlink hfit => ⟨?_, ?_⟩⟩
  · have hone := hconserved front one (two :: back) hsplit
    have htwo := hconserved (front ++ [one]) two back (by rw [hsplit, List.append_assoc]; rfl)
    rw [List.map_append] at htwo
    exact hclosed.unchanged hone htwo
  · intro hrecheck e herror
    refine roll_error_of_fits (fun link' hlink' => ?_) herror
    obtain rfl := Except.ok.inj (hlink.symm.trans hlink')
    exact ⟨hfit, hrecheck⟩
  · intro r hroll
    obtain ⟨link', hrolled⟩ := rollPaperPortfolio_ok hroll
    obtain rfl := Except.ok.inj (hlink.symm.trans hrolled.linkOk)
    exact hrolled.rechecksFit hfit

end Chains

section Sample

/-- A genesis of some capital, reconciled before every sample. -/
def sampleArtifact (capital : ℚ) : PortfolioArtifactFields where
  portfolio := ⟨capital, capital, 0, 0, 0, 0, 0, 0⟩
  evidence := manualEvidenceKinds.map fun kind => ⟨kind, .text kind.value, 0, "sample/v1"⟩
  reconciledAt := 0
  verificationStatus := .manualReconciledPaperOnly

def sampleGenesis : SwingPortfolioSnapshotArtifact := ⟨sampleArtifact 100000, by decide +kernel⟩

/-- A capital of 29 digits. -/
def preciseGenesis : SwingPortfolioSnapshotArtifact := ⟨sampleArtifact (10 ^ 28 + 1), by decide +kernel⟩

/-- A trade and the batch that closes it. -/
def closedTrade (spec : PaperPortfolioBatchSpec) : List PaperAction :=
  [registerSample 1, .runBatch artifactSource spec]

end Sample

theorem rolled_capital_conserved_sample : ∃ (spec : PaperPortfolioBatchSpec) (state : PaperPortfolioState)
      (r : PaperPortfolioRollover),
    sampleBatch [1] [6, 8] (istInstant 102 1100) [registerSample 1] = .ok spec ∧
    state ∈ (performAll ambientContext (closedTrade spec)).portfolio.states ∧
    rollPaperPortfolio state sampleGenesis [] state.asOf none = .ok r ∧
    Conserved 100000 [] state r := by
  obtain ⟨spec, hspec, hrun⟩ := exists_ok_of_any
    (x := sampleBatch [1] [6, 8] (istInstant 102 1100) [registerSample 1])
    (p := fun spec =>
      ((performAll ambientContext (closedTrade spec)).portfolio.states.getLast?.any fun state =>
        decide (SumsFit state sampleGenesis [] 100000) &&
          (rollPaperPortfolio state sampleGenesis [] state.asOf none).toOption.any fun _ => true) &&
      ((performAll ambientContext (closedTrade spec)).outcome.ledger.registrations.map (·.registrationId) = [1] &&
        decide (DecimalContext.Fits 28
          (ledgerNet ambientContext (performAll ambientContext (closedTrade spec)).outcome.ledger 1))))
    (by decide +kernel)
  obtain ⟨hlast, hledger⟩ := Bool.and_eq_true_iff.mp hrun
  obtain ⟨state, hstate, hroll⟩ := (Option.any_eq_true _ _).mp hlast
  obtain ⟨hfit, hroll⟩ := Bool.and_eq_true_iff.mp hroll
  obtain ⟨r, hroll, -⟩ := exists_ok_of_any hroll
  obtain ⟨hids, hnet⟩ := Bool.and_eq_true_iff.mp hledger
  have hmem := List.mem_of_getLast? hstate
  refine ⟨spec, state, r, hspec, hmem, hroll, ?_⟩
  have hregistered : EveryAction ambientContext (CountsClosures ambientContext) ([] ++ [registerSample 1]) :=
    everyStep_concat.mpr ⟨everyStep_nil, trivial⟩
  have hbatch : EveryAction ambientContext (CountsClosures ambientContext)
      (([] ++ [registerSample 1]) ++ [.runBatch artifactSource spec]) := by
    refine everyStep_concat.mpr ⟨hregistered, fun stored after hstored hnew => ⟨?_, ?_⟩⟩
    · rintro job hjob ⟨position, hposition, -⟩
      cases hposition
    · have hafter : after = performAll ambientContext (closedTrade spec) := (congrArg Prod.snd hstored).symm
      rw [hafter]
      refine exactSums_of_one (fun registration hregistration => ?_) DecimalContext.ofPrecision_zero
        (of_decide_eq_true hnet)
      have hid := List.mem_map_of_mem (f := (·.registrationId)) hregistration
      rw [of_decide_eq_true hids] at hid
      exact List.mem_singleton.mp hid
  have hlink : checkPredecessor state sampleGenesis state.asOf none =
      .ok ⟨none, sampleGenesis.1.artifactId, 100000⟩ := by
    obtain ⟨link, hrolled⟩ := rollPaperPortfolio_ok hroll
    obtain ⟨-, h⟩ := raiseIf_bind_eq_ok.mp hrolled.linkOk
    rw [hrolled.linkOk, ← Except.ok.inj h]
    rfl
  have hchain := RolloverChain.roll [] state [] state.asOf _ r .nil hroll hlink (of_decide_eq_true hfit)
  refine (rolled_capital_conserved hbatch hchain fun pair hpair => ?_).1 [] (state, r) [] rfl
  rw [List.mem_singleton.mp hpair]
  exact hmem

/-- A genesis whose capital has more digits than the ambient context cannot be rolled. -/
theorem precise_capital_not_rolled : ∃ (spec : PaperPortfolioBatchSpec) (state : PaperPortfolioState),
    state ∈ (performAll ambientContext (closedTrade spec)).portfolio.states ∧
    rollPaperPortfolio state preciseGenesis [] state.asOf none =
      .error (.rollover "paper portfolio NAV does not reconcile") := by
  obtain ⟨spec, -, hrun⟩ := exists_ok_of_any
    (x := sampleBatch [1] [6, 8] (istInstant 102 1100) [registerSample 1])
    (p := fun spec =>
      (performAll ambientContext (closedTrade spec)).portfolio.states.getLast?.any fun state =>
        decide (rollPaperPortfolio state preciseGenesis [] state.asOf none =
          .error (.rollover "paper portfolio NAV does not reconcile")))
    (by decide +kernel)
  obtain ⟨state, hstate, hroll⟩ := (Option.any_eq_true _ _).mp hrun
  exact ⟨spec, state, List.mem_of_getLast? hstate, of_decide_eq_true hroll⟩

theorem not_all_rolls_pass_rechecks :
    ¬∀ actions, ∀ state ∈ (performAll ambientContext actions).portfolio.states,
      ∀ genesis marks asOf previous e, rollPaperPortfolio state genesis marks asOf previous = .error e →
        e ∉ recheckErrors := by
  intro h
  obtain ⟨spec, state, hmem, hroll⟩ := precise_capital_not_rolled
  exact h (closedTrade spec) state hmem preciseGenesis [] state.asOf none _ hroll (by decide)
end IndiaSwing
