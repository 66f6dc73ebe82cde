import IndiaSwing.PriceAdjustmentSteps

namespace IndiaSwing.CorporateActions

open ExceptGuards KeySort RangedContext

variable {ctx : RangedContext} {hex : ContentId → String} {s s' : CorporateActionSnapshotFields}
variable {history : StableListingHistory} {panel : StableListingHistoryPanel} {cutoff : Instant}
variable {signalSession : SessionDate} {events : List CorporateActionEvent} {bar : CorpusBar}

section Histories

/-- The share ratios that apply to a session, in the order of the events. -/
def ratiosFor (events : List CorporateActionEvent) (session : SessionDate) : List ℚ :=
  (appliedEvents events session).map shareRatio

/-- What an adjustment makes of the prices of a bar. -/
def adjustedPrices (ctx : RangedContext) (events : List CorporateActionEvent) (bar : CorpusBar) : AdjustedPrices :=
  adjustedBy ctx bar (productOf ctx 1 (ratiosFor events bar.session))

theorem sorted_ids (hnodup : (events.map (·.1.eventId)).Nodup) (session : SessionDate) :
    sortOn hex ((appliedEvents events session).map (·.1.eventId)) =
      sortOn hex (sortOn hex ((appliedEvents events session).map (·.1.eventId))).dedup := by
  have hsublist : ((appliedEvents events session).map (·.1.eventId)).Sublist (events.map (·.1.eventId)) :=
    List.filter_sublist.map _
  have hids := (perm_sortOn hex _).nodup_iff.mpr (hnodup.sublist hsublist)
  rw [hids.dedup]
  have hsorted := sortOn_pairwise hex ((appliedEvents events session).map (·.1.eventId))
  exact (List.Pairwise.insertionSort_eq hsorted).symm

/-- A bar of a history is adjusted exactly if the ratios that apply to it keep it in range. -/
theorem adjustBars_ok {binding : StableRawBarBinding} (hautomatic : ∀ e ∈ events, Automatic e)
    (hnodup : (events.map (·.1.eventId)).Nodup) (h : BarKeeps ctx bar (ratiosFor events bar.session)) :
    ∃ b, adjustBars ctx hex s history events (bar, binding) = .ok b ∧ b.1.prices = adjustedPrices ctx events bar ∧
      b.1.sourceBar = bar ∧ b.1.stableInstrumentId = history.stableInstrumentId ∧
      b.1.stableListingId = history.stableListingId ∧ b.1.corporateActionSnapshotId = s.snapshotId ∧
      b.1.identityBindingId = binding.bindingId ∧
      b.1.knowledgeTime = max (max bar.observedAt binding.knowledgeTime) s.cutoff := by
  have happlied : ∀ e ∈ appliedEvents events bar.session, Automatic e :=
    fun e he => hautomatic e (List.mem_of_mem_filter he)
  obtain ⟨hproduct, hprice⟩ := h
  obtain ⟨hmultiply, hpos⟩ := multiplyFactors_ok zero_lt_one happlied hproduct
  have hproductEq : productOf ctx 1 ((appliedEvents events bar.session).map shareRatio) =
      productOf ctx 1 (ratiosFor events bar.session) := rfl
  rw [hproductEq] at hmultiply hpos
  unfold adjustBars corporateActionFactorsForSession
  dsimp only
  rw [hmultiply, ok_bind, div_of_ne_zero hpos.ne', finalize_ok hprice.volumeFactor.1]
  exact adjustedCorpusBar_ok hpos hprice (sorted_ids hnodup bar.session) ((le_max_left _ _).trans (le_max_left _ _))

theorem adjustBars_keeps {binding : StableRawBarBinding} (hautomatic : ∀ e ∈ events, Automatic e)
    {b : AdjustedCorpusBar ctx hex} (h : adjustBars ctx hex s history events (bar, binding) = .ok b) :
    BarKeeps ctx bar (ratiosFor events bar.session) := by
  have happlied : ∀ e ∈ appliedEvents events bar.session, Automatic e :=
    fun e he => hautomatic e (List.mem_of_mem_filter he)
  unfold adjustBars corporateActionFactorsForSession at h
  obtain ⟨factors, hfactors, h⟩ := bind_eq_ok.mp h
  obtain ⟨product, hproduct, hfactors⟩ := bind_eq_ok.mp hfactors
  obtain ⟨volumeFactor, hvolume, hfactors⟩ := bind_eq_ok.mp hfactors
  obtain rfl := Except.ok.inj hfactors
  have hne : product ≠ 0 := by
    rintro rfl
    rw [div_zero_error one_ne_zero] at hvolume
    cases hvolume
  have hkeeps := multiplyFactors_keeps zero_lt_one happlied hproduct hne
  obtain ⟨hmultiply, hpos⟩ := multiplyFactors_ok zero_lt_one happlied hkeeps
  obtain rfl := Except.ok.inj (hproduct.symm.trans hmultiply)
  rw [div_of_ne_zero hne] at hvolume
  by_cases hover : ctx.Overflows (1 / productOf ctx 1 ((appliedEvents events bar.session).map shareRatio))
  · rw [finalize_error hover] at hvolume
    cases hvolume
  · rw [finalize_ok hover] at hvolume
    obtain rfl := Except.ok.inj hvolume
    exact ⟨hkeeps, adjustedCorpusBar_keeps hpos hover h⟩

end Histories

section Blocked

/-- The adjusted prices of a result. -/
def AdjustmentResultFields.prices (r : AdjustmentResultFields ctx hex) : Option (List AdjustedPrices) :=
  r.adjustedHistory.map fun adjusted => adjusted.1.bars.map (·.1.prices)

/-- The events that concern a history up to the signal. -/
def concerning (s : CorporateActionSnapshotFields) (history : StableListingHistory) (signalSession : SessionDate) :
    List CorporateActionEvent :=
  relevantEvents s history.stableInstrumentId ((history.observations.map (·.marketSession)).headD 0) signalSession

/-- The status of a history, and its adjusted prices if it is adjusted. -/
def outcomeOf (ctx : RangedContext) (panel : StableListingHistoryPanel) (s : CorporateActionSnapshotFields)
    (signalSession : SessionDate) (history : StableListingHistory) : AdjustmentStatus × Option (List AdjustedPrices) :=
  if history.identityConflictCount ≠ 0 then (.rawHistoryIdentityConflictBlocked, none)
  else if history.gapCount ≠ 0 then (.rawHistoryGapBlocked, none)
  else
    match globalBlocker panel s with
    | some status => (status, none)
    | none =>
      if (concerning s history signalSession).any (needsReview history.stableListingId) then
        (.corporateActionManualReviewRequired, none)
      else (.adjustedHistoryBuiltCollectionOnly,
        some (history.sourceBars.map (adjustedPrices ctx (concerning s history signalSession))))

/-- Nothing blocks the history before its own events are looked at. -/
structure Reaches (panel : StableListingHistoryPanel) (s : CorporateActionSnapshotFields)
    (history : StableListingHistory) : Prop where
  noConflict : history.identityConflictCount = 0
  noGap : history.gapCount = 0
  noBlocker : globalBlocker panel s = none

/-- The events of a history keep it in range: no share ratio that is computed before a manual event overflows, and
without a manual event the ratios adjust every bar within range. -/
def HistoryKeeps (ctx : RangedContext) (panel : StableListingHistoryPanel) (s : CorporateActionSnapshotFields)
    (signalSession : SessionDate) (history : StableListingHistory) : Prop :=
  Reaches panel s history →
    (∀ e ∈ reviewedEvents history.stableListingId (concerning s history signalSession), ¬ctx.Overflows (shareRatio e)) ∧
      ((∀ e ∈ concerning s history signalSession, needsReview history.stableListingId e = false) →
        ∀ bar ∈ history.sourceBars, BarKeeps ctx bar (ratiosFor (concerning s history signalSession) bar.session))

variable (ctx hex history) in
/-- A blocked history gets its result. -/
theorem blockedResult_ok {status : AdjustmentStatus} (h : status ≠ .adjustedHistoryBuiltCollectionOnly) :
    ∃ r, blockedResult ctx hex history status = .ok r ∧ r.1.sourceHistory = history ∧ r.1.status = status ∧
      r.1.prices = none := by
  have hchecked : (⟨history, status, [], none⟩ : AdjustmentResultFields ctx hex).check = .ok () := by
    unfold AdjustmentResultFields.check
    rw [if_neg h]
    exact raiseIf_neg (by simp)
  exact ⟨⟨_, hchecked⟩, Checked.build_of_ok hchecked, rfl, rfl, rfl⟩

theorem globalBlocker_ne {status : AdjustmentStatus} (h : globalBlocker panel s = some status) :
    status ≠ .adjustedHistoryBuiltCollectionOnly := by
  unfold globalBlocker at h
  split at h
  · obtain rfl := Option.some.inj h
    decide
  · split at h
    · obtain rfl := Option.some.inj h
      decide
    · cases h

end Blocked

section Observed

variable (hconflicts : history.identityConflictCount = 0) (hgaps : history.gapCount = 0)
include hconflicts hgaps

/-- A history without conflicts and gaps observed a bar in every session. -/
theorem all_observed : ∀ o ∈ history.observations, o.status = .rawBarObserved := by
  have hcount : history.rawBarCount = history.observations.length := by
    have hle : history.rawBarCount ≤ history.observations.length := List.countP_le_length
    unfold StableListingHistory.gapCount at hgaps
    omega
  intro o ho
  exact of_decide_eq_true (List.countP_eq_length.mp hcount o ho)

theorem sourceBars_sessions : history.sourceBars.map (·.session) = history.observations.map (·.marketSession) := by
  have hobserved := all_observed hconflicts hgaps
  unfold StableListingHistory.sourceBars
  generalize history.observations = observations at hobserved ⊢
  induction observations with
  | nil => rfl
  | cons o observations ih =>
    obtain ⟨b, hb, hsession⟩ := o.observed (hobserved o List.mem_cons_self)
    have ih := ih fun o' ho' => hobserved o' (List.mem_cons_of_mem _ ho')
    rw [List.filterMap_cons_some hb, List.map_cons, List.map_cons, ih, hsession]

end Observed

section Built

variable (hpanel : history ∈ panel.histories) (hreaches : Reaches panel s history)
include hpanel hreaches

theorem identityBindings_ok : ∃ bindings, history.sourceBars.mapM (identityBinding panel history) = .ok bindings ∧
    List.Forall₂ (fun bar binding => binding.rawBarId = bar.barId ∧ binding.knowledgeTime ≤ panel.knowledgeTime)
      history.sourceBars bindings := by
  refine mapM_exists fun bar hbar => ?_
  obtain ⟨o, ho, hbar⟩ := List.mem_filterMap.mp hbar
  have hstatus := all_observed hreaches.noConflict hreaches.noGap o ho
  obtain ⟨b, hb, hsession⟩ := o.observed hstatus
  obtain rfl := Option.some.inj (hbar.symm.trans hb)
  obtain ⟨snapshot, hsnapshot, hsame⟩ := panel.snapshots history hpanel o ho hstatus
  unfold identityBinding
  cases hfind : panel.tickSnapshots.find? (·.marketSession = bar.session) with
  | none =>
    have hnone := List.find?_eq_none.mp hfind snapshot hsnapshot
    exact absurd (decide_eq_true (hsame.trans hsession.symm)) hnone
  | some found => exact ⟨_, rfl, rfl, panel.universesKnown found (List.mem_of_find?_eq_some hfind)⟩

theorem bars_known (hknown : panel.knowledgeTime ≤ cutoff) : ∀ bar ∈ history.sourceBars, bar.observedAt ≤ cutoff := by
  intro bar hbar
  obtain ⟨o, ho, hbar⟩ := List.mem_filterMap.mp hbar
  exact (panel.barsKnown history hpanel o ho bar hbar).trans hknown

theorem sourceBars_head : ∃ first, history.sourceBars.head? = some first ∧
    first.session = (history.observations.map (·.marketSession)).headD 0 := by
  have hsessions := sourceBars_sessions hreaches.noConflict hreaches.noGap
  cases hbars : history.sourceBars with
  | nil =>
    rw [hbars, List.map_nil] at hsessions
    exact absurd (List.map_eq_nil_iff.mp hsessions.symm) history.nonempty
  | cons first bars =>
    rw [← hsessions, hbars]
    exact ⟨first, rfl, rfl⟩

theorem signal_last (hsignal : panel.sessions.getLast? = some signalSession) :
    (history.sourceBars.map (·.session)).getLast? = some signalSession := by
  rw [sourceBars_sessions hreaches.noConflict hreaches.noGap, panel.aligned history hpanel]
  exact hsignal

theorem start_le_signal (hsignal : panel.sessions.getLast? = some signalSession) :
    (history.observations.map (·.marketSession)).headD 0 ≤ signalSession := by
  have hlast := signal_last hpanel hreaches hsignal
  rw [sourceBars_sessions hreaches.noConflict hreaches.noGap] at hlast
  have hsorted := history.sessions
  cases hsessions : history.observations.map (·.marketSession) with
  | nil =>
    rw [hsessions] at hlast
    cases hlast
  | cons first sessions =>
    rw [hsessions] at hlast hsorted
    have hmem := List.mem_of_getLast? hlast
    rcases List.mem_cons.mp hmem with rfl | hmem
    · exact le_rfl
    · exact (List.rel_of_pairwise_cons hsorted hmem).le

end Built

section Adjusted

variable (hpanel : history ∈ panel.histories) (hreaches : Reaches panel s history)
variable (hreview : ∀ e ∈ concerning s history signalSession, needsReview history.stableListingId e = false)
include hreview

theorem concerning_automatic : ∀ e ∈ concerning s history signalSession, Automatic e :=
  fun e he => automatic_of_active (List.mem_of_mem_filter he) (hreview e he)

omit hreview in
theorem concerning_nodup (hs : s.check hex = .ok ()) :
    ((concerning s history signalSession).map (·.1.eventId)).Nodup :=
  (snapshot_amends hs).1.sublist ((List.filter_sublist.trans List.filter_sublist).map _)

include hpanel hreaches

/-- A history that keeps in range is adjusted. -/
theorem successfulResult_ok (hs : s.check hex = .ok ()) (hsignal : panel.sessions.getLast? = some signalSession)
    (hknown : panel.knowledgeTime ≤ cutoff) (hcutoff : s.cutoff ≤ cutoff)
    (hover : ∀ e ∈ concerning s history signalSession, ¬ctx.Overflows (shareRatio e))
    (hkeeps : ∀ bar ∈ history.sourceBars, BarKeeps ctx bar (ratiosFor (concerning s history signalSession) bar.session)) :
    ∃ r, successfulResult ctx hex panel s history cutoff signalSession = .ok r ∧ r.1.sourceHistory = history ∧
      r.1.status = .adjustedHistoryBuiltCollectionOnly ∧
      r.1.prices = some (history.sourceBars.map (adjustedPrices ctx (concerning s history signalSession))) := by
  have hsessions := sourceBars_sessions hreaches.noConflict hreaches.noGap
  have hobserved := all_observed hreaches.noConflict hreaches.noGap
  have hlength : history.sourceBars.length = history.observations.length := by
    have hlengths := congrArg List.length hsessions
    rwa [List.length_map, List.length_map] at hlengths
  obtain ⟨first, hfirst, hstart⟩ := sourceBars_head hpanel hreaches
  have hnonempty : history.sourceBars ≠ [] := by
    intro hnil
    rw [hnil] at hfirst
    cases hfirst
  obtain ⟨bindings, hbindings, hbound⟩ := identityBindings_ok hpanel hreaches
  have hbindingsLength : history.sourceBars.length = bindings.length := hbound.length_eq
  have hzip : ∀ entry ∈ history.sourceBars.zip bindings, entry.2.rawBarId = entry.1.barId ∧
      entry.2.knowledgeTime ≤ panel.knowledgeTime := fun entry hentry => (List.forall₂_iff_zip.mp hbound).2 hentry
  have hautomatic := concerning_automatic hreview
  obtain ⟨bars, hbars, hall⟩ := mapM_exists (f := adjustBars ctx hex s history (concerning s history signalSession))
    fun entry (hentry : entry ∈ history.sourceBars.zip bindings) => adjustBars_ok hautomatic (concerning_nodup hs) (hkeeps entry.1 (List.of_mem_zip hentry).1)
  have hfst : (history.sourceBars.zip bindings).map Prod.fst = history.sourceBars :=
    List.map_fst_zip hbindingsLength.le
  have hsource : bars.map (·.1.sourceBar) = history.sourceBars := by
    rw [← forall₂_map_eq hall fun entry b hb => hb.2.1.symm]
    exact hfst
  have hprices : bars.map (·.1.prices) =
      history.sourceBars.map (adjustedPrices ctx (concerning s history signalSession)) := by
    have hmap := congrArg (List.map (adjustedPrices ctx (concerning s history signalSession))) hfst
    rw [List.map_map] at hmap
    exact (forall₂_map_eq hall fun entry b hb => hb.1.symm).symm.trans hmap
  have hbarsSessions : bars.map (·.1.sourceBar.session) = history.sourceBars.map (·.session) := by
    rw [← hsource, List.map_map]
    rfl
  have hadjusted : (⟨history.stableInstrumentId, history.stableListingId, signalSession, cutoff, s.snapshotId, bars⟩ :
      AdjustedHistoryFields ctx hex).check = .ok () := by
    have hgraph : ¬(bars = [] ∨ ¬(bars.map (·.1.sourceBar.session)).Pairwise (· < ·) ∨
        (bars.map (·.1.sourceBar.session)).getLast? ≠ some signalSession) := by
      rw [hbarsSessions, not_or, not_or, not_not, not_not]
      refine ⟨fun hnil => ?_, ?_, signal_last hpanel hreaches hsignal⟩
      · rw [hnil, List.map_nil] at hsource
        exact hnonempty hsource.symm
      · rw [hsessions]
        exact history.sessions
    unfold AdjustedHistoryFields.check
    dsimp only
    rw [raiseIf_neg hgraph, ok_bind]
    refine forM_eq_ok.mpr fun b hb => raiseIf_neg ?_
    obtain ⟨entry, hentry, -, -, hinstrument, hlisting, hsnapshot, -, hknowledge⟩ := mem_of_forall₂_right hall hb
    have hbar := bars_known hpanel hreaches hknown entry.1 (List.of_mem_zip hentry).1
    have hbinding := (hzip entry hentry).2.trans hknown
    rw [hinstrument, hlisting, hsnapshot, hknowledge]
    simp [hbar, hbinding, hcutoff]
  have hadjust : adjustHistory ctx hex s history cutoff signalSession bindings = .ok ⟨_, hadjusted⟩ := by
    have hselect := selectAutomatic_ok (start_le_signal hpanel hreaches hsignal) hreview hover
    unfold adjustHistory
    rw [hfirst]
    dsimp only
    rw [hstart, hselect, ok_bind]
    have hbars : (history.sourceBars.zip bindings).mapM (adjustBars ctx hex s history
        (relevantEvents s history.stableInstrumentId ((history.observations.map (·.marketSession)).headD 0)
          signalSession)) = .ok bars := hbars
    rw [hbars, ok_bind]
    exact Checked.build_of_ok hadjusted
  have hchecked : (⟨history, .adjustedHistoryBuiltCollectionOnly, bindings, some ⟨_, hadjusted⟩⟩ :
      AdjustmentResultFields ctx hex).check = .ok () := by
    have hcount : history.rawBarCount = history.observations.length := by
      refine List.countP_eq_length.mpr fun o ho => ?_
      exact decide_eq_true (hobserved o ho)
    have hbindingsNe : bindings ≠ [] := by
      intro hnil
      rw [hnil, List.length_nil] at hbindingsLength
      exact hnonempty (List.eq_nil_of_length_eq_zero hbindingsLength)
    unfold AdjustmentResultFields.check
    rw [if_pos rfl]
    dsimp only
    rw [raiseIf_neg (by simp [hbindingsNe, hcount, ← hbindingsLength, hlength]), ok_bind]
    refine raiseIf_neg ?_
    rw [not_or, not_or, not_not, not_not]
    refine ⟨hbindingsLength, ?_, ?_⟩
    · rw [← hsource, List.length_map]
    · rintro ⟨entry, hentry, hbad⟩
      obtain ⟨-, hsourceBar, -, -, -, hbinding, -⟩ := (List.forall₂_iff_zip.mp hall).2 hentry
      have hraw := (hzip entry.1 (List.of_mem_zip hentry).1).1
      rw [hsourceBar, hbinding] at hbad
      simp [hraw] at hbad
  refine ⟨⟨_, hchecked⟩, ?_, rfl, rfl, congrArg some hprices⟩
  unfold successfulResult
  rw [raiseIf_neg (not_not.mpr hlength), ok_bind, hbindings, ok_bind, hadjust]
  exact Checked.build_of_ok hchecked

/-- Only a history that keeps in range is adjusted. -/
theorem successfulResult_keeps {r : AdjustmentResult ctx hex}
    (h : successfulResult ctx hex panel s history cutoff signalSession = .ok r) :
    ∀ bar ∈ history.sourceBars, BarKeeps ctx bar (ratiosFor (concerning s history signalSession) bar.session) := by
  obtain ⟨first, hfirst, hstart⟩ := sourceBars_head hpanel hreaches
  unfold successfulResult at h
  obtain ⟨-, h⟩ := raiseIf_bind_eq_ok.mp h
  obtain ⟨bindings, hbindings, h⟩ := bind_eq_ok.mp h
  obtain ⟨adjusted, hadjusted, -⟩ := bind_eq_ok.mp h
  have hadjusted := mapError_eq_ok.mp hadjusted
  have hlength : history.sourceBars.length = bindings.length := (mapM_eq_ok.mp hbindings).length_eq
  unfold adjustHistory at hadjusted
  rw [hfirst] at hadjusted
  obtain ⟨events, hevents, hadjusted⟩ := bind_eq_ok.mp hadjusted
  obtain ⟨bars, hbars, -⟩ := bind_eq_ok.mp hadjusted
  unfold selectAutomaticAdjustmentEvents at hevents
  obtain ⟨-, hevents⟩ := raiseIf_bind_eq_ok.mp hevents
  obtain ⟨_, -, hevents⟩ := bind_eq_ok.mp hevents
  obtain rfl := Except.ok.inj hevents
  rw [hstart] at hbars
  intro bar hbar
  have hfst : (history.sourceBars.zip bindings).map Prod.fst = history.sourceBars := List.map_fst_zip hlength.le
  rw [← hfst] at hbar
  obtain ⟨entry, hentry, rfl⟩ := List.mem_map.mp hbar
  obtain ⟨b, -, hb⟩ := mem_of_forall₂_left (mapM_eq_ok.mp hbars) hentry
  exact adjustBars_keeps (concerning_automatic hreview) hb

end Adjusted

section Rounds

theorem historyHasManualAction_eq : historyHasManualAction ctx s history signalSession =
    if ∀ e ∈ reviewedEvents history.stableListingId (concerning s history signalSession), ¬ctx.Overflows (shareRatio e)
    then .ok ((concerning s history signalSession).any (needsReview history.stableListingId))
    else .error (.decimal .overflow) := by
  unfold historyHasManualAction concerning
  cases hobservations : history.observations with
  | nil => exact absurd hobservations history.nonempty
  | cons first observations => exact anyManual_eq fun e he => List.mem_of_mem_filter he

/-- The result of a history has its outcome. -/
structure ResultOf (ctx : RangedContext) (panel : StableListingHistoryPanel) (s : CorporateActionSnapshotFields)
    (signalSession : SessionDate) (history : StableListingHistory) (r : AdjustmentResult ctx hex) : Prop where
  source : r.1.sourceHistory = history
  outcome : (r.1.status, r.1.prices) = outcomeOf ctx panel s signalSession history

variable (ctx) in
/-- A history gets the result of its outcome exactly if its events keep it in range. -/
theorem buildAdjustment_cases (hpanel : history ∈ panel.histories) (hs : s.check hex = .ok ())
    (hsignal : panel.sessions.getLast? = some signalSession) (hknown : panel.knowledgeTime ≤ cutoff)
    (hcutoff : s.cutoff ≤ cutoff) :
    (HistoryKeeps ctx panel s signalSession history ∧ ∃ r,
      buildAdjustment ctx hex panel s cutoff signalSession history = .ok r ∧ ResultOf ctx panel s signalSession history r) ∨
    (¬HistoryKeeps ctx panel s signalSession history ∧
      ∀ r, buildAdjustment ctx hex panel s cutoff signalSession history ≠ .ok r) := by
  unfold buildAdjustment
  by_cases hconflicts : history.identityConflictCount = 0
  swap
  · obtain ⟨r, hr, hsource, hstatus, hprices⟩ := blockedResult_ok ctx hex history
      (show AdjustmentStatus.rawHistoryIdentityConflictBlocked ≠ _ by decide)
    rw [if_pos hconflicts]
    refine .inl ⟨fun hreaches => absurd hreaches.noConflict hconflicts, r, hr, hsource, ?_⟩
    rw [hstatus, hprices, outcomeOf, if_pos hconflicts]
  by_cases hgaps : history.gapCount = 0
  swap
  · obtain ⟨r, hr, hsource, hstatus, hprices⟩ := blockedResult_ok ctx hex history
      (show AdjustmentStatus.rawHistoryGapBlocked ≠ _ by decide)
    rw [if_neg (not_not.mpr hconflicts), if_pos hgaps]
    refine .inl ⟨fun hreaches => absurd hreaches.noGap hgaps, r, hr, hsource, ?_⟩
    rw [hstatus, hprices, outcomeOf, if_neg (not_not.mpr hconflicts), if_pos hgaps]
  rw [if_neg (not_not.mpr hconflicts), if_neg (not_not.mpr hgaps)]
  cases hblocker : globalBlocker panel s with
  | some status =>
    obtain ⟨r, hr, hsource, hstatus, hprices⟩ := blockedResult_ok ctx hex history (globalBlocker_ne hblocker)
    refine .inl ⟨fun hreaches => ?_, r, hr, hsource, ?_⟩
    · have hnone := hreaches.noBlocker
      rw [hblocker] at hnone
      cases hnone
    · rw [hstatus, hprices, outcomeOf, if_neg (not_not.mpr hconflicts), if_neg (not_not.mpr hgaps), hblocker]
  | none =>
    have hreaches : Reaches panel s history := ⟨hconflicts, hgaps, hblocker⟩
    dsimp only
    rw [historyHasManualAction_eq]
    by_cases hover : ∀ e ∈ reviewedEvents history.stableListingId (concerning s history signalSession),
        ¬ctx.Overflows (shareRatio e)
    swap
    · rw [if_neg hover]
      exact .inr ⟨fun hkeeps => hover (hkeeps hreaches).1, fun r hr => by cases hr⟩
    rw [if_pos hover, ok_bind]
    cases hmanual : (concerning s history signalSession).any (needsReview history.stableListingId) with
    | true =>
      obtain ⟨r, hr, hsource, hstatus, hprices⟩ := blockedResult_ok ctx hex history
        (show AdjustmentStatus.corporateActionManualReviewRequired ≠ _ by decide)
      obtain ⟨e, he, hreview⟩ := List.any_eq_true.mp hmanual
      rw [if_pos rfl]
      refine .inl ⟨fun _ => ⟨hover, fun hnone => ?_⟩, r, hr, hsource, ?_⟩
      · rw [hnone e he] at hreview
        cases hreview
      · rw [hstatus, hprices, outcomeOf, if_neg (not_not.mpr hconflicts), if_neg (not_not.mpr hgaps), hblocker]
        dsimp only
        rw [hmanual, if_pos rfl]
    | false =>
      have hreview : ∀ e ∈ concerning s history signalSession, needsReview history.stableListingId e = false :=
        fun e he => Bool.eq_false_iff.mpr (List.any_eq_false.mp hmanual e he)
      have hall := hover
      rw [reviewedEvents_all hreview] at hall
      have hobserved : ¬∃ o ∈ history.observations, o.status ≠ .rawBarObserved := by
        rintro ⟨o, ho, hstatus⟩
        exact hstatus (all_observed hconflicts hgaps o ho)
      rw [if_neg (by decide), raiseIf_neg hobserved, ok_bind]
      by_cases hkeeps : ∀ bar ∈ history.sourceBars,
          BarKeeps ctx bar (ratiosFor (concerning s history signalSession) bar.session)
      · obtain ⟨r, hr, hsource, hstatus, hprices⟩ :=
          successfulResult_ok hpanel hreaches hreview hs hsignal hknown hcutoff hall hkeeps
        refine .inl ⟨fun _ => ⟨hover, fun _ => hkeeps⟩, r, hr, hsource, ?_⟩
        rw [hstatus, hprices, outcomeOf, if_neg (not_not.mpr hconflicts), if_neg (not_not.mpr hgaps), hblocker]
        dsimp only
        rw [hmanual, if_neg (by decide)]
      · exact .inr ⟨fun hall => hkeeps ((hall hreaches).2 hreview),
          fun r hr => hkeeps (successfulResult_keeps hpanel hreaches hreview hr)⟩

end Rounds

section Panels

/-- The panel is built, with one result for each history in the order of the panel. -/
def PanelBuilt (ctx : RangedContext) (panel : StableListingHistoryPanel) (s : CorporateActionSnapshot hex)
    (cutoff : Instant) : Prop :=
  ∃ facts, buildBridgeFacts ctx hex panel s cutoff = .ok facts ∧
    List.Forall₂ (fun history r => r.1.sourceHistory = history) panel.histories facts.results

/-- The signal of a panel is its last session. -/
def StableListingHistoryPanel.signal (panel : StableListingHistoryPanel) : SessionDate :=
  panel.sessions.getLast panel.sessions_ne

theorem signalSession_last : panel.sessions.getLast? = some panel.signal :=
  List.getLast?_eq_some_getLast panel.sessions_ne

variable {snapshot snapshot' : CorporateActionSnapshot hex}

theorem buildBridgeFacts_results {facts : BridgeFacts ctx hex}
    (h : buildBridgeFacts ctx hex panel snapshot cutoff = .ok facts) :
    List.Forall₂ (fun history r => buildAdjustment ctx hex panel snapshot.1 cutoff panel.signal history = .ok r)
      panel.histories facts.results := by
  unfold buildBridgeFacts at h
  obtain ⟨-, h⟩ := raiseIf_bind_eq_ok.mp h
  rw [signalSession_last] at h
  obtain ⟨results, hresults, h⟩ := bind_eq_ok.mp h
  obtain rfl := Except.ok.inj h
  exact mapM_eq_ok.mp hresults

theorem panelBuilt_iff (hknown : panel.knowledgeTime ≤ cutoff) (hcutoff : snapshot.1.cutoff ≤ cutoff) :
    PanelBuilt ctx panel snapshot cutoff ↔
      ∀ history ∈ panel.histories, HistoryKeeps ctx panel snapshot.1 panel.signal history := by
  constructor
  · rintro ⟨facts, hfacts, -⟩ history hhistory
    obtain ⟨r, -, hr⟩ := mem_of_forall₂_left (buildBridgeFacts_results hfacts) hhistory
    rcases buildAdjustment_cases ctx hhistory snapshot.2 signalSession_last hknown hcutoff with
      ⟨hkeeps, -⟩ | ⟨-, hnone⟩
    · exact hkeeps
    · exact absurd hr (hnone r)
  · intro hkeeps
    have hbuild : ∀ history ∈ panel.histories, ∃ r,
        buildAdjustment ctx hex panel snapshot.1 cutoff panel.signal history = .ok r ∧
          r.1.sourceHistory = history := by
      intro history hhistory
      rcases buildAdjustment_cases ctx hhistory snapshot.2 signalSession_last hknown hcutoff with
        ⟨-, r, hr, hof⟩ | ⟨hbad, -⟩
      · exact ⟨r, hr, hof.source⟩
      · exact absurd (hkeeps history hhistory) hbad
    obtain ⟨results, hresults, hall⟩ := mapM_exists hbuild
    unfold PanelBuilt buildBridgeFacts
    rw [raiseIf_neg (not_or.mpr ⟨not_lt.mpr hknown, not_lt.mpr hcutoff⟩), ok_bind, signalSession_last]
    dsimp only
    rw [hresults, ok_bind]
    exact ⟨_, rfl, hall⟩

/-- The outcome of every history of a built panel. -/
theorem built_outcomes (hknown : panel.knowledgeTime ≤ cutoff) (hcutoff : snapshot.1.cutoff ≤ cutoff)
    {facts : BridgeFacts ctx hex} (h : buildBridgeFacts ctx hex panel snapshot cutoff = .ok facts) :
    facts.results.map (fun r => (r.1.status, r.1.prices)) =
      panel.histories.map (outcomeOf ctx panel snapshot.1 panel.signal) := by
  have hall := (List.forall₂_and_left _ _).mpr ⟨fun history hhistory => hhistory, buildBridgeFacts_results h⟩
  refine (forall₂_map_eq hall fun history r hr => ?_).symm
  obtain ⟨hhistory, hr⟩ := hr
  rcases buildAdjustment_cases ctx hhistory snapshot.2 signalSession_last hknown hcutoff with
    ⟨-, r', hr', hof⟩ | ⟨-, hnone⟩
  · obtain rfl := Except.ok.inj (hr.symm.trans hr')
    exact hof.outcome.symm
  · exact absurd hr (hnone r)

end Panels

section Isolation

/-- Two snapshots of one coverage that differ only in the events of one instrument. -/
structure SameExcept (instrument : ContentId) (s s' : CorporateActionSnapshotFields) : Prop where
  coverageStart : s.coverageStart = s'.coverageStart
  coverageEnd : s.coverageEnd = s'.coverageEnd
  readiness : s.readiness = s'.readiness
  complete : s.complete = s'.complete
  actionable : s.actionable = s'.actionable
  events : s.events.filter (·.1.stableInstrumentId ≠ instrument) = s'.events.filter (·.1.stableInstrumentId ≠ instrument)

variable {instrument : ContentId} {snapshot snapshot' : CorporateActionSnapshot hex}

theorem sameExcept_blocker (h : SameExcept instrument s s') : globalBlocker panel s = globalBlocker panel s' := by
  unfold globalBlocker
  rw [h.complete, h.actionable, h.readiness, h.coverageStart, h.coverageEnd]

theorem sameExcept_instrument (h : SameExcept instrument s s') {other : ContentId} (hother : other ≠ instrument) :
    s.events.filter (·.1.stableInstrumentId = other) = s'.events.filter (·.1.stableInstrumentId = other) := by
  have hrefine : ∀ events : List CorporateActionEvent, events.filter (·.1.stableInstrumentId = other) =
      (events.filter (·.1.stableInstrumentId ≠ instrument)).filter (·.1.stableInstrumentId = other) := by
    intro events
    rw [List.filter_filter]
    refine List.filter_congr fun e _ => ?_
    by_cases heq : e.1.stableInstrumentId = other
    · simp [heq, hother]
    · simp [heq]
  rw [hrefine s.events, h.events, ← hrefine]

/-- The events of one instrument do not concern the histories of another one. -/
theorem concerning_eq (h : SameExcept instrument snapshot.1 snapshot'.1)
    (hother : history.stableInstrumentId ≠ instrument) :
    concerning snapshot.1 history signalSession = concerning snapshot'.1 history signalSession := by
  have hactive : snapshot.1.activeEvents.filter (·.1.stableInstrumentId = history.stableInstrumentId) =
      snapshot'.1.activeEvents.filter (·.1.stableInstrumentId = history.stableInstrumentId) := by
    rw [activeEvents_instrument snapshot.2, activeEvents_instrument snapshot'.2, sameExcept_instrument h hother]
  unfold concerning relevantEvents
  simp only [Bool.and_comm (decide (_ = history.stableInstrumentId))]
  rw [← List.filter_filter, ← List.filter_filter, hactive]

theorem outcomeOf_eq (h : SameExcept instrument snapshot.1 snapshot'.1)
    (hother : history.stableInstrumentId ≠ instrument) :
    outcomeOf ctx panel snapshot.1 signalSession history = outcomeOf ctx panel snapshot'.1 signalSession history := by
  unfold outcomeOf
  rw [sameExcept_blocker h, concerning_eq h hother]

/-- Both panels are built, and the histories of other instruments come out alike. -/
def Isolated (ctx : RangedContext) (panel : StableListingHistoryPanel) (snapshot snapshot' : CorporateActionSnapshot hex)
    (instrument : ContentId) (cutoff : Instant) : Prop :=
  PanelBuilt ctx panel snapshot cutoff ∧ PanelBuilt ctx panel snapshot' cutoff ∧
    ∀ facts facts', buildBridgeFacts ctx hex panel snapshot cutoff = .ok facts →
      buildBridgeFacts ctx hex panel snapshot' cutoff = .ok facts' →
        ∀ (i : ℕ) (history : StableListingHistory), panel.histories[i]? = some history →
          history.stableInstrumentId ≠ instrument →
            facts.results[i]?.map (fun r => (r.1.status, r.1.prices)) =
              facts'.results[i]?.map fun r => (r.1.status, r.1.prices)

/-- The events of one instrument leave the panel to the others exactly if they keep every history in range. -/
theorem isolated_iff (hknown : panel.knowledgeTime ≤ cutoff) (hcutoff : snapshot.1.cutoff ≤ cutoff)
    (hcutoff' : snapshot'.1.cutoff ≤ cutoff) (hsame : SameExcept instrument snapshot.1 snapshot'.1) :
    Isolated ctx panel snapshot snapshot' instrument cutoff ↔ ∀ history ∈ panel.histories,
      HistoryKeeps ctx panel snapshot.1 panel.signal history ∧
        HistoryKeeps ctx panel snapshot'.1 panel.signal history := by
  rw [Isolated, panelBuilt_iff hknown hcutoff, panelBuilt_iff hknown hcutoff']
  constructor
  · rintro ⟨h, h', -⟩ history hhistory
    exact ⟨h history hhistory, h' history hhistory⟩
  · intro h
    refine ⟨fun history hhistory => (h history hhistory).1, fun history hhistory => (h history hhistory).2, ?_⟩
    intro facts facts' hfacts hfacts' i history hi hother
    rw [← List.getElem?_map, ← List.getElem?_map, built_outcomes hknown hcutoff hfacts,
      built_outcomes hknown hcutoff' hfacts', List.getElem?_map, List.getElem?_map, hi]
    exact congrArg some (outcomeOf_eq hsame hother)

end Isolation

section Sample

instance decidableProductKeeps (ctx : RangedContext) : ∀ factor ratios, Decidable (ProductKeeps ctx factor ratios)
  | _, [] => isTrue trivial
  | factor, ratio :: ratios =>
    haveI := decidableProductKeeps ctx (ctx.round (factor * ctx.round ratio)) ratios
    inferInstanceAs (Decidable (_ ∧ _ ∧ _))

instance (ctx : RangedContext) (bar : CorpusBar) (factor : ℚ) : Decidable (PriceKeeps ctx bar factor) :=
  decidable_of_iff (ctx.InRange (1 / factor) ∧ ctx.InRange (bar.low * factor) ∧ ¬ctx.Overflows (bar.high * factor) ∧
      ¬ctx.Overflows (bar.volume * ctx.round (1 / factor)))
    ⟨fun ⟨h, hlow, hhigh, hvolume⟩ => ⟨h, hlow, hhigh, hvolume⟩, fun h => ⟨h.volumeFactor, h.low, h.high, h.volume⟩⟩

instance (ctx : RangedContext) (bar : CorpusBar) (ratios : List ℚ) : Decidable (BarKeeps ctx bar ratios) :=
  inferInstanceAs (Decidable (_ ∧ _))

/-- The default context. -/
def defaultContext : RangedContext := ⟨28, -999999, 999999, by decide⟩

def sampleBar (session : SessionDate) : CorpusBar where
  barId := .int session
  session := session
  open_ := 100
  high := 110
  low := 90
  close := 105
  volume := 1000
  observedAt := session
  open_pos := by decide +kernel
  low_pos := by decide +kernel
  close_pos := by decide +kernel
  high_bound := by decide +kernel
  low_bound := by decide +kernel

def sampleHistory (name : String) : StableListingHistory where
  stableInstrumentId := .text name
  stableListingId := .text name
  observations := [1, 2].map fun session => ⟨session, .rawBarObserved, some (sampleBar session), fun _ => ⟨_, rfl, rfl⟩⟩
  nonempty := by simp
  sessions := by decide

/-- Two listings with a bar in each of two sessions. -/
def samplePanel : StableListingHistoryPanel where
  knowledgeTime := 3
  sessions := [1, 2]
  tickSnapshots := [⟨1, .text "universe", 1⟩, ⟨2, .text "universe", 2⟩]
  histories := [sampleHistory "first", sampleHistory "second"]
  sessions_ne := by decide
  aligned := by simp [sampleHistory]
  snapshots := by simp [sampleHistory]
  universesKnown := by simp
  barsKnown := by simp [sampleHistory, sampleBar]

/-- A split of the first instrument before the second session. -/
def splitFields (post : ℚ) : CorporateActionEventFields :=
  ⟨.text "first", none, .split, .confirmed, 2, 0, 0, .text "artifact", .text "row", some 1, some post, none, none, none⟩

theorem splitFields_check {post : ℚ} (h : 1 < post) : (splitFields post).check = .ok () := by
  have hpos : 0 < post := zero_lt_one.trans h
  have hne : (1 : ℚ) ≠ post := h.ne
  simp [CorporateActionEventFields.check, CorporateActionEventFields.checkTerms, splitFields, checkPositive,
    CorporateActionEventFields.changesShares, hpos, hne]

def splitEvent (post : ℚ) (h : 1 < post) : CorporateActionEvent := ⟨splitFields post, splitFields_check h⟩

def sampleFields (events : List CorporateActionEvent) : CorporateActionSnapshotFields :=
  ⟨4, 1, 2, [.text "artifact"], events, .pointInTimeVerified, true, true, []⟩

theorem sampleFields_check {events : List CorporateActionEvent}
    (h : events = [] ∨ ∃ post hpost, events = [splitEvent post hpost]) :
    (sampleFields events).check (fun _ => "") = .ok () := by
  rcases h with rfl | ⟨post, hpost, rfl⟩
  · decide
  · simp [CorporateActionSnapshotFields.check, sampleFields, sortOn, CorporateActionSnapshotFields.checkEvents,
      splitEvent, splitFields]

/-- A snapshot without events. -/
def quietSnapshot : CorporateActionSnapshot fun _ => "" := ⟨sampleFields [], sampleFields_check (.inl rfl)⟩

/-- A snapshot with one split of the first instrument. -/
def splitSnapshot (post : ℚ) (h : 1 < post) : CorporateActionSnapshot fun _ => "" :=
  ⟨sampleFields [splitEvent post h], sampleFields_check (.inr ⟨post, h, rfl⟩)⟩

theorem sampleSnapshots_same {post : ℚ} (h : 1 < post) :
    SameExcept (.text "first") quietSnapshot.1 (splitSnapshot post h).1 :=
  ⟨rfl, rfl, rfl, rfl, rfl, rfl⟩

/-- An ordinary split of one instrument leaves the other one alone. -/
theorem isolated_iff_split :
    Isolated defaultContext samplePanel quietSnapshot (splitSnapshot 2 one_lt_two) (.text "first") 5 := by
  refine (isolated_iff (by decide) (by decide) (by decide) (sampleSnapshots_same one_lt_two)).mpr fun history hhistory => ?_
  simp only [samplePanel, List.mem_cons, List.not_mem_nil, or_false] at hhistory
  rcases hhistory with rfl | rfl
  · exact ⟨fun _ => ⟨by decide +kernel, fun _ => by decide +kernel⟩, fun _ => ⟨by decide +kernel, fun _ => by decide +kernel⟩⟩
  · exact ⟨fun _ => ⟨by decide +kernel, fun _ => by decide +kernel⟩, fun _ => ⟨by decide +kernel, fun _ => by decide +kernel⟩⟩

theorem one_lt_hugeSplit : (1 : ℚ) < 10 ^ 1200000 := one_lt_pow₀ (by norm_num) (by norm_num)

/-- The ratio of a split into that many shares vanishes in the default context. -/
theorem hugeSplit_vanishes : defaultContext.round (shareRatio (splitEvent _ one_lt_hugeSplit)) = 0 := by
  have hratio : shareRatio (splitEvent _ one_lt_hugeSplit) = 10 ^ (-1200000 : ℤ) := by
    rw [zpow_neg, ← one_div]
    rfl
  refine round_eq_zero ?_ ?_
  · rw [hratio]
    positivity
  · have hpow : (10 : ℚ) ^ (-1200000 : ℤ) < 10 ^ (-1000027 : ℤ) := zpow_lt_zpow_right₀ (by norm_num) (by norm_num)
    have hstep : (10 : ℚ) ^ (-1000026 : ℤ) = 10 ^ (-1000027 : ℤ) * 10 := by
      rw [← zpow_add_one₀ (by norm_num)]
      rfl
    have hplace : defaultContext.minExponent + 1 - defaultContext.digits = -1000026 := by decide
    have hpos : (0 : ℚ) < 10 ^ (-1000027 : ℤ) := by positivity
    rw [hratio, hplace, hstep]
    linarith

/-- A share ratio of one instrument that vanishes fails the panel of both. -/
theorem hugeSplit_fails : ¬∀ (panel : StableListingHistoryPanel) (snapshot snapshot' : CorporateActionSnapshot fun _ => "")
    (instrument : ContentId) (cutoff : Instant), panel.knowledgeTime ≤ cutoff → snapshot.1.cutoff ≤ cutoff →
    snapshot'.1.cutoff ≤ cutoff → SameExcept instrument snapshot.1 snapshot'.1 →
    Isolated defaultContext panel snapshot snapshot' instrument cutoff := by
  intro h
  have hisolated := h samplePanel quietSnapshot (splitSnapshot _ one_lt_hugeSplit) (.text "first") 5 (by decide) (by decide)
    (by decide) (sampleSnapshots_same one_lt_hugeSplit)
  have hkeeps := (panelBuilt_iff (by decide) (by decide)).mp hisolated.2.1 (sampleHistory "first") List.mem_cons_self
  have hreaches : Reaches samplePanel (splitSnapshot _ one_lt_hugeSplit).1 (sampleHistory "first") :=
    ⟨by decide, by decide, rfl⟩
  have hconcerning : concerning (splitSnapshot _ one_lt_hugeSplit).1 (sampleHistory "first") samplePanel.signal =
      [splitEvent _ one_lt_hugeSplit] := rfl
  have hbar := (hkeeps hreaches).2 (fun e he => ?_) (sampleBar 1) List.mem_cons_self
  · rw [hconcerning] at hbar
    exact hbar.1.1.2 hugeSplit_vanishes
  · rw [hconcerning] at he
    obtain rfl := List.mem_singleton.mp he
    rfl

end Sample

end IndiaSwing.CorporateActions
