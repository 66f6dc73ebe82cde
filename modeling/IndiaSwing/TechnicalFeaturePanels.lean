import IndiaSwing.Lib.KeySort
import IndiaSwing.TechnicalVectorBounds

namespace IndiaSwing.Features

open DecimalContext ExceptGuards KeySort Windows

variable {history : FeatureInputHistory} {config : TechnicalFeatureConfig} {cutoff : Instant}
variable {bars : List FeatureInputBar} {m : Measured} {source : FeatureInputResult} {panel : FeatureInputPanel}

section Vectors

/-- A denominator of the vector is zero. -/
def Degenerate (config : TechnicalFeatureConfig) (bars : List FeatureInputBar) : Prop :=
  Flat config.1.atrSessions bars ∨ Rangeless config.1.breakoutSessions bars ∨
    Untraded config.1.liquiditySessions bars ∨ Flat config.1.contractionLongSessions bars

instance : Decidable (Degenerate config bars) := inferInstanceAs (Decidable (_ ∨ _ ∨ _ ∨ _))

/-- What a vector takes over from its history. -/
structure VectorOf (history : FeatureInputHistory) (cutoff : Instant) (v : TechnicalVectorFields) : Prop where
  source : v.sourceHistoryId = history.historyId
  instrument : v.stableInstrumentId = history.stableInstrumentId
  listing : v.stableListingId = history.stableListingId
  session : v.signalSession = history.signalSession
  bars : v.inputBarIds = history.bars.map (·.inputBarId)
  knowledge : v.knowledgeTime = history.knowledgeTime
  cutoffOf : v.cutoff = cutoff

theorem inputBarIds_nodup : (history.bars.map (·.inputBarId)).Nodup := by
  refine List.pairwise_map.mpr ((List.pairwise_map.mp history.sessions).imp fun hlt heq => ?_)
  have hfields := (ContentId.ofFields_inj.mp heq).2
  simp only [List.cons.injEq, ContentId.int.injEq] at hfields
  exact hlt.ne hfields.2.2.2.2.1

theorem drawdownFrom_ok {peak worst : ℚ} {values : List ℚ} (hworst : worst ≤ 0) (h : ∀ v ∈ values, 0 < v) :
    ∃ drawdown, drawdownFrom peak worst values = .ok drawdown ∧ drawdown ≤ 0 := by
  induction values generalizing peak worst with
  | nil => exact ⟨worst, rfl, hworst⟩
  | cons close values ih =>
    have hpeak : 0 < max peak close := (h close List.mem_cons_self).trans_le (le_max_right _ _)
    obtain ⟨change, hchange⟩ := relativeChange_ok (a := close) hpeak.ne'
    obtain ⟨drawdown, hdrawdown, hle⟩ := ih ((min_le_left worst change).trans hworst)
      fun v hv => h v (List.mem_cons_of_mem _ hv)
    refine ⟨drawdown, ?_, hle⟩
    unfold drawdownFrom
    rw [hchange, ok_bind, hdrawdown]

theorem maximumDrawdown_ok {values : List ℚ} (hne : values ≠ []) (h : ∀ v ∈ values, 0 < v) :
    ∃ drawdown, maximumDrawdown values = .ok drawdown ∧ drawdown ≤ 0 := by
  cases values with
  | nil => exact absurd rfl hne
  | cons first values => exact drawdownFrom_ok le_rfl h

theorem barFromEnd_ok {n : ℕ} (hpos : 0 < n) (hlength : n ≤ bars.length) :
    ∃ b ∈ bars, barFromEnd n bars = .ok b := by
  obtain ⟨b, hb, hfound⟩ := fromEnd_isSome hpos hlength
  unfold barFromEnd
  rw [hfound]
  exact ⟨b, hb, rfl⟩

theorem returnOver_ok (current : FeatureInputBar) {sessions : ℤ} (hpos : 0 < sessions)
    (hlength : sessions + 1 ≤ history.bars.length) : ∃ change, returnOver history current sessions = .ok change := by
  obtain ⟨earlier, -, hearlier⟩ := barFromEnd_ok (n := (sessions + 1).toNat) (by omega)
    (show _ ≤ history.bars.length by omega)
  obtain ⟨change, hchange⟩ := relativeChange_ok (a := current.adjustedClose) earlier.close_pos.ne'
  unfold returnOver
  rw [hearlier, ok_bind, hchange]
  exact ⟨change, rfl⟩

/-- Past the guard the vector's arguments are computed, and its constructor takes them exactly if the last bars
of the short contraction window move. -/
theorem vectorFields_ok (hlength : config.1.minimumHistorySessions ≤ history.bars.length)
    (hmeasures : Measures history config m) (hguard : ¬Degenerate config history.bars) (hcutoff : history.cutoff ≤ cutoff) :
    ∃ v, vectorFields history config cutoff m = .ok v ∧ VectorOf history cutoff v ∧
      v.check = if Flat config.1.contractionShortSessions history.bars then .error .graph else .ok () := by
  obtain ⟨hpos, -, hrequired⟩ := configBounds config
  have hneeds : ∀ n ∈ config.1.requiredCounts, n ≤ history.bars.length := fun n hn => (hrequired n hn).trans hlength
  simp only [TechnicalFeatureConfigFields.requiredCounts, List.forall_mem_cons] at hneeds
  simp only [TechnicalFeatureConfigFields.counts, List.forall_mem_cons] at hpos
  obtain ⟨hshort, hmedium, hlong, -, -, -, -, hliquidity, -, hdrawdownNeeds, -, -, -⟩ := hneeds
  obtain ⟨-, hshortPos, hmediumPos, hlongPos, -, -, -, -, hliquidityPos, -, hdrawdownPos, -⟩ := hpos
  obtain ⟨hatrFlat, hguard⟩ := not_or.mp hguard
  obtain ⟨hrangeless, hguard⟩ := not_or.mp hguard
  obtain ⟨huntraded, hlongFlat⟩ := not_or.mp hguard
  have hatr := hmeasures.atr.mpr hatrFlat
  have hrange := hmeasures.priorRange.mpr hrangeless
  have hvolume := hmeasures.medianVolume.mpr huntraded
  have hvalue := hmeasures.medianTradedValue.mpr huntraded
  have hlongRange := hmeasures.longTrueRange.mpr hlongFlat
  obtain ⟨hlowPos, hlowHigh⟩ := hmeasures.priorLow
  have hhighPos := hlowPos.trans_le hlowHigh
  have hclose := m.current.close_pos
  have htick := m.current.tick_pos
  have hcurrentValue : 0 ≤ featureContext.mul m.current.adjustedClose m.current.adjustedVolume :=
    round_nonneg (mul_nonneg hclose.le m.current.volume_nonneg)
  obtain ⟨returnShort, hreturnShort⟩ := returnOver_ok m.current hshortPos hshort
  obtain ⟨returnMedium, hreturnMedium⟩ := returnOver_ok m.current hmediumPos hmedium
  obtain ⟨returnLong, hreturnLong⟩ := returnOver_ok m.current hlongPos hlong
  obtain ⟨distanceShort, hdistanceShort⟩ := relativeChange_ok (a := m.current.adjustedClose) hmeasures.shortAverage.ne'
  obtain ⟨distanceLong, hdistanceLong⟩ := relativeChange_ok (a := m.current.adjustedClose) hmeasures.longAverage.ne'
  obtain ⟨breakout, hbreakout⟩ := relativeChange_ok (a := m.current.adjustedClose) hhighPos.ne'
  have hcloses : ∀ v ∈ lastOf config.1.drawdownSessions.toNat (closes history), 0 < v := by
    intro v hv
    obtain ⟨b, -, rfl⟩ := List.mem_map.mp (mem_of_mem_lastOf hv)
    exact b.close_pos
  have hwindow : (lastOf config.1.drawdownSessions.toNat (closes history)).length =
      config.1.drawdownSessions.toNat := length_lastOf (by rw [closes, List.length_map]; omega)
  obtain ⟨drawdown, hdrawdown, hdrawdownLe⟩ := maximumDrawdown_ok (List.ne_nil_of_length_pos (by omega)) hcloses
  obtain ⟨before, -, hbefore⟩ := barFromEnd_ok (n := 2) (by omega) (show 2 ≤ history.bars.length by omega)
  obtain ⟨gap, hgap⟩ := relativeChange_ok (a := m.current.adjustedOpen) before.close_pos.ne'
  have hprior : (beforeLast config.1.liquiditySessions.toNat (volumes history)).length =
      config.1.liquiditySessions.toNat := length_beforeLast (by rw [volumes, List.length_map]; omega)
  have hpriorPos : (0 : ℚ) < (beforeLast config.1.liquiditySessions.toNat (volumes history)).length :=
    Nat.cast_pos.mpr (by omega)
  have hknowledge : (latestKnowledge history.bars).elim (.error .valueError) .ok =
      (.ok history.knowledgeTime : Except FeatureError Instant) := by rw [history.latest]; rfl
  have hticks : countSteps (fun a b => decide (a ≠ b))
      ((lastOf config.1.tickHistorySessions.toNat history.bars).map (·.tickSize)) ≤ history.bars.length - 1 := by
    have hcount := List.countP_le_length (p := fun pair : ℚ × ℚ => decide (pair.1 ≠ pair.2))
      (l := steps ((lastOf config.1.tickHistorySessions.toNat history.bars).map (·.tickSize)))
    rw [length_steps, List.length_map] at hcount
    exact hcount.trans (Nat.sub_le_sub_right length_lastOf_le 1)
  unfold vectorFields
  dsimp only
  rw [divide_ok hpriorPos.ne', ok_bind, hknowledge, ok_bind, hreturnShort, ok_bind, hreturnMedium, ok_bind,
    hreturnLong, ok_bind, hdistanceShort, ok_bind, hdistanceLong, ok_bind, divide_ok hclose.ne', ok_bind, hbreakout,
    ok_bind, divide_ok hrange.ne', ok_bind, hdrawdown, ok_bind, hbefore, ok_bind, hgap, ok_bind,
    divide_ok hvolume.ne', ok_bind, divide_ok hvalue.ne', ok_bind, divide_ok hlongRange.ne', ok_bind,
    divide_ok hclose.ne', ok_bind, divide_ok htick.ne', ok_bind]
  refine ⟨_, rfl, ⟨rfl, rfl, rfl, rfl, rfl, rfl, rfl⟩, ?_⟩
  have hids : ¬(history.bars.map (·.inputBarId) = [] ∨ ¬(history.bars.map (·.inputBarId)).Nodup) := by
    rintro (hnil | hnodup)
    · have hempty := congrArg List.length hnil
      rw [List.length_map, List.length_nil] at hempty
      omega
    · exact hnodup inputBarIds_nodup
  have hknown : ¬cutoff < history.knowledgeTime := not_lt.mpr (history.known.trans hcutoff)
  have hzeros : ((beforeLast config.1.liquiditySessions.toNat (volumes history)).countP (· = 0) : ℚ) ≤
      (beforeLast config.1.liquiditySessions.toNat (volumes history)).length := Nat.cast_le.mpr List.countP_le_length
  unfold TechnicalVectorFields.check
  dsimp only
  rw [raiseIf_neg hids, ok_bind, raiseIf_neg hknown, ok_bind]
  by_cases hflat : Flat config.1.contractionShortSessions history.bars
  · have hratio : featureContext.div m.shortTrueRange m.longTrueRange ≤ 0 := by
      rw [← not_lt, quotient_pos_iff hmeasures.shortTrueRange_nonneg hlongRange, hmeasures.shortTrueRange]
      exact not_not.mpr hflat
    rw [if_pos hflat]
    refine raiseIf_pos ?_
    simp only [hratio, true_or, or_true]
  · rw [if_neg hflat]
    refine raiseIf_neg ?_
    have hshortRange := hmeasures.shortTrueRange.mpr hflat
    simp only [not_or, not_le, not_lt, not_not, List.length_map]
    exact ⟨hmeasures.shortAverage, hmeasures.longAverage, hmeasures.positiveFraction, hatr,
      (quotient_pos_iff hatr.le hclose).mpr hatr, hmeasures.annualizedVolatility, hhighPos, hlowPos, hlowHigh,
      hdrawdownLe, hvolume, quotient_nonneg m.current.volume_nonneg hvolume, hvalue,
      quotient_nonneg hcurrentValue hvalue,
      ⟨quotient_nonneg (Nat.cast_nonneg _) hpriorPos, quotient_le_one (Nat.cast_nonneg _) hpriorPos hzeros⟩,
      (quotient_pos_iff hshortRange.le hlongRange).mpr hshortRange, htick, (quotient_pos_iff htick.le hclose).mpr htick,
      (quotient_pos_iff hatr.le htick).mpr hatr, hticks⟩

theorem checkDenominators_eq (hlength : config.1.minimumHistorySessions ≤ history.bars.length)
    (hmeasures : Measures history config m) : m.checkDenominators history config =
      if Degenerate config history.bars then .error .degenerateInput else .ok () := by
  obtain ⟨-, htrend, hrequired⟩ := configBounds config
  have hshort := (hrequired config.1.shortTrendSessions (by simp [TechnicalFeatureConfigFields.requiredCounts])).trans
    hlength
  have hcloses : ¬(lastOf config.1.shortTrendSessions.toNat (closes history)).length < 2 := by
    rw [length_lastOf (by rw [closes, List.length_map]; omega)]
    omega
  have hclose := not_le.mpr m.current.close_pos
  have htick := not_le.mpr m.current.tick_pos
  have hatr : m.atr ≤ 0 ↔ Flat config.1.atrSessions history.bars := not_lt.symm.trans (not_iff_comm.mp hmeasures.atr.symm)
  have hrange : m.priorRange ≤ 0 ↔ Rangeless config.1.breakoutSessions history.bars :=
    not_lt.symm.trans (not_iff_comm.mp hmeasures.priorRange.symm)
  have hvolume : m.medianVolume ≤ 0 ↔ Untraded config.1.liquiditySessions history.bars :=
    not_lt.symm.trans (not_iff_comm.mp hmeasures.medianVolume.symm)
  have hvalue : m.medianTradedValue ≤ 0 ↔ Untraded config.1.liquiditySessions history.bars :=
    not_lt.symm.trans (not_iff_comm.mp hmeasures.medianTradedValue.symm)
  have hlong : m.longTrueRange ≤ 0 ↔ Flat config.1.contractionLongSessions history.bars :=
    not_lt.symm.trans (not_iff_comm.mp hmeasures.longTrueRange.symm)
  unfold Measured.checkDenominators
  by_cases hdegenerate : Degenerate config history.bars
  · rw [if_pos hdegenerate]
    refine raiseIf_pos ?_
    rcases hdegenerate with h | h | h | h
    · exact .inr (.inl (hatr.mpr h))
    · exact .inr (.inr (.inl (hrange.mpr h)))
    · exact .inr (.inr (.inr (.inl (hvolume.mpr h))))
    · exact .inr (.inr (.inr (.inr (.inr (.inl (hlong.mpr h))))))
  · rw [if_neg hdegenerate]
    refine raiseIf_neg ?_
    rintro (h | h | h | h | h | h | h | h)
    · exact hcloses h
    · exact hdegenerate (.inl (hatr.mp h))
    · exact hdegenerate (.inr (.inl (hrange.mp h)))
    · exact hdegenerate (.inr (.inr (.inl (hvolume.mp h))))
    · exact hdegenerate (.inr (.inr (.inl (hvalue.mp h))))
    · exact hdegenerate (.inr (.inr (.inr (hlong.mp h))))
    · exact hclose h
    · exact htick h

/-- A history of enough sessions gets its vector, or is degenerate, or its last bars stay at one price. -/
theorem computeVector_cases (hlength : config.1.minimumHistorySessions ≤ history.bars.length)
    (hcutoff : history.cutoff ≤ cutoff) :
    (Degenerate config history.bars ∧ computeVector history config cutoff = .error .degenerateInput) ∨
      (¬Degenerate config history.bars ∧ Flat config.1.contractionShortSessions history.bars ∧
        computeVector history config cutoff = .error .graph) ∨
      (¬Degenerate config history.bars ∧ ¬Flat config.1.contractionShortSessions history.bars ∧
        ∃ v, computeVector history config cutoff = .ok v ∧ VectorOf history cutoff v.1) := by
  obtain ⟨m, hm, hmeasures⟩ := measure_ok hlength
  unfold computeVector
  rw [hm, ok_bind, checkDenominators_eq hlength hmeasures]
  by_cases hdegenerate : Degenerate config history.bars
  · rw [if_pos hdegenerate]
    exact .inl ⟨hdegenerate, rfl⟩
  obtain ⟨v, hv, hof, hcheck⟩ := vectorFields_ok hlength hmeasures hdegenerate hcutoff
  rw [if_neg hdegenerate, ok_bind, hv, ok_bind]
  by_cases hflat : Flat config.1.contractionShortSessions history.bars
  · rw [if_pos hflat] at hcheck
    refine .inr (.inl ⟨hdegenerate, hflat, ?_⟩)
    exact Checked.build_of_error hcheck
  · rw [if_neg hflat] at hcheck
    exact .inr (.inr ⟨hdegenerate, hflat, ⟨v, hcheck⟩, Checked.build_of_ok hcheck, hof⟩)

end Vectors

section Results

/-- What the result of a source result says. -/
structure ResultFor (config : TechnicalFeatureConfig) (cutoff : Instant) (source : FeatureInputResult)
    (r : TechnicalResult) : Prop where
  source_eq : r.1.sourceResult = source
  blocked : source.inputHistory = none → r.1.status = .sourceInputBlocked
  insufficient : ∀ history ∈ source.inputHistory, history.bars.length < config.1.minimumHistorySessions →
    r.1.status = .insufficientHistoryBlocked
  assembled : ∀ history ∈ source.inputHistory, config.1.minimumHistorySessions ≤ history.bars.length →
    r.1.status = .degenerateInputBlocked ∨ (r.1.status = .featureVectorComputedCollectionOnly ∧
      ∃ v, r.1.featureVector = some v ∧ VectorOf history cutoff v.1)

/-- The last bars of a history that is long enough and not degenerate all stay at one price. -/
def Contracted (config : TechnicalFeatureConfig) (source : FeatureInputResult) : Prop :=
  ∃ history ∈ source.inputHistory, config.1.minimumHistorySessions ≤ history.bars.length ∧
    ¬Degenerate config history.bars ∧ Flat config.1.contractionShortSessions history.bars

theorem minimum_pos (config : TechnicalFeatureConfig) : 0 < config.1.minimumHistorySessions :=
  (configBounds config).pos _ List.mem_cons_self

variable (source) in
theorem observed_nonneg : 0 ≤ source.observed := by
  unfold FeatureInputResult.observed
  cases source.inputHistory with
  | none => exact le_rfl
  | some history => exact Int.natCast_nonneg _

/-- A result whose vector and counts fit its status is made. -/
theorem makeResult_ok {status : TechnicalFeatureStatus} {vector : Option TechnicalVector}
    (h : (⟨source, status, config.1.minimumHistorySessions, source.observed, vector⟩ :
      TechnicalResultFields).checkStatus = .ok ()) :
    ∃ r, makeResult source status config.1.minimumHistorySessions vector = .ok r ∧
      r.1 = ⟨source, status, config.1.minimumHistorySessions, source.observed, vector⟩ := by
  have hcounts : ¬(config.1.minimumHistorySessions ≤ 0 ∨ source.observed < 0) :=
    not_or.mpr ⟨not_le.mpr (minimum_pos config), not_lt.mpr (observed_nonneg source)⟩
  have hcheck : (⟨source, status, config.1.minimumHistorySessions, source.observed, vector⟩ :
      TechnicalResultFields).check = .ok () := by
    unfold TechnicalResultFields.check
    dsimp only
    rw [raiseIf_neg hcounts, ok_bind, raiseIf_neg (not_not.mpr rfl), ok_bind]
    exact h
  exact ⟨⟨_, hcheck⟩, Checked.build_of_ok hcheck, rfl⟩

theorem assembled_status {history : FeatureInputHistory} (h : source.inputHistory = some history) :
    source.status = .inputGraphAssembledCollectionOnly := source.assembled.mpr (by rw [h]; rfl)

theorem blocked_status (h : source.inputHistory = none) : source.status ≠ .inputGraphAssembledCollectionOnly := by
  intro hstatus
  have hsome := source.assembled.mp hstatus
  rw [h] at hsome
  cases hsome

theorem sourceAssembled_of {history : FeatureInputHistory} (h : source.inputHistory = some history) :
    source.sourceAssembled = true := by
  unfold FeatureInputResult.sourceAssembled
  rw [assembled_status h, h]
  rfl

theorem observed_of {history : FeatureInputHistory} (h : source.inputHistory = some history) :
    source.observed = history.bars.length := by
  unfold FeatureInputResult.observed
  rw [h]
  rfl

/-- A source result gets its result unless its history is contracted. -/
theorem buildResult_cases (hcutoff : ∀ history ∈ source.inputHistory, history.cutoff ≤ cutoff) :
    (Contracted config source ∧ buildResult config cutoff source = .error .graph) ∨
      (¬Contracted config source ∧ ∃ r, buildResult config cutoff source = .ok r ∧
        ResultFor config cutoff source r) := by
  cases hhistory : source.inputHistory with
  | none =>
    have hstatus := blocked_status hhistory
    have hchecked : (⟨source, .sourceInputBlocked, config.1.minimumHistorySessions, source.observed, none⟩ :
        TechnicalResultFields).checkStatus = .ok () := by
      refine raiseIf_neg ?_
      simp [FeatureInputResult.sourceAssembled, hstatus]
    obtain ⟨r, hr, hfields⟩ := makeResult_ok hchecked
    refine .inr ⟨?_, r, ?_, ?_⟩
    · rintro ⟨history, hmem, -⟩
      rw [hhistory] at hmem
      cases hmem
    · unfold buildResult
      rw [hhistory]
      cases hkind : source.status with
      | inputGraphAssembledCollectionOnly => exact hr
      | corporateActionAdjustmentBlocked => exact hr
      | exactSessionTickCoverageBlocked => exact hr
    · refine ⟨by rw [hfields], fun _ => by rw [hfields], fun history hmem => ?_, fun history hmem => ?_⟩
      · rw [hhistory] at hmem
        cases hmem
      · rw [hhistory] at hmem
        cases hmem
  | some history =>
    have hstatus := assembled_status hhistory
    have hassembled := sourceAssembled_of hhistory
    have hobserved := observed_of hhistory
    have hsame : ∀ other ∈ source.inputHistory, other = history := by
      intro other hmem
      rw [hhistory] at hmem
      exact (Option.some.inj hmem).symm
    have hbuild : buildResult config cutoff source = buildAssembled config cutoff source history := by
      unfold buildResult
      rw [hhistory, hstatus]
    have hcontracted : Contracted config source ↔ config.1.minimumHistorySessions ≤ history.bars.length ∧
        ¬Degenerate config history.bars ∧ Flat config.1.contractionShortSessions history.bars := by
      constructor
      · rintro ⟨other, hmem, h⟩
        rwa [hsame other hmem] at h
      · exact fun h => ⟨history, hhistory, h⟩
    have hblocked : source.inputHistory ≠ none := by
      rw [hhistory]
      exact Option.some_ne_none _
    rw [hbuild, hcontracted]
    unfold buildAssembled
    dsimp only
    by_cases hshort : (history.bars.length : ℤ) < config.1.minimumHistorySessions
    · have hchecked : (⟨source, .insufficientHistoryBlocked, config.1.minimumHistorySessions, source.observed, none⟩ :
          TechnicalResultFields).checkStatus = .ok () := by
        refine raiseIf_neg ?_
        simp [hassembled, hobserved, hshort]
      obtain ⟨r, hr, hfields⟩ := makeResult_ok hchecked
      rw [if_pos hshort]
      refine .inr ⟨fun h => absurd hshort (not_lt.mpr h.1), r, hr, by rw [hfields], fun h => absurd h hblocked,
        fun other hmem _ => by rw [hfields], fun other hmem hlength => ?_⟩
      rw [hsame other hmem] at hlength
      exact absurd hshort (not_lt.mpr hlength)
    rw [if_neg hshort]
    have hlength := not_lt.mp hshort
    have hcut := hcutoff history hhistory
    have hinsufficient : ∀ other ∈ source.inputHistory,
        ¬(other.bars.length : ℤ) < config.1.minimumHistorySessions := by
      intro other hmem
      rwa [hsame other hmem]
    rcases computeVector_cases hlength hcut with ⟨hdegenerate, hvector⟩ | ⟨hproper, hflat, hvector⟩ |
      ⟨hproper, hmoves, v, hvector, hof⟩
    · have hchecked : (⟨source, .degenerateInputBlocked, config.1.minimumHistorySessions, source.observed, none⟩ :
          TechnicalResultFields).checkStatus = .ok () := by
        refine raiseIf_neg ?_
        simp [hassembled, hobserved, hlength]
      obtain ⟨r, hr, hfields⟩ := makeResult_ok hchecked
      rw [hvector]
      exact .inr ⟨fun h => h.2.1 hdegenerate, r, hr, by rw [hfields], fun h => absurd h hblocked,
        fun other hmem h => absurd h (hinsufficient other hmem), fun other hmem _ => .inl (by rw [hfields])⟩
    · rw [hvector]
      exact .inl ⟨⟨hlength, hproper, hflat⟩, rfl⟩
    · have hchecked : (⟨source, .featureVectorComputedCollectionOnly, config.1.minimumHistorySessions, source.observed,
          some v⟩ : TechnicalResultFields).checkStatus = .ok () := by
        unfold TechnicalResultFields.checkStatus
        dsimp only
        rw [hhistory]
        refine raiseIf_neg ?_
        have hlatest := history.latest
        simp [hof.source, hof.instrument, hof.listing, hof.session, hof.bars, hof.knowledge, hof.cutoffOf, hlatest,
          hobserved, hlength, hcut]
      obtain ⟨r, hr, hfields⟩ := makeResult_ok hchecked
      rw [hvector]
      refine .inr ⟨fun h => hmoves h.2.2, r, hr, by rw [hfields], fun h => absurd h hblocked,
        fun other hmem h => absurd h (hinsufficient other hmem), fun other hmem _ => .inr ⟨by rw [hfields], v, ?_, ?_⟩⟩
      · rw [hfields]
      · rw [hsame other hmem]
        exact hof

end Results

section Panels

theorem inputCutoffs (hcutoff : max panel.cutoff panel.knowledgeTime ≤ cutoff) :
    ∀ source ∈ panel.results, ∀ history ∈ source.inputHistory, history.cutoff ≤ cutoff := by
  intro source hsource history hhistory
  rw [panel.histories source hsource history hhistory]
  exact (le_max_left _ _).trans hcutoff

theorem buildFacts_eq (hcutoff : max panel.cutoff panel.knowledgeTime ≤ cutoff) {results : List TechnicalResult}
    (h : panel.results.mapM (buildResult config cutoff) = .ok results) :
    ∃ facts, buildFacts config cutoff panel = .ok facts ∧ facts.results = results := by
  have hlength : results.length = panel.results.length := (mapM_eq_ok.mp h).length_eq.symm
  unfold buildFacts
  rw [raiseIf_neg (not_lt.mpr hcutoff), ok_bind, h]
  rw [ok_mapError, ok_bind, raiseIf_neg (not_not.mpr hlength)]
  exact ⟨_, rfl, rfl⟩

theorem buildFacts_results {facts : TechnicalFeatureFacts} (h : buildFacts config cutoff panel = .ok facts) :
    List.Forall₂ (fun source r => buildResult config cutoff source = .ok r) panel.results facts.results := by
  unfold buildFacts at h
  obtain ⟨-, h⟩ := raiseIf_bind_eq_ok.mp h
  obtain ⟨results, hresults, h⟩ := bind_eq_ok.mp h
  obtain ⟨-, h⟩ := raiseIf_bind_eq_ok.mp h
  obtain rfl := Except.ok.inj h
  cases hmap : panel.results.mapM (buildResult config cutoff) with
  | error e =>
    rw [hmap] at hresults
    cases hresults
  | ok values =>
    rw [hmap] at hresults
    obtain rfl := Except.ok.inj hresults
    exact mapM_eq_ok.mp hmap

/-- The panel is built, with the result of each source result at its place. -/
def PanelBuilt (config : TechnicalFeatureConfig) (cutoff : Instant) (panel : FeatureInputPanel) : Prop :=
  ∃ facts, buildFacts config cutoff panel = .ok facts ∧
    List.Forall₂ (ResultFor config cutoff) panel.results facts.results

theorem panelBuilt_iff (hcutoff : max panel.cutoff panel.knowledgeTime ≤ cutoff) :
    PanelBuilt config cutoff panel ↔ ∀ source ∈ panel.results, ¬Contracted config source := by
  constructor
  · rintro ⟨facts, hfacts, -⟩ source hsource hcontracted
    obtain ⟨r, -, hr⟩ := mem_of_forall₂_left (buildFacts_results hfacts) hsource
    rcases buildResult_cases (inputCutoffs hcutoff source hsource) with ⟨-, herror⟩ | ⟨hproper, -⟩
    · rw [hr] at herror
      cases herror
    · exact hproper hcontracted
  · intro hproper
    have hbuild : ∀ source ∈ panel.results, ∃ r, buildResult config cutoff source = .ok r ∧
        ResultFor config cutoff source r := by
      intro source hsource
      rcases buildResult_cases (inputCutoffs hcutoff source hsource) with ⟨hcontracted, -⟩ | ⟨-, h⟩
      · exact absurd hcontracted (hproper source hsource)
      · exact h
    obtain ⟨results, hresults, hall⟩ := mapM_exists hbuild
    obtain ⟨facts, hfacts, rfl⟩ := buildFacts_eq hcutoff hresults
    exact ⟨facts, hfacts, hall⟩

/-- At one place the results of two builds agree if their source results do. -/
theorem buildFacts_getElem {other : FeatureInputPanel} {facts otherFacts : TechnicalFeatureFacts} {j : ℕ}
    (hfacts : buildFacts config cutoff panel = .ok facts) (hother : buildFacts config cutoff other = .ok otherFacts)
    (hsame : panel.results[j]? = other.results[j]?) : facts.results[j]? = otherFacts.results[j]? := by
  have hresults : ∀ {p : FeatureInputPanel} {f : TechnicalFeatureFacts}, buildFacts config cutoff p = .ok f →
      p.results[j]?.map (buildResult config cutoff) = f.results[j]?.map Except.ok := by
    intro p f h
    have hmap : p.results.map (buildResult config cutoff) = f.results.map Except.ok :=
      forall₂_map_eq (buildFacts_results h) fun _ _ hr => hr
    rw [← List.getElem?_map, ← List.getElem?_map, hmap]
  have heq := (hresults hfacts).symm.trans ((congrArg _ hsame).trans (hresults hother))
  exact Option.map_injective (fun _ _ => Except.ok.inj) heq

/-- Both panels are built, and only the result at one place differs. -/
def Undisturbed (config : TechnicalFeatureConfig) (cutoff : Instant) (panel other : FeatureInputPanel) (i : ℕ) : Prop :=
  PanelBuilt config cutoff panel ∧ PanelBuilt config cutoff other ∧
    ∀ facts otherFacts, buildFacts config cutoff panel = .ok facts → buildFacts config cutoff other = .ok otherFacts →
      ∀ j, j ≠ i → facts.results[j]? = otherFacts.results[j]?

end Panels

section Sample

/-- The smallest windows that the contraction windows differ in. -/
def sampleConfig : TechnicalFeatureConfig := ⟨⟨3, 1, 1, 1, 2, 2, 2, 1, 1, 1, 1, 1, 2, 1, 252⟩, by decide⟩

theorem barTick_pos : (0 : ℚ) < 1 / 20 := by decide +kernel

def sampleBar (session : SessionDate) (opened high low close : ℚ)
    (h : (0 < opened ∧ 0 < low ∧ 0 < close) ∧ max (max opened low) close ≤ high ∧ low ≤ min (min opened high) close) :
    FeatureInputBar where
  adjustedBarId := .int session
  tickSpecificationId := .text "tick"
  stableInstrumentId := .text "instrument"
  stableListingId := .text "listing"
  marketSession := session
  adjustedOpen := opened
  adjustedHigh := high
  adjustedLow := low
  adjustedClose := close
  adjustedVolume := 100
  tickSize := 1 / 20
  knowledgeTime := session
  open_pos := h.1.1
  low_pos := h.1.2.1
  close_pos := h.1.2.2
  high_bound := h.2.1
  low_bound := h.2.2
  volume_nonneg := by decide +kernel
  tick_pos := barTick_pos

/-- Two sessions that move, and a last one. -/
def sampleBars (last : FeatureInputBar) : List FeatureInputBar :=
  [sampleBar 1 10 10 10 10 (by decide +kernel), sampleBar 2 10 12 9 11 (by decide +kernel), last]

def movingBar : FeatureInputBar := sampleBar 3 11 12 11 12 (by decide +kernel)

def widerBar : FeatureInputBar := sampleBar 3 11 13 10 12 (by decide +kernel)

def unmovedBar : FeatureInputBar := sampleBar 3 11 11 11 11 (by decide +kernel)

def sampleHistory (last : FeatureInputBar) (h : last.marketSession = 3 ∧ last.knowledgeTime = 3) : FeatureInputHistory where
  sourceAdjustedHistoryId := .text "history"
  stableInstrumentId := .text "instrument"
  stableListingId := .text "listing"
  signalSession := 3
  cutoff := 4
  knowledgeTime := 3
  bars := sampleBars last
  sessions := by simp [sampleBars, sampleBar, h.1]
  latest := by simp [latestKnowledge, sampleBars, sampleBar, h.2]
  known := by decide

def samplePanel (histories : List (ContentId × FeatureInputHistory))
    (h : ∀ entry ∈ histories, entry.2.cutoff = 4) : FeatureInputPanel where
  cutoff := 4
  knowledgeTime := 3
  results := histories.map fun entry => ⟨entry.1, .inputGraphAssembledCollectionOnly, some entry.2, by simp⟩
  histories := by
    intro result hresult history hhistory
    obtain ⟨entry, hentry, rfl⟩ := List.mem_map.mp hresult
    obtain rfl := Option.some.inj hhistory
    exact h entry hentry

def movingHistory : FeatureInputHistory := sampleHistory movingBar ⟨rfl, rfl⟩

def widerHistory : FeatureInputHistory := sampleHistory widerBar ⟨rfl, rfl⟩

def unmovedHistory : FeatureInputHistory := sampleHistory unmovedBar ⟨rfl, rfl⟩

/-- Two listings that move. -/
def movingPanel : FeatureInputPanel :=
  samplePanel [(.text "first", movingHistory), (.text "second", movingHistory)] (by simp [movingHistory, sampleHistory])

/-- The second of them gets a last bar at one price. -/
def contractedPanel : FeatureInputPanel :=
  samplePanel [(.text "first", movingHistory), (.text "second", unmovedHistory)]
    (by simp [movingHistory, unmovedHistory, sampleHistory])

/-- The second of them gets a wider last bar. -/
def widerPanel : FeatureInputPanel :=
  samplePanel [(.text "first", movingHistory), (.text "second", widerHistory)]
    (by simp [movingHistory, widerHistory, sampleHistory])

theorem not_contracted_of_moves {id : ContentId} {history : FeatureInputHistory} {h : _ ↔ _}
    (hmoves : ¬Flat config.1.contractionShortSessions history.bars) :
    ¬Contracted config ⟨id, .inputGraphAssembledCollectionOnly, some history, h⟩ := by
  rintro ⟨other, hmem, -, -, hflat⟩
  obtain rfl := Option.some.inj hmem
  exact hmoves hflat

end Sample

end IndiaSwing.Features
