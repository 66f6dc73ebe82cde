import IndiaSwing.TechnicalFeatures

namespace IndiaSwing.Features

open ExceptGuards Windows

/-- The fields of a `PromotedTechnicalFeatureVector`. -/
structure TechnicalVectorFields where
  sourceHistoryId : ContentId
  configId : ContentId
  stableInstrumentId : ContentId
  stableListingId : ContentId
  signalSession : SessionDate
  cutoff : Instant
  knowledgeTime : Instant
  inputBarIds : List ContentId
  returnShort : ℚ
  returnMedium : ℚ
  returnLong : ℚ
  simpleMovingAverageShort : ℚ
  simpleMovingAverageLong : ℚ
  distanceFromShortAverage : ℚ
  distanceFromLongAverage : ℚ
  positiveCloseFractionShort : ℚ
  averageTrueRange : ℚ
  averageTrueRangeFraction : ℚ
  annualizedRealizedVolatility : ℚ
  priorBreakoutHigh : ℚ
  priorBreakoutLow : ℚ
  breakoutDistance : ℚ
  rangePosition : ℚ
  maximumDrawdown : ℚ
  signalGapReturn : ℚ
  medianPriorVolume : ℚ
  signalVolumeRatio : ℚ
  medianPriorTradedValue : ℚ
  signalTradedValueRatio : ℚ
  zeroVolumeFraction : ℚ
  rangeContractionRatio : ℚ
  signalTickSize : ℚ
  signalTickFraction : ℚ
  averageTrueRangeInTicks : ℚ
  tickChangeCount : ℕ
  deriving DecidableEq, Repr

/-- `PromotedTechnicalFeatureVector.__post_init__` -/
def TechnicalVectorFields.check (v : TechnicalVectorFields) : Except FeatureError Unit := do
  raiseIf (v.inputBarIds = [] ∨ ¬v.inputBarIds.Nodup) .graph
  raiseIf (v.cutoff < v.knowledgeTime) .future
  raiseIf (v.simpleMovingAverageShort ≤ 0 ∨ v.simpleMovingAverageLong ≤ 0 ∨
      ¬(0 ≤ v.positiveCloseFractionShort ∧ v.positiveCloseFractionShort ≤ 1) ∨ v.averageTrueRange ≤ 0 ∨
      v.averageTrueRangeFraction ≤ 0 ∨ v.annualizedRealizedVolatility < 0 ∨ v.priorBreakoutHigh ≤ 0 ∨
      v.priorBreakoutLow ≤ 0 ∨ v.priorBreakoutHigh < v.priorBreakoutLow ∨ 0 < v.maximumDrawdown ∨
      v.medianPriorVolume ≤ 0 ∨ v.signalVolumeRatio < 0 ∨ v.medianPriorTradedValue ≤ 0 ∨
      v.signalTradedValueRatio < 0 ∨ ¬(0 ≤ v.zeroVolumeFraction ∧ v.zeroVolumeFraction ≤ 1) ∨
      v.rangeContractionRatio ≤ 0 ∨ v.signalTickSize ≤ 0 ∨ v.signalTickFraction ≤ 0 ∨
      v.averageTrueRangeInTicks ≤ 0 ∨ v.inputBarIds.length - 1 < v.tickChangeCount) .graph

abbrev TechnicalVector := { v : TechnicalVectorFields // v.check = .ok () }

section Compute

variable (history : FeatureInputHistory) (config : TechnicalFeatureConfig) (cutoff : Instant)

def closes : List ℚ := history.bars.map (·.adjustedClose)

def volumes : List ℚ := history.bars.map (·.adjustedVolume)

def tradedValues : List ℚ := history.bars.map fun b => featureContext.mul b.adjustedClose b.adjustedVolume

/-- How many values differ, or rise, from the one before. -/
def countSteps {α : Type} (p : α → α → Bool) (values : List α) : ℕ := (steps values).countP fun pair => p pair.1 pair.2

/-- `value ** 2`: an integer power is rounded with three more digits first. -/
def square (value : ℚ) : ℚ := featureContext.round ((DecimalContext.ofPrecision 31).mul value value)

/-- The variance of the last returns around their mean. -/
def varianceOf (values : List ℚ) : Except FeatureError ℚ := do
  let average ← mean values
  mean (values.map fun value => square (featureContext.sub value average))

/-- What the guard of the denominators looks at. -/
structure Measured where
  current : FeatureInputBar
  shortAverage : ℚ
  longAverage : ℚ
  positiveFraction : ℚ
  atr : ℚ
  annualizedVolatility : ℚ
  priorHigh : ℚ
  priorLow : ℚ
  priorRange : ℚ
  medianVolume : ℚ
  medianTradedValue : ℚ
  longTrueRange : ℚ
  shortTrueRange : ℚ
  deriving Repr

/-- `_compute_vector_exact` up to the guard. -/
def measure : Except FeatureError Measured := do
  let current ← barFromEnd 1 history.bars
  let dailyReturns ← returns history.bars
  let shortAverage ← mean (lastOf config.1.shortTrendSessions.toNat (closes history))
  let longAverage ← mean (lastOf config.1.longTrendSessions.toNat (closes history))
  let shortCloses := lastOf config.1.shortTrendSessions.toNat (closes history)
  let positiveFraction ← divide (countSteps (fun a b => decide (a < b)) shortCloses) ((shortCloses.length : ℚ) - 1)
  let atr ← mean (lastOf config.1.atrSessions.toNat (trueRanges history.bars))
  let variance ← varianceOf (lastOf config.1.volatilitySessions.toNat dailyReturns)
  let deviation ← squareRoot variance
  let scale ← squareRoot config.1.annualizationSessions
  let priorBreakoutBars := beforeLast config.1.breakoutSessions.toNat history.bars
  let priorHigh ← largest (priorBreakoutBars.map (·.adjustedHigh))
  let priorLow ← smallest (priorBreakoutBars.map (·.adjustedLow))
  let medianVolume ← median (beforeLast config.1.liquiditySessions.toNat (volumes history))
  let medianTradedValue ← median (beforeLast config.1.liquiditySessions.toNat (tradedValues history))
  let longTrueRange ← mean (lastOf config.1.contractionLongSessions.toNat (trueRanges history.bars))
  let shortTrueRange ← mean (lastOf config.1.contractionShortSessions.toNat (trueRanges history.bars))
  return ⟨current, shortAverage, longAverage, positiveFraction, atr, featureContext.mul deviation scale, priorHigh,
    priorLow, featureContext.sub priorHigh priorLow, medianVolume, medianTradedValue, longTrueRange, shortTrueRange⟩

/-- The guard: too few closes, or a denominator that is not positive. -/
def Measured.checkDenominators (m : Measured) : Except FeatureError Unit :=
  raiseIf ((lastOf config.1.shortTrendSessions.toNat (closes history)).length < 2 ∨ m.atr ≤ 0 ∨ m.priorRange ≤ 0 ∨
    m.medianVolume ≤ 0 ∨ m.medianTradedValue ≤ 0 ∨ m.longTrueRange ≤ 0 ∨ m.current.adjustedClose ≤ 0 ∨
    m.current.tickSize ≤ 0) .degenerateInput

/-- The return over some sessions before the signal. -/
def returnOver (current : FeatureInputBar) (sessions : ℤ) : Except FeatureError ℚ := do
  let earlier ← barFromEnd (sessions + 1).toNat history.bars
  relativeChange current.adjustedClose earlier.adjustedClose

/-- The arguments of the vector, after the guard. -/
def vectorFields (m : Measured) : Except FeatureError TechnicalVectorFields := do
  let priorVolumes := beforeLast config.1.liquiditySessions.toNat (volumes history)
  let tickWindow := (lastOf config.1.tickHistorySessions.toNat history.bars).map (·.tickSize)
  let zeroVolumeFraction ← divide (priorVolumes.countP (· = 0)) priorVolumes.length
  let knowledgeTime ← (latestKnowledge history.bars).elim (.error .valueError) .ok
  let returnShort ← returnOver history m.current config.1.shortReturnSessions
  let returnMedium ← returnOver history m.current config.1.mediumReturnSessions
  let returnLong ← returnOver history m.current config.1.longReturnSessions
  let distanceFromShortAverage ← relativeChange m.current.adjustedClose m.shortAverage
  let distanceFromLongAverage ← relativeChange m.current.adjustedClose m.longAverage
  let averageTrueRangeFraction ← divide m.atr m.current.adjustedClose
  let breakoutDistance ← relativeChange m.current.adjustedClose m.priorHigh
  let rangePosition ← divide (featureContext.sub m.current.adjustedClose m.priorLow) m.priorRange
  let drawdown ← maximumDrawdown (lastOf config.1.drawdownSessions.toNat (closes history))
  let before ← barFromEnd 2 history.bars
  let signalGapReturn ← relativeChange m.current.adjustedOpen before.adjustedClose
  let signalVolumeRatio ← divide m.current.adjustedVolume m.medianVolume
  let signalTradedValueRatio ← divide
    (featureContext.mul m.current.adjustedClose m.current.adjustedVolume) m.medianTradedValue
  let rangeContractionRatio ← divide m.shortTrueRange m.longTrueRange
  let signalTickFraction ← divide m.current.tickSize m.current.adjustedClose
  let averageTrueRangeInTicks ← divide m.atr m.current.tickSize
  return {
    sourceHistoryId := history.historyId
    configId := config.1.configId
    stableInstrumentId := history.stableInstrumentId
    stableListingId := history.stableListingId
    signalSession := history.signalSession
    cutoff, knowledgeTime
    inputBarIds := history.bars.map (·.inputBarId)
    returnShort, returnMedium, returnLong
    simpleMovingAverageShort := m.shortAverage
    simpleMovingAverageLong := m.longAverage
    distanceFromShortAverage, distanceFromLongAverage
    positiveCloseFractionShort := m.positiveFraction
    averageTrueRange := m.atr
    averageTrueRangeFraction
    annualizedRealizedVolatility := m.annualizedVolatility
    priorBreakoutHigh := m.priorHigh
    priorBreakoutLow := m.priorLow
    breakoutDistance, rangePosition
    maximumDrawdown := drawdown
    signalGapReturn
    medianPriorVolume := m.medianVolume
    signalVolumeRatio
    medianPriorTradedValue := m.medianTradedValue
    signalTradedValueRatio, zeroVolumeFraction, rangeContractionRatio
    signalTickSize := m.current.tickSize
    signalTickFraction, averageTrueRangeInTicks
    tickChangeCount := countSteps (fun a b => decide (a ≠ b)) tickWindow }

/-- `_compute_vector` -/
def computeVector : Except FeatureError TechnicalVector := do
  let m ← measure history config
  m.checkDenominators history config
  let fields ← vectorFields history config cutoff m
  Checked.build TechnicalVectorFields.check fields

end Compute

section Results

inductive TechnicalFeatureStatus
  | featureVectorComputedCollectionOnly
  | sourceInputBlocked
  | insufficientHistoryBlocked
  | degenerateInputBlocked
  deriving DecidableEq, Repr

/-- The fields of a `PromotedTechnicalFeatureResult`. -/
structure TechnicalResultFields where
  sourceResult : FeatureInputResult
  status : TechnicalFeatureStatus
  requiredHistorySessions : ℤ
  observedHistorySessions : ℤ
  featureVector : Option TechnicalVector

/-- The number of bars of a source result. -/
def FeatureInputResult.observed (r : FeatureInputResult) : ℤ := r.inputHistory.elim 0 fun h => (h.bars.length : ℤ)

/-- The vector of a computed result is one of its history. -/
def checkVectorOf (required : ℤ) (observed : ℤ) (history : FeatureInputHistory) (v : TechnicalVector) :
    Except FeatureError Unit :=
  raiseIf (v.1.sourceHistoryId ≠ history.historyId ∨ v.1.stableInstrumentId ≠ history.stableInstrumentId ∨
    v.1.stableListingId ≠ history.stableListingId ∨ v.1.signalSession ≠ history.signalSession ∨
    v.1.inputBarIds ≠ history.bars.map (·.inputBarId) ∨ latestKnowledge history.bars ≠ some v.1.knowledgeTime ∨
    v.1.cutoff < history.cutoff ∨ observed < required) .graph

/-- `source_assembled` -/
def FeatureInputResult.sourceAssembled (r : FeatureInputResult) : Bool :=
  decide (r.status = .inputGraphAssembledCollectionOnly) && r.inputHistory.isSome

/-- The vector and the counts fit the status. -/
def TechnicalResultFields.checkStatus (r : TechnicalResultFields) : Except FeatureError Unit :=
  match r.status, r.sourceResult.inputHistory, r.featureVector with
  | .featureVectorComputedCollectionOnly, some history, some vector =>
    checkVectorOf r.requiredHistorySessions r.observedHistorySessions history vector
  | .featureVectorComputedCollectionOnly, _, _ => .error .graph
  | .sourceInputBlocked, _, vector => raiseIf (vector.isSome ∨ r.sourceResult.sourceAssembled = true) .graph
  | .insufficientHistoryBlocked, _, vector => raiseIf (vector.isSome ∨ r.sourceResult.sourceAssembled = false ∨
      r.requiredHistorySessions ≤ r.observedHistorySessions) .graph
  | .degenerateInputBlocked, _, vector => raiseIf (vector.isSome ∨ r.sourceResult.sourceAssembled = false ∨
      r.observedHistorySessions < r.requiredHistorySessions) .graph

/-- `PromotedTechnicalFeatureResult.__post_init__` -/
def TechnicalResultFields.check (r : TechnicalResultFields) : Except FeatureError Unit := do
  raiseIf (r.requiredHistorySessions ≤ 0 ∨ r.observedHistorySessions < 0) .graph
  raiseIf (r.observedHistorySessions ≠ r.sourceResult.observed) .graph
  r.checkStatus

abbrev TechnicalResult := { r : TechnicalResultFields // r.check = .ok () }

/-- `_make_result` -/
def makeResult (sourceResult : FeatureInputResult) (status : TechnicalFeatureStatus) (required : ℤ)
    (vector : Option TechnicalVector) : Except FeatureError TechnicalResult :=
  Checked.build TechnicalResultFields.check ⟨sourceResult, status, required, sourceResult.observed, vector⟩

variable (config : TechnicalFeatureConfig) (cutoff : Instant)

/-- The result of an assembled history. -/
def buildAssembled (sourceResult : FeatureInputResult) (history : FeatureInputHistory) :
    Except FeatureError TechnicalResult :=
  let required := config.1.minimumHistorySessions
  if (history.bars.length : ℤ) < required then makeResult sourceResult .insufficientHistoryBlocked required none
  else
    match computeVector history config cutoff with
    | .error .degenerateInput => makeResult sourceResult .degenerateInputBlocked required none
    | .error e => .error e
    | .ok vector => makeResult sourceResult .featureVectorComputedCollectionOnly required (some vector)

/-- One round of the loop of `_build_facts`. -/
def buildResult (sourceResult : FeatureInputResult) : Except FeatureError TechnicalResult :=
  match sourceResult.status, sourceResult.inputHistory with
  | .inputGraphAssembledCollectionOnly, some history => buildAssembled config cutoff sourceResult history
  | _, _ => makeResult sourceResult .sourceInputBlocked config.1.minimumHistorySessions none

/-- Other exceptions become the boundary's own. -/
def FeatureError.failClosed : FeatureError → FeatureError
  | .technical message => .technical message
  | _ => .graph

structure TechnicalFeatureFacts where
  cutoff : Instant
  knowledgeTime : Instant
  results : List TechnicalResult
  computedHistoryCount : ℕ
  blockedHistoryCount : ℕ
  resolvedHistoriesFeatureComplete : Bool

def TechnicalResultFields.computed (r : TechnicalResultFields) : Bool :=
  r.status = .featureVectorComputedCollectionOnly

/-- `_build_facts` -/
def buildFacts (panel : FeatureInputPanel) : Except FeatureError TechnicalFeatureFacts := do
  raiseIf (cutoff < max panel.cutoff panel.knowledgeTime) .future
  let results ← (panel.results.mapM (buildResult config cutoff)).mapError FeatureError.failClosed
  raiseIf (results.length ≠ panel.results.length) .graph
  let computed := results.countP (·.1.computed)
  return ⟨cutoff, panel.knowledgeTime, results, computed, results.length - computed,
    !results.isEmpty && decide (computed = results.length)⟩

end Results

end IndiaSwing.Features

namespace IndiaSwing.Features

open DecimalContext ExceptGuards Windows

variable {a b v : ℚ} {values : List ℚ}

section Arithmetic

theorem round_pos_iff (h : 0 ≤ v) : 0 < featureContext.round v ↔ 0 < v := by
  refine ⟨fun hround => ?_, ofPrecision_pos (by decide)⟩
  refine lt_of_le_of_ne h fun hzero => ?_
  rw [← hzero] at hround
  exact absurd hround (by rw [featureContext, ofPrecision_zero]; exact lt_irrefl _)

theorem round_nonneg (h : 0 ≤ v) : 0 ≤ featureContext.round v := ofPrecision_nonneg h

theorem round_eq_zero_iff : featureContext.round v = 0 ↔ v = 0 := ofPrecision_eq_zero_iff (by decide)

theorem added_nonneg (ha : 0 ≤ a) (hb : 0 ≤ b) : 0 ≤ featureContext.add a b := round_nonneg (add_nonneg ha hb)

theorem difference_pos_iff (h : b ≤ a) : 0 < featureContext.sub a b ↔ b < a :=
  (round_pos_iff (sub_nonneg.mpr h)).trans sub_pos

theorem divide_ok (hb : b ≠ 0) : divide a b = .ok (featureContext.div a b) := if_neg hb

theorem quotient_nonneg (ha : 0 ≤ a) (hb : 0 < b) : 0 ≤ featureContext.div a b := round_nonneg (div_nonneg ha hb.le)

theorem quotient_pos_iff (ha : 0 ≤ a) (hb : 0 < b) : 0 < featureContext.div a b ↔ 0 < a := by
  refine (round_pos_iff (div_nonneg ha hb.le)).trans ?_
  rw [lt_div_iff₀ hb, zero_mul]

theorem quotient_le_one (ha : 0 ≤ a) (hb : 0 < b) (hab : a ≤ b) : featureContext.div a b ≤ 1 :=
  ofPrecision_le_one (by decide) (div_nonneg ha hb.le) ((div_le_one hb).mpr hab)

theorem relativeChange_ok (hb : b ≠ 0) : ∃ change, relativeChange a b = .ok change := by
  unfold relativeChange
  rw [divide_ok hb]
  exact ⟨_, rfl⟩

theorem total_pos_iff {start : ℚ} (hstart : 0 ≤ start) (h : ∀ v ∈ values, 0 ≤ v) :
    0 < featureContext.sum start values ↔ 0 < start ∨ ∃ v ∈ values, 0 < v := by
  induction values generalizing start with
  | nil => simp [DecimalContext.sum]
  | cons v values ih =>
    have hv := h v List.mem_cons_self
    rw [sum_cons, ih (added_nonneg hstart hv) fun w hw => h w (List.mem_cons_of_mem _ hw)]
    have hadd : 0 < featureContext.add start v ↔ 0 < start ∨ 0 < v := by
      refine (round_pos_iff (add_nonneg hstart hv)).trans ?_
      constructor
      · intro hpos
        by_contra hnone
        obtain ⟨h1, h2⟩ := not_or.mp hnone
        linarith [not_lt.mp h1, not_lt.mp h2]
      · rintro (hpos | hpos) <;> linarith
    rw [hadd, List.exists_mem_cons_iff, or_assoc]

/-- The mean of values that are not negative, and when it is positive. -/
theorem mean_ok (hne : values ≠ []) (h : ∀ v ∈ values, 0 ≤ v) :
    ∃ average, mean values = .ok average ∧ 0 ≤ average ∧ (0 < average ↔ ∃ v ∈ values, 0 < v) := by
  have hlength : (0 : ℚ) < values.length := Nat.cast_pos.mpr (List.length_pos_iff.mpr hne)
  have hsum : 0 ≤ featureContext.sum 0 values := sum_nonneg_of le_rfl h
  unfold mean
  rw [if_neg hne, divide_ok hlength.ne']
  refine ⟨_, rfl, quotient_nonneg hsum hlength, (quotient_pos_iff hsum hlength).trans ?_⟩
  rw [total_pos_iff le_rfl h]
  simp

theorem mean_exists (hne : values ≠ []) : ∃ average, mean values = .ok average := by
  have hlength : ((values.length : ℕ) : ℚ) ≠ 0 := Nat.cast_ne_zero.mpr (List.length_pos_iff.mpr hne).ne'
  unfold mean
  rw [if_neg hne, divide_ok hlength]
  exact ⟨_, rfl⟩

theorem varianceOf_ok (hne : values ≠ []) : ∃ variance, varianceOf values = .ok variance ∧ 0 ≤ variance := by
  obtain ⟨average, haverage⟩ := mean_exists hne
  have hsquares : ∀ v ∈ values.map fun value => square (featureContext.sub value average), 0 ≤ v := by
    intro v hv
    obtain ⟨value, -, rfl⟩ := List.mem_map.mp hv
    exact round_nonneg (ofPrecision_nonneg (mul_self_nonneg _))
  obtain ⟨variance, hvariance, hnonneg, -⟩ := mean_ok (by simpa using hne) hsquares
  unfold varianceOf
  rw [haverage]
  exact ⟨variance, hvariance, hnonneg⟩

theorem squareRoot_ok (h : 0 ≤ v) : squareRoot v = .ok (DecimalContext.sqrt 28 v) := if_neg (not_lt.mpr h)

theorem largest_ok (values : List ℚ) (hne : values ≠ []) : ∃ v ∈ values, largest values = .ok v ∧ ∀ w ∈ values, w ≤ v := by
  cases hmax : values.max? with
  | none => exact absurd (List.max?_eq_none_iff.mp hmax) hne
  | some v =>
    refine ⟨v, List.max?_mem hmax, ?_, (List.max?_le_iff hmax).mp le_rfl⟩
    unfold largest
    rw [hmax]
    rfl

theorem smallest_ok (values : List ℚ) (hne : values ≠ []) : ∃ v ∈ values, smallest values = .ok v ∧ ∀ w ∈ values, v ≤ w := by
  cases hmin : values.min? with
  | none => exact absurd (List.min?_eq_none_iff.mp hmin) hne
  | some v =>
    refine ⟨v, List.min?_mem hmin, ?_, (List.le_min?_iff hmin).mp le_rfl⟩
    unfold smallest
    rw [hmin]
    rfl

end Arithmetic

section Median

/-- In a sorted list of values that are not negative, a place is positive exactly if the zeros end before it. -/
theorem sorted_pos_iff {ordered : List ℚ} (hsorted : ordered.Pairwise (· ≤ ·)) (hnonneg : ∀ v ∈ ordered, 0 ≤ v) {m : ℕ}
    (hm : m < ordered.length) : 0 < ordered.getD m 0 ↔ ordered.countP (· = 0) ≤ m := by
  have hget : ordered.getD m 0 = ordered[m] := by rw [List.getD_eq_getElem?_getD, List.getElem?_eq_getElem hm]; rfl
  have hle : ∀ i j (hi : i < ordered.length) (hj : j < ordered.length), i ≤ j → ordered[i] ≤ ordered[j] := by
    intro i j hi hj hij
    rcases Nat.lt_or_ge i j with hlt | hge
    · exact List.pairwise_iff_getElem.mp hsorted i j hi hj hlt
    · obtain rfl := Nat.le_antisymm hij hge
      exact le_rfl
  rw [hget]
  constructor
  · intro hpos
    have hrest : (ordered.drop m).countP (· = 0) = 0 := by
      rw [List.countP_eq_zero]
      intro v hv hzero
      obtain ⟨i, hi, rfl⟩ := List.getElem_of_mem hv
      rw [List.getElem_drop] at hzero
      have hafter := hle m (m + i) hm (by rw [List.length_drop] at hi; omega) (Nat.le_add_right _ _)
      rw [of_decide_eq_true hzero] at hafter
      exact absurd hpos (not_lt.mpr hafter)
    calc ordered.countP (· = 0) = (ordered.take m ++ ordered.drop m).countP (· = 0) := by rw [List.take_append_drop]
      _ = (ordered.take m).countP (· = 0) := by rw [List.countP_append, hrest, Nat.add_zero]
      _ ≤ (ordered.take m).length := List.countP_le_length
      _ ≤ m := List.length_take_le _ _
  · intro hcount
    refine lt_of_le_of_ne (hnonneg _ (List.getElem_mem hm)) fun hzero => ?_
    have hall : (ordered.take (m + 1)).countP (· = 0) = (ordered.take (m + 1)).length := by
      rw [List.countP_eq_length]
      intro v hv
      obtain ⟨i, hi, rfl⟩ := List.getElem_of_mem hv
      rw [List.getElem_take]
      have hbound : i < ordered.length := by rw [List.length_take] at hi; omega
      have hbefore := hle i m hbound hm (by rw [List.length_take] at hi; omega)
      rw [← hzero] at hbefore
      exact decide_eq_true (le_antisymm hbefore (hnonneg _ (List.getElem_mem hbound)))
    have hpart : (ordered.take (m + 1)).countP (· = 0) ≤ ordered.countP (· = 0) :=
      (List.take_sublist _ _).countP_le
    rw [hall, List.length_take] at hpart
    omega

/-- The median of values that are not negative is positive exactly if at most half of them are zero. -/
theorem median_ok (values : List ℚ) (hne : values ≠ []) (h : ∀ v ∈ values, 0 ≤ v) :
    ∃ middle, median values = .ok middle ∧ (0 < middle ↔ values.countP (· = 0) ≤ values.length / 2) := by
  have hperm : (values.insertionSort (· ≤ ·)).Perm values := List.perm_insertionSort _ _
  have hsorted : (values.insertionSort (· ≤ ·)).Pairwise (· ≤ ·) := List.pairwise_insertionSort _ _
  have hnonneg : ∀ v ∈ values.insertionSort (· ≤ ·), 0 ≤ v := fun v hv => h v (hperm.mem_iff.mp hv)
  have hlength := hperm.length_eq
  have hpos : 0 < values.length := List.length_pos_iff.mpr hne
  have hcount : (values.insertionSort (· ≤ ·)).countP (· = 0) = values.countP (· = 0) := hperm.countP_eq _
  have hmiddle := sorted_pos_iff hsorted hnonneg (m := (values.insertionSort (· ≤ ·)).length / 2)
    (by rw [hlength]; omega)
  rw [hcount, hlength] at hmiddle
  unfold median
  rw [if_neg hne]
  dsimp only
  split
  · rw [hlength]
    exact ⟨_, rfl, hmiddle⟩
  · rw [hlength, divide_ok (by norm_num)]
    refine ⟨_, rfl, ?_⟩
    have hplace : ∀ i, 0 ≤ (values.insertionSort (· ≤ ·)).getD i 0 := by
      intro i
      rw [List.getD_eq_getElem?_getD]
      cases hi : (values.insertionSort (· ≤ ·))[i]? with
      | none => exact le_rfl
      | some v => exact hnonneg v (List.mem_of_getElem? hi)
    have hbefore : (values.insertionSort (· ≤ ·)).getD (values.length / 2 - 1) 0 ≤
        (values.insertionSort (· ≤ ·)).getD (values.length / 2) 0 := by
      have hi : values.length / 2 < (values.insertionSort (· ≤ ·)).length := by rw [hlength]; omega
      have hj : values.length / 2 - 1 < (values.insertionSort (· ≤ ·)).length := by omega
      rw [List.getD_eq_getElem?_getD, List.getD_eq_getElem?_getD, List.getElem?_eq_getElem hi,
        List.getElem?_eq_getElem hj]
      have heven : values.length / 2 - 1 < values.length / 2 := by rw [hlength] at *; omega
      exact List.pairwise_iff_getElem.mp hsorted _ _ hj hi heven
    rw [quotient_pos_iff (added_nonneg (hplace _) (hplace _)) (by norm_num), ← hmiddle]
    refine (round_pos_iff (add_nonneg (hplace _) (hplace _))).trans ?_
    constructor
    · intro hsum
      by_contra hnot
      linarith [not_lt.mp hnot]
    · intro hright
      linarith [hplace (values.length / 2 - 1)]

end Median

end IndiaSwing.Features
