import IndiaSwing.RegimeEnsemble
import IndiaSwing.CrossSectionTotality
import IndiaSwing.SwingSignalSteps

namespace IndiaSwing.RegimeEnsemble

open DecimalContext ExceptGuards KeySort SortedTuples TextPatterns Windows CrossSection
open Signals (signalContext AsOfSwingBar InstrumentSwingHistory barFacts close_pos high_pos tradedValue_pos historyFacts)

section Arithmetic

variable {a b v lower upper : ℚ} {values : List ℚ} {bars : List AsOfSwingBar}

theorem divide_ok (hb : b ≠ 0) : divide a b = .ok (signalContext.div a b) := if_neg hb

theorem relativeChange_ok (hb : b ≠ 0) :
    relativeChange a b = .ok (signalContext.sub (signalContext.div a b) 1) := by
  unfold relativeChange
  rw [divide_ok hb]
  rfl

theorem clampTo_bounds (h : lower ≤ upper) : lower ≤ clampTo lower upper v ∧ clampTo lower upper v ≤ upper :=
  ⟨le_max_left _ _, max_le h (min_le_right _ _)⟩

/-- The mean of values that are not negative, and when it is positive. -/
theorem mean_ok (hne : values ≠ []) (h : ∀ v ∈ values, 0 ≤ v) :
    ∃ average, mean values = .ok average ∧ 0 ≤ average ∧ (0 < average ↔ ∃ v ∈ values, 0 < v) := by
  obtain ⟨average, haverage, hbounds⟩ := Signals.mean_ok hne h
  have hlength : (values.length : ℚ) ≠ 0 := Nat.cast_ne_zero.mpr (List.length_pos_iff.mpr hne).ne'
  refine ⟨average, ?_, hbounds⟩
  unfold Signals.mean at haverage
  rw [if_neg hne, Signals.divide_ok hlength] at haverage
  unfold mean
  rw [if_neg hne, divide_ok hlength, Except.ok.inj haverage]

/-- The median of values, of which there are some. -/
theorem median_eq (hne : values ≠ []) : median values = .ok (middleOf signalContext values) := by
  have hmiddle := @medianOf_ok signalContext values hne
  unfold medianOf at hmiddle
  unfold median
  rw [if_neg hne] at hmiddle ⊢
  rw [← hmiddle]
  dsimp only
  split
  · rw [if_pos (by assumption)]
    rfl
  · rw [if_neg (by assumption), divide_ok (by norm_num)]
    rfl

theorem median_ok (hne : values ≠ []) (h : ∀ v ∈ values, 0 < v) : ∃ middle, median values = .ok middle ∧ 0 < middle := by
  obtain ⟨middle, hmiddle, hpos⟩ := Signals.median_ok hne h
  refine ⟨middle, ?_, hpos⟩
  unfold Signals.median at hmiddle
  unfold median
  rw [if_neg hne] at hmiddle ⊢
  dsimp only at hmiddle ⊢
  split at hmiddle
  · rw [if_pos (by assumption), Except.ok.inj hmiddle]
  · rw [Signals.divide_ok (by norm_num)] at hmiddle
    rw [if_neg (by assumption), divide_ok (by norm_num), Except.ok.inj hmiddle]

theorem largest_ok (hne : values ≠ []) : ∃ v ∈ values, largest values = .ok v := by
  cases hmax : values.max? with
  | none => exact absurd (List.max?_eq_none_iff.mp hmax) hne
  | some v =>
    refine ⟨v, List.max?_mem hmax, ?_⟩
    unfold largest
    rw [hmax]
    rfl

theorem barFromEnd_ok {n : ℕ} (hpos : 0 < n) (h : n ≤ bars.length) : ∃ bar ∈ bars, barFromEnd n bars = .ok bar := by
  obtain ⟨bar, hmem, hbar⟩ := fromEnd_isSome hpos h
  refine ⟨bar, hmem, ?_⟩
  unfold barFromEnd
  rw [hbar]
  rfl

/-- A percentile lies between zero and one under rounding. -/
theorem isUnit_percentileOf (ha : a ∈ values) (higherIsBetter : Bool) :
    isUnit (percentileOf signalContext values higherIsBetter a) = true := by
  have hindex : (sorted values.dedup).idxOf a < (sorted values.dedup).length :=
    List.idxOf_lt_length_iff.mpr (mem_sorted.mpr (List.mem_dedup.mpr ha))
  obtain ⟨rank, hrank⟩ : ∃ rank, rank = if (sorted values.dedup).length = 1 then 1 / 2
      else signalContext.div ((sorted values.dedup).idxOf a) (((sorted values.dedup).length - 1 : ℕ) : ℚ) := ⟨_, rfl⟩
  have hbounds : 0 ≤ rank ∧ rank ≤ 1 := by
    rw [hrank]
    split
    · norm_num
    next hmany =>
      have hlast : (0 : ℚ) < (((sorted values.dedup).length - 1 : ℕ) : ℚ) := Nat.cast_pos.mpr (by omega)
      have hle : (((sorted values.dedup).idxOf a : ℕ) : ℚ) ≤ (((sorted values.dedup).length - 1 : ℕ) : ℚ) :=
        Nat.cast_le.mpr (by omega)
      exact ⟨div_nonneg_of (Nat.cast_nonneg _) hlast, div_le_one_of (by decide) (Nat.cast_nonneg _) hlast hle⟩
  have heq : percentileOf signalContext values higherIsBetter a =
      if higherIsBetter then rank else signalContext.sub 1 rank := by
    rw [hrank]
    rfl
  rw [heq]
  apply isUnit_eq_true.mpr
  cases higherIsBetter with
  | true => exact hbounds
  | false =>
    exact ⟨ofPrecision_nonneg (by linarith [hbounds.2]), ofPrecision_le_one (by decide) (by linarith [hbounds.2]) (by linarith [hbounds.1])⟩

end Arithmetic

section Config

/-- What the checks of a config establish. -/
structure ConfigFacts (c : RegimeEnsembleConfigFields) : Prop where
  weightings : ∀ w ∈ c.weightings, w.check signalContext = .ok ()
  trend : 0 < c.trendSessions
  volatility : 0 < c.volatilitySessions
  volume : 0 < c.volumeSessions
  breakout : 0 < c.breakoutSessions
  contraction : 0 < c.contractionSessions
  required : c.required ≤ c.minimumHistorySessions
  regimes : ∀ regime ∈ marketRegimes, regime ∈ c.weightings.map (·.regime)

theorem configFacts (config : RegimeEnsembleConfig) : ConfigFacts config.1 := by
  obtain ⟨_, hweightings, h⟩ := bind_eq_ok.mp config.2
  obtain ⟨_, hintegers, h⟩ := bind_eq_ok.mp h
  obtain ⟨hrequired, h⟩ := raiseIf_bind_eq_ok.mp h
  obtain ⟨-, h⟩ := raiseIf_bind_eq_ok.mp h
  obtain ⟨-, h⟩ := raiseIf_bind_eq_ok.mp h
  obtain ⟨-, h⟩ := raiseIf_bind_eq_ok.mp h
  obtain ⟨-, h⟩ := raiseIf_bind_eq_ok.mp h
  have hregimes := (not_or.mp (raiseIf_eq_ok.mp h)).2
  have hpos : ∀ field ∈ config.1.integerFields, 0 < field.2 := fun field hfield =>
    Nat.pos_of_ne_zero (raiseIf_eq_ok.mp (forM_eq_ok.mp hintegers field hfield))
  simp only [RegimeEnsembleConfigFields.integerFields, List.forall_mem_cons] at hpos
  obtain ⟨-, -, -, htrend, hvolatility, hvolume, hbreakout, hcontraction, -⟩ := hpos
  refine ⟨forM_eq_ok.mp hweightings, htrend, hvolatility, hvolume, hbreakout, hcontraction, not_lt.mp hrequired, ?_⟩
  intro regime hregime
  by_contra hmissing
  exact hregimes ⟨regime, hregime, hmissing⟩

/-- The lookbacks are within the bars that are required. -/
theorem lookbacks_le (c : RegimeEnsembleConfigFields) : c.shortMomentumSessions + 1 ≤ c.required ∧
    c.longMomentumSessions + 1 ≤ c.required ∧ c.trendSessions ≤ c.required ∧ c.volatilitySessions + 1 ≤ c.required ∧
    c.volumeSessions + 1 ≤ c.required ∧ c.breakoutSessions + 1 ≤ c.required := by
  unfold RegimeEnsembleConfigFields.required
  omega

/-- With one weighting for each regime, the weighting of every regime is found. -/
theorem weightingFor_ok {config : RegimeEnsembleConfig} (hone : (config.1.weightings.map (·.regime)).Nodup)
    (regime : MarketRegime) : ∃ w ∈ config.1.weightings, config.1.weightingFor regime = .ok w := by
  have hall : regime ∈ marketRegimes := by
    cases regime <;> decide
  obtain ⟨w, hw, hregime⟩ := List.mem_map.mp ((configFacts config).regimes regime hall)
  have hfilter : config.1.weightings.filter (·.regime = regime) = [w] := by
    have hnodup := List.Nodup.of_map _ hone
    refine List.perm_singleton.mp ((List.perm_ext_iff_of_nodup (hnodup.filter _) (List.nodup_singleton w)).mpr ?_)
    intro other
    rw [List.mem_filter, List.mem_singleton, decide_eq_true_iff]
    constructor
    · rintro ⟨hother, heq⟩
      exact List.inj_on_of_nodup_map hone hother hw (heq.trans hregime.symm)
    · intro heq
      rw [heq]
      exact ⟨hw, hregime⟩
  refine ⟨w, hw, ?_⟩
  unfold RegimeEnsembleConfigFields.weightingFor
  rw [hfilter]

end Config

section Metrics

variable {config : RegimeEnsembleConfig} {bars : List AsOfSwingBar} {current : AsOfSwingBar}

theorem momentum_ok {sessions : ℕ} (h : sessions + 1 ≤ bars.length) (current : AsOfSwingBar) :
    ∃ change, momentum bars current sessions = .ok change := by
  obtain ⟨start, -, hstart⟩ := barFromEnd_ok (Nat.succ_pos sessions) h
  unfold momentum
  rw [hstart, ok_bind, relativeChange_ok (close_pos start).ne']
  exact ⟨_, rfl⟩

theorem trendDistance_ok (h : config.1.required ≤ bars.length) (current : AsOfSwingBar) :
    ∃ distance, trendDistance config bars current = .ok distance := by
  obtain ⟨-, -, htrend, -⟩ := lookbacks_le config.1
  have hpos := (configFacts config).trend
  have hbars : lastOf config.1.trendSessions bars ≠ [] :=
    lastOf_ne_nil hpos (List.length_pos_iff.mp (by omega))
  have hcloses : ∀ v ∈ (lastOf config.1.trendSessions bars).map (·.1.close), 0 < v := by
    intro v hv
    obtain ⟨bar, -, rfl⟩ := List.mem_map.mp hv
    exact close_pos bar
  have hne : (lastOf config.1.trendSessions bars).map (·.1.close) ≠ [] := mt List.map_eq_nil_iff.mp hbars
  obtain ⟨average, haverage, -, haveragePos⟩ := mean_ok hne fun v hv => (hcloses v hv).le
  obtain ⟨close, hclose⟩ := List.exists_mem_of_ne_nil _ hne
  have hnonzero : 0 < average := haveragePos.mpr ⟨close, hclose, hcloses close hclose⟩
  unfold trendDistance
  rw [haverage, ok_bind, relativeChange_ok hnonzero.ne']
  exact ⟨_, rfl⟩

theorem breakoutAndPullback_ok (h : config.1.required ≤ bars.length) (current : AsOfSwingBar) :
    ∃ pair, breakoutAndPullback config bars current = .ok pair ∧ isUnit pair.1 = true := by
  obtain ⟨-, -, -, -, -, hbreakout⟩ := lookbacks_le config.1
  have hne : (beforeLast config.1.breakoutSessions bars).map (·.1.high) ≠ [] :=
    mt List.map_eq_nil_iff.mp (beforeLast_ne_nil (configFacts config).breakout (hbreakout.trans h))
  obtain ⟨high, hhigh, hlargest⟩ := largest_ok hne
  obtain ⟨bar, -, rfl⟩ := List.mem_map.mp hhigh
  unfold breakoutAndPullback
  rw [hlargest, ok_bind, divide_ok (high_pos bar).ne', ok_bind, divide_ok (by norm_num), ok_bind]
  exact ⟨_, rfl, isUnit_clamp _⟩

theorem volumeRatio_ok (h : config.1.required ≤ bars.length) (current : AsOfSwingBar) :
    ∃ ratio, volumeRatio config bars current = .ok ratio ∧ 0 < ratio := by
  obtain ⟨-, -, -, -, hvolume, -⟩ := lookbacks_le config.1
  have hne : (beforeLast config.1.volumeSessions bars).map (·.1.volume) ≠ [] :=
    mt List.map_eq_nil_iff.mp (beforeLast_ne_nil (configFacts config).volume (hvolume.trans h))
  obtain ⟨middle, hmiddle, hpos⟩ := median_ok hne fun v hv => by
    obtain ⟨bar, -, rfl⟩ := List.mem_map.mp hv
    exact (barFacts bar).volume
  unfold volumeRatio
  rw [hmiddle, ok_bind, divide_ok hpos.ne']
  exact ⟨_, rfl, (div_pos_iff_of (by decide) hpos).mpr (barFacts current).volume⟩

theorem medianTradedValue_ok (h : config.1.required ≤ bars.length) :
    ∃ value, median ((lastOf config.1.volumeSessions bars).map (·.1.tradedValue)) = .ok value ∧ 0 < value := by
  obtain ⟨-, -, -, -, hvolume, -⟩ := lookbacks_le config.1
  have hpos := (configFacts config).volume
  refine median_ok (mt List.map_eq_nil_iff.mp (lastOf_ne_nil hpos (List.length_pos_iff.mp (by omega)))) ?_
  intro v hv
  obtain ⟨bar, -, rfl⟩ := List.mem_map.mp hv
  exact tradedValue_pos bar

/-- The steps of the volatility bars: there are some. -/
theorem volatilitySteps_ne_nil (h : config.1.required ≤ bars.length) : steps (volatilityBars config bars) ≠ [] := by
  obtain ⟨-, -, -, hvolatility, -⟩ := lookbacks_le config.1
  have hpos := (configFacts config).volatility
  rw [← List.length_pos_iff, length_steps, volatilityBars, length_lastOf (hvolatility.trans h)]
  omega

theorem realizedVolatility_ok (h : config.1.required ≤ bars.length) :
    ∃ volatility, realizedVolatility config bars = .ok volatility ∧ 0 ≤ volatility := by
  obtain ⟨returns, hreturns, hpairs⟩ := @mapM_exists _ _ _ (fun pair : AsOfSwingBar × AsOfSwingBar =>
    relativeChange pair.2.1.close pair.1.1.close) (fun _ _ => True) (steps (volatilityBars config bars))
    fun pair _ => ⟨_, relativeChange_ok (close_pos pair.1).ne', trivial⟩
  have hne : (returns.map fun value => signalContext.mul value value) ≠ [] := by
    intro hnil
    have hempty := hpairs.length_eq
    rw [List.map_eq_nil_iff.mp hnil, List.length_nil, List.length_eq_zero_iff] at hempty
    exact volatilitySteps_ne_nil h hempty
  obtain ⟨variance, hvariance, -⟩ := mean_ok hne fun v hv => by
    obtain ⟨value, -, rfl⟩ := List.mem_map.mp hv
    exact ofPrecision_nonneg (mul_self_nonneg value)
  unfold realizedVolatility
  rw [hreturns, ok_bind, hvariance, ok_bind]
  exact ⟨_, rfl, sqrt_nonneg⟩

/-- A bar with a range among the last bars that the volatility reads. -/
def HasRange (config : RegimeEnsembleConfig) (bars : List AsOfSwingBar) : Prop :=
  ∃ bar ∈ lastOf config.1.volatilitySessions bars, bar.1.low < bar.1.high

theorem atrFraction_ok (h : config.1.required ≤ bars.length) (current : AsOfSwingBar) :
    ∃ atr, atrFraction config bars current = .ok atr ∧ (HasRange config bars → 0 < atr) := by
  obtain ⟨-, -, -, hvolatility, -⟩ := lookbacks_le config.1
  have hnonneg : ∀ v ∈ (steps (volatilityBars config bars)).map (fun pair => trueRange pair.2 pair.1), 0 ≤ v := by
    intro v hv
    obtain ⟨pair, -, rfl⟩ := List.mem_map.mp hv
    exact le_max_of_le_right (abs_nonneg _)
  obtain ⟨average, haverage, -, hpos⟩ := mean_ok (mt List.map_eq_nil_iff.mp (volatilitySteps_ne_nil h)) hnonneg
  unfold atrFraction
  rw [haverage, ok_bind, divide_ok (close_pos current).ne']
  refine ⟨_, rfl, ?_⟩
  rintro ⟨bar, hbar, hlow⟩
  rw [← map_steps_lastOf (hvolatility.trans h)] at hbar
  obtain ⟨pair, hpair, rfl⟩ := List.mem_map.mp hbar
  have hspan : 0 < signalContext.sub pair.2.1.high pair.2.1.low := (sub_pos_iff_of (by decide)).mpr hlow
  have haveragePos : 0 < average :=
    hpos.mpr ⟨_, List.mem_map.mpr ⟨pair, hpair, rfl⟩, lt_max_of_lt_left (lt_max_of_lt_left hspan)⟩
  exact (div_pos_iff_of (by decide) (close_pos current)).mpr haveragePos

/-- The fraction of its close that a bar ranges over. -/
def rangeFraction (bar : AsOfSwingBar) : ℚ :=
  signalContext.div (signalContext.sub bar.1.high bar.1.low) bar.1.close

theorem rangeFractions_eq : rangeFractions config bars = .ok ((lastOf config.1.volatilitySessions bars).map rangeFraction) :=
  mapM_ok fun bar _ => divide_ok (close_pos bar).ne'

theorem rangeFraction_nonneg (bar : AsOfSwingBar) : 0 ≤ rangeFraction bar := by
  have hle := (barFacts bar).low_le_close.trans (barFacts bar).close_le_high
  exact div_nonneg_of (ofPrecision_nonneg (sub_nonneg.mpr hle)) (close_pos bar)

theorem rangeFraction_pos_iff (bar : AsOfSwingBar) : 0 < rangeFraction bar ↔ bar.1.low < bar.1.high :=
  (div_pos_iff_of (by decide) (close_pos bar)).trans (sub_pos_iff_of (by decide))

/-- The contraction is measured exactly when a bar has a range. -/
theorem contraction_cases (h : config.1.required ≤ bars.length) :
    (HasRange config bars ∧ ∃ value, contraction config bars = .ok value ∧ isUnit value = true) ∨
      (¬HasRange config bars ∧ contraction config bars = .error "history has no positive intraday range") := by
  obtain ⟨-, -, -, hvolatility, -⟩ := lookbacks_le config.1
  have hpos := (configFacts config).volatility
  obtain ⟨fractions, hfractions⟩ : ∃ fractions, fractions = (lastOf config.1.volatilitySessions bars).map rangeFraction :=
    ⟨_, rfl⟩
  have hne : fractions ≠ [] := by
    rw [hfractions]
    exact mt List.map_eq_nil_iff.mp (lastOf_ne_nil hpos (List.length_pos_iff.mp (by omega)))
  have hnonneg : ∀ v ∈ fractions, 0 ≤ v := by
    intro v hv
    rw [hfractions] at hv
    obtain ⟨bar, -, rfl⟩ := List.mem_map.mp hv
    exact rangeFraction_nonneg bar
  obtain ⟨baseline, hbaseline, -, hbaselinePos⟩ := mean_ok hne hnonneg
  have hrange : 0 < baseline ↔ HasRange config bars := by
    rw [hbaselinePos, hfractions]
    unfold HasRange
    constructor
    · rintro ⟨v, hv, hvpos⟩
      obtain ⟨bar, hbar, rfl⟩ := List.mem_map.mp hv
      exact ⟨bar, hbar, (rangeFraction_pos_iff bar).mp hvpos⟩
    · rintro ⟨bar, hbar, hlow⟩
      exact ⟨_, List.mem_map.mpr ⟨bar, hbar, rfl⟩, (rangeFraction_pos_iff bar).mpr hlow⟩
  obtain ⟨recent, hrecent, -⟩ := mean_ok (lastOf_ne_nil (configFacts config).contraction hne)
    fun v hv => hnonneg v (mem_of_mem_lastOf hv)
  unfold contraction
  rw [rangeFractions_eq, ok_bind, ← hfractions, hbaseline, ok_bind]
  by_cases hsome : HasRange config bars
  · have hbase : 0 < baseline := hrange.mpr hsome
    rw [raiseIf_neg (not_le.mpr hbase), ok_bind, hrecent, ok_bind, divide_ok hbase.ne', ok_bind]
    exact .inl ⟨hsome, _, rfl, isUnit_clamp _⟩
  · rw [raiseIf_pos (not_lt.mp (mt hrange.mp hsome)), error_bind]
    exact .inr ⟨hsome, rfl⟩

theorem historyIds (history : InstrumentSwingHistory) : history.1.instrumentId ≠ "" ∧ history.1.listingId ≠ "" := by
  obtain ⟨hinstrument, h⟩ := raiseIf_bind_eq_ok.mp history.2
  obtain ⟨hlisting, -⟩ := raiseIf_bind_eq_ok.mp h
  constructor
  · intro hempty
    rw [hempty] at hinstrument
    exact hinstrument rfl
  · intro hempty
    rw [hempty] at hlisting
    exact hlisting rfl

/-- What makes metrics pass their own checks. -/
theorem metricsCheck_ok {m : AlphaInstrumentMetricsFields} (hids : m.instrumentId ≠ "" ∧ m.listingId ≠ "")
    (hproximity : isUnit m.breakoutProximity = true) (hcontraction : isUnit m.contraction = true)
    (hvolatility : 0 ≤ m.realizedVolatility) (hatr : 0 < m.atrFraction) (htraded : 0 < m.medianTradedValue)
    (hratio : 0 < m.volumeRatio) : m.check = .ok () := by
  unfold AlphaInstrumentMetricsFields.check
  rw [raiseIf_neg hids.1, ok_bind, raiseIf_neg hids.2, ok_bind, raiseIf_neg (not_not.mpr hproximity), ok_bind,
    raiseIf_neg (not_not.mpr hcontraction), ok_bind, raiseIf_eq_ok]
  simp only [not_or, not_lt, not_le]
  exact ⟨hvolatility, hatr, htraded, hratio⟩

/-- The metrics of a history that is long enough: they are calculated exactly when a bar has a range. -/
theorem metrics_cases {history : InstrumentSwingHistory} (hlength : config.1.minimumHistorySessions ≤ history.1.bars.length) :
    (HasRange config history.1.bars ∧ ∃ metrics, calculateAlphaInstrumentMetrics history config = .ok metrics ∧
        metrics.1.historyId = historyId history ∧ metrics.1.instrumentId = history.1.instrumentId ∧
        metrics.1.listingId = history.1.listingId) ∨
      (¬HasRange config history.1.bars ∧ ∃ error, calculateAlphaInstrumentMetrics history config = .error error ∧
        error = "history has no positive intraday range") := by
  have hrequired := (configFacts config).required.trans hlength
  obtain ⟨hshortLe, hlongLe, -, hvolatilityLe, -⟩ := lookbacks_le config.1
  obtain ⟨current, -, hcurrent⟩ := @barFromEnd_ok history.1.bars 1 one_pos (by omega)
  obtain ⟨short, hshort⟩ := momentum_ok (hshortLe.trans hrequired) current
  obtain ⟨long, hlong⟩ := momentum_ok (hlongLe.trans hrequired) current
  obtain ⟨distance, hdistance⟩ := trendDistance_ok hrequired current
  obtain ⟨pair, hpair, hproximity⟩ := breakoutAndPullback_ok hrequired current
  obtain ⟨ratio, hratio, hratioPos⟩ := volumeRatio_ok hrequired current
  obtain ⟨volatility, hvolatility, hvolatilityNonneg⟩ := realizedVolatility_ok hrequired
  obtain ⟨atr, hatr, hatrPos⟩ := atrFraction_ok hrequired current
  obtain ⟨traded, htraded, htradedPos⟩ := medianTradedValue_ok hrequired
  unfold calculateAlphaInstrumentMetrics
  dsimp only
  rw [raiseIf_neg (not_lt.mpr hlength), ok_bind, hcurrent, ok_bind, hshort, ok_bind, hlong, ok_bind, hdistance, ok_bind,
    hpair, ok_bind, hratio, ok_bind, hvolatility, ok_bind, hatr, ok_bind]
  rcases contraction_cases hrequired with ⟨hrange, contracted, hcontracted, hunit⟩ | ⟨hrange, herror⟩
  · rw [hcontracted, ok_bind, htraded, ok_bind]
    have hcheck := fun m : AlphaInstrumentMetricsFields => @metricsCheck_ok m
    refine .inl ⟨hrange, ⟨_, hcheck _ (historyIds history) hproximity hunit hvolatilityNonneg (hatrPos hrange) htradedPos
      hratioPos⟩, Checked.build_of_ok _, rfl, rfl, rfl⟩
  · rw [herror, error_bind]
    exact .inr ⟨hrange, _, rfl, rfl⟩

end Metrics

section Market

variable {metrics : List AlphaInstrumentMetrics} {config : RegimeEnsembleConfig}

theorem marketRegime_ok (hne : metrics ≠ []) (c : RegimeEnsembleConfigFields) :
    ∃ market, marketRegime metrics c = .ok market ∧ isUnit market.breadth = true := by
  have hlength : (0 : ℚ) < metrics.length := Nat.cast_pos.mpr (List.length_pos_iff.mpr hne)
  have hcount : ((metrics.countP fun m => 0 < m.1.trendDistance : ℕ) : ℚ) ≤ metrics.length :=
    Nat.cast_le.mpr List.countP_le_length
  have hsome : ∀ feature : AlphaInstrumentMetrics → ℚ, metrics.map feature ≠ [] := fun feature =>
    mt List.map_eq_nil_iff.mp hne
  unfold marketRegime
  rw [divide_ok hlength.ne', ok_bind, median_eq (hsome _), ok_bind, median_eq (hsome _), ok_bind]
  refine ⟨_, rfl, isUnit_eq_true.mpr ⟨?_, ?_⟩⟩
  · exact div_nonneg_of (Nat.cast_nonneg _) hlength
  · exact div_le_one_of (by decide) (Nat.cast_nonneg _) hlength hcount

theorem rankOf_ok {ranks : List (String × ℚ)} {id : String} {rank : ℚ} (hnodup : (ranks.map (·.1)).Nodup)
    (h : (id, rank) ∈ ranks) : rankOf ranks id = .ok rank := by
  unfold rankOf
  rw [(JsonText.lookup_eq_some_iff hnodup).mpr h]
  rfl

/-- The percentiles of one metric, and what is found in them for an instrument. -/
theorem percentileRanks_ok (hne : metrics ≠ []) (hnodup : (metrics.map (·.1.instrumentId)).Nodup)
    (feature : AlphaInstrumentMetrics → ℚ) (higherIsBetter : Bool) :
    ∃ ranks, percentileRanks (metrics.map fun m => (m.1.instrumentId, feature m)) higherIsBetter = .ok ranks ∧
      ∀ m ∈ metrics, ∃ rank, rankOf ranks m.1.instrumentId = .ok rank ∧ isUnit rank = true := by
  unfold percentileRanks
  rw [raiseIf_neg (mt List.map_eq_nil_iff.mp hne), ok_bind]
  refine ⟨_, rfl, ?_⟩
  intro m hm
  rw [List.map_map, List.map_map]
  have hvalue : feature m ∈ metrics.map ((·.2) ∘ fun m => (m.1.instrumentId, feature m)) := List.mem_map.mpr ⟨m, hm, rfl⟩
  refine ⟨_, ?_, isUnit_percentileOf hvalue higherIsBetter⟩
  apply rankOf_ok
  · rw [List.map_map]
    exact hnodup
  · exact List.mem_map.mpr ⟨m, hm, rfl⟩

end Market

section Scores

variable {text : ℚ → String} {w : AlphaRegimeWeighting} {m : AlphaInstrumentMetrics} {r : EnsembleRanks}
  {market : MarketState} {c : RegimeEnsembleConfigFields}

theorem isUnit_raw (m : AlphaInstrumentMetricsFields) (hliquidity : isUnit r.liquidity = true)
    (specialist : AlphaSpecialist) : isUnit (rawScore m r specialist) = true := by
  cases specialist with
  | liquidityQuality => exact hliquidity
  | momentumBreakout => exact isUnit_clamp _
  | pullbackContinuation => exact isUnit_clamp _
  | volatilityContraction => exact isUnit_clamp _

theorem letter_mem_rationale (text : ℚ → String) (m : AlphaInstrumentMetricsFields) (r : EnsembleRanks)
    (specialist : AlphaSpecialist) : 'r' ∈ (rationaleOf text m r specialist).toList := by
  have hshort : 'r' ∈ "short rank ".toList := by decide
  have htrend : 'r' ∈ "trend distance ".toList := by decide
  have hcontraction : 'r' ∈ "contraction ".toList := by decide
  have hcross : 'r' ∈ "cross-sectional traded-value rank ".toList := by decide
  unfold rationaleOf
  cases specialist with
  | liquidityQuality => simp only [String.toList_append, List.mem_append, hcross, true_or]
  | momentumBreakout => simp only [String.toList_append, List.mem_append, hshort, true_or]
  | pullbackContinuation => simp only [String.toList_append, List.mem_append, htrend, true_or]
  | volatilityContraction => simp only [String.toList_append, List.mem_append, hcontraction, true_or]

theorem rationale_ne_blank (text : ℚ → String) (m : AlphaInstrumentMetricsFields) (r : EnsembleRanks)
    (specialist : AlphaSpecialist) : stripText (rationaleOf text m r specialist).toList ≠ [] := by
  intro hblank
  have hspace : isSpace 'r' = false := by decide +kernel
  have hletter := stripText_eq_nil_iff.mp hblank 'r' (letter_mem_rationale text m r specialist)
  rw [hspace] at hletter
  cases hletter

theorem specialistScore_ok (hw : w.check signalContext = .ok ()) (hliquidity : isUnit r.liquidity = true)
    (specialist : AlphaSpecialist) : ∃ score, specialistScore text w m.1 r specialist = .ok score ∧
      score.1.specialist = specialist ∧ score.1.rawScore = rawScore m.1 r specialist ∧
      score.1.weightedScore = signalContext.mul (rawScore m.1 r specialist) (w.weightFor specialist) := by
  have hcheck : AlphaSpecialistScoreFields.check
      { specialist := specialist
        rawScore := rawScore m.1 r specialist
        regimeWeight := w.weightFor specialist
        weightedScore := signalContext.mul (rawScore m.1 r specialist) (w.weightFor specialist)
        rationale := rationaleOf text m.1 r specialist } = .ok () := by
    unfold AlphaSpecialistScoreFields.check
    rw [raiseIf_neg (not_not.mpr (isUnit_raw m.1 hliquidity specialist)), ok_bind,
      raiseIf_neg (not_not.mpr (weightFor_unit hw specialist)), ok_bind, raiseIf_neg (not_not.mpr rfl), ok_bind,
      raiseIf_neg (rationale_ne_blank text m.1 r specialist)]
  exact ⟨_, Checked.build_of_ok hcheck, rfl, rfl, rfl⟩

/-- The ensemble score of an instrument with its percentiles. -/
def ensembleOf (w : AlphaRegimeWeighting) (m : AlphaInstrumentMetricsFields) (r : EnsembleRanks) : ℚ :=
  signalContext.sum 0 (AlphaSpecialist.all.map fun specialist =>
    signalContext.mul (rawScore m r specialist) (w.weightFor specialist))

/-- The ensemble score passes one only where the rounded weights do. -/
theorem isUnit_ensembleOf (hw : w.check signalContext = .ok ()) (htotal : roundedTotal signalContext w ≤ 1)
    (hliquidity : isUnit r.liquidity = true) (m : AlphaInstrumentMetricsFields) : isUnit (ensembleOf w m r) = true := by
  have hraw := fun specialist => isUnit_eq_true.mp (isUnit_raw m hliquidity specialist)
  have hweight := fun specialist => isUnit_eq_true.mp (weightFor_unit hw specialist)
  apply isUnit_eq_true.mpr
  constructor
  · apply sum_nonneg_of le_rfl
    intro weighted hweighted
    obtain ⟨specialist, -, rfl⟩ := List.mem_map.mp hweighted
    exact (weightedScore_unit (by decide) (hraw specialist) (hweight specialist)).1
  · refine le_trans (sum_mono_of (by decide) le_rfl le_rfl ?_) htotal
    rw [List.forall₂_map_left_iff, List.forall₂_map_right_iff, List.forall₂_same]
    intro specialist _
    refine ⟨(weightedScore_unit (by decide) (hraw specialist) (hweight specialist)).1, ?_⟩
    exact ofPrecision_mono (by decide) (mul_nonneg (hraw specialist).1 (hweight specialist).1)
      (mul_le_of_le_one_left (hweight specialist).1 (hraw specialist).2)

/-- The bounds of a score. -/
structure Bounded (s : RegimeCrossSectionScoreFields) : Prop where
  specialists : ∀ score ∈ s.specialistScores, isUnit score.1.rawScore = true ∧ isUnit score.1.weightedScore = true
  ensemble : isUnit s.ensembleScore = true
  uncertainty : isUnit s.uncertainty = true
  medianReturn : -15 ≤ s.medianReturnPct ∧ s.medianReturnPct ≤ 15
  downside : -25 ≤ s.downsideReturnPct ∧ s.downsideReturnPct ≤ -2

theorem downsideReturnPct_bounds (m : AlphaInstrumentMetricsFields) (horizonSessions : ℕ) :
    -25 ≤ downsideReturnPct m horizonSessions ∧ downsideReturnPct m horizonSessions ≤ -2 := by
  have hfraction : 1 / 50 ≤ downsideFraction m horizonSessions := le_max_left _ _
  have htwo : 2 ≤ signalContext.mul (downsideFraction m horizonSessions) 100 := by
    have hfits := @Signals.round_natCast 2 (by norm_num)
    calc (2 : ℚ) = signalContext.round ((2 : ℕ) : ℚ) := by rw [hfits]; norm_num
      _ ≤ signalContext.mul (downsideFraction m horizonSessions) 100 :=
        ofPrecision_mono (by decide) (by norm_num) (by push_cast; linarith)
  unfold downsideReturnPct
  constructor
  · exact neg_le_neg (min_le_left _ _)
  · exact neg_le_neg (le_min (by norm_num) htwo)

theorem metricsIds (m : AlphaInstrumentMetrics) : m.1.instrumentId ≠ "" ∧ m.1.listingId ≠ "" := by
  obtain ⟨hinstrument, h⟩ := raiseIf_bind_eq_ok.mp m.2
  obtain ⟨hlisting, -⟩ := raiseIf_bind_eq_ok.mp h
  exact ⟨hinstrument, hlisting⟩

theorem crossSectionScore_ok (hw : w.check signalContext = .ok ()) (htotal : roundedTotal signalContext w ≤ 1)
    (hbreadth : isUnit market.breadth = true) (hliquidity : isUnit r.liquidity = true) (c : RegimeEnsembleConfigFields)
    (m : AlphaInstrumentMetrics) : ∃ score, crossSectionScore text c market w m r = .ok score ∧ Bounded score.1 ∧
      score.1.configId = c.configId ∧ score.1.market = market ∧ score.1.metrics = m ∧
      score.1.historyId = m.1.historyId ∧ score.1.instrumentId = m.1.instrumentId ∧ score.1.listingId = m.1.listingId := by
  obtain ⟨scores, hscores, hall⟩ := @mapM_exists _ _ _ _ _ AlphaSpecialist.all fun specialist _ =>
    @specialistScore_ok text w m r hw hliquidity specialist
  have hspecialists := forall₂_map_eq (f := fun specialist => specialist)
    (g := fun score : AlphaSpecialistScore => score.1.specialist) hall fun _ _ h => h.1.symm
  have hweighted := forall₂_map_eq (f := fun specialist =>
      signalContext.mul (rawScore m.1 r specialist) (w.weightFor specialist))
    (g := fun score : AlphaSpecialistScore => score.1.weightedScore) hall fun _ _ h => h.2.2.symm
  have hne : scores ≠ [] := by
    intro hnil
    rw [hnil] at hall
    cases hall
  obtain ⟨dispersion, hdispersion, -⟩ := mean_ok
    (mt (List.map_eq_nil_iff (f := fun score : AlphaSpecialistScore => |signalContext.sub score.1.rawScore
      (signalContext.sum 0 (scores.map (·.1.weightedScore)))|)).mp hne) fun v hv => by
      obtain ⟨score, -, rfl⟩ := List.mem_map.mp hv
      exact abs_nonneg _
  have hensemble : isUnit (signalContext.sum 0 (scores.map (·.1.weightedScore))) = true := by
    rw [← hweighted]
    exact isUnit_ensembleOf hw htotal hliquidity m.1
  have hdownside := downsideReturnPct_bounds m.1 c.horizonSessions
  have hids := metricsIds m
  unfold crossSectionScore
  rw [hscores, ok_bind]
  dsimp only
  rw [hdispersion, ok_bind]
  have huncertainty : isUnit (uncertaintyOf m.1 market.regime dispersion) = true := isUnit_clamp _
  refine ⟨⟨_, ?_⟩, Checked.build_of_ok _, ?_, rfl, rfl, rfl, rfl, rfl, rfl⟩
  · unfold RegimeCrossSectionScoreFields.check
    rw [raiseIf_neg hids.1, ok_bind, raiseIf_neg hids.2, ok_bind, raiseIf_neg (not_not.mpr hbreadth), ok_bind,
      raiseIf_neg (by simp), ok_bind, raiseIf_neg (by rw [← hspecialists]; simp), ok_bind, raiseIf_neg (not_not.mpr rfl),
      ok_bind, raiseIf_neg (not_not.mpr hensemble), ok_bind, raiseIf_neg (by linarith [hdownside.2]), ok_bind,
      raiseIf_neg (not_not.mpr huncertainty)]
  · refine ⟨?_, hensemble, isUnit_clamp _, clampTo_bounds (by norm_num), hdownside⟩
    intro score hscore
    obtain ⟨specialist, -, -, hraw, hscored⟩ := mem_of_forall₂_right hall hscore
    have hunit := isUnit_raw m.1 hliquidity specialist
    refine ⟨hraw ▸ hunit, ?_⟩
    rw [hscored]
    exact isUnit_eq_true.mpr (weightedScore_unit (by decide) (isUnit_eq_true.mp hunit)
      (isUnit_eq_true.mp (weightFor_unit hw specialist)))

end Scores

end IndiaSwing.RegimeEnsemble
