import IndiaSwing.Lib.DecimalSigns
import IndiaSwing.SwingSignals

namespace IndiaSwing.Signals

open DecimalContext ExceptGuards TextPatterns Windows

section Arithmetic

variable {a b v lowest tick : ℚ} {values : List ℚ}

theorem divide_ok (hb : b ≠ 0) : divide a b = .ok (signalContext.div a b) := if_neg hb

theorem divide_zero : ∀ v, divide a 0 ≠ .ok v := by
  intro v h
  unfold divide at h
  rw [if_pos rfl] at h
  cases h

theorem clamp_unit (v : ℚ) : 0 ≤ clamp v ∧ clamp v ≤ 1 :=
  ⟨le_max_left _ _, max_le zero_le_one (min_le_right _ _)⟩

theorem relativeChange_ok (hb : b ≠ 0) : ∃ change, relativeChange a b = .ok change := by
  unfold relativeChange
  rw [divide_ok hb]
  exact ⟨_, rfl⟩

theorem proximity_ok (hb : b ≠ 0) : ∃ p, proximity a b lowest = .ok p ∧ 0 ≤ p ∧ p ≤ 1 := by
  unfold proximity
  rw [divide_ok hb, ok_bind, divide_ok (by norm_num), ok_bind]
  exact ⟨_, rfl, clamp_unit _⟩

/-- The mean of values that are not negative, and when it is positive. -/
theorem mean_ok (hne : values ≠ []) (h : ∀ v ∈ values, 0 ≤ v) :
    ∃ average, mean values = .ok average ∧ 0 ≤ average ∧ (0 < average ↔ ∃ v ∈ values, 0 < v) := by
  have hlength : (0 : ℚ) < values.length := Nat.cast_pos.mpr (List.length_pos_iff.mpr hne)
  have hsum : 0 ≤ signalContext.sum 0 values := sum_nonneg_of le_rfl h
  unfold mean
  rw [if_neg hne, divide_ok hlength.ne']
  refine ⟨_, rfl, div_nonneg_of hsum hlength, (div_pos_iff_of (by decide) hlength).trans ?_⟩
  refine (sum_pos_iff_of (by decide) le_rfl h).trans ?_
  simp

theorem largest_ok (hne : values ≠ []) : ∃ v ∈ values, largest values = .ok v := by
  cases hmax : values.max? with
  | none => exact absurd (List.max?_eq_none_iff.mp hmax) hne
  | some v =>
    refine ⟨v, List.max?_mem hmax, ?_⟩
    unfold largest
    rw [hmax]
    rfl

/-- The median of positive values is positive. -/
theorem median_ok (hne : values ≠ []) (h : ∀ v ∈ values, 0 < v) : ∃ middle, median values = .ok middle ∧ 0 < middle := by
  have hplace : ∀ i < values.length, 0 < (values.insertionSort (· ≤ ·)).getD i 0 := by
    intro i hi
    have hi' : i < (values.insertionSort (· ≤ ·)).length := by rwa [List.length_insertionSort]
    rw [List.getD_eq_getElem?_getD, List.getElem?_eq_getElem hi']
    exact h _ ((List.mem_insertionSort _).mp (List.getElem_mem hi'))
  have hpos : 0 < values.length := List.length_pos_iff.mpr hne
  unfold median
  rw [if_neg hne]
  dsimp only
  rw [List.length_insertionSort]
  split
  · exact ⟨_, rfl, hplace _ (by omega)⟩
  · rw [divide_ok (by norm_num)]
    refine ⟨_, rfl, (div_pos_iff_of (by decide) (by norm_num)).mpr ?_⟩
    exact ofPrecision_pos (by decide) (add_pos (hplace _ (by omega)) (hplace _ (by omega)))

/-- A rounded value does not pass a value that is not rounded. -/
theorem round_le_of_fits (hfits : signalContext.round b = b) (ha : 0 ≤ a) (hab : a ≤ b) : signalContext.round a ≤ b := by
  rw [← hfits]
  exact ofPrecision_mono (by decide) ha hab

theorem round_natCast {n : ℕ} (h : n < 10 ^ 28) : signalContext.round (n : ℚ) = n := by
  have hsize : |(n : ℤ)| < 10 ^ 28 := by
    have hcast : ((n : ℕ) : ℤ) < ((10 ^ 28 : ℕ) : ℤ) := Int.ofNat_lt.mpr h
    rw [abs_of_nonneg (Int.natCast_nonneg n)]
    simpa using hcast
  have hfits : DecimalContext.Fits 28 (((n : ℤ) : ℚ) * 10 ^ (0 : ℤ)) := fits_of_decimal hsize
  rwa [zpow_zero, mul_one, Int.cast_natCast] at hfits

theorem tickFloor_pos_iff (htick : 0 < tick) : 0 < tickFloor v tick ↔ 1 ≤ signalContext.div v tick := by
  refine (ofPrecision_pos_iff (by decide)).trans ?_
  rw [mul_pos_iff_of_pos_right htick, Int.cast_pos, Int.floor_pos]

/-- The floor of a value to a tick is not above the ceiling of a larger one. -/
theorem tickFloor_le_tickCeiling (htick : 0 < tick) (ha : 0 ≤ a) (hab : a ≤ b) : tickFloor a tick ≤ tickCeiling b tick := by
  have hquotient : signalContext.div a tick ≤ signalContext.div b tick :=
    ofPrecision_mono (by decide) (div_nonneg ha htick.le) (div_le_div_of_nonneg_right hab htick.le)
  have hnonneg : 0 ≤ signalContext.div a tick := div_nonneg_of ha htick
  have hsteps : ⌊signalContext.div a tick⌋ ≤ ⌈signalContext.div b tick⌉ :=
    (Int.floor_mono hquotient).trans (Int.floor_le_ceil _)
  refine ofPrecision_mono (by decide) ?_ ?_
  · exact mul_nonneg (Int.cast_nonneg (Int.floor_nonneg.mpr hnonneg)) htick.le
  · exact mul_le_mul_of_nonneg_right (by exact_mod_cast hsteps) htick.le

theorem tickFloor_mono (htick : 0 < tick) (ha : 0 ≤ a) (hab : a ≤ b) : tickFloor a tick ≤ tickFloor b tick := by
  have hquotient : signalContext.div a tick ≤ signalContext.div b tick :=
    ofPrecision_mono (by decide) (div_nonneg ha htick.le) (div_le_div_of_nonneg_right hab htick.le)
  have hnonneg : 0 ≤ signalContext.div a tick := div_nonneg_of ha htick
  refine ofPrecision_mono (by decide) ?_ ?_
  · exact mul_nonneg (Int.cast_nonneg (Int.floor_nonneg.mpr hnonneg)) htick.le
  · exact mul_le_mul_of_nonneg_right (by exact_mod_cast Int.floor_mono hquotient) htick.le

theorem tickCeiling_pos (htick : 0 < tick) (hv : 0 < v) : 0 < tickCeiling v tick := by
  refine ofPrecision_pos (by decide) (mul_pos ?_ htick)
  have hquotient : 0 < signalContext.div v tick := (div_pos_iff_of (by decide) htick).mpr hv
  exact_mod_cast Int.ceil_pos.mpr hquotient

end Arithmetic

section Facts

/-- What the checks of a bar establish. -/
structure BarFacts (b : AsOfSwingBarFields) : Prop where
  prices : ∀ price ∈ b.prices, 0 < price.2
  low_le_close : b.low ≤ b.close
  close_le_high : b.close ≤ b.high
  volume : 0 < b.volume
  evidence : stripText b.evidenceId.toList ≠ []

theorem barFacts (b : AsOfSwingBar) : BarFacts b.1 := by
  obtain ⟨_, hprices, h⟩ := bind_eq_ok.mp b.2
  obtain ⟨hhigh, h⟩ := raiseIf_bind_eq_ok.mp h
  obtain ⟨hlow, h⟩ := raiseIf_bind_eq_ok.mp h
  obtain ⟨hvolume, h⟩ := raiseIf_bind_eq_ok.mp h
  obtain ⟨_, -, h⟩ := bind_eq_ok.mp h
  obtain ⟨-, h⟩ := raiseIf_bind_eq_ok.mp h
  obtain ⟨hevidence, -⟩ := raiseIf_bind_eq_ok.mp h
  refine ⟨fun price hprice => ?_, (not_lt.mp hlow).trans (min_le_right _ _), (le_max_right _ _).trans (not_lt.mp hhigh),
    not_le.mp hvolume, hevidence⟩
  exact not_le.mp (raiseIf_eq_ok.mp (forM_eq_ok.mp hprices price hprice))

theorem close_pos (b : AsOfSwingBar) : 0 < b.1.close :=
  (barFacts b).prices ("close", b.1.close) (by simp [AsOfSwingBarFields.prices])

theorem high_pos (b : AsOfSwingBar) : 0 < b.1.high :=
  (barFacts b).prices ("high", b.1.high) (by simp [AsOfSwingBarFields.prices])

theorem tradedValue_pos (b : AsOfSwingBar) : 0 < b.1.tradedValue :=
  (barFacts b).prices ("traded_value", b.1.tradedValue) (by simp [AsOfSwingBarFields.prices])

/-- What the checks of a history establish. -/
structure HistoryFacts (h : InstrumentSwingHistoryFields) : Prop where
  tick : 0 < h.tickSize
  bars : h.bars ≠ []
  evidence : (h.bars.map (·.1.evidenceId)).Nodup

theorem historyFacts (history : InstrumentSwingHistory) : HistoryFacts history.1 := by
  obtain ⟨-, h⟩ := raiseIf_bind_eq_ok.mp history.2
  obtain ⟨-, h⟩ := raiseIf_bind_eq_ok.mp h
  obtain ⟨htick, h⟩ := raiseIf_bind_eq_ok.mp h
  obtain ⟨-, h⟩ := raiseIf_bind_eq_ok.mp h
  obtain ⟨-, h⟩ := raiseIf_bind_eq_ok.mp h
  obtain ⟨hbars, h⟩ := raiseIf_bind_eq_ok.mp h
  obtain ⟨-, h⟩ := raiseIf_bind_eq_ok.mp h
  obtain ⟨hevidence, -⟩ := raiseIf_bind_eq_ok.mp h
  exact ⟨not_le.mp htick, hbars, not_not.mp hevidence⟩

/-- What the checks of a config establish. -/
structure ConfigFacts (c : SwingSignalConfigFields) : Prop where
  momentum : 0 < c.momentumLookbackSessions
  trend : 0 < c.trendLookbackSessions
  atr : 0 < c.atrLookbackSessions
  volume : 0 < c.volumeLookbackSessions
  breakout : 0 < c.breakoutLookbackSessions
  required : c.required ≤ c.minimumHistorySessions
  fullMomentum : 0 < c.fullMomentumScore
  minimumTraded : 0 < c.minimumDailyTradedValue
  buffer : 0 < c.entryAtrBuffer
  stopMultiple : 0 < c.stopAtrMultiple
  rewardRisk : 0 < c.targetNetRewardRisk
  cost : 0 < c.baseRoundTripCostBps

theorem configFacts (config : DeterministicSwingSignalConfig) : ConfigFacts config.1 := by
  obtain ⟨_, hintegers, h⟩ := bind_eq_ok.mp config.2
  obtain ⟨hrequired, hdecimals⟩ := raiseIf_bind_eq_ok.mp h
  have hpos : ∀ field ∈ config.1.integerFields, 0 < field.2 := fun field hfield =>
    Nat.pos_of_ne_zero (raiseIf_eq_ok.mp (forM_eq_ok.mp hintegers field hfield))
  have hvalue : ∀ field ∈ config.1.decimalFields, 0 < field.2 := fun field hfield =>
    not_le.mp (raiseIf_eq_ok.mp (forM_eq_ok.mp hdecimals field hfield))
  simp only [SwingSignalConfigFields.integerFields, List.forall_mem_cons] at hpos
  simp only [SwingSignalConfigFields.decimalFields, List.forall_mem_cons] at hvalue
  obtain ⟨-, hmomentum, htrend, hatr, hvolume, hbreakout, -⟩ := hpos
  obtain ⟨hfull, htraded, hbuffer, hstop, hreward, hcost, -⟩ := hvalue
  exact ⟨hmomentum, htrend, hatr, hvolume, hbreakout, not_lt.mp hrequired, hfull, htraded, hbuffer, hstop, hreward, hcost⟩

/-- The lookbacks are within the bars that are required. -/
theorem lookbacks_le (c : SwingSignalConfigFields) : c.momentumLookbackSessions + 1 ≤ c.required ∧
    c.trendLookbackSessions ≤ c.required ∧ c.atrLookbackSessions + 1 ≤ c.required ∧
    c.volumeLookbackSessions + 1 ≤ c.required ∧ c.breakoutLookbackSessions + 1 ≤ c.required := by
  unfold SwingSignalConfigFields.required
  omega

end Facts

section Metrics

variable {config : DeterministicSwingSignalConfig} {history : InstrumentSwingHistory} {bars : List AsOfSwingBar}
  {metrics : SwingTechnicalMetrics}

/-- A bar without a range after the close before it. -/
def Flat (previous bar : AsOfSwingBar) : Prop := bar.1.high = bar.1.low ∧ bar.1.high = previous.1.close

theorem trueRange_nonneg (previous bar : AsOfSwingBar) : 0 ≤ trueRange previous bar :=
  le_max_of_le_right (abs_nonneg _)

theorem trueRange_pos_iff (previous bar : AsOfSwingBar) : 0 < trueRange previous bar ↔ ¬Flat previous bar := by
  have hle := (barFacts bar).low_le_close.trans (barFacts bar).close_le_high
  have hround : ∀ a b : ℚ, signalContext.sub a b = 0 ↔ a = b := fun a b =>
    (ofPrecision_eq_zero_iff (by decide)).trans sub_eq_zero
  unfold trueRange Flat
  rw [lt_max_iff, lt_max_iff, abs_pos, abs_pos, Ne, Ne, hround, hround]
  constructor
  · rintro ((hrange | hhigh) | hlow) ⟨hflat, hclose⟩
    · rw [hflat] at hrange
      exact absurd ((sub_pos_iff_of (by decide)).mp hrange) (lt_irrefl _)
    · exact hhigh hclose
    · exact hlow (hflat ▸ hclose)
  · intro hnot
    by_cases hrange : bar.1.high = bar.1.low
    · exact .inl (.inr fun hclose => hnot ⟨hrange, hclose⟩)
    · exact .inl (.inl ((sub_pos_iff_of (by decide)).mpr (lt_of_le_of_ne hle (Ne.symm hrange))))

/-- A bar of the ATR lookback is not flat. -/
def Ranged (config : DeterministicSwingSignalConfig) (bars : List AsOfSwingBar) : Prop :=
  ∃ pair ∈ steps (atrBars config bars), ¬Flat pair.1 pair.2

/-- The average true range, and when it is positive. -/
theorem averageTrueRange_ok (hatr : 0 < config.1.atrLookbackSessions) (hlength : config.1.atrLookbackSessions + 1 ≤ bars.length) :
    ∃ atr, averageTrueRange config bars = .ok atr ∧ 0 ≤ atr ∧
      (0 < atr ↔ Ranged config bars) := by
  have hne : (steps (atrBars config bars)).map (fun pair => trueRange pair.1 pair.2) ≠ [] := by
    intro hnil
    have hcount := congrArg List.length hnil
    rw [List.length_map, length_steps, atrBars, length_lastOf hlength, List.length_nil] at hcount
    omega
  obtain ⟨atr, hok, hnonneg, hpos⟩ := mean_ok hne fun v hv => by
    obtain ⟨pair, -, rfl⟩ := List.mem_map.mp hv
    exact trueRange_nonneg _ _
  refine ⟨atr, hok, hnonneg, hpos.trans ?_⟩
  simp only [List.mem_map, exists_exists_and_eq_and, trueRange_pos_iff, Ranged]

theorem barFromEnd_ok {n : ℕ} (hpos : 0 < n) (h : n ≤ bars.length) : ∃ bar ∈ bars, barFromEnd n bars = .ok bar := by
  obtain ⟨bar, hmem, hbar⟩ := fromEnd_isSome hpos h
  refine ⟨bar, hmem, ?_⟩
  unfold barFromEnd
  rw [hbar]
  rfl

/-- The trend is measured from two bars on. -/
theorem trendQuality_ok (htrend : 2 ≤ config.1.trendLookbackSessions) (hlength : config.1.required ≤ bars.length)
    (current : AsOfSwingBar) : ∃ trend, trendQuality config bars current = .ok trend ∧ 0 ≤ trend ∧ trend ≤ 1 := by
  obtain ⟨-, hlookback, -, -, hbreakout⟩ := lookbacks_le config.1
  have hcount : (lastOf config.1.trendLookbackSessions bars).length = config.1.trendLookbackSessions :=
    length_lastOf (hlookback.trans hlength)
  have hdenominator : (0 : ℚ) < (((lastOf config.1.trendLookbackSessions bars).length - 1 : ℕ) : ℚ) := by
    rw [hcount]
    exact Nat.cast_pos.mpr (by omega)
  have hpositive : (((steps (lastOf config.1.trendLookbackSessions bars)).filter fun pair =>
      pair.1.1.close < pair.2.1.close).length : ℚ) ≤ (((lastOf config.1.trendLookbackSessions bars).length - 1 : ℕ) : ℚ) := by
    have hle := List.length_filter_le (fun pair : AsOfSwingBar × AsOfSwingBar => decide (pair.1.1.close < pair.2.1.close))
      (steps (lastOf config.1.trendLookbackSessions bars))
    rw [length_steps] at hle
    exact_mod_cast hle
  have hclosesNe : (lastOf config.1.trendLookbackSessions bars).map (·.1.close) ≠ [] := by
    intro hnil
    have hzero := congrArg List.length hnil
    rw [List.length_map, hcount, List.length_nil] at hzero
    omega
  have hcloses : ∀ v ∈ (lastOf config.1.trendLookbackSessions bars).map (·.1.close), 0 < v := by
    intro v hv
    obtain ⟨bar, -, rfl⟩ := List.mem_map.mp hv
    exact close_pos bar
  obtain ⟨average, haverage, -, hpos⟩ := mean_ok hclosesNe fun v hv => (hcloses v hv).le
  obtain ⟨close, hclose⟩ := List.exists_mem_of_ne_nil _ hclosesNe
  have haveragePos : 0 < average := hpos.mpr ⟨close, hclose, hcloses close hclose⟩
  have hhighsNe : (beforeLast config.1.breakoutLookbackSessions bars).map (·.1.high) ≠ [] := by
    intro hnil
    have hzero := congrArg List.length hnil
    rw [List.length_map, length_beforeLast (hbreakout.trans hlength), List.length_nil] at hzero
    have := (configFacts config).breakout
    omega
  obtain ⟨high, hhigh, hlargest⟩ := largest_ok hhighsNe
  have hhighPos : 0 < high := by
    obtain ⟨bar, -, rfl⟩ := List.mem_map.mp hhigh
    exact high_pos bar
  obtain ⟨above, habove, habove0, habove1⟩ := @proximity_ok current.1.close average (95 / 100) haveragePos.ne'
  obtain ⟨breakout, hbreak, hbreak0, hbreak1⟩ := @proximity_ok current.1.close high (90 / 100) hhighPos.ne'
  obtain ⟨fraction, hfraction, hfraction0, hfraction1⟩ : ∃ fraction,
      divide (((steps (lastOf config.1.trendLookbackSessions bars)).filter fun pair =>
        pair.1.1.close < pair.2.1.close).length : ℚ) (((lastOf config.1.trendLookbackSessions bars).length - 1 : ℕ) : ℚ) =
          .ok fraction ∧ 0 ≤ fraction ∧ fraction ≤ 1 :=
    ⟨_, divide_ok hdenominator.ne', div_nonneg_of (Nat.cast_nonneg _) hdenominator,
      div_le_one_of (by decide) (Nat.cast_nonneg _) hdenominator hpositive⟩
  have htwo : signalContext.add fraction above ≤ 2 :=
    round_le_of_fits (round_natCast (by norm_num)) (add_nonneg hfraction0 habove0) (by linarith)
  have htwo0 : 0 ≤ signalContext.add fraction above := add_nonneg_of hfraction0 habove0
  have hthree : signalContext.add (signalContext.add fraction above) breakout ≤ 3 :=
    round_le_of_fits (round_natCast (by norm_num)) (add_nonneg htwo0 hbreak0) (by linarith)
  have hthree0 : 0 ≤ signalContext.add (signalContext.add fraction above) breakout := add_nonneg_of htwo0 hbreak0
  unfold trendQuality
  dsimp only
  rw [hfraction, ok_bind, haverage, ok_bind, habove, ok_bind, hlargest, ok_bind, hbreak, ok_bind, divide_ok (by norm_num)]
  exact ⟨_, rfl, div_nonneg_of hthree0 (by norm_num), div_le_one_of (by decide) hthree0 (by norm_num) hthree⟩

theorem volumeConfirmation_ok (hlength : config.1.required ≤ bars.length) (current : AsOfSwingBar) :
    ∃ volume, volumeConfirmation config bars current = .ok volume ∧ 0 ≤ volume ∧ volume ≤ 1 := by
  obtain ⟨-, -, -, hvolume, -⟩ := lookbacks_le config.1
  have hne : (beforeLast config.1.volumeLookbackSessions bars).map (·.1.volume) ≠ [] := by
    intro hnil
    have hzero := congrArg List.length hnil
    rw [List.length_map, length_beforeLast (hvolume.trans hlength), List.length_nil] at hzero
    have := (configFacts config).volume
    omega
  obtain ⟨middle, hmiddle, hpos⟩ := median_ok hne fun v hv => by
    obtain ⟨bar, -, rfl⟩ := List.mem_map.mp hv
    exact (barFacts bar).volume
  unfold volumeConfirmation
  rw [hmiddle, ok_bind, divide_ok hpos.ne', ok_bind, divide_ok (by norm_num), ok_bind]
  exact ⟨_, rfl, clamp_unit _⟩

theorem medianTradedValue_ok (hlength : config.1.required ≤ bars.length) :
    ∃ value, median ((lastOf config.1.volumeLookbackSessions bars).map (·.1.tradedValue)) = .ok value ∧ 0 < value := by
  obtain ⟨-, -, -, hvolume, -⟩ := lookbacks_le config.1
  refine median_ok ?_ ?_
  · intro hnil
    have hzero := congrArg List.length hnil
    rw [List.length_map, length_lastOf (by omega), List.length_nil] at hzero
    have := (configFacts config).volume
    omega
  · intro v hv
    obtain ⟨bar, -, rfl⟩ := List.mem_map.mp hv
    exact tradedValue_pos bar

/-- What the metrics of a history are. -/
structure MetricsFacts (config : DeterministicSwingSignalConfig) (bars : List AsOfSwingBar)
    (m : SwingTechnicalMetricsFields) : Prop where
  trendQuality : 0 ≤ m.trendQuality ∧ m.trendQuality ≤ 1
  volumeConfirmation : 0 ≤ m.volumeConfirmation ∧ m.volumeConfirmation ≤ 1
  relativeStrength : 0 ≤ m.relativeStrength ∧ m.relativeStrength ≤ 1
  liquidityQuality : 0 ≤ m.liquidityQuality ∧ m.liquidityQuality ≤ 1
  average : averageTrueRange config bars = .ok m.atr
  atr : 0 < m.atr

/-- Where the trend is measured over more than one session the kernel returns metrics, or it refuses the flat bars. -/
theorem metrics_cases (htrend : config.1.trendLookbackSessions ≠ 1)
    (hlength : config.1.minimumHistorySessions ≤ history.1.bars.length) :
    (Ranged config history.1.bars ∧ ∃ metrics, calculateSwingTechnicalMetrics history config = .ok metrics ∧
      MetricsFacts config history.1.bars metrics.1) ∨
    (¬Ranged config history.1.bars ∧
      calculateSwingTechnicalMetrics history config = .error (.signal "ATR must be positive")) := by
  have hconfig := configFacts config
  have hrequired : config.1.required ≤ history.1.bars.length := hconfig.required.trans hlength
  obtain ⟨hmomentum, -, hatrs, -, -⟩ := lookbacks_le config.1
  obtain ⟨current, -, hcurrent⟩ := barFromEnd_ok one_pos (List.length_pos_iff.mpr (historyFacts history).bars)
  obtain ⟨first, -, hfirst⟩ := barFromEnd_ok (Nat.succ_pos _) (hmomentum.trans hrequired)
  obtain ⟨momentum, hmomentum⟩ := @relativeChange_ok current.1.close first.1.close (close_pos first).ne'
  obtain ⟨volume, hvolume, hvolumeUnit⟩ := volumeConfirmation_ok hrequired current
  obtain ⟨value, hvalue, hvaluePos⟩ := medianTradedValue_ok hrequired
  obtain ⟨atr, hatr, -, hatrPos⟩ := averageTrueRange_ok hconfig.atr (hatrs.trans hrequired)
  have hstart : calculateSwingTechnicalMetrics history config = (do
      let trend ← trendQuality config history.1.bars current
      raiseIf (atr ≤ 0) (.signal "ATR must be positive")
      let strength ← divide momentum config.1.fullMomentumScore
      let multiple ← divide value config.1.minimumDailyTradedValue
      let liquidity ← divide multiple 2
      Checked.build SwingTechnicalMetricsFields.check
        { momentumReturn := momentum
          trendQuality := trend
          volumeConfirmation := volume
          medianTradedValue := value
          atr := atr
          relativeStrength := clamp strength
          liquidityQuality := clamp liquidity
          evidenceIds := (lastOf config.1.required history.1.bars).map (·.1.evidenceId) }) := by
    unfold calculateSwingTechnicalMetrics
    dsimp only
    rw [raiseIf_neg (not_lt.mpr hlength), ok_bind, hcurrent, ok_bind, hfirst, ok_bind, hmomentum, ok_bind]
    refine bind_congr fun trend => ?_
    rw [hvolume, ok_bind, hvalue, ok_bind, hatr, ok_bind]
  rw [hstart]
  have htwo : 2 ≤ config.1.trendLookbackSessions := by
    have := hconfig.trend
    omega
  obtain ⟨trend, hquality, htrendUnit⟩ := trendQuality_ok htwo hrequired current
  rw [hquality, ok_bind]
  by_cases hrange : Ranged config history.1.bars
  · have hpos : 0 < atr := hatrPos.mpr hrange
    have hids : ∀ id ∈ (lastOf config.1.required history.1.bars).map (·.1.evidenceId), stripText id.toList ≠ [] := by
      intro id hid
      obtain ⟨bar, -, rfl⟩ := List.mem_map.mp hid
      exact (barFacts bar).evidence
    have hnodup : ((lastOf config.1.required history.1.bars).map (·.1.evidenceId)).Nodup := by
      rw [map_lastOf]
      exact (historyFacts history).evidence.sublist (List.drop_sublist _ _)
    have hne : (lastOf config.1.required history.1.bars).map (·.1.evidenceId) ≠ [] := by
      intro hnil
      have hzero := congrArg List.length hnil
      rw [List.length_map, length_lastOf hrequired, List.length_nil] at hzero
      have := lookbacks_le config.1
      omega
    rw [raiseIf_neg (not_le.mpr hpos), ok_bind, divide_ok hconfig.fullMomentum.ne', ok_bind,
      divide_ok hconfig.minimumTraded.ne', ok_bind, divide_ok (by norm_num), ok_bind]
    have htexts : ¬((lastOf config.1.required history.1.bars).map (·.1.evidenceId) = [] ∨
        ∃ id ∈ (lastOf config.1.required history.1.bars).map (·.1.evidenceId), stripText id.toList = []) := by
      rintro (hnil | ⟨id, hid, hblank⟩)
      · exact hne hnil
      · exact hids id hid hblank
    have hcheck : ∀ m : SwingTechnicalMetricsFields, m.atr = atr → m.medianTradedValue = value →
        m.evidenceIds = (lastOf config.1.required history.1.bars).map (·.1.evidenceId) → m.check = .ok () := by
      intro m hmatr hmvalue hmids
      unfold SwingTechnicalMetricsFields.check
      rw [hmatr, hmvalue, hmids, raiseIf_neg (not_le.mpr hpos), ok_bind, raiseIf_neg (not_lt.mpr hvaluePos.le), ok_bind,
        raiseIf_neg htexts, ok_bind, raiseIf_neg (not_not.mpr hnodup)]
    exact .inl ⟨hrange, ⟨_, hcheck _ rfl rfl rfl⟩, Checked.build_of_ok (hcheck _ rfl rfl rfl), htrendUnit,
      hvolumeUnit, clamp_unit _, clamp_unit _, hatr, hpos⟩
  · refine .inr ⟨hrange, ?_⟩
    rw [raiseIf_pos (not_lt.mp fun hpos => hrange (hatrPos.mp hpos)), error_bind]

/-- Metrics that were calculated have their facts. -/
theorem metricsFacts (h : calculateSwingTechnicalMetrics history config = .ok metrics) :
    MetricsFacts config history.1.bars metrics.1 := by
  have hlength : config.1.minimumHistorySessions ≤ history.1.bars.length := not_lt.mp (raiseIf_bind_eq_ok.mp h).1
  have htrend : config.1.trendLookbackSessions ≠ 1 := by
    intro hone
    obtain ⟨-, h⟩ := raiseIf_bind_eq_ok.mp h
    obtain ⟨current, -, h⟩ := bind_eq_ok.mp h
    obtain ⟨_, -, h⟩ := bind_eq_ok.mp h
    obtain ⟨_, -, h⟩ := bind_eq_ok.mp h
    obtain ⟨_, hquality, -⟩ := bind_eq_ok.mp h
    obtain ⟨fraction, hfraction, -⟩ := bind_eq_ok.mp hquality
    have hcount : (lastOf config.1.trendLookbackSessions history.1.bars).length = 1 := by
      rw [length_lastOf ((lookbacks_le config.1).2.1.trans ((configFacts config).required.trans hlength)), hone]
    rw [hcount, Nat.sub_self, Nat.cast_zero] at hfraction
    exact divide_zero _ hfraction
  rcases metrics_cases htrend hlength with ⟨-, found, hfound, hfacts⟩ | ⟨-, herror⟩
  · obtain rfl : found = metrics := Except.ok.inj (hfound.symm.trans h)
    exact hfacts
  · rw [herror] at h
    cases h

end Metrics

section Levels

variable {config : DeterministicSwingSignalConfig} {close tick atr cost : ℚ} {levels : SwingTradeLevels}

/-- The close is on the tick grid and a tick remains below it at the ATR stop. -/
def Levelled (config : DeterministicSwingSignalConfig) (close tick atr : ℚ) : Prop :=
  close = tickFloor close tick ∧
    1 ≤ signalContext.div (signalContext.sub close (signalContext.mul config.1.stopAtrMultiple atr)) tick

/-- The levels around an aligned close lie in order, and the stop is positive where a tick remains at it. -/
theorem tradeLevels_ordered (hclose : 0 < close) (htick : 0 < tick) (hatr : 0 < atr) (hcost : 0 ≤ cost)
    (haligned : close = tickFloor close tick) : (tradeLevels close tick atr cost config).entryLow = close ∧
      close ≤ (tradeLevels close tick atr cost config).entryHigh ∧
      0 < (tradeLevels close tick atr cost config).target ∧
      (0 < (tradeLevels close tick atr cost config).stop ↔
        1 ≤ signalContext.div (signalContext.sub close (signalContext.mul config.1.stopAtrMultiple atr)) tick) := by
  have hconfig := configFacts config
  have hbuffer : 0 ≤ signalContext.mul config.1.entryAtrBuffer atr :=
    ofPrecision_nonneg (mul_nonneg hconfig.buffer.le hatr.le)
  have hmultiple : 0 ≤ signalContext.mul config.1.stopAtrMultiple atr :=
    ofPrecision_nonneg (mul_nonneg hconfig.stopMultiple.le hatr.le)
  -- an aligned close is itself a rounded value
  have hfits : signalContext.round close = close := by
    rw [haligned]
    exact fits_round (by decide)
  have hhigh : close ≤ tickCeiling (signalContext.add close (signalContext.mul config.1.entryAtrBuffer atr)) tick := by
    have hle : close ≤ signalContext.add close (signalContext.mul config.1.entryAtrBuffer atr) :=
      calc close = signalContext.round close := hfits.symm
        _ ≤ signalContext.add close (signalContext.mul config.1.entryAtrBuffer atr) :=
          ofPrecision_mono (by decide) hclose.le (le_add_of_nonneg_right hbuffer)
    exact haligned.le.trans (tickFloor_le_tickCeiling htick hclose.le hle)
  unfold tradeLevels
  dsimp only
  rw [← haligned]
  generalize tickCeiling (signalContext.add close (signalContext.mul config.1.entryAtrBuffer atr)) tick = high at hhigh
  have hhighPos : 0 < high := hclose.trans_le hhigh
  have hstop : 0 < tickFloor (signalContext.sub close (signalContext.mul config.1.stopAtrMultiple atr)) tick ↔
      1 ≤ signalContext.div (signalContext.sub close (signalContext.mul config.1.stopAtrMultiple atr)) tick :=
    tickFloor_pos_iff htick
  have hstopLe : tickFloor (signalContext.sub close (signalContext.mul config.1.stopAtrMultiple atr)) tick ≤ high := by
    by_cases hroom : 1 ≤ signalContext.div (signalContext.sub close (signalContext.mul config.1.stopAtrMultiple atr)) tick
    · have hdifference : 0 < signalContext.sub close (signalContext.mul config.1.stopAtrMultiple atr) :=
        (div_pos_iff_of (by decide) htick).mp (zero_lt_one.trans_le hroom)
      have hexact : 0 < close - signalContext.mul config.1.stopAtrMultiple atr :=
        sub_pos.mpr ((sub_pos_iff_of (by decide)).mp hdifference)
      have hdown : signalContext.sub close (signalContext.mul config.1.stopAtrMultiple atr) ≤ close :=
        round_le_of_fits hfits hexact.le (sub_le_self _ hmultiple)
      exact ((tickFloor_mono htick hdifference.le hdown).trans haligned.ge).trans hhigh
    · exact (not_lt.mp fun hpos => hroom (hstop.mp hpos)).trans hhighPos.le
  have hshare : 0 ≤ signalContext.div (signalContext.mul high cost) 10000 :=
    div_nonneg_of (ofPrecision_nonneg (mul_nonneg hhighPos.le hcost)) (by norm_num)
  have hloss : 0 ≤ signalContext.add (signalContext.sub high
      (tickFloor (signalContext.sub close (signalContext.mul config.1.stopAtrMultiple atr)) tick))
      (signalContext.div (signalContext.mul high cost) 10000) :=
    add_nonneg_of (ofPrecision_nonneg (sub_nonneg.mpr hstopLe)) hshare
  refine ⟨rfl, hhigh, tickCeiling_pos htick ?_, hstop⟩
  refine ofPrecision_pos (by decide) (add_pos_of_pos_of_nonneg ?_
    (ofPrecision_nonneg (mul_nonneg hconfig.rewardRisk.le hloss)))
  exact ofPrecision_pos (by decide) (add_pos_of_pos_of_nonneg hhighPos hshare)

/-- Levels are calculated, or refused for a close off the grid or a stop that is not positive. -/
theorem levels_cases (hclose : 0 < close) (htick : 0 < tick) (hatr : 0 < atr) (hcost : 0 ≤ cost) :
    (Levelled config close tick atr ∧ ∃ levels, calculateSwingTradeLevels close tick atr cost config = .ok levels ∧
      levels.1 = tradeLevels close tick atr cost config) ∨
    (¬Levelled config close tick atr ∧ ∃ message ∈ ["signal close is not tick-aligned", "ATR stop is non-positive"],
      calculateSwingTradeLevels close tick atr cost config = .error (.signal message)) := by
  have hstart : calculateSwingTradeLevels close tick atr cost config = (do
      raiseIf (close ≠ tickFloor close tick) (.signal "signal close is not tick-aligned")
      Checked.build SwingTradeLevelsFields.check (tradeLevels close tick atr cost config)) := by
    unfold calculateSwingTradeLevels
    rw [raiseIf_neg (not_le.mpr hclose), ok_bind, raiseIf_neg (not_le.mpr htick), ok_bind, raiseIf_neg (not_le.mpr hatr),
      ok_bind, raiseIf_neg (not_lt.mpr hcost), ok_bind]
  rw [hstart]
  by_cases haligned : close = tickFloor close tick
  · obtain ⟨hlow, hhigh, htarget, hstop⟩ := @tradeLevels_ordered config _ _ _ _ hclose htick hatr hcost haligned
    have hlowPos : 0 < (tradeLevels close tick atr cost config).entryLow := hclose.trans_eq hlow.symm
    have hcheck : (tradeLevels close tick atr cost config).check = (do
        raiseIf ((tradeLevels close tick atr cost config).stop ≤ 0) (.signal "ATR stop is non-positive")
        raiseIf (cost < 0) (.signal "levels.estimated_cost_bps cannot be negative")) := by
      unfold SwingTradeLevelsFields.check
      rw [raiseIf_neg (not_le.mpr hlowPos), ok_bind, raiseIf_neg (not_le.mpr (hclose.trans_le hhigh)), ok_bind,
        raiseIf_neg (not_le.mpr htarget), ok_bind]
      rfl
    rw [raiseIf_neg (not_not.mpr haligned), ok_bind]
    by_cases hroom : 1 ≤ signalContext.div (signalContext.sub close (signalContext.mul config.1.stopAtrMultiple atr)) tick
    · have hok : (tradeLevels close tick atr cost config).check = .ok () := by
        rw [hcheck, raiseIf_neg (not_le.mpr (hstop.mpr hroom)), ok_bind, raiseIf_neg (not_lt.mpr hcost)]
      exact .inl ⟨⟨haligned, hroom⟩, ⟨_, hok⟩, Checked.build_of_ok hok, rfl⟩
    · have herror : (tradeLevels close tick atr cost config).check = .error (.signal "ATR stop is non-positive") := by
        rw [hcheck, raiseIf_pos (not_lt.mp fun hpos => hroom (hstop.mp hpos)), error_bind]
      exact .inr ⟨fun h => hroom h.2, _, List.mem_cons_of_mem _ List.mem_cons_self, Checked.build_of_error herror⟩
  · refine .inr ⟨fun h => haligned h.1, _, List.mem_cons_self, ?_⟩
    rw [raiseIf_pos haligned, error_bind]

end Levels

end IndiaSwing.Signals
