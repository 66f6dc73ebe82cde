import IndiaSwing.TechnicalVectors

namespace IndiaSwing.Features

open DecimalContext ExceptGuards Windows

variable {history : FeatureInputHistory} {config : TechnicalFeatureConfig} {cutoff : Instant}
variable {bars : List FeatureInputBar} {p c : FeatureInputBar} {m : Measured} {n : ℤ}

section Config

theorem le_foldl_max (start : ℤ) (values : List ℤ) :
    start ≤ values.foldl max start ∧ ∀ n ∈ values, n ≤ values.foldl max start := by
  induction values generalizing start with
  | nil => exact ⟨le_rfl, fun n hn => absurd hn List.not_mem_nil⟩
  | cons v values ih =>
    obtain ⟨hstart, hvalues⟩ := ih (max start v)
    refine ⟨(le_max_left _ _).trans hstart, fun n hn => ?_⟩
    rcases List.mem_cons.mp hn with rfl | hn
    · exact (le_max_right _ _).trans hstart
    · exact hvalues n hn

/-- What the constructor of a configuration says. -/
structure ConfigBounds (c : TechnicalFeatureConfigFields) : Prop where
  pos : ∀ n ∈ c.counts, 0 < n
  shortTrend : 2 ≤ c.shortTrendSessions
  required : ∀ n ∈ c.requiredCounts, n ≤ c.minimumHistorySessions

theorem configBounds (config : TechnicalFeatureConfig) : ConfigBounds config.1 := by
  obtain ⟨hpos, hcheck⟩ := raiseIf_bind_eq_ok.mp config.2
  obtain ⟨htrend, hrest⟩ := not_or.mp (raiseIf_eq_ok.mp hcheck)
  obtain ⟨-, hrest⟩ := not_or.mp hrest
  obtain ⟨-, hrest⟩ := not_or.mp hrest
  obtain ⟨-, hrequired⟩ := not_or.mp hrest
  refine ⟨fun n hn => ?_, not_lt.mp htrend, fun n hn => ?_⟩
  · by_contra hle
    exact hpos ⟨n, hn, not_lt.mp hle⟩
  · exact ((le_foldl_max _ _).2 n hn).trans (not_lt.mp hrequired)

end Config

section Bars

/-- The bar stays at one price, the close of the bar before. -/
def Unmoved (pair : FeatureInputBar × FeatureInputBar) : Prop :=
  pair.2.adjustedHigh = pair.2.adjustedLow ∧ pair.2.adjustedHigh = pair.1.adjustedClose

instance (pair : FeatureInputBar × FeatureInputBar) : Decidable (Unmoved pair) := inferInstanceAs (Decidable (_ ∧ _))

/-- Every bar of the last sessions stays at one price. -/
def Flat (sessions : ℤ) (bars : List FeatureInputBar) : Prop :=
  ∀ pair ∈ lastOf sessions.toNat (steps bars), Unmoved pair

/-- The bars of some sessions before the signal span no range. -/
def Rangeless (sessions : ℤ) (bars : List FeatureInputBar) : Prop :=
  ∀ b ∈ beforeLast sessions.toNat bars, ∀ b' ∈ beforeLast sessions.toNat bars, b.adjustedHigh ≤ b'.adjustedLow

/-- More than half of the sessions before the signal have no volume. -/
def Untraded (sessions : ℤ) (bars : List FeatureInputBar) : Prop :=
  (beforeLast sessions.toNat bars).length / 2 < (beforeLast sessions.toNat bars).countP (·.adjustedVolume = 0)

instance (sessions : ℤ) (bars : List FeatureInputBar) : Decidable (Flat sessions bars) :=
  inferInstanceAs (Decidable (∀ pair ∈ _, _))

instance (sessions : ℤ) (bars : List FeatureInputBar) : Decidable (Rangeless sessions bars) :=
  inferInstanceAs (Decidable (∀ b ∈ _, ∀ b' ∈ _, _))

instance (sessions : ℤ) (bars : List FeatureInputBar) : Decidable (Untraded sessions bars) :=
  inferInstanceAs (Decidable (_ < _))

theorem low_le_high (b : FeatureInputBar) : b.adjustedLow ≤ b.adjustedHigh :=
  (le_min_iff.mp (le_min_iff.mp b.low_bound).1).2

theorem high_pos (b : FeatureInputBar) : 0 < b.adjustedHigh := b.low_pos.trans_le (low_le_high b)

theorem trueRange_nonneg : 0 ≤ trueRange p c :=
  (abs_nonneg _).trans ((le_max_right _ _).trans (le_max_left _ _))

theorem trueRange_eq_zero : trueRange p c = 0 ↔ Unmoved (p, c) := by
  have hdifference : ∀ a b : ℚ, featureContext.sub a b = 0 ↔ a = b := fun a b =>
    round_eq_zero_iff.trans sub_eq_zero
  unfold trueRange Unmoved
  dsimp only
  constructor
  · intro hzero
    have hspan : featureContext.sub c.adjustedHigh c.adjustedLow = 0 := by
      refine le_antisymm ?_ (round_nonneg (sub_nonneg.mpr (low_le_high c)))
      exact ((le_max_left _ _).trans (le_max_left _ _)).trans hzero.le
    have hhigh : |featureContext.sub c.adjustedHigh p.adjustedClose| = 0 := by
      refine le_antisymm ?_ (abs_nonneg _)
      exact ((le_max_right _ _).trans (le_max_left _ _)).trans hzero.le
    exact ⟨(hdifference _ _).mp hspan, (hdifference _ _).mp (abs_eq_zero.mp hhigh)⟩
  · rintro ⟨hsame, hclose⟩
    have hzero : featureContext.sub c.adjustedHigh c.adjustedHigh = 0 := (hdifference _ _).mpr rfl
    rw [← hsame, ← hclose, hzero, abs_zero, max_self, max_self]

end Bars

section Measures

/-- What the first part of the computation finds in a history that is long enough. -/
structure Measures (history : FeatureInputHistory) (config : TechnicalFeatureConfig) (m : Measured) : Prop where
  currentAt : barFromEnd 1 history.bars = .ok m.current
  shortAverage : 0 < m.shortAverage
  longAverage : 0 < m.longAverage
  positiveFraction : 0 ≤ m.positiveFraction ∧ m.positiveFraction ≤ 1
  atr : 0 < m.atr ↔ ¬Flat config.1.atrSessions history.bars
  annualizedVolatility : 0 ≤ m.annualizedVolatility
  priorLow : 0 < m.priorLow ∧ m.priorLow ≤ m.priorHigh
  priorRange : 0 < m.priorRange ↔ ¬Rangeless config.1.breakoutSessions history.bars
  medianVolume : 0 < m.medianVolume ↔ ¬Untraded config.1.liquiditySessions history.bars
  medianTradedValue : 0 < m.medianTradedValue ↔ ¬Untraded config.1.liquiditySessions history.bars
  longTrueRange : 0 < m.longTrueRange ↔ ¬Flat config.1.contractionLongSessions history.bars
  shortTrueRange : 0 < m.shortTrueRange ↔ ¬Flat config.1.contractionShortSessions history.bars
  shortTrueRange_nonneg : 0 ≤ m.shortTrueRange

/-- A window of the true ranges: its mean is positive exactly if a bar of it moves. -/
theorem mean_trueRanges (hpos : 0 < n) (hlength : n + 1 ≤ bars.length) :
    ∃ average, mean (lastOf n.toNat (trueRanges bars)) = .ok average ∧ 0 ≤ average ∧
      (0 < average ↔ ¬Flat n bars) := by
  have hwindow : lastOf n.toNat (trueRanges bars) =
      (lastOf n.toNat (steps bars)).map fun pair => trueRange pair.1 pair.2 := (map_lastOf _).symm
  have hcount : (lastOf n.toNat (steps bars)).length = n.toNat := length_lastOf (by rw [length_steps]; omega)
  have hne : lastOf n.toNat (trueRanges bars) ≠ [] := by
    rw [hwindow]
    refine List.ne_nil_of_length_pos ?_
    rw [List.length_map, hcount]
    omega
  obtain ⟨average, haverage, hnonneg, hiff⟩ := mean_ok hne fun v hv => by
    rw [hwindow] at hv
    obtain ⟨pair, -, rfl⟩ := List.mem_map.mp hv
    exact trueRange_nonneg
  refine ⟨average, haverage, hnonneg, hiff.trans ?_⟩
  rw [hwindow]
  constructor
  · rintro ⟨v, hv, hpos⟩ hflat
    obtain ⟨pair, hpair, rfl⟩ := List.mem_map.mp hv
    exact hpos.ne' (trueRange_eq_zero.mpr (hflat pair hpair))
  · intro hmoves
    unfold Flat at hmoves
    push Not at hmoves
    obtain ⟨pair, hpair, hmove⟩ := hmoves
    refine ⟨_, List.mem_map_of_mem hpair, lt_of_le_of_ne trueRange_nonneg fun hzero => ?_⟩
    exact hmove (trueRange_eq_zero.mp hzero.symm)

theorem mean_closes (hpos : 0 < n) (hlength : n ≤ history.bars.length) :
    ∃ average, mean (lastOf n.toNat (closes history)) = .ok average ∧ 0 < average := by
  have hcount : (lastOf n.toNat (closes history)).length = n.toNat :=
    length_lastOf (by rw [closes, List.length_map]; omega)
  have hne : lastOf n.toNat (closes history) ≠ [] := List.ne_nil_of_length_pos (by omega)
  have hcloses : ∀ v ∈ lastOf n.toNat (closes history), 0 < v := by
    intro v hv
    obtain ⟨b, -, rfl⟩ := List.mem_map.mp (mem_of_mem_lastOf hv)
    exact b.close_pos
  obtain ⟨average, haverage, -, hiff⟩ := mean_ok hne fun v hv => (hcloses v hv).le
  obtain ⟨v, hv⟩ := List.exists_mem_of_ne_nil _ hne
  exact ⟨average, haverage, hiff.mpr ⟨v, hv, hcloses v hv⟩⟩

theorem returns_ok (bars : List FeatureInputBar) : ∃ changes, returns bars = .ok changes ∧ changes.length = bars.length - 1 := by
  obtain ⟨changes, hchanges, hforall⟩ := mapM_exists (f := fun pair : FeatureInputBar × FeatureInputBar =>
      relativeChange pair.2.adjustedClose pair.1.adjustedClose) (P := fun _ _ => True)
    fun pair (_ : pair ∈ steps bars) => by
      obtain ⟨change, hchange⟩ := relativeChange_ok (a := pair.2.adjustedClose) pair.1.close_pos.ne'
      exact ⟨change, hchange, trivial⟩
  exact ⟨changes, hchanges, by rw [← hforall.length_eq, length_steps]⟩

theorem positiveFraction_ok {values : List ℚ} (hlength : 2 ≤ values.length) : ∃ fraction,
    divide (countSteps (fun a b => decide (a < b)) values) ((values.length : ℚ) - 1) = .ok fraction ∧
      0 ≤ fraction ∧ fraction ≤ 1 := by
  have hcast : ((values.length : ℚ) - 1) = ((values.length - 1 : ℕ) : ℚ) := by
    rw [Nat.cast_sub (by omega)]
    norm_num
  have hpos : (0 : ℚ) < ((values.length - 1 : ℕ) : ℚ) := Nat.cast_pos.mpr (by omega)
  have hcount : countSteps (fun a b => decide (a < b)) values ≤ values.length - 1 := by
    unfold countSteps
    rw [← length_steps]
    exact List.countP_le_length
  rw [hcast, divide_ok hpos.ne']
  exact ⟨_, rfl, quotient_nonneg (Nat.cast_nonneg _) hpos,
    quotient_le_one (Nat.cast_nonneg _) hpos (Nat.cast_le.mpr hcount)⟩

/-- The breakout window: its range is positive exactly if its bars span one. -/
theorem breakout_ok {window : List FeatureInputBar} (hne : window ≠ []) : ∃ high low,
    largest (window.map (·.adjustedHigh)) = .ok high ∧ smallest (window.map (·.adjustedLow)) = .ok low ∧
      0 < low ∧ low ≤ high ∧
      (0 < featureContext.sub high low ↔ ¬∀ b ∈ window, ∀ b' ∈ window, b.adjustedHigh ≤ b'.adjustedLow) := by
  obtain ⟨high, hhigh, hlargest, habove⟩ := largest_ok (window.map (·.adjustedHigh)) (by simpa using hne)
  obtain ⟨low, hlow, hsmallest, hbelow⟩ := smallest_ok (window.map (·.adjustedLow)) (by simpa using hne)
  obtain ⟨top, htop, rfl⟩ := List.mem_map.mp hhigh
  obtain ⟨bottom, hbottom, rfl⟩ := List.mem_map.mp hlow
  have hle : bottom.adjustedLow ≤ top.adjustedHigh :=
    (hbelow _ (List.mem_map_of_mem htop)).trans (low_le_high top)
  refine ⟨_, _, hlargest, hsmallest, bottom.low_pos, hle, (difference_pos_iff hle).trans ?_⟩
  constructor
  · intro hlt hall
    exact absurd (hall top htop bottom hbottom) (not_le.mpr hlt)
  · intro hspan
    by_contra hnot
    refine hspan fun b hb b' hb' => ?_
    calc b.adjustedHigh ≤ top.adjustedHigh := habove _ (List.mem_map_of_mem hb)
      _ ≤ bottom.adjustedLow := not_lt.mp hnot
      _ ≤ b'.adjustedLow := hbelow _ (List.mem_map_of_mem hb')

/-- The medians of the liquidity window are positive exactly if half of its sessions have volume. -/
theorem liquidity_ok (hpos : 0 < n) (hlength : n + 1 ≤ history.bars.length) : ∃ medianVolume medianTradedValue,
    median (beforeLast n.toNat (volumes history)) = .ok medianVolume ∧
      median (beforeLast n.toNat (tradedValues history)) = .ok medianTradedValue ∧
      (0 < medianVolume ↔ ¬Untraded n history.bars) ∧ (0 < medianTradedValue ↔ ¬Untraded n history.bars) := by
  have hvolumes : beforeLast n.toNat (volumes history) =
      (beforeLast n.toNat history.bars).map (·.adjustedVolume) := (map_beforeLast _).symm
  have htraded : beforeLast n.toNat (tradedValues history) = (beforeLast n.toNat history.bars).map fun b =>
      featureContext.mul b.adjustedClose b.adjustedVolume := (map_beforeLast _).symm
  have hcount : (beforeLast n.toNat history.bars).length = n.toNat := length_beforeLast (by omega)
  have hne : beforeLast n.toNat history.bars ≠ [] := List.ne_nil_of_length_pos (by omega)
  obtain ⟨medianVolume, hmedian, hvolume⟩ := median_ok ((beforeLast n.toNat history.bars).map
    (·.adjustedVolume)) (by simpa using hne) fun v hv => by
      obtain ⟨b, -, rfl⟩ := List.mem_map.mp hv
      exact b.volume_nonneg
  obtain ⟨medianTraded, hmedianTraded, hvalue⟩ := median_ok ((beforeLast n.toNat history.bars).map fun b =>
    featureContext.mul b.adjustedClose b.adjustedVolume) (by simpa using hne) fun v hv => by
      obtain ⟨b, -, rfl⟩ := List.mem_map.mp hv
      exact round_nonneg (mul_nonneg b.close_pos.le b.volume_nonneg)
  have hzeros : ((beforeLast n.toNat history.bars).map fun b =>
      featureContext.mul b.adjustedClose b.adjustedVolume).countP (· = 0) =
        (beforeLast n.toNat history.bars).countP (·.adjustedVolume = 0) := by
    rw [List.countP_map]
    refine List.countP_congr fun b _ => ?_
    simp only [Function.comp_apply, decide_eq_true_eq]
    refine round_eq_zero_iff.trans ?_
    rw [mul_eq_zero]
    exact or_iff_right b.close_pos.ne'
  rw [hvolumes, htraded]
  refine ⟨_, _, hmedian, hmedianTraded, hvolume.trans ?_, hvalue.trans ?_⟩
  · rw [List.countP_map, List.length_map]
    exact not_lt.symm
  · rw [hzeros, List.length_map]
    exact not_lt.symm

/-- A history of enough sessions is measured. -/
theorem measure_ok (hlength : config.1.minimumHistorySessions ≤ history.bars.length) :
    ∃ m, measure history config = .ok m ∧ Measures history config m := by
  obtain ⟨hpos, htrend, hrequired⟩ := configBounds config
  have hneeds : ∀ n ∈ config.1.requiredCounts, n ≤ history.bars.length := fun n hn => (hrequired n hn).trans hlength
  simp only [TechnicalFeatureConfigFields.requiredCounts, List.forall_mem_cons] at hneeds
  simp only [TechnicalFeatureConfigFields.counts, List.forall_mem_cons] at hpos
  obtain ⟨-, -, -, hshort, hlong, hatr, hvolatility, hliquidity, hbreakout, -, hcontractionShort, hcontractionLong, -⟩ :=
    hneeds
  obtain ⟨-, -, -, -, hshortPos, hlongPos, hatrPos, hvolatilityPos, hliquidityPos, hbreakoutPos, -,
    hcontractionShortPos, hcontractionLongPos, -, hannualPos, -⟩ := hpos
  obtain ⟨current, -, hcurrent⟩ := fromEnd_isSome Nat.one_pos (by omega : 1 ≤ history.bars.length)
  have hcurrentOk : barFromEnd 1 history.bars = .ok current := by
    unfold barFromEnd
    rw [hcurrent]
    rfl
  obtain ⟨changes, hchanges, hchangesLength⟩ := returns_ok history.bars
  obtain ⟨shortAverage, hshortAverage, hshortAveragePos⟩ := mean_closes hshortPos hshort
  obtain ⟨longAverage, hlongAverage, hlongAveragePos⟩ := mean_closes hlongPos hlong
  have hshortCloses : (lastOf config.1.shortTrendSessions.toNat (closes history)).length =
      config.1.shortTrendSessions.toNat := length_lastOf (by rw [closes, List.length_map]; omega)
  obtain ⟨fraction, hfraction, hfractionBounds⟩ := positiveFraction_ok
    (by omega : 2 ≤ (lastOf config.1.shortTrendSessions.toNat (closes history)).length)
  obtain ⟨atr, hatrOk, -, hatrIff⟩ := mean_trueRanges hatrPos hatr
  have hwindow : (lastOf config.1.volatilitySessions.toNat changes).length = config.1.volatilitySessions.toNat :=
    length_lastOf (by omega)
  obtain ⟨variance, hvariance, hvarianceNonneg⟩ := varianceOf_ok
    (List.ne_nil_of_length_pos (by omega) : lastOf config.1.volatilitySessions.toNat changes ≠ [])
  have hbars : (beforeLast config.1.breakoutSessions.toNat history.bars).length = config.1.breakoutSessions.toNat :=
    length_beforeLast (by omega)
  obtain ⟨high, low, hhigh, hlow, hlowPos, hlowHigh, hrange⟩ := breakout_ok
    (List.ne_nil_of_length_pos (by omega) : beforeLast config.1.breakoutSessions.toNat history.bars ≠ [])
  obtain ⟨medianVolume, medianTraded, hmedianVolume, hmedianTraded, hvolumeIff, htradedIff⟩ :=
    liquidity_ok hliquidityPos hliquidity
  obtain ⟨longRange, hlongRange, -, hlongIff⟩ := mean_trueRanges hcontractionLongPos hcontractionLong
  obtain ⟨shortRange, hshortRange, hshortNonneg, hshortIff⟩ := mean_trueRanges hcontractionShortPos hcontractionShort
  have hannual : (0 : ℚ) ≤ (config.1.annualizationSessions : ℚ) := Int.cast_nonneg hannualPos.le
  refine ⟨⟨current, shortAverage, longAverage, fraction, atr,
    featureContext.mul (DecimalContext.sqrt 28 variance) (DecimalContext.sqrt 28 config.1.annualizationSessions), high,
    low, featureContext.sub high low, medianVolume, medianTraded, longRange, shortRange⟩, ?_, ?_⟩
  · unfold measure
    rw [hcurrentOk, ok_bind, hchanges, ok_bind, hshortAverage, ok_bind, hlongAverage, ok_bind]
    dsimp only
    rw [hfraction, ok_bind, hatrOk, ok_bind, hvariance, ok_bind, squareRoot_ok hvarianceNonneg, ok_bind,
      squareRoot_ok hannual, ok_bind]
    rw [hhigh, ok_bind, hlow, ok_bind, hmedianVolume, ok_bind, hmedianTraded, ok_bind, hlongRange, ok_bind, hshortRange]
    rfl
  · exact ⟨hcurrentOk, hshortAveragePos, hlongAveragePos, hfractionBounds, hatrIff,
      round_nonneg (mul_nonneg sqrt_nonneg sqrt_nonneg), ⟨hlowPos, hlowHigh⟩, hrange, hvolumeIff, htradedIff, hlongIff,
      hshortIff, hshortNonneg⟩

end Measures

end IndiaSwing.Features
