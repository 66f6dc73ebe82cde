import IndiaSwing.CrossSectionSteps

namespace IndiaSwing.CrossSection

open ExceptGuards KeySort SortedTuples Features DenseRanks DecimalContext

section Exact

variable {c : CrossSectionConfigFields} {w : AlphaRegimeWeighting} {r : CellRanks} {v : TechnicalVector}
variable {vectors : List TechnicalVector}

/-- Percentiles between zero and one. -/
structure UnitRanks (r : CellRanks) : Prop where
  short : 0 ≤ r.short ∧ r.short ≤ 1
  long : 0 ≤ r.long ∧ r.long ≤ 1
  liquidity : 0 ≤ r.liquidity ∧ r.liquidity ≤ 1
  lowVolatility : 0 ≤ r.lowVolatility ∧ r.lowVolatility ≤ 1
  lowTickFriction : 0 ≤ r.lowTickFriction ∧ r.lowTickFriction ≤ 1

theorem percentileOf_unit {values : List ℚ} {a : ℚ} (ha : a ∈ values) (higherIsBetter : Bool) :
    0 ≤ percentileOf .exact values higherIsBetter a ∧ percentileOf .exact values higherIsBetter a ≤ 1 := by
  have hlow := percentile_nonneg values.toFinset a
  have hhigh := percentile_le_one (List.mem_toFinset.mpr ha)
  cases higherIsBetter with
  | true =>
    rw [percentileOf_exact ha]
    exact ⟨hlow, hhigh⟩
  | false =>
    rw [percentileOf_exact_lower ha]
    constructor <;> linarith

theorem unitRanks (hv : v ∈ vectors) : UnitRanks (ranksOf .exact vectors v.1) where
  short := percentileOf_unit (List.mem_map.mpr ⟨v, hv, rfl⟩) true
  long := percentileOf_unit (List.mem_map.mpr ⟨v, hv, rfl⟩) true
  liquidity := percentileOf_unit (List.mem_map.mpr ⟨v, hv, rfl⟩) true
  lowVolatility := percentileOf_unit (List.mem_map.mpr ⟨v, hv, rfl⟩) false
  lowTickFriction := percentileOf_unit (List.mem_map.mpr ⟨v, hv, rfl⟩) false

/-- The weights of a checked weighting. -/
structure WeightBounds (w : AlphaRegimeWeighting) : Prop where
  momentum : 0 ≤ w.momentumBreakout
  pullback : 0 ≤ w.pullbackContinuation
  volatility : 0 ≤ w.volatilityContraction
  liquidity : 0 ≤ w.liquidityQuality
  total : w.momentumBreakout + w.pullbackContinuation + w.volatilityContraction + w.liquidityQuality = 1

theorem weightBounds (hw : w.check .exact = .ok ()) : WeightBounds w := by
  have hunit := fun specialist => (isUnit_eq_true.mp (weightFor_unit hw specialist)).1
  unfold AlphaRegimeWeighting.check at hw
  rw [raiseIf_bind_eq_ok, raiseIf_eq_ok, not_not] at hw
  have htotal := hw.2
  rw [exact_sum] at htotal
  simp only [AlphaRegimeWeighting.weights, List.sum_cons, List.sum_nil] at htotal
  exact ⟨hunit .momentumBreakout, hunit .pullbackContinuation, hunit .volatilityContraction, hunit .liquidityQuality,
    by linarith⟩

/-- Qualities between zero and one. -/
structure UnitQualities (q : Qualities) : Prop where
  breakout : 0 ≤ q.breakout ∧ q.breakout ≤ 1
  volume : 0 ≤ q.volume ∧ q.volume ≤ 1
  contraction : 0 ≤ q.contraction ∧ q.contraction ≤ 1
  trendGate : 0 ≤ q.trendGate ∧ q.trendGate ≤ 1
  pullback : 0 ≤ q.pullback ∧ q.pullback ≤ 1

theorem unitQualities (ctx : DecimalContext) (c : CrossSectionConfigFields) (v : TechnicalVectorFields) :
    UnitQualities (qualitiesOf ctx c v) where
  breakout := ⟨clamp_nonneg _, clamp_le_one _⟩
  volume := ⟨clamp_nonneg _, clamp_le_one _⟩
  contraction := ⟨clamp_nonneg _, clamp_le_one _⟩
  trendGate := ⟨clamp_nonneg _, clamp_le_one _⟩
  pullback := ⟨clamp_nonneg _, clamp_le_one _⟩

/-- With exact arithmetic no clamp of a raw score is reached. -/
def unclampedScore (r : CellRanks) (q : Qualities) : AlphaSpecialist → ℚ
  | .momentumBreakout => 7 / 20 * r.short + 1 / 4 * r.long + 1 / 4 * q.breakout + 3 / 20 * q.volume
  | .pullbackContinuation => q.trendGate * (1 / 2 * q.pullback + 1 / 4 * r.short + 1 / 4 * q.volume)
  | .volatilityContraction => 2 / 5 * q.contraction + 1 / 4 * q.breakout + 1 / 5 * r.lowVolatility + 3 / 20 * q.volume
  | .liquidityQuality => 3 / 4 * r.liquidity + 1 / 4 * r.lowTickFriction

theorem unclampedScore_unit {q : Qualities} (hr : UnitRanks r) (hq : UnitQualities q) (specialist : AlphaSpecialist) :
    0 ≤ unclampedScore r q specialist ∧ unclampedScore r q specialist ≤ 1 := by
  obtain ⟨⟨hs, hs'⟩, ⟨hl, hl'⟩, ⟨hm, hm'⟩, ⟨hv, hv'⟩, ⟨ht, ht'⟩⟩ := hr
  obtain ⟨⟨hb, hb'⟩, ⟨hvol, hvol'⟩, ⟨hc, hc'⟩, ⟨hg, hg'⟩, ⟨hp, hp'⟩⟩ := hq
  cases specialist with
  | liquidityQuality =>
    unfold unclampedScore
    constructor <;> linarith
  | momentumBreakout =>
    unfold unclampedScore
    constructor <;> linarith
  | pullbackContinuation =>
    have hinner : 0 ≤ 1 / 2 * q.pullback + 1 / 4 * r.short + 1 / 4 * q.volume := by linarith
    have hinner' : 1 / 2 * q.pullback + 1 / 4 * r.short + 1 / 4 * q.volume ≤ 1 := by linarith
    exact ⟨mul_nonneg hg hinner, mul_le_one₀ hg' hinner hinner'⟩
  | volatilityContraction =>
    unfold unclampedScore
    constructor <;> linarith

theorem rawScore_exact {q : Qualities} (hr : UnitRanks r) (hq : UnitQualities q) (specialist : AlphaSpecialist) :
    rawScore .exact r q specialist = unclampedScore r q specialist := by
  have hunit := unclampedScore_unit hr hq specialist
  cases specialist with
  | liquidityQuality => exact clamp_of_unit hunit
  | momentumBreakout => exact clamp_of_unit hunit
  | pullbackContinuation => exact clamp_of_unit hunit
  | volatilityContraction => exact clamp_of_unit hunit

theorem ensemble_exact (hr : UnitRanks r) (c : CrossSectionConfigFields) (w : AlphaRegimeWeighting)
    (v : TechnicalVectorFields) :
    ensemble .exact c w v r =
      unclampedScore r (qualitiesOf .exact c v) .liquidityQuality * w.liquidityQuality +
      unclampedScore r (qualitiesOf .exact c v) .momentumBreakout * w.momentumBreakout +
      unclampedScore r (qualitiesOf .exact c v) .pullbackContinuation * w.pullbackContinuation +
      unclampedScore r (qualitiesOf .exact c v) .volatilityContraction * w.volatilityContraction := by
  have hraw := fun specialist => rawScore_exact hr (unitQualities .exact c v) specialist
  unfold ensemble
  rw [exact_sum]
  simp only [AlphaSpecialist.all, List.map_cons, List.map_nil, List.sum_cons, List.sum_nil, exact_mul, hraw,
    AlphaRegimeWeighting.weightFor]
  ring

/-- An ensemble score lies between zero and one: it is a mean of scores that do. -/
theorem ensembleIn_unit (hw : w.check .exact = .ok ()) (c : CrossSectionConfigFields) (hv : v ∈ vectors) :
    isUnit (ensembleIn .exact c w vectors v.1) = true := by
  obtain ⟨hmomentum, hpullback, hvolatility, hliquidity, htotal⟩ := weightBounds hw
  have hr := unitRanks hv
  have hscore := fun specialist => unclampedScore_unit hr (unitQualities .exact c v.1) specialist
  rw [isUnit_eq_true, ensembleIn, ensemble_exact hr]
  constructor
  · have h1 := mul_nonneg (hscore .liquidityQuality).1 hliquidity
    have h2 := mul_nonneg (hscore .momentumBreakout).1 hmomentum
    have h3 := mul_nonneg (hscore .pullbackContinuation).1 hpullback
    have h4 := mul_nonneg (hscore .volatilityContraction).1 hvolatility
    linarith
  · have h1 := mul_le_of_le_one_left hliquidity (hscore .liquidityQuality).2
    have h2 := mul_le_of_le_one_left hmomentum (hscore .momentumBreakout).2
    have h3 := mul_le_of_le_one_left hpullback (hscore .pullbackContinuation).2
    have h4 := mul_le_of_le_one_left hvolatility (hscore .volatilityContraction).2
    linarith

end Exact

section Improvement

variable {before after : List TechnicalVector} {v v' u : TechnicalVector} {c : CrossSectionConfigFields}
variable {w : AlphaRegimeWeighting} {hex : ContentId → String} {panelId : ContentId}

/-- A vector that is at least as good in the features that do not enter the regime, and otherwise the same. -/
structure Improves (v v' : TechnicalVectorFields) : Prop where
  rest : v' = { v with
    returnShort := v'.returnShort
    returnLong := v'.returnLong
    medianPriorTradedValue := v'.medianPriorTradedValue
    signalTickFraction := v'.signalTickFraction }
  returnShort : v.returnShort ≤ v'.returnShort
  returnLong : v.returnLong ≤ v'.returnLong
  medianPriorTradedValue : v.medianPriorTradedValue ≤ v'.medianPriorTradedValue
  signalTickFraction : v'.signalTickFraction ≤ v.signalTickFraction

/-- The values of a feature of the other vectors. -/
def otherValues (before after : List TechnicalVector) (feature : TechnicalVectorFields → ℚ) : Finset ℚ :=
  ((before ++ after).map (feature ·.1)).toFinset

theorem toFinset_values (before after : List TechnicalVector) (v : TechnicalVector)
    (feature : TechnicalVectorFields → ℚ) :
    ((before ++ v :: after).map (feature ·.1)).toFinset = insert (feature v.1) (otherValues before after feature) := by
  ext value
  simp [otherValues]

/-- The exchange of one vector keeps the percentiles of a feature in which it does not differ. -/
theorem map_values_eq {γ : Type} (before after : List TechnicalVector) {feature : TechnicalVectorFields → γ}
    (h : feature v'.1 = feature v.1) :
    (before ++ v' :: after).map (feature ·.1) = (before ++ v :: after).map (feature ·.1) := by
  rw [List.map_append, List.map_append, List.map_cons, List.map_cons, h]

theorem percentile_replace (v : TechnicalVector) (feature : TechnicalVectorFields → ℚ) {a : ℚ}
    (ha : a ∈ (before ++ v :: after).map (feature ·.1)) :
    percentileOf .exact ((before ++ v :: after).map (feature ·.1)) true a =
        percentile (insert (feature v.1) (otherValues before after feature)) a ∧
      percentileOf .exact ((before ++ v :: after).map (feature ·.1)) false a =
        1 - percentile (insert (feature v.1) (otherValues before after feature)) a := by
  rw [percentileOf_exact ha, percentileOf_exact_lower ha, toFinset_values]
  exact ⟨rfl, rfl⟩

theorem own_vector_mem (before after : List TechnicalVector) (v : TechnicalVector) : v ∈ before ++ v :: after :=
  List.mem_append_right _ List.mem_cons_self

theorem other_vector_mem (hu : u ∈ before ++ after) (v : TechnicalVector) : u ∈ before ++ v :: after := by
  rcases List.mem_append.mp hu with hbefore | hafter
  · exact List.mem_append_left _ hbefore
  · exact List.mem_append_right _ (List.mem_cons_of_mem _ hafter)

theorem own_mem (before after : List TechnicalVector) (v : TechnicalVector) (feature : TechnicalVectorFields → ℚ) :
    feature v.1 ∈ (before ++ v :: after).map (feature ·.1) :=
  List.mem_map.mpr ⟨v, own_vector_mem before after v, rfl⟩

theorem other_mem (hu : u ∈ before ++ after) (v : TechnicalVector) (feature : TechnicalVectorFields → ℚ) :
    feature u.1 ∈ (before ++ v :: after).map (feature ·.1) := List.mem_map.mpr ⟨u, other_vector_mem hu v, rfl⟩

theorem other_mem_values (hu : u ∈ before ++ after) (feature : TechnicalVectorFields → ℚ) :
    feature u.1 ∈ otherValues before after feature := List.mem_toFinset.mpr (List.mem_map.mpr ⟨u, hu, rfl⟩)

theorem own_mono (before after : List TechnicalVector) {feature : TechnicalVectorFields → ℚ} (h : feature v.1 ≤ feature v'.1) :
    percentileOf .exact ((before ++ v :: after).map (feature ·.1)) true (feature v.1) ≤
      percentileOf .exact ((before ++ v' :: after).map (feature ·.1)) true (feature v'.1) := by
  rw [(percentile_replace v feature (own_mem before after v feature)).1,
    (percentile_replace v' feature (own_mem before after v' feature)).1]
  exact percentile_self_mono h

theorem own_antitone (before after : List TechnicalVector) {feature : TechnicalVectorFields → ℚ} (h : feature v'.1 ≤ feature v.1) :
    percentileOf .exact ((before ++ v :: after).map (feature ·.1)) false (feature v.1) ≤
      percentileOf .exact ((before ++ v' :: after).map (feature ·.1)) false (feature v'.1) := by
  have hself := @percentile_self_mono _ _ (otherValues before after feature) _ _ h
  rw [(percentile_replace v feature (own_mem before after v feature)).2,
    (percentile_replace v' feature (own_mem before after v' feature)).2]
  linarith

theorem gain_higher {feature : TechnicalVectorFields → ℚ} (h : feature v.1 ≤ feature v'.1) (hu : u ∈ before ++ after) :
    percentileOf .exact ((before ++ v' :: after).map (feature ·.1)) true (feature u.1) -
        percentileOf .exact ((before ++ v :: after).map (feature ·.1)) true (feature u.1) ≤
      percentileOf .exact ((before ++ v' :: after).map (feature ·.1)) true (feature v'.1) -
        percentileOf .exact ((before ++ v :: after).map (feature ·.1)) true (feature v.1) := by
  rw [(percentile_replace v feature (own_mem before after v feature)).1,
    (percentile_replace v' feature (own_mem before after v' feature)).1,
    (percentile_replace v feature (other_mem hu v feature)).1, (percentile_replace v' feature (other_mem hu v' feature)).1]
  exact percentile_gain (other_mem_values hu feature) h

/-- Where less is better, the exchange back is an increase. -/
theorem gain_lower {feature : TechnicalVectorFields → ℚ} (h : feature v'.1 ≤ feature v.1) (hu : u ∈ before ++ after) :
    percentileOf .exact ((before ++ v' :: after).map (feature ·.1)) false (feature u.1) -
        percentileOf .exact ((before ++ v :: after).map (feature ·.1)) false (feature u.1) ≤
      percentileOf .exact ((before ++ v' :: after).map (feature ·.1)) false (feature v'.1) -
        percentileOf .exact ((before ++ v :: after).map (feature ·.1)) false (feature v.1) := by
  have hother := percentile_gain (other_mem_values hu feature) h
  rw [(percentile_replace v feature (own_mem before after v feature)).2,
    (percentile_replace v' feature (own_mem before after v' feature)).2,
    (percentile_replace v feature (other_mem hu v feature)).2, (percentile_replace v' feature (other_mem hu v' feature)).2]
  linarith

/-- The increase of the short return changes how many short returns there are, to another vector's gain, and that
vector's trend gate is the wider one. -/
def PullbackRebased (c : CrossSectionConfigFields) (before after : List TechnicalVector)
    (v v' u : TechnicalVectorFields) : Prop :=
  Rebased (otherValues before after (·.returnShort)) v.returnShort v'.returnShort u.returnShort ∧
    trendGate .exact c v < trendGate .exact c u

theorem short_other_le (h : v.1.returnShort ≤ v'.1.returnShort) (hu : u ∈ before ++ after)
    (hsame : ¬Rebased (otherValues before after (·.returnShort)) v.1.returnShort v'.1.returnShort u.1.returnShort) :
    percentileOf .exact ((before ++ v' :: after).map (·.1.returnShort)) true u.1.returnShort ≤
      percentileOf .exact ((before ++ v :: after).map (·.1.returnShort)) true u.1.returnShort := by
  rw [(percentile_replace v (·.returnShort) (other_mem hu v (·.returnShort))).1,
    (percentile_replace v' (·.returnShort) (other_mem hu v' (·.returnShort))).1]
  exact percentile_other_le (other_mem_values hu (·.returnShort)) h hsame

theorem Improves.qualities {v v' : TechnicalVectorFields} (h : Improves v v') (ctx : DecimalContext)
    (c : CrossSectionConfigFields) : qualitiesOf ctx c v' = qualitiesOf ctx c v := by
  rw [h.rest]
  rfl

theorem Improves.cell {v v' : TechnicalVectorFields} (h : Improves v v') : cellOf v' = cellOf v := by
  rw [h.rest]
  rfl

theorem Improves.volatility {v v' : TechnicalVectorFields} (h : Improves v v') :
    v'.annualizedRealizedVolatility = v.annualizedRealizedVolatility := by
  rw [h.rest]

theorem volatility_eq (before after : List TechnicalVector) (h : Improves v.1 v'.1) (a : ℚ) :
    percentileOf .exact ((before ++ v' :: after).map (·.1.annualizedRealizedVolatility)) false a =
      percentileOf .exact ((before ++ v :: after).map (·.1.annualizedRealizedVolatility)) false a := by
  rw [map_values_eq before after h.volatility]

/-- The improved vector's score does not fall. -/
theorem ensembleIn_mono (h : Improves v.1 v'.1) (hw : w.check .exact = .ok ()) (c : CrossSectionConfigFields) :
    ensembleIn .exact c w (before ++ v :: after) v.1 ≤ ensembleIn .exact c w (before ++ v' :: after) v'.1 := by
  obtain ⟨hmomentum, hpullback, hvolatility, hliquidity, -⟩ := weightBounds hw
  have hgate := (unitQualities .exact c v.1).trendGate.1
  have hshort := own_mono before after h.returnShort
  have hlong := own_mono before after h.returnLong
  have hvalue := own_mono before after h.medianPriorTradedValue
  have htick := own_antitone before after h.signalTickFraction
  have hsame := volatility_eq before after h v.1.annualizedRealizedVolatility
  rw [ensembleIn, ensembleIn, ensemble_exact (unitRanks (own_vector_mem before after v)),
    ensemble_exact (unitRanks (own_vector_mem before after v')), h.qualities]
  unfold unclampedScore ranksOf
  dsimp only
  rw [h.volatility, hsame]
  gcongr

/-- Unless another vector gains on it through the pullback, the improved vector's score grows at least as much. -/
theorem ensembleIn_gain (h : Improves v.1 v'.1) (hw : w.check .exact = .ok ()) (c : CrossSectionConfigFields)
    (hu : u ∈ before ++ after) (hsame : ¬PullbackRebased c before after v.1 v'.1 u.1) :
    ensembleIn .exact c w (before ++ v' :: after) u.1 - ensembleIn .exact c w (before ++ v :: after) u.1 ≤
      ensembleIn .exact c w (before ++ v' :: after) v'.1 - ensembleIn .exact c w (before ++ v :: after) v.1 := by
  obtain ⟨hmomentum, hpullback, -, hliquidity, -⟩ := weightBounds hw
  have hgate := (unitQualities .exact c v.1).trendGate.1
  have hother := (unitQualities .exact c u.1).trendGate.1
  have hown := own_mono before after h.returnShort
  have hshort := gain_higher h.returnShort hu
  have hlong := gain_higher h.returnLong hu
  have hvalue := gain_higher h.medianPriorTradedValue hu
  have htick := gain_lower h.signalTickFraction hu
  have hvolatility := volatility_eq before after h v.1.annualizedRealizedVolatility
  have hvolatilityOther := volatility_eq before after h u.1.annualizedRealizedVolatility
  -- the other vector gains by its pullback only where its gate is not the wider one
  have hgated : (qualitiesOf .exact c u.1).trendGate *
      (percentileOf .exact ((before ++ v' :: after).map (·.1.returnShort)) true u.1.returnShort -
        percentileOf .exact ((before ++ v :: after).map (·.1.returnShort)) true u.1.returnShort) ≤
      (qualitiesOf .exact c v.1).trendGate *
        (percentileOf .exact ((before ++ v' :: after).map (·.1.returnShort)) true v'.1.returnShort -
          percentileOf .exact ((before ++ v :: after).map (·.1.returnShort)) true v.1.returnShort) := by
    by_cases hrebased : Rebased (otherValues before after (·.returnShort)) v.1.returnShort v'.1.returnShort
        u.1.returnShort
    · have hle : (qualitiesOf .exact c u.1).trendGate ≤ (qualitiesOf .exact c v.1).trendGate :=
        not_lt.mp fun hlt => hsame ⟨hrebased, hlt⟩
      calc _ ≤ (qualitiesOf .exact c u.1).trendGate *
            (percentileOf .exact ((before ++ v' :: after).map (·.1.returnShort)) true v'.1.returnShort -
              percentileOf .exact ((before ++ v :: after).map (·.1.returnShort)) true v.1.returnShort) :=
            mul_le_mul_of_nonneg_left hshort hother
        _ ≤ _ := mul_le_mul_of_nonneg_right hle (sub_nonneg.mpr hown)
    · have hloss := short_other_le h.returnShort hu hrebased
      have hleft := mul_nonpos_of_nonneg_of_nonpos hother (sub_nonpos.mpr hloss)
      exact hleft.trans (mul_nonneg hgate (sub_nonneg.mpr hown))
  have h1 := mul_le_mul_of_nonneg_right hvalue hliquidity
  have h2 := mul_le_mul_of_nonneg_right htick hliquidity
  have h3 := mul_le_mul_of_nonneg_right hshort hmomentum
  have h4 := mul_le_mul_of_nonneg_right hlong hmomentum
  have h5 := mul_le_mul_of_nonneg_right hgated hpullback
  rw [ensembleIn, ensembleIn, ensembleIn, ensembleIn, ensemble_exact (unitRanks (own_vector_mem before after v)),
    ensemble_exact (unitRanks (own_vector_mem before after v')), ensemble_exact (unitRanks (other_vector_mem hu v)),
    ensemble_exact (unitRanks (other_vector_mem hu v')), h.qualities]
  unfold unclampedScore ranksOf
  dsimp only
  rw [h.volatility, hvolatility, hvolatilityOther]
  linarith

theorem cells_eq (before after : List TechnicalVector) (h : Improves v.1 v'.1) :
    (before ++ v' :: after).map (cellOf ·.1) = (before ++ v :: after).map (cellOf ·.1) :=
  map_values_eq before after h.cell

theorem featureIds_nodup {vectors : List TechnicalVector} (h : (vectors.map (cellOf ·.1)).Nodup) :
    (vectors.map (featureId ·.1)).Nodup := by
  refine nodup_map_of h fun a _ b _ heq => ?_
  simp only [featureId, ContentId.ofFields_inj, true_and, List.cons.injEq] at heq
  exact Prod.ext heq.2.2.1 heq.2.2.2.1

/-- The regime does not depend on what improves. -/
theorem regimeEvidence_replace {ctx : DecimalContext} {evidence : RegimeEvidence hex} (h : Improves v.1 v'.1)
    (hnodup : ((before ++ v :: after).map (cellOf ·.1)).Nodup)
    (hevidence : regimeEvidence ctx hex (before ++ v :: after) c panelId = .ok evidence) :
    ∃ evidence', regimeEvidence ctx hex (before ++ v' :: after) c panelId = .ok evidence' ∧
      evidence'.1.regime = evidence.1.regime := by
  have hdistance : v'.1.distanceFromLongAverage = v.1.distanceFromLongAverage := by
    rw [h.rest]
  have hmedium : v'.1.returnMedium = v.1.returnMedium := by
    rw [h.rest]
  have hbreadth : ((before ++ v' :: after).countP fun v => 0 < v.1.distanceFromLongAverage) =
      (before ++ v :: after).countP fun v => 0 < v.1.distanceFromLongAverage := by
    rw [List.countP_append, List.countP_append, List.countP_cons, List.countP_cons, hdistance]
  have hlength : (before ++ v' :: after).length = (before ++ v :: after).length := by simp
  have hnodup' := featureIds_nodup (cells_eq before after h ▸ hnodup)
  unfold regimeEvidence at hevidence ⊢
  dsimp only at hevidence ⊢
  rw [hbreadth, hlength, map_values_eq before after hmedium, map_values_eq before after h.volatility]
  obtain ⟨momentum, hmomentum, hevidence⟩ := bind_eq_ok.mp hevidence
  obtain ⟨volatility, hvolatility, hevidence⟩ := bind_eq_ok.mp hevidence
  rw [hmomentum, ok_bind, hvolatility, ok_bind]
  have hchecked := evidence.2
  rw [← Checked.build_eq_ok.mp hevidence] at hchecked ⊢
  unfold RegimeEvidenceFields.check at hchecked
  simp only [raiseIf_eq_ok, not_or, not_not] at hchecked
  obtain ⟨hcount, hunit, hnonneg, -, -⟩ := hchecked
  refine ⟨_, Checked.build_of_ok ?_, rfl⟩
  unfold RegimeEvidenceFields.check
  simp only [raiseIf_eq_ok, not_or, not_not]
  refine ⟨hcount, hunit, hnonneg, ?_, ?_⟩
  · rw [(perm_sortOn hex _).length_eq, List.length_map, hlength]
  · rw [List.dedup_eq_self.mpr ((perm_sortOn hex _).nodup_iff.mpr hnodup')]
    exact (sortOn_of_pairwise hex (sortOn_pairwise hex _)).symm

/-- Of two vectors, the one of the higher score is not in a later tier. -/
theorem OpportunityOf.tier_le_iff {vectors : List TechnicalVector} {a b : TechnicalVector}
    {o p : OpportunityScore .exact} (ha : a ∈ vectors) (hb : b ∈ vectors) (ho : OpportunityOf .exact c w vectors a o)
    (hp : OpportunityOf .exact c w vectors b p) :
    o.1.rankTier ≤ p.1.rankTier ↔ ensembleIn .exact c w vectors b.1 ≤ ensembleIn .exact c w vectors a.1 := by
  rw [ho.tier, hp.tier]
  exact tierOf_le_iff (List.mem_map.mpr ⟨a, ha, rfl⟩) (List.mem_map.mpr ⟨b, hb, rfl⟩)

/-- The cell of an opportunity. -/
def opportunityCell {ctx : DecimalContext} (o : OpportunityScore ctx) : CellKey :=
  (o.1.stableInstrumentId, o.1.stableListingId)

theorem eq_of_cell {vectors : List TechnicalVector} {a b : TechnicalVector} {o : OpportunityScore .exact}
    (hnodup : (vectors.map (cellOf ·.1)).Nodup) (ha : a ∈ vectors) (hb : b ∈ vectors)
    (ho : OpportunityOf .exact c w vectors a o) (hcell : opportunityCell o = cellOf b.1) : a = b :=
  List.inj_on_of_nodup_map hnodup ha hb (ho.cell.symm.trans hcell)

/-- With exact arithmetic the score of an improved vector does not fall, and the vector does not fall behind
another one that it was level with or ahead of, unless that one gains on it through the pullback. -/
theorem improved_vector_keeps_rank {config : CrossSectionConfig .exact} {evidence : Option (RegimeEvidence hex)}
    {opportunities : List (OpportunityScore .exact)} (himproves : Improves v.1 v'.1)
    (h : scorePromotedFeatureVectors .exact hex (before ++ v :: after) panelId config = .ok (evidence, opportunities)) :
    ∃ evidence' opportunities',
      scorePromotedFeatureVectors .exact hex (before ++ v' :: after) panelId config = .ok (evidence', opportunities') ∧
      evidence'.map (·.1.regime) = evidence.map (·.1.regime) ∧
      ∀ o ∈ opportunities, opportunityCell o = cellOf v.1 →
        ∃ o' ∈ opportunities', opportunityCell o' = cellOf v.1 ∧ o.1.ensembleScore ≤ o'.1.ensembleScore ∧
          ∀ u ∈ before ++ after, ¬PullbackRebased config.1 before after v.1 v'.1 u.1 →
            ∀ p ∈ opportunities, opportunityCell p = cellOf u.1 → o.1.rankTier ≤ p.1.rankTier →
              ∃ p' ∈ opportunities', opportunityCell p' = cellOf u.1 ∧ o'.1.rankTier ≤ p'.1.rankTier := by
  have hcells := cells_eq before after himproves
  have hlength : (before ++ v' :: after).length = (before ++ v :: after).length := by simp
  obtain _ | evidence := evidence
  · -- the cross-section is too small before and after
    unfold scorePromotedFeatureVectors at h ⊢
    rw [raiseIf_bind_eq_ok, not_not] at h
    obtain ⟨hnodup, h⟩ := h
    split at h
    next hcount =>
      refine ⟨none, [], ?_, rfl, ?_⟩
      · rw [raiseIf_neg (by rw [hcells, not_not]; exact hnodup), ok_bind, if_pos (by rw [hlength]; exact hcount)]
        rfl
      · rw [← (Prod.mk.inj (Except.ok.inj h)).2]
        exact fun o ho => absurd ho List.not_mem_nil
    next =>
      obtain ⟨found, -, h⟩ := bind_eq_ok.mp h
      obtain ⟨parts, -, h⟩ := bind_eq_ok.mp h
      obtain ⟨tiers, -, h⟩ := bind_eq_ok.mp h
      obtain ⟨scored, -, h⟩ := bind_eq_ok.mp h
      cases Except.ok.inj h
  · obtain ⟨hnodup, hcount, hne, hevidence, w, hweighting⟩ := scorePromotedFeatureVectors_some h
    have hw := weighting_checked hweighting
    obtain ⟨evidence', hevidence', hregime⟩ := regimeEvidence_replace himproves hnodup hevidence
    obtain ⟨found, hfound, hscored⟩ := scorePromotedFeatureVectors_ok hnodup hcount hne hevidence hweighting
      fun v hv => ensembleIn_unit hw config.1 hv
    obtain ⟨opportunities', hopportunities', hscored'⟩ := scorePromotedFeatureVectors_ok
      (hcells ▸ hnodup) (by rw [hlength]; exact hcount) (by simp) hevidence' (by rw [hregime]; exact hweighting)
      fun v hv => ensembleIn_unit hw config.1 hv
    obtain rfl : found = opportunities := (Prod.mk.inj (Except.ok.inj (hfound.symm.trans h))).2
    refine ⟨some evidence', opportunities', hopportunities', by rw [Option.map_some, Option.map_some, hregime], ?_⟩
    intro o ho hcell
    obtain ⟨a, ha, hof⟩ := hscored.source o ho
    obtain rfl := eq_of_cell hnodup ha (own_vector_mem before after v) hof hcell
    obtain ⟨o', ho', hof'⟩ := hscored'.scored v' (own_vector_mem before after v')
    refine ⟨o', ho', hof'.cell.trans himproves.cell, ?_, ?_⟩
    · rw [hof.score, hof'.score]
      exact ensembleIn_mono himproves hw config.1
    · intro u hu hsame p hp hpcell hle
      obtain ⟨b, hb, hpf⟩ := hscored.source p hp
      obtain rfl := eq_of_cell hnodup hb (other_vector_mem hu a) hpf hpcell
      obtain ⟨p', hp', hpf'⟩ := hscored'.scored b (other_vector_mem hu v')
      have hbefore := (hof.tier_le_iff ha hb hpf).mp hle
      have hgain := ensembleIn_gain himproves hw config.1 hu hsame
      refine ⟨p', hp', hpf'.cell, (hof'.tier_le_iff (own_vector_mem before after v') (other_vector_mem hu v') hpf').mpr ?_⟩
      linarith

end Improvement

section Samples

/-- A vector of a cell that differs from others in its short return, its distance from the average and its breakout. -/
def flatVector (cell : ℕ) (returnShort distance breakout : ℚ) : TechnicalVectorFields where
  sourceHistoryId := .digest 1
  configId := .digest 2
  stableInstrumentId := .digest cell
  stableListingId := .digest 3
  signalSession := 1
  cutoff := 5
  knowledgeTime := 4
  inputBarIds := [.digest 4]
  returnShort := returnShort
  returnMedium := 0
  returnLong := 0
  simpleMovingAverageShort := 100
  simpleMovingAverageLong := 100
  distanceFromShortAverage := 0
  distanceFromLongAverage := distance
  positiveCloseFractionShort := 1 / 2
  averageTrueRange := 2
  averageTrueRangeFraction := 1 / 50
  annualizedRealizedVolatility := 1 / 5
  priorBreakoutHigh := 110
  priorBreakoutLow := 90
  breakoutDistance := breakout
  rangePosition := 1 / 2
  maximumDrawdown := 0
  signalGapReturn := 0
  medianPriorVolume := 1000
  signalVolumeRatio := 0
  medianPriorTradedValue := 100000
  signalTradedValueRatio := 1
  zeroVolumeFraction := 0
  rangeContractionRatio := 1
  signalTickSize := 1 / 20
  signalTickFraction := 1 / 2000
  averageTrueRangeInTicks := 40
  tickChangeCount := 0

theorem flatVector_check (cell : ℕ) (returnShort distance breakout : ℚ) :
    (flatVector cell returnShort distance breakout).check = .ok () := by
  unfold TechnicalVectorFields.check flatVector
  rw [raiseIf_neg (by simp), ok_bind, raiseIf_neg (by norm_num), ok_bind, raiseIf_neg (by norm_num)]

def flat (cell : ℕ) (returnShort distance breakout : ℚ) : TechnicalVector :=
  ⟨flatVector cell returnShort distance breakout, flatVector_check cell returnShort distance breakout⟩

/-- Three vectors of short returns 1, 3 and 0, all far above their average. -/
def flatPeers : List TechnicalVector :=
  [flat 11 (1 / 100) (1 / 10) (-1 / 5), flat 12 (3 / 100) (1 / 10) (-1 / 5), flat 13 0 (1 / 10) (-1 / 5)]

/-- A configuration that scores by the pullback alone. -/
def pullbackConfig : CrossSectionConfigFields :=
  ⟨4, 3 / 5, 1 / 50, 7 / 20, 7 / 20, 1 / 10, 1 / 25, 3 / 50, 1 / 10, 2, 3 / 2,
    marketRegimes.map fun regime => ⟨regime, 0, 1, 0, 0⟩⟩

theorem pullbackConfig_check : pullbackConfig.check .exact = .ok () := by decide +kernel

def scoreFlat (returnShort : ℚ) : Except String (Option (RegimeEvidence fun _ => "") × List (OpportunityScore .exact)) :=
  scorePromotedFeatureVectors .exact (fun _ => "") (flat 10 returnShort (1 / 40) 0 :: flatPeers) (.digest 9)
    ⟨pullbackConfig, pullbackConfig_check⟩

theorem improved_vector_keeps_rank_flat :
    Improves (flatVector 10 (2 / 100) (1 / 40) 0) (flatVector 10 (3 / 100) (1 / 40) 0) ∧
      ∃ evidence opportunities, scoreFlat (2 / 100) = .ok (evidence, opportunities) ∧
        ∃ evidence' opportunities', scoreFlat (3 / 100) = .ok (evidence', opportunities') ∧
          evidence'.map (·.1.regime) = evidence.map (·.1.regime) ∧
          ∀ o ∈ opportunities, opportunityCell o = (.digest 10, .digest 3) →
            ∃ o' ∈ opportunities', opportunityCell o' = (.digest 10, .digest 3) ∧
              o.1.ensembleScore ≤ o'.1.ensembleScore := by
  have himproves : Improves (flat 10 (2 / 100) (1 / 40) 0).1 (flat 10 (3 / 100) (1 / 40) 0).1 :=
    ⟨rfl, by decide +kernel, le_rfl, le_rfl, le_rfl⟩
  obtain ⟨⟨evidence, opportunities⟩, hscored, -⟩ :=
    @exists_ok_of_any _ _ (scoreFlat (2 / 100)) (fun _ => true) (by decide +kernel)
  refine ⟨himproves, evidence, opportunities, hscored, ?_⟩
  obtain ⟨evidence', opportunities', hscored', hregime, hkeeps⟩ :=
    @improved_vector_keeps_rank [] flatPeers _ _ (fun _ => "") (.digest 9) ⟨pullbackConfig, pullbackConfig_check⟩
      evidence opportunities himproves hscored
  refine ⟨evidence', opportunities', hscored', hregime, fun o ho hcell => ?_⟩
  obtain ⟨o', ho', hcell', hscore, -⟩ := hkeeps o ho hcell
  exact ⟨o', ho', hcell', hscore⟩

/-- A short return that rises to the next higher one leaves one distinct return fewer: a vector below it, with a
wider trend gate, gains more and overtakes it. -/
theorem risen_return_is_overtaken :
    ∃ evidence opportunities evidence' opportunities', scoreFlat (2 / 100) = .ok (evidence, opportunities) ∧
      scoreFlat (3 / 100) = .ok (evidence', opportunities') ∧
      (∃ o ∈ opportunities, ∃ p ∈ opportunities, opportunityCell o = (.digest 10, .digest 3) ∧
        opportunityCell p = (.digest 11, .digest 3) ∧ o.1.rankTier ≤ p.1.rankTier) ∧
      ∃ o' ∈ opportunities', ∃ p' ∈ opportunities', opportunityCell o' = (.digest 10, .digest 3) ∧
        opportunityCell p' = (.digest 11, .digest 3) ∧ p'.1.rankTier < o'.1.rankTier := by
  obtain ⟨⟨evidence, opportunities⟩, hscored, hbefore⟩ := @exists_ok_of_any _ _ (scoreFlat (2 / 100))
    (fun scored => decide (∃ o ∈ scored.2, ∃ p ∈ scored.2, opportunityCell o = (.digest 10, .digest 3) ∧
      opportunityCell p = (.digest 11, .digest 3) ∧ o.1.rankTier ≤ p.1.rankTier)) (by decide +kernel)
  obtain ⟨⟨evidence', opportunities'⟩, hscored', hafter⟩ := @exists_ok_of_any _ _ (scoreFlat (3 / 100))
    (fun scored => decide (∃ o ∈ scored.2, ∃ p ∈ scored.2, opportunityCell o = (.digest 10, .digest 3) ∧
      opportunityCell p = (.digest 11, .digest 3) ∧ p.1.rankTier < o.1.rankTier)) (by decide +kernel)
  exact ⟨evidence, opportunities, evidence', opportunities', hscored, hscored', of_decide_eq_true hbefore,
    of_decide_eq_true hafter⟩

end Samples

end IndiaSwing.CrossSection
