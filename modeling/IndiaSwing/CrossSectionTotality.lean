import IndiaSwing.CrossSectionMonotone
import IndiaSwing.Lib.DecimalSigns

namespace IndiaSwing.CrossSection

open ExceptGuards KeySort SortedTuples Features DenseRanks DecimalContext

section Orders

variable {ctx : DecimalContext} {values others : List ℚ} {a b : ℚ}

theorem percentileOf_perm (h : values.Perm others) (higherIsBetter : Bool) (a : ℚ) :
    percentileOf ctx values higherIsBetter a = percentileOf ctx others higherIsBetter a := by
  unfold percentileOf
  rw [sorted_eq_of_perm h.dedup]

theorem tierOf_perm (h : values.Perm others) (a : ℚ) : tierOf values a = tierOf others a := by
  have hsort : values.dedup.insertionSort (· ≥ ·) = others.dedup.insertionSort (· ≥ ·) := by
    have hperm := (List.perm_insertionSort (· ≥ ·) values.dedup).trans
      (h.dedup.trans (List.perm_insertionSort (· ≥ ·) others.dedup).symm)
    exact hperm.eq_of_pairwise' (List.pairwise_insertionSort _ _) (List.pairwise_insertionSort _ _)
  unfold tierOf
  rw [hsort, h.count_eq]

/-- Every tier before that of a score is the tier of a score. -/
theorem exists_tierOf_eq (ha : a ∈ values) {k : ℕ} (hpos : 0 < k) (hk : k < (tierOf values a).1) :
    ∃ b ∈ values, (tierOf values b).1 = k := by
  have hnodup : (values.dedup.insertionSort (· ≥ ·)).Nodup :=
    (List.perm_insertionSort _ _).nodup_iff.mpr values.nodup_dedup
  have hmem : ∀ {b}, b ∈ values.dedup.insertionSort (· ≥ ·) ↔ b ∈ values := fun {b} =>
    (List.mem_insertionSort _).trans List.mem_dedup
  have hlast := List.idxOf_lt_length_iff.mpr (hmem.mpr ha)
  have hlength : k - 1 < (values.dedup.insertionSort (· ≥ ·)).length := by
    unfold tierOf at hk
    dsimp only at hk
    omega
  refine ⟨_, hmem.mp (List.getElem_mem hlength), ?_⟩
  unfold tierOf
  dsimp only
  rw [hnodup.idxOf_getElem]
  omega

/-- The scores in a tier are those that tie with it. -/
theorem tierOf_eq_iff (ha : a ∈ values) (hb : b ∈ values) : (tierOf values b).1 = (tierOf values a).1 ↔ b = a := by
  constructor
  · intro h
    exact le_antisymm ((tierOf_le_iff ha hb).mp h.ge) ((tierOf_le_iff hb ha).mp h.le)
  · intro h
    rw [h]

theorem tieSize_eq (ha : a ∈ values) :
    (tierOf values a).2 = (values.map fun b => (tierOf values b).1).countP (· = (tierOf values a).1) := by
  rw [List.countP_map]
  unfold tierOf
  dsimp only
  rw [List.count_eq_countP]
  apply List.countP_congr
  intro b hb
  have htier := tierOf_eq_iff ha hb
  unfold tierOf at htier
  simpa using htier.symm

end Orders

section Regimes

variable {digits : ℕ} {c : CrossSectionConfigFields} {vectors : List TechnicalVector} {hex : ContentId → String}

/-- The median of values, of which there are some. -/
def middleOf (ctx : DecimalContext) (values : List ℚ) : ℚ := (medianOf ctx values).toOption.getD 0

theorem medianOf_ok {ctx : DecimalContext} {values : List ℚ} (hne : values ≠ []) :
    medianOf ctx values = .ok (middleOf ctx values) := by
  unfold middleOf medianOf
  rw [if_neg hne]
  dsimp only
  split <;> rfl

theorem middleOf_perm {ctx : DecimalContext} {values others : List ℚ} (h : values.Perm others) :
    middleOf ctx values = middleOf ctx others := by
  have hempty : values = [] ↔ others = [] := by
    rw [← List.length_eq_zero_iff, ← List.length_eq_zero_iff, h.length_eq]
  unfold middleOf medianOf
  rw [sorted_eq_of_perm h]
  by_cases hvalues : values = []
  · rw [if_pos hvalues, if_pos (hempty.mp hvalues)]
  · rw [if_neg hvalues, if_neg (mt hempty.mpr hvalues)]

theorem middleOf_nonneg {values : List ℚ} (h : ∀ value ∈ values, 0 ≤ value) :
    0 ≤ middleOf (ofPrecision digits) values := by
  have hget : ∀ i, 0 ≤ (sorted values).getD i 0 := by
    intro i
    rw [List.getD_eq_getElem?_getD]
    cases hi : (sorted values)[i]? with
    | none => exact le_rfl
    | some value => exact h value (mem_sorted.mp (List.mem_of_getElem? hi))
  unfold middleOf medianOf
  split
  · exact le_rfl
  · dsimp only
    split
    · exact hget _
    · exact div_nonneg_of (add_nonneg_of (hget _) (hget _)) (by norm_num)

/-- The regime that the vectors give. -/
def panelRegime (ctx : DecimalContext) (c : CrossSectionConfigFields) (vectors : List TechnicalVector) : MarketRegime :=
  regimeOf c (ctx.div (vectors.countP fun v => 0 < v.1.distanceFromLongAverage) vectors.length)
    (middleOf ctx (vectors.map (·.1.returnMedium))) (middleOf ctx (vectors.map (·.1.annualizedRealizedVolatility)))

theorem volatility_nonneg (v : TechnicalVector) : 0 ≤ v.1.annualizedRealizedVolatility := by
  have hvalid := v.2
  unfold TechnicalVectorFields.check at hvalid
  simp only [raiseIf_bind_eq_ok, raiseIf_eq_ok, not_or, not_lt] at hvalid
  tauto

theorem regimeEvidence_ok (hdigits : 1 ≤ digits) (hne : vectors ≠ []) (hnodup : (vectors.map (cellOf ·.1)).Nodup)
    (panelId : ContentId) : ∃ evidence, regimeEvidence (ofPrecision digits) hex vectors c panelId = .ok evidence ∧
      evidence.1.regime = panelRegime (ofPrecision digits) c vectors := by
  have hsome : ∀ feature : TechnicalVectorFields → ℚ, vectors.map (feature ·.1) ≠ [] := fun feature =>
    mt List.map_eq_nil_iff.mp hne
  have hlength : 0 < vectors.length := List.length_pos_iff.mpr hne
  have hcount : (vectors.countP fun v => 0 < v.1.distanceFromLongAverage) ≤ vectors.length := List.countP_le_length
  have hvolatility : ∀ value ∈ vectors.map (·.1.annualizedRealizedVolatility), 0 ≤ value := by
    intro value hvalue
    obtain ⟨v, -, rfl⟩ := List.mem_map.mp hvalue
    exact volatility_nonneg v
  have hids := featureIds_nodup hnodup
  unfold regimeEvidence
  dsimp only
  rw [medianOf_ok (hsome (·.returnMedium)), ok_bind, medianOf_ok (hsome (·.annualizedRealizedVolatility)), ok_bind]
  refine ⟨_, Checked.build_of_ok ?_, rfl⟩
  unfold RegimeEvidenceFields.check
  simp only [raiseIf_eq_ok, not_or, not_not, not_lt]
  refine ⟨hlength.ne', isUnit_eq_true.mpr ⟨?_, ?_⟩, middleOf_nonneg hvolatility, ?_, ?_⟩
  · exact div_nonneg_of (Nat.cast_nonneg _) (Nat.cast_pos.mpr hlength)
  · exact div_le_one_of hdigits (Nat.cast_nonneg _) (Nat.cast_pos.mpr hlength) (Nat.cast_le.mpr hcount)
  · rw [(perm_sortOn hex _).length_eq, List.length_map]
  · rw [List.dedup_eq_self.mpr ((perm_sortOn hex _).nodup_iff.mpr hids)]
    exact (sortOn_of_pairwise hex (sortOn_pairwise hex _)).symm

end Regimes

section Spec

variable {ctx : DecimalContext} {c : CrossSectionConfigFields} {w : AlphaRegimeWeighting} {r : CellRanks}
variable {v : TechnicalVector} {vectors : List TechnicalVector} {part : ScoreParts ctx} {hex : ContentId → String}
variable {config : CrossSectionConfig ctx} {panelId : ContentId} {evidence : RegimeEvidence hex}
variable {opportunities : List (OpportunityScore ctx)}

/-- What a specialist says of a vector with its percentiles. -/
def specialistOf (ctx : DecimalContext) (c : CrossSectionConfigFields) (w : AlphaRegimeWeighting)
    (v : TechnicalVectorFields) (r : CellRanks) (specialist : AlphaSpecialist) : SpecialistScoreFields where
  specialist := specialist
  rawScore := rawScore ctx r (qualitiesOf ctx c v) specialist
  regimeWeight := w.weightFor specialist
  weightedScore := ctx.mul (rawScore ctx r (qualitiesOf ctx c v) specialist) (w.weightFor specialist)
  components := sortOn (·.1) (componentsOf r (qualitiesOf ctx c v) specialist)

theorem scorePart_eq_ok (h : scorePart ctx c w v r = .ok part) :
    part.vector = v ∧ part.specialistScores.map (·.1) = AlphaSpecialist.all.map (specialistOf ctx c w v.1 r) ∧
      part.ensembleScore = ensemble ctx c w v.1 r := by
  unfold scorePart at h
  obtain ⟨scores, hscores, h⟩ := bind_eq_ok.mp h
  obtain rfl := Except.ok.inj h
  have hfields : scores.map (·.1) = AlphaSpecialist.all.map (specialistOf ctx c w v.1 r) :=
    Checked.map_of_mapM_build hscores
  have hweighted : scores.map (·.1.weightedScore) =
      AlphaSpecialist.all.map fun specialist => (specialistOf ctx c w v.1 r specialist).weightedScore := by
    have hmap := congrArg (List.map SpecialistScoreFields.weightedScore) hfields
    rw [List.map_map, List.map_map] at hmap
    exact hmap
  refine ⟨rfl, hfields, ?_⟩
  dsimp only
  rw [hweighted]
  rfl

/-- What an opportunity carries of its vector. -/
structure OpportunityIs (ctx : DecimalContext) (c : CrossSectionConfigFields) (w : AlphaRegimeWeighting)
    (vectors : List TechnicalVector) (v : TechnicalVector) (o : OpportunityScore ctx) : Prop where
  cell : opportunityCell o = cellOf v.1
  specialists : o.1.specialistScores.map (·.1) =
    AlphaSpecialist.all.map (specialistOf ctx c w v.1 (ranksOf ctx vectors v.1))
  score : o.1.ensembleScore = ensembleIn ctx c w vectors v.1
  tier : (o.1.rankTier, o.1.tieSize) = tierOf (ensembleScores ctx c w vectors) (ensembleIn ctx c w vectors v.1)

theorem opportunityScore_eq_ok {evidenceId : ContentId} {tiers : List (CellKey × (ℕ × ℕ))} {o : OpportunityScore ctx}
    (hpart : scorePart ctx c w v (ranksOf ctx vectors v.1) = .ok part)
    (hentry : entryOf tiers (cellOf v.1) =
      .ok (tierOf (ensembleScores ctx c w vectors) (ensembleIn ctx c w vectors v.1)))
    (h : opportunityScore ctx evidenceId tiers part = .ok o) : OpportunityIs ctx c w vectors v o := by
  obtain ⟨rfl, hspecialists, hscore⟩ := scorePart_eq_ok hpart
  unfold opportunityScore at h
  rw [hentry, ok_bind] at h
  have hfields := Checked.build_eq_ok.mp h
  constructor
  · unfold opportunityCell
    rw [← hfields]
    rfl
  · rw [← hfields]
    exact hspecialists
  · rw [← hfields]
    exact hscore
  · rw [← hfields]
    rfl

/-- A scoring with evidence gives the opportunities of the vectors, in some order. -/
theorem scored_is (h : scorePromotedFeatureVectors ctx hex vectors panelId config = .ok (some evidence, opportunities)) :
    ∃ w listed, config.1.weightingFor evidence.1.regime = .ok w ∧ opportunities.Perm listed ∧
      List.Forall₂ (OpportunityIs ctx config.1 w vectors) vectors listed := by
  obtain ⟨hnodup, hcount, hne, hevidence, w, hweighting⟩ := scorePromotedFeatureVectors_some h
  unfold scorePromotedFeatureVectors at h
  rw [raiseIf_neg (not_not.mpr hnodup), ok_bind, if_neg hcount, hevidence, ok_bind,
    scoreParts_eq hne hnodup hweighting] at h
  obtain ⟨parts, hparts, h⟩ := bind_eq_ok.mp h
  obtain ⟨tiers, htiers, h⟩ := bind_eq_ok.mp h
  obtain ⟨listed, hlisted, h⟩ := bind_eq_ok.mp h
  obtain ⟨-, rfl⟩ := Prod.mk.inj (Except.ok.inj h)
  have hscored := mapM_eq_ok.mp hparts
  have hpairs : parts.map (fun part => (cellOf part.vector.1, part.ensembleScore)) =
      vectors.map fun v => (cellOf v.1, ensembleIn ctx config.1 w vectors v.1) :=
    (forall₂_map_eq hscored fun v part hpart => by
      obtain ⟨hvector, -, hscore⟩ := scorePart_eq_ok hpart
      exact Prod.ext (by rw [hvector]) hscore.symm).symm
  obtain ⟨tiers', htiers', hentries⟩ := tiers_ok hne hnodup (ensembleIn ctx config.1 w vectors)
  rw [← hpairs, htiers] at htiers'
  obtain rfl := Except.ok.inj htiers'
  have hmem := (List.forall₂_and_left _ _).mpr ⟨fun v hv => hentries v hv, hscored⟩
  refine ⟨w, listed, hweighting, perm_sortOn _ _, forall₂_trans hmem (mapM_eq_ok.mp hlisted) ?_⟩
  intro v part o hpart ho
  exact opportunityScore_eq_ok hpart.2 hpart.1 ho

end Spec

section Weights

variable {digits : ℕ} {c : CrossSectionConfigFields} {w : AlphaRegimeWeighting} {vectors : List TechnicalVector}

/-- The weights of a weighting, rounded and added in the order of the scores. -/
def roundedTotal (ctx : DecimalContext) (w : AlphaRegimeWeighting) : ℚ :=
  ctx.sum 0 (AlphaSpecialist.all.map fun specialist => ctx.round (w.weightFor specialist))

theorem weightedScore_unit (hdigits : 1 ≤ digits) {raw weight : ℚ} (hraw : 0 ≤ raw ∧ raw ≤ 1)
    (hweight : 0 ≤ weight ∧ weight ≤ 1) :
    0 ≤ (ofPrecision digits).mul raw weight ∧ (ofPrecision digits).mul raw weight ≤ 1 :=
  ⟨ofPrecision_nonneg (mul_nonneg hraw.1 hweight.1),
    ofPrecision_le_one hdigits (mul_nonneg hraw.1 hweight.1) (mul_le_one₀ hraw.2 hweight.1 hweight.2)⟩

theorem ensembleIn_nonneg (hdigits : 1 ≤ digits) (hw : w.check (ofPrecision digits) = .ok ())
    (v : TechnicalVectorFields) : 0 ≤ ensembleIn (ofPrecision digits) c w vectors v := by
  apply sum_nonneg_of le_rfl
  intro weighted hweighted
  obtain ⟨specialist, -, rfl⟩ := List.mem_map.mp hweighted
  exact (weightedScore_unit hdigits (isUnit_eq_true.mp (isUnit_rawScore _ _ _ specialist))
    (isUnit_eq_true.mp (weightFor_unit hw specialist))).1

/-- A raw score of at most one takes at most its weight, and the rounded sums keep that order. -/
theorem ensembleIn_le_total (hdigits : 1 ≤ digits) (hw : w.check (ofPrecision digits) = .ok ())
    (v : TechnicalVectorFields) :
    ensembleIn (ofPrecision digits) c w vectors v ≤ roundedTotal (ofPrecision digits) w := by
  apply sum_mono_of hdigits le_rfl le_rfl
  rw [List.forall₂_map_left_iff, List.forall₂_map_right_iff, List.forall₂_same]
  intro specialist _
  have hraw := isUnit_eq_true.mp (isUnit_rawScore (ofPrecision digits) (ranksOf (ofPrecision digits) vectors v)
    (qualitiesOf (ofPrecision digits) c v) specialist)
  have hweight := isUnit_eq_true.mp (weightFor_unit hw specialist)
  refine ⟨(weightedScore_unit hdigits hraw hweight).1, ?_⟩
  exact ofPrecision_mono hdigits (mul_nonneg hraw.1 hweight.1) (mul_le_of_le_one_left hweight.1 hraw.2)

end Weights

end IndiaSwing.CrossSection
