import IndiaSwing.CrossSectionTotality

namespace IndiaSwing.CrossSection

open ExceptGuards KeySort SortedTuples Features DenseRanks DecimalContext

section Renamings

variable {ctx : DecimalContext} {c : CrossSectionConfigFields} {w : AlphaRegimeWeighting} {ρ : CellKey ≃ CellKey}
variable {vectors others : List TechnicalVector} {v v' : TechnicalVector}

/-- A vector under other identifiers. -/
def renamed (ρ : CellKey ≃ CellKey) (v : TechnicalVectorFields) : TechnicalVectorFields :=
  { v with
    stableInstrumentId := (ρ (cellOf v)).1
    stableListingId := (ρ (cellOf v)).2 }

/-- The same vectors under other identifiers, in any order. -/
def Renaming (ρ : CellKey ≃ CellKey) (vectors others : List TechnicalVector) : Prop :=
  (others.map (·.1)).Perm (vectors.map fun v => renamed ρ v.1)

theorem Renaming.values {γ : Type} (h : Renaming ρ vectors others) (feature feature' : TechnicalVectorFields → γ)
    (hfeature : ∀ v, feature (renamed ρ v) = feature' v) :
    (others.map (feature ·.1)).Perm (vectors.map (feature' ·.1)) := by
  have hmap := h.map feature
  rw [List.map_map, List.map_map] at hmap
  have hright : vectors.map (feature ∘ fun v => renamed ρ v.1) = vectors.map (feature' ·.1) :=
    List.map_congr_left fun v _ => hfeature v.1
  rw [hright] at hmap
  exact hmap

theorem Renaming.length (h : Renaming ρ vectors others) : others.length = vectors.length := by
  have hlength := h.length_eq
  rwa [List.length_map, List.length_map] at hlength

theorem Renaming.cells_nodup (h : Renaming ρ vectors others) (hnodup : (vectors.map (cellOf ·.1)).Nodup) :
    (others.map (cellOf ·.1)).Nodup := by
  have hcells := h.values cellOf (fun v => ρ (cellOf v)) fun _ => rfl
  rw [hcells.nodup_iff]
  have hmap := hnodup.map ρ.injective
  rwa [List.map_map] at hmap

theorem Renaming.exists_renamed (h : Renaming ρ vectors others) (hv : v ∈ vectors) :
    ∃ v' ∈ others, v'.1 = renamed ρ v.1 :=
  List.mem_map.mp (h.mem_iff.mpr (List.mem_map.mpr ⟨v, hv, rfl⟩))

theorem Renaming.exists_original (h : Renaming ρ vectors others) (hv : v' ∈ others) :
    ∃ v ∈ vectors, v'.1 = renamed ρ v.1 := by
  obtain ⟨v, hmem, heq⟩ := List.mem_map.mp (h.mem_iff.mp (List.mem_map.mpr ⟨v', hv, rfl⟩))
  exact ⟨v, hmem, heq.symm⟩

theorem Renaming.ranks (h : Renaming ρ vectors others) (v : TechnicalVectorFields) :
    ranksOf ctx others (renamed ρ v) = ranksOf ctx vectors v := by
  unfold ranksOf
  rw [percentileOf_perm (h.values (·.returnShort) (·.returnShort) fun _ => rfl),
    percentileOf_perm (h.values (·.returnLong) (·.returnLong) fun _ => rfl),
    percentileOf_perm (h.values (·.medianPriorTradedValue) (·.medianPriorTradedValue) fun _ => rfl),
    percentileOf_perm (h.values (·.annualizedRealizedVolatility) (·.annualizedRealizedVolatility) fun _ => rfl),
    percentileOf_perm (h.values (·.signalTickFraction) (·.signalTickFraction) fun _ => rfl)]
  rfl

theorem Renaming.ensembleIn (h : Renaming ρ vectors others) (v : TechnicalVectorFields) :
    ensembleIn ctx c w others (renamed ρ v) = ensembleIn ctx c w vectors v := by
  unfold CrossSection.ensembleIn
  rw [h.ranks]
  rfl

theorem Renaming.ensembleScores (h : Renaming ρ vectors others) :
    (ensembleScores ctx c w others).Perm (ensembleScores ctx c w vectors) :=
  h.values _ _ h.ensembleIn

theorem Renaming.panelRegime (h : Renaming ρ vectors others) : panelRegime ctx c others = panelRegime ctx c vectors := by
  have hcount : (others.countP fun v => 0 < v.1.distanceFromLongAverage) =
      vectors.countP fun v => 0 < v.1.distanceFromLongAverage := by
    have hperm := h.values (·.distanceFromLongAverage) (·.distanceFromLongAverage) fun _ => rfl
    have hvalues := hperm.countP_eq fun value => 0 < value
    rw [List.countP_map, List.countP_map] at hvalues
    exact hvalues
  unfold CrossSection.panelRegime
  rw [hcount, h.length, middleOf_perm (h.values (·.returnMedium) (·.returnMedium) fun _ => rfl),
    middleOf_perm (h.values (·.annualizedRealizedVolatility) (·.annualizedRealizedVolatility) fun _ => rfl)]

end Renamings

section Panels

variable {ctx : DecimalContext} {hex : ContentId → String} {vectors : List TechnicalVector}

/-- The scores of an opportunity lie between zero and one. -/
def UnitScores (o : OpportunityScore ctx) : Prop :=
  isUnit o.1.ensembleScore ∧ ∀ s ∈ o.1.specialistScores, isUnit s.1.rawScore ∧ isUnit s.1.weightedScore

/-- Tiers count from one without a gap, from the highest score, and know how many opportunities share them. -/
structure DenseTiers (opportunities : List (OpportunityScore ctx)) : Prop where
  pos : ∀ o ∈ opportunities, 0 < o.1.rankTier
  dense : ∀ o ∈ opportunities, ∀ k, 0 < k → k < o.1.rankTier → ∃ p ∈ opportunities, p.1.rankTier = k
  order : ∀ o ∈ opportunities, ∀ p ∈ opportunities, o.1.rankTier ≤ p.1.rankTier ↔ p.1.ensembleScore ≤ o.1.ensembleScore
  size : ∀ o ∈ opportunities, o.1.tieSize = opportunities.countP fun p => p.1.rankTier = o.1.rankTier

/-- Two opportunities differ at most in the identifiers of their vectors. -/
structure SameScores (o o' : OpportunityScore ctx) : Prop where
  specialists : o'.1.specialistScores.map (·.1) = o.1.specialistScores.map (·.1)
  score : o'.1.ensembleScore = o.1.ensembleScore
  tier : (o'.1.rankTier, o'.1.tieSize) = (o.1.rankTier, o.1.tieSize)

variable (ctx hex) in
/-- Every vector is scored, within bounds, in dense tiers, and no identifier or order changes a score. -/
structure ScoredPanel (config : CrossSectionConfig ctx) (panelId : ContentId) (vectors : List TechnicalVector)
    (evidence : RegimeEvidence hex) (opportunities : List (OpportunityScore ctx)) : Prop where
  cells : (opportunities.map opportunityCell).Perm (vectors.map (cellOf ·.1))
  unit : ∀ o ∈ opportunities, UnitScores o
  tiers : DenseTiers opportunities
  blind : ∀ ρ others, Renaming ρ vectors others → ∃ evidence' opportunities',
    scorePromotedFeatureVectors ctx hex others panelId config = .ok (some evidence', opportunities') ∧
      evidence'.1.regime = evidence.1.regime ∧ ∀ o ∈ opportunities, ∃ o' ∈ opportunities',
        opportunityCell o' = ρ (opportunityCell o) ∧ SameScores o o'

variable (ctx hex) in
/-- The scoring returns, and what it returns is such a panel. -/
def ScoringHolds (config : CrossSectionConfig ctx) (panelId : ContentId) (vectors : List TechnicalVector) : Prop :=
  ∃ evidence opportunities,
    scorePromotedFeatureVectors ctx hex vectors panelId config = .ok (some evidence, opportunities) ∧
      ScoredPanel ctx hex config panelId vectors evidence opportunities

variable (ctx) in
/-- The regime of the vectors has one weighting, and no vector's weighted scores add up to more than one under it. -/
def Weighed (c : CrossSectionConfigFields) (vectors : List TechnicalVector) : Prop :=
  ∃ w, c.weightings.filter (·.regime = panelRegime ctx c vectors) = [w] ∧
    ∀ v ∈ vectors, ensembleIn ctx c w vectors v.1 ≤ 1

theorem weightingFor_eq_ok {c : CrossSectionConfigFields} {regime : MarketRegime} {w : AlphaRegimeWeighting} :
    c.weightingFor regime = .ok w ↔ c.weightings.filter (·.regime = regime) = [w] := by
  unfold CrossSectionConfigFields.weightingFor
  constructor
  · intro h
    split at h
    next weighting hfilter =>
      obtain rfl := Except.ok.inj h
      exact hfilter
    next => cases h
  · intro h
    rw [h]

variable {config : CrossSectionConfig (ofPrecision 28)} {panelId : ContentId} {evidence : RegimeEvidence hex}
variable {opportunities : List (OpportunityScore (ofPrecision 28))} {w : AlphaRegimeWeighting}

theorem denseTiers {listed : List (OpportunityScore (ofPrecision 28))} {c : CrossSectionConfigFields}
    (hperm : opportunities.Perm listed)
    (hlisted : List.Forall₂ (OpportunityIs (ofPrecision 28) c w vectors) vectors listed) : DenseTiers opportunities := by
  have hsource : ∀ o ∈ opportunities, ∃ v ∈ vectors, OpportunityIs (ofPrecision 28) c w vectors v o := fun o ho =>
    mem_of_forall₂_right hlisted (hperm.mem_iff.mp ho)
  have hscore : ∀ v ∈ vectors, ensembleIn (ofPrecision 28) c w vectors v.1 ∈
      ensembleScores (ofPrecision 28) c w vectors := fun v hv => List.mem_map.mpr ⟨v, hv, rfl⟩
  have htier : ∀ {v o}, OpportunityIs (ofPrecision 28) c w vectors v o → o.1.rankTier =
      (tierOf (ensembleScores (ofPrecision 28) c w vectors) (ensembleIn (ofPrecision 28) c w vectors v.1)).1 :=
    fun h => congrArg Prod.fst h.tier
  constructor
  · intro o ho
    obtain ⟨v, hv, his⟩ := hsource o ho
    rw [htier his]
    exact (tierOf_pos (hscore v hv)).1
  · intro o ho k hpos hk
    obtain ⟨v, hv, his⟩ := hsource o ho
    rw [htier his] at hk
    obtain ⟨score, hmem, hscored⟩ := exists_tierOf_eq (hscore v hv) hpos hk
    obtain ⟨u, hu, rfl⟩ := List.mem_map.mp hmem
    obtain ⟨p, hp, hpis⟩ := mem_of_forall₂_left hlisted hu
    exact ⟨p, hperm.mem_iff.mpr hp, (htier hpis).trans hscored⟩
  · intro o ho p hp
    obtain ⟨v, hv, his⟩ := hsource o ho
    obtain ⟨u, hu, hpis⟩ := hsource p hp
    rw [htier his, htier hpis, his.score, hpis.score]
    exact tierOf_le_iff (hscore v hv) (hscore u hu)
  · intro o ho
    obtain ⟨v, hv, his⟩ := hsource o ho
    have hsize : o.1.tieSize = _ := congrArg Prod.snd his.tier
    have hmap := forall₂_map_eq (g := fun p : OpportunityScore (ofPrecision 28) => p.1.rankTier) hlisted
      fun v o h => (htier h).symm
    rw [hsize, tieSize_eq (hscore v hv), htier his, hperm.countP_eq, ensembleScores, List.map_map]
    have hcount := congrArg (List.countP (· = (tierOf (ensembleScores (ofPrecision 28) c w vectors)
      (ensembleIn (ofPrecision 28) c w vectors v.1)).1)) hmap
    rw [List.countP_map (l := listed)] at hcount
    exact hcount

theorem unitScores {c : CrossSectionConfigFields} (hw : w.check (ofPrecision 28) = .ok ()) {v : TechnicalVector}
    {o : OpportunityScore (ofPrecision 28)} (h : OpportunityIs (ofPrecision 28) c w vectors v o) : UnitScores o := by
  constructor
  · have hvalid := o.2
    unfold OpportunityScoreFields.check at hvalid
    simp only [raiseIf_eq_ok, not_or, not_not] at hvalid
    exact hvalid.2.1
  · intro s hs
    have hmem : s.1 ∈ o.1.specialistScores.map (·.1) := List.mem_map.mpr ⟨s, hs, rfl⟩
    rw [h.specialists] at hmem
    obtain ⟨specialist, -, hfields⟩ := List.mem_map.mp hmem
    rw [← hfields]
    have hraw := isUnit_rawScore (ofPrecision 28) (ranksOf (ofPrecision 28) vectors v.1)
      (qualitiesOf (ofPrecision 28) c v.1) specialist
    refine ⟨hraw, isUnit_eq_true.mpr ?_⟩
    exact weightedScore_unit (by norm_num) (isUnit_eq_true.mp hraw) (isUnit_eq_true.mp (weightFor_unit hw specialist))

theorem sameScores {c : CrossSectionConfigFields} {others : List TechnicalVector} {ρ : CellKey ≃ CellKey}
    (hrenaming : Renaming ρ vectors others) {v v' : TechnicalVector} (hv : v'.1 = renamed ρ v.1)
    {o o' : OpportunityScore (ofPrecision 28)} (h : OpportunityIs (ofPrecision 28) c w vectors v o)
    (h' : OpportunityIs (ofPrecision 28) c w others v' o') :
    opportunityCell o' = ρ (opportunityCell o) ∧ SameScores o o' := by
  refine ⟨?_, ?_, ?_, ?_⟩
  · rw [h'.cell, h.cell, hv]
    rfl
  · rw [h'.specialists, h.specialists, hv, hrenaming.ranks]
    rfl
  · rw [h'.score, h.score, hv, hrenaming.ensembleIn]
  · rw [h'.tier, h.tier, hv, hrenaming.ensembleIn, tierOf_perm hrenaming.ensembleScores]

/-- A panel whose regime has one weighting, under which no score passes one, is scored. -/
theorem scored_of_weighed (hnodup : (vectors.map (cellOf ·.1)).Nodup)
    (hcount : config.1.minimumComputedInstruments ≤ vectors.length) (hne : vectors ≠ [])
    (h : Weighed (ofPrecision 28) config.1 vectors) :
    ∃ evidence opportunities w listed,
      scorePromotedFeatureVectors (ofPrecision 28) hex vectors panelId config = .ok (some evidence, opportunities) ∧
        evidence.1.regime = panelRegime (ofPrecision 28) config.1 vectors ∧
        config.1.weightings.filter (·.regime = panelRegime (ofPrecision 28) config.1 vectors) = [w] ∧
        w.check (ofPrecision 28) = .ok () ∧ opportunities.Perm listed ∧
        List.Forall₂ (OpportunityIs (ofPrecision 28) config.1 w vectors) vectors listed := by
  obtain ⟨w, hfilter, hbound⟩ := h
  obtain ⟨evidence, hevidence, hregime⟩ := @regimeEvidence_ok 28 config.1 vectors hex (by norm_num) hne hnodup panelId
  have hweighting : config.1.weightingFor evidence.1.regime = .ok w := by
    rw [hregime]
    exact weightingFor_eq_ok.mpr hfilter
  have hw := weighting_checked hweighting
  have hunit : ∀ v ∈ vectors, isUnit (ensembleIn (ofPrecision 28) config.1 w vectors v.1) = true := fun v hv =>
    isUnit_eq_true.mpr ⟨ensembleIn_nonneg (by norm_num) hw v.1, hbound v hv⟩
  obtain ⟨opportunities, hscored, -⟩ :=
    scorePromotedFeatureVectors_ok hnodup (not_lt.mpr hcount) hne hevidence hweighting hunit
  obtain ⟨w', listed, hweighting', hperm, hlisted⟩ := scored_is hscored
  obtain rfl := Except.ok.inj (hweighting.symm.trans hweighting')
  exact ⟨evidence, opportunities, w, listed, hscored, hregime, hfilter, hw, hperm, hlisted⟩

end Panels

section Samples

/-- Two weightings for one regime: the regimes are all there, so the configuration passes. -/
def repeatedConfig : CrossSectionConfigFields :=
  { pullbackConfig with
    minimumComputedInstruments := 3
    weightings := pullbackConfig.weightings.take 2 ++ pullbackConfig.weightings.drop 1 }

theorem repeatedConfig_check : repeatedConfig.check (ofPrecision 28) = .ok () := by decide +kernel

theorem flatPeers_nodup : (flatPeers.map (cellOf ·.1)).Nodup := by decide +kernel

def singleConfig : CrossSectionConfigFields := { pullbackConfig with minimumComputedInstruments := 3 }

theorem singleConfig_check : singleConfig.check (ofPrecision 28) = .ok () := by decide +kernel

/-- Weights that add up to one in the order of the check, and to more in the order of the scores. -/
def overweightConfig : CrossSectionConfigFields :=
  { singleConfig with
    minimumComputedInstruments := 2
    idealPullbackDepth := 0
    weightings := marketRegimes.map fun regime => ⟨regime, 5 / 10 ^ 28, 1, 0, 5 / 10 ^ 28⟩ }

end Samples

end IndiaSwing.CrossSection
