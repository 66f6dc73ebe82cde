import IndiaSwing.CrossSection
import IndiaSwing.Lib.DenseRanks
import IndiaSwing.Lib.JsonRecord

namespace IndiaSwing.CrossSection

open ExceptGuards KeySort SortedTuples Features DenseRanks

section Ranks

variable {ctx : DecimalContext} {values : List ℚ} {a b : ℚ}

theorem percentileRanks_ok {entries : List (CellKey × ℚ)} (hne : entries ≠ []) (hnodup : (entries.map (·.1)).Nodup)
    (higherIsBetter : Bool) : percentileRanks ctx entries higherIsBetter =
      .ok (entries.map fun entry => (entry.1, percentileOf ctx (entries.map (·.2)) higherIsBetter entry.2)) := by
  unfold percentileRanks
  rw [raiseIf_neg (by rw [not_or, not_not]; exact ⟨hne, hnodup⟩), ok_bind]
  rfl

theorem rankTiers_ok {entries : List (CellKey × ℚ)} (hne : entries ≠ []) (hnodup : (entries.map (·.1)).Nodup) :
    rankTiers entries = .ok (entries.map fun entry => (entry.1, tierOf (entries.map (·.2)) entry.2)) := by
  unfold rankTiers
  rw [raiseIf_neg (by rw [not_or, not_not]; exact ⟨hne, hnodup⟩), ok_bind]
  rfl

theorem entryOf_ok {α : Type} {entries : List (CellKey × α)} {key : CellKey} {entry : α}
    (hnodup : (entries.map (·.1)).Nodup) (h : (key, entry) ∈ entries) : entryOf entries key = .ok entry := by
  unfold entryOf
  rw [(JsonText.lookup_eq_some_iff hnodup).mpr h]
  rfl

theorem sorted_dedup_pairwise (values : List ℚ) : (sorted values.dedup).Pairwise (· < ·) := by
  have hnodup : (sorted values.dedup).Nodup := sorted_perm.nodup_iff.mpr values.nodup_dedup
  exact (sorted_pairwise.and hnodup).imp fun h => lt_of_le_of_ne h.1 h.2

theorem sorted_dedup_toFinset (values : List ℚ) : (sorted values.dedup).toFinset = values.toFinset := by
  ext value
  simp

theorem length_sorted_dedup (values : List ℚ) : (sorted values.dedup).length = values.toFinset.card := by
  rw [length_sorted, List.card_toFinset]

theorem countP_eq_card_filter {l : List ℚ} (hl : l.Nodup) (p : ℚ → Prop) [DecidablePred p] :
    (l.countP fun value => p value) = (l.toFinset.filter p).card := by
  have hset : (l.filter fun value => p value).toFinset = l.toFinset.filter p := by
    ext value
    simp
  rw [List.countP_eq_length_filter, ← hset, List.toFinset_card_of_nodup (hl.filter _)]

theorem idxOf_sorted_dedup (ha : a ∈ values) : (sorted values.dedup).idxOf a = below values.toFinset a := by
  have hnodup : (sorted values.dedup).Nodup := sorted_perm.nodup_iff.mpr values.nodup_dedup
  have hmem : a ∈ sorted values.dedup := mem_sorted.mpr (List.mem_dedup.mpr ha)
  rw [idxOf_eq_countP (r := (· < ·)) lt_irrefl (fun _ _ => not_lt_of_gt) (sorted_dedup_pairwise values) hmem,
    countP_eq_card_filter hnodup, sorted_dedup_toFinset, below]

/-- With exact arithmetic the percentile is the dense one. -/
theorem percentileOf_exact (ha : a ∈ values) : percentileOf .exact values true a = percentile values.toFinset a := by
  unfold percentileOf percentile share
  dsimp only
  rw [length_sorted_dedup, idxOf_sorted_dedup ha, if_pos rfl, DecimalContext.exact_div]

theorem percentileOf_exact_lower (ha : a ∈ values) :
    percentileOf .exact values false a = 1 - percentile values.toFinset a := by
  have h := percentileOf_exact ha
  unfold percentileOf at h ⊢
  dsimp only at h ⊢
  rw [if_pos rfl] at h
  rw [if_neg (by decide), h, DecimalContext.exact_sub]

/-- Of two scores, the higher one is not in a later tier. -/
theorem tierOf_le_iff (ha : a ∈ values) (hb : b ∈ values) : (tierOf values a).1 ≤ (tierOf values b).1 ↔ b ≤ a := by
  have hnodup : (values.dedup.insertionSort (· ≥ ·)).Nodup :=
    (List.perm_insertionSort _ _).nodup_iff.mpr values.nodup_dedup
  have hpairwise : (values.dedup.insertionSort (· ≥ ·)).Pairwise (· > ·) :=
    ((List.pairwise_insertionSort _ _).and hnodup).imp fun h => lt_of_le_of_ne h.1 (Ne.symm h.2)
  have htier : ∀ {value}, value ∈ values → (tierOf values value).1 = (values.toFinset.filter (· > value)).card + 1 := by
    intro value hvalue
    have hmem : value ∈ values.dedup.insertionSort (· ≥ ·) :=
      (List.mem_insertionSort _).mpr (List.mem_dedup.mpr hvalue)
    have hset : (values.dedup.insertionSort (· ≥ ·)).toFinset = values.toFinset := by
      ext other
      simp
    unfold tierOf
    dsimp only
    rw [idxOf_eq_countP (r := (· > ·)) lt_irrefl (fun _ _ => not_lt_of_gt) hpairwise hmem,
      countP_eq_card_filter hnodup, hset]
  rw [htier ha, htier hb, Nat.add_le_add_iff_right]
  constructor
  · intro h
    by_contra hlt
    have hsubset : values.toFinset.filter (· > b) ⊂ values.toFinset.filter (· > a) := by
      refine ⟨Finset.monotone_filter_right _ fun _ _ hgt => (not_le.mp hlt).trans hgt, fun hsub => ?_⟩
      have hmem := hsub (Finset.mem_filter.mpr ⟨List.mem_toFinset.mpr hb, not_le.mp hlt⟩)
      exact lt_irrefl b (Finset.mem_filter.mp hmem).2
    have hcard := Finset.card_lt_card hsubset
    omega
  · intro h
    exact Finset.card_le_card (Finset.monotone_filter_right _ fun _ _ hgt => h.trans_lt hgt)

theorem tierOf_pos (ha : a ∈ values) : 0 < (tierOf values a).1 ∧ 0 < (tierOf values a).2 := by
  unfold tierOf
  exact ⟨Nat.succ_pos _, List.count_pos_iff.mpr ha⟩

end Ranks

section Clamps

variable {value : ℚ}

theorem clamp_nonneg (value : ℚ) : 0 ≤ clamp value := le_max_left _ _

theorem clamp_le_one (value : ℚ) : clamp value ≤ 1 := max_le zero_le_one (min_le_right _ _)

theorem clamp_of_unit (h : 0 ≤ value ∧ value ≤ 1) : clamp value = value := by
  rw [clamp, min_eq_left h.2, max_eq_right h.1]

@[simp] theorem isUnit_eq_true : isUnit value = true ↔ 0 ≤ value ∧ value ≤ 1 := by
  simp [isUnit]

theorem isUnit_clamp (value : ℚ) : isUnit (clamp value) = true :=
  isUnit_eq_true.mpr ⟨clamp_nonneg value, clamp_le_one value⟩

end Clamps

section Scores

variable {ctx : DecimalContext} {c : CrossSectionConfigFields} {w : AlphaRegimeWeighting} {r : CellRanks}
variable {q : Qualities} {v : TechnicalVector} {vectors : List TechnicalVector} {regime : MarketRegime}

theorem weightFor_unit (hw : w.check ctx = .ok ()) (specialist : AlphaSpecialist) :
    isUnit (w.weightFor specialist) = true := by
  unfold AlphaRegimeWeighting.check at hw
  rw [raiseIf_bind_eq_ok] at hw
  by_contra hnot
  apply hw.1
  cases specialist with
  | liquidityQuality => exact ⟨w.liquidityQuality, by simp [AlphaRegimeWeighting.weights], hnot⟩
  | momentumBreakout => exact ⟨w.momentumBreakout, by simp [AlphaRegimeWeighting.weights], hnot⟩
  | pullbackContinuation => exact ⟨w.pullbackContinuation, by simp [AlphaRegimeWeighting.weights], hnot⟩
  | volatilityContraction => exact ⟨w.volatilityContraction, by simp [AlphaRegimeWeighting.weights], hnot⟩

theorem isUnit_rawScore (ctx : DecimalContext) (r : CellRanks) (q : Qualities) (specialist : AlphaSpecialist) :
    isUnit (rawScore ctx r q specialist) = true := by
  cases specialist <;> exact isUnit_clamp _

/-- The score of a specialist passes its own checks under every context. -/
theorem specialistScore_ok (hw : w.check ctx = .ok ()) (r : CellRanks) (q : Qualities) (specialist : AlphaSpecialist) :
    ∃ score, specialistScore ctx w r q specialist = .ok score ∧ score.1.specialist = specialist ∧
      score.1.weightedScore = ctx.mul (rawScore ctx r q specialist) (w.weightFor specialist) := by
  have hnames : ((componentsOf r q specialist).map (·.1)).Nodup := by
    have hfixed : ∀ s, ((componentsOf ⟨0, 0, 0, 0, 0⟩ ⟨0, 0, 0, 0, 0⟩ s).map (·.1)).Nodup := by
      intro s
      cases s <;> decide
    cases specialist with
    | liquidityQuality => exact hfixed .liquidityQuality
    | momentumBreakout => exact hfixed .momentumBreakout
    | pullbackContinuation => exact hfixed .pullbackContinuation
    | volatilityContraction => exact hfixed .volatilityContraction
  have hsome : componentsOf r q specialist ≠ [] := by
    cases specialist <;> exact List.cons_ne_nil _ _
  have hperm := perm_sortOn (·.1) (componentsOf r q specialist)
  have hcheck : SpecialistScoreFields.check ctx
      { specialist := specialist
        rawScore := rawScore ctx r q specialist
        regimeWeight := w.weightFor specialist
        weightedScore := ctx.mul (rawScore ctx r q specialist) (w.weightFor specialist)
        components := sortOn (·.1) (componentsOf r q specialist) } = .ok () := by
    unfold SpecialistScoreFields.check
    rw [raiseIf_eq_ok]
    simp only [not_or, not_not]
    refine ⟨isUnit_rawScore ctx r q specialist, weightFor_unit hw specialist, trivial, ?_, ?_, ?_⟩
    · intro hnil
      exact hsome (List.nil_perm.mp (hnil ▸ hperm))
    · exact (sortOn_of_pairwise (fun component : String × ℚ => component.1) (sortOn_pairwise _ _)).symm
    · exact (hperm.map _).nodup_iff.mpr hnames
  exact ⟨_, Checked.build_of_ok hcheck, rfl, rfl⟩

/-- The ensemble score of a vector with its percentiles. -/
def ensemble (ctx : DecimalContext) (c : CrossSectionConfigFields) (w : AlphaRegimeWeighting) (v : TechnicalVectorFields)
    (r : CellRanks) : ℚ :=
  ctx.sum 0 (AlphaSpecialist.all.map fun specialist =>
    ctx.mul (rawScore ctx r (qualitiesOf ctx c v) specialist) (w.weightFor specialist))

/-- What a scored vector carries. -/
structure Scored (ctx : DecimalContext) (c : CrossSectionConfigFields) (w : AlphaRegimeWeighting) (v : TechnicalVector)
    (r : CellRanks) (part : ScoreParts ctx) : Prop where
  vector : part.vector = v
  specialists : part.specialistScores.map (·.1.specialist) = AlphaSpecialist.all
  sum : part.ensembleScore = ctx.sum 0 (part.specialistScores.map (·.1.weightedScore))
  score : part.ensembleScore = ensemble ctx c w v.1 r

theorem scorePart_ok (hw : w.check ctx = .ok ()) (c : CrossSectionConfigFields) (v : TechnicalVector) (r : CellRanks) :
    ∃ part, scorePart ctx c w v r = .ok part ∧ Scored ctx c w v r part := by
  obtain ⟨scores, hscores, hall⟩ := @mapM_exists _ _ _ _ _ AlphaSpecialist.all fun specialist _ =>
    specialistScore_ok hw r (qualitiesOf ctx c v.1) specialist
  have hspecialists := forall₂_map_eq (f := fun specialist => specialist)
    (g := fun score : SpecialistScore ctx => score.1.specialist) hall fun _ _ h => h.1.symm
  have hweighted := forall₂_map_eq (f := fun specialist =>
      ctx.mul (rawScore ctx r (qualitiesOf ctx c v.1) specialist) (w.weightFor specialist))
    (g := fun score : SpecialistScore ctx => score.1.weightedScore) hall fun _ _ h => h.2.symm
  refine ⟨⟨v, scores, ctx.sum 0 (scores.map (·.1.weightedScore))⟩, ?_, rfl, ?_, rfl, ?_⟩
  · unfold scorePart
    rw [hscores]
    rfl
  · rw [← hspecialists, List.map_id']
  · rw [ensemble, hweighted]

/-- The percentiles of a vector among all vectors. -/
def ranksOf (ctx : DecimalContext) (vectors : List TechnicalVector) (v : TechnicalVectorFields) : CellRanks where
  short := percentileOf ctx (vectors.map (·.1.returnShort)) true v.returnShort
  long := percentileOf ctx (vectors.map (·.1.returnLong)) true v.returnLong
  liquidity := percentileOf ctx (vectors.map (·.1.medianPriorTradedValue)) true v.medianPriorTradedValue
  lowVolatility := percentileOf ctx (vectors.map (·.1.annualizedRealizedVolatility)) false v.annualizedRealizedVolatility
  lowTickFriction := percentileOf ctx (vectors.map (·.1.signalTickFraction)) false v.signalTickFraction

/-- The percentiles of one feature, and what is found in them for a vector. -/
theorem featureRanks_ok (ctx : DecimalContext) (hne : vectors ≠ []) (hnodup : (vectors.map (cellOf ·.1)).Nodup)
    (feature : TechnicalVectorFields → ℚ) (higherIsBetter : Bool) :
    ∃ entries, percentileRanks ctx (vectors.map fun v => (cellOf v.1, feature v.1)) higherIsBetter = .ok entries ∧
      ∀ v ∈ vectors, entryOf entries (cellOf v.1) =
        .ok (percentileOf ctx (vectors.map (feature ·.1)) higherIsBetter (feature v.1)) := by
  have hkeys : ((vectors.map fun v => (cellOf v.1, feature v.1)).map (·.1)).Nodup := by
    rw [List.map_map]
    exact hnodup
  have hsome : (vectors.map fun v => (cellOf v.1, feature v.1)) ≠ [] := by
    rw [Ne, List.map_eq_nil_iff]
    exact hne
  refine ⟨_, percentileRanks_ok hsome hkeys higherIsBetter, fun v hv => ?_⟩
  apply entryOf_ok
  · rw [List.map_map]
    exact hkeys
  · rw [List.map_map, List.map_map]
    exact List.mem_map.mpr ⟨v, hv, rfl⟩

theorem scoreParts_eq (hne : vectors ≠ []) (hnodup : (vectors.map (cellOf ·.1)).Nodup)
    (hweighting : c.weightingFor regime = .ok w) :
    scoreParts ctx vectors regime c = vectors.mapM fun v => scorePart ctx c w v (ranksOf ctx vectors v.1) := by
  obtain ⟨short, hshort, hshortOf⟩ := featureRanks_ok ctx hne hnodup (·.returnShort) true
  obtain ⟨long, hlong, hlongOf⟩ := featureRanks_ok ctx hne hnodup (·.returnLong) true
  obtain ⟨liquidity, hliquidity, hliquidityOf⟩ :=
    featureRanks_ok ctx hne hnodup (·.medianPriorTradedValue) true
  obtain ⟨volatility, hvolatility, hvolatilityOf⟩ :=
    featureRanks_ok ctx hne hnodup (·.annualizedRealizedVolatility) false
  obtain ⟨friction, hfriction, hfrictionOf⟩ :=
    featureRanks_ok ctx hne hnodup (·.signalTickFraction) false
  unfold scoreParts
  rw [raiseIf_neg (not_not.mpr hnodup), ok_bind, hshort, ok_bind, hlong, ok_bind, hliquidity, ok_bind, hvolatility,
    ok_bind, hfriction, ok_bind, hweighting, ok_bind]
  apply mapM_congr
  intro v hv
  rw [hshortOf v hv, ok_bind, hlongOf v hv, ok_bind, hliquidityOf v hv, ok_bind, hvolatilityOf v hv, ok_bind,
    hfrictionOf v hv, ok_bind]
  rfl

theorem scoreParts_ok (hne : vectors ≠ []) (hnodup : (vectors.map (cellOf ·.1)).Nodup)
    (hweighting : c.weightingFor regime = .ok w) (hw : w.check ctx = .ok ()) :
    ∃ parts, scoreParts ctx vectors regime c = .ok parts ∧
      List.Forall₂ (fun v part => Scored ctx c w v (ranksOf ctx vectors v.1) part) vectors parts := by
  rw [scoreParts_eq hne hnodup hweighting]
  exact mapM_exists fun v _ => scorePart_ok hw c v _

end Scores

section Opportunities

variable {ctx : DecimalContext} {hex : ContentId → String} {config : CrossSectionConfig ctx} {w : AlphaRegimeWeighting}
variable {vectors : List TechnicalVector} {panelId : ContentId} {evidence : RegimeEvidence hex}
variable {opportunities : List (OpportunityScore ctx)}

/-- The ensemble score of a vector among all vectors. -/
def ensembleIn (ctx : DecimalContext) (c : CrossSectionConfigFields) (w : AlphaRegimeWeighting)
    (vectors : List TechnicalVector) (v : TechnicalVectorFields) : ℚ :=
  ensemble ctx c w v (ranksOf ctx vectors v)

/-- The scores of all vectors. -/
def ensembleScores (ctx : DecimalContext) (c : CrossSectionConfigFields) (w : AlphaRegimeWeighting)
    (vectors : List TechnicalVector) : List ℚ := vectors.map fun v => ensembleIn ctx c w vectors v.1

/-- What an opportunity says of its vector. -/
structure OpportunityOf (ctx : DecimalContext) (c : CrossSectionConfigFields) (w : AlphaRegimeWeighting)
    (vectors : List TechnicalVector) (v : TechnicalVector) (o : OpportunityScore ctx) : Prop where
  cell : (o.1.stableInstrumentId, o.1.stableListingId) = cellOf v.1
  score : o.1.ensembleScore = ensembleIn ctx c w vectors v.1
  tier : o.1.rankTier = (tierOf (ensembleScores ctx c w vectors) (ensembleIn ctx c w vectors v.1)).1

theorem weightingFor_ok {c : CrossSectionConfigFields} {regime : MarketRegime} (h : c.weightingFor regime = .ok w) :
    w ∈ c.weightings := by
  unfold CrossSectionConfigFields.weightingFor at h
  split at h
  next weighting hfilter =>
    obtain rfl := Except.ok.inj h
    exact (List.mem_filter.mp (hfilter ▸ List.mem_singleton_self weighting)).1
  next => cases h

theorem weighting_checked (h : config.1.weightingFor evidence.1.regime = .ok w) : w.check ctx = .ok () := by
  have hconfig := config.2
  unfold CrossSectionConfigFields.check at hconfig
  obtain ⟨_, hweightings, -⟩ := bind_eq_ok.mp hconfig
  exact forM_eq_ok.mp hweightings w (weightingFor_ok h)

theorem tiers_ok (hne : vectors ≠ []) (hnodup : (vectors.map (cellOf ·.1)).Nodup) (score : TechnicalVectorFields → ℚ) :
    ∃ tiers, rankTiers (vectors.map fun v => (cellOf v.1, score v.1)) = .ok tiers ∧
      ∀ v ∈ vectors, entryOf tiers (cellOf v.1) = .ok (tierOf (vectors.map (score ·.1)) (score v.1)) := by
  have hkeys : ((vectors.map fun v => (cellOf v.1, score v.1)).map (·.1)).Nodup := by
    rw [List.map_map]
    exact hnodup
  have hsome : (vectors.map fun v => (cellOf v.1, score v.1)) ≠ [] := by
    rw [Ne, List.map_eq_nil_iff]
    exact hne
  refine ⟨_, rankTiers_ok hsome hkeys, fun v hv => ?_⟩
  apply entryOf_ok
  · rw [List.map_map]
    exact hkeys
  · rw [List.map_map, List.map_map]
    exact List.mem_map.mpr ⟨v, hv, rfl⟩

/-- An opportunity passes its own checks when its score lies between zero and one. -/
theorem opportunityScore_ok {c : CrossSectionConfigFields} {tiers : List (CellKey × (ℕ × ℕ))} {part : ScoreParts ctx}
    {v : TechnicalVector} (evidenceId : ContentId) (hv : v ∈ vectors)
    (hunit : isUnit (ensembleIn ctx c w vectors v.1) = true)
    (hentry : entryOf tiers (cellOf v.1) =
      .ok (tierOf (ensembleScores ctx c w vectors) (ensembleIn ctx c w vectors v.1)))
    (hpart : Scored ctx c w v (ranksOf ctx vectors v.1) part) :
    ∃ o, opportunityScore ctx evidenceId tiers part = .ok o ∧ OpportunityOf ctx c w vectors v o := by
  obtain rfl := hpart.vector
  have hscore : ensembleIn ctx c w vectors part.vector.1 ∈ ensembleScores ctx c w vectors :=
    List.mem_map.mpr ⟨part.vector, hv, rfl⟩
  have hpos := tierOf_pos hscore
  have hcheck : OpportunityScoreFields.check ctx
      { sourceFeatureId := featureId part.vector.1
        regimeEvidenceId := evidenceId
        stableInstrumentId := part.vector.1.stableInstrumentId
        stableListingId := part.vector.1.stableListingId
        specialistScores := part.specialistScores
        ensembleScore := part.ensembleScore
        rankTier := (tierOf (ensembleScores ctx c w vectors) (ensembleIn ctx c w vectors part.vector.1)).1
        tieSize := (tierOf (ensembleScores ctx c w vectors) (ensembleIn ctx c w vectors part.vector.1)).2 } = .ok () := by
    unfold OpportunityScoreFields.check
    rw [raiseIf_eq_ok]
    simp only [not_or, not_not]
    refine ⟨hpart.specialists, ?_, hpart.sum, hpos.1.ne', hpos.2.ne'⟩
    rw [hpart.score]
    exact hunit
  refine ⟨⟨_, hcheck⟩, ?_, rfl, hpart.score, rfl⟩
  unfold opportunityScore
  rw [hentry, ok_bind]
  exact Checked.build_of_ok hcheck

theorem opportunities_ok {c : CrossSectionConfigFields} {parts : List (ScoreParts ctx)} (evidenceId : ContentId)
    (hne : vectors ≠ []) (hnodup : (vectors.map (cellOf ·.1)).Nodup)
    (hunit : ∀ v ∈ vectors, isUnit (ensembleIn ctx c w vectors v.1) = true)
    (hparts : List.Forall₂ (fun v part => Scored ctx c w v (ranksOf ctx vectors v.1) part) vectors parts) :
    ∃ tiers opportunities, rankTiers (parts.map fun part => (cellOf part.vector.1, part.ensembleScore)) = .ok tiers ∧
      parts.mapM (opportunityScore ctx evidenceId tiers) = .ok opportunities ∧
      List.Forall₂ (OpportunityOf ctx c w vectors) vectors opportunities := by
  have hpairs : parts.map (fun part => (cellOf part.vector.1, part.ensembleScore)) =
      vectors.map fun v => (cellOf v.1, ensembleIn ctx c w vectors v.1) :=
    (forall₂_map_eq hparts fun v part h => Prod.ext (by rw [h.vector]) h.score.symm).symm
  obtain ⟨tiers, htiers, hentries⟩ := tiers_ok hne hnodup (ensembleIn ctx c w vectors)
  rw [← hpairs] at htiers
  obtain ⟨opportunities, hopportunities, hall⟩ := mapM_exists_of_forall₂ hparts fun v hv part hpart =>
    opportunityScore_ok evidenceId hv (hunit v hv) (hentries v hv) hpart
  exact ⟨tiers, opportunities, htiers, hopportunities, hall⟩

/-- Every vector has its opportunity, and every opportunity its vector. -/
structure ScoredVectors (ctx : DecimalContext) (c : CrossSectionConfigFields) (w : AlphaRegimeWeighting)
    (vectors : List TechnicalVector) (opportunities : List (OpportunityScore ctx)) : Prop where
  scored : ∀ v ∈ vectors, ∃ o ∈ opportunities, OpportunityOf ctx c w vectors v o
  source : ∀ o ∈ opportunities, ∃ v ∈ vectors, OpportunityOf ctx c w vectors v o

theorem scorePromotedFeatureVectors_ok (hnodup : (vectors.map (cellOf ·.1)).Nodup)
    (hcount : ¬(vectors.length : ℤ) < config.1.minimumComputedInstruments) (hne : vectors ≠ [])
    (hevidence : regimeEvidence ctx hex vectors config.1 panelId = .ok evidence)
    (hweighting : config.1.weightingFor evidence.1.regime = .ok w)
    (hunit : ∀ v ∈ vectors, isUnit (ensembleIn ctx config.1 w vectors v.1) = true) :
    ∃ opportunities, scorePromotedFeatureVectors ctx hex vectors panelId config = .ok (some evidence, opportunities) ∧
      ScoredVectors ctx config.1 w vectors opportunities := by
  obtain ⟨parts, hparts, hscored⟩ := scoreParts_ok hne hnodup hweighting (weighting_checked hweighting)
  obtain ⟨tiers, opportunities, htiers, hopportunities, hall⟩ :=
    opportunities_ok evidence.1.evidenceId hne hnodup hunit hscored
  unfold scorePromotedFeatureVectors
  rw [raiseIf_neg (not_not.mpr hnodup), ok_bind, if_neg hcount, hevidence, ok_bind, hparts, ok_bind, htiers, ok_bind,
    hopportunities, ok_bind]
  refine ⟨_, rfl, ?_, ?_⟩
  · intro v hv
    obtain ⟨o, ho, hof⟩ := mem_of_forall₂_left hall hv
    exact ⟨o, (perm_sortOn _ _).mem_iff.mpr ho, hof⟩
  · intro o ho
    obtain ⟨v, hv, hof⟩ := mem_of_forall₂_right hall ((perm_sortOn _ _).mem_iff.mp ho)
    exact ⟨v, hv, hof⟩

/-- What a scoring with evidence found. -/
theorem scorePromotedFeatureVectors_some
    (h : scorePromotedFeatureVectors ctx hex vectors panelId config = .ok (some evidence, opportunities)) :
    (vectors.map (cellOf ·.1)).Nodup ∧ ¬(vectors.length : ℤ) < config.1.minimumComputedInstruments ∧ vectors ≠ [] ∧
      regimeEvidence ctx hex vectors config.1 panelId = .ok evidence ∧
      ∃ w, config.1.weightingFor evidence.1.regime = .ok w := by
  unfold scorePromotedFeatureVectors at h
  rw [raiseIf_bind_eq_ok, not_not] at h
  obtain ⟨hnodup, h⟩ := h
  split at h
  · cases Except.ok.inj h
  next hcount =>
    obtain ⟨found, hfound, h⟩ := bind_eq_ok.mp h
    obtain ⟨parts, hparts, h⟩ := bind_eq_ok.mp h
    obtain ⟨tiers, -, h⟩ := bind_eq_ok.mp h
    obtain ⟨scored, -, h⟩ := bind_eq_ok.mp h
    obtain rfl := Option.some.inj (Prod.mk.inj (Except.ok.inj h)).1
    have hne : vectors ≠ [] := by
      rintro rfl
      have hmomentum : regimeEvidence ctx hex [] config.1 panelId = .error graphError := rfl
      rw [hmomentum] at hfound
      cases hfound
    refine ⟨hnodup, hcount, hne, hfound, ?_⟩
    unfold scoreParts at hparts
    rw [raiseIf_bind_eq_ok] at hparts
    obtain ⟨_, -, hparts⟩ := bind_eq_ok.mp hparts.2
    obtain ⟨_, -, hparts⟩ := bind_eq_ok.mp hparts
    obtain ⟨_, -, hparts⟩ := bind_eq_ok.mp hparts
    obtain ⟨_, -, hparts⟩ := bind_eq_ok.mp hparts
    obtain ⟨_, -, hparts⟩ := bind_eq_ok.mp hparts
    obtain ⟨w, hw, -⟩ := bind_eq_ok.mp hparts
    exact ⟨w, hw⟩

end Opportunities

end IndiaSwing.CrossSection
