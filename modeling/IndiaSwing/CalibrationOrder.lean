import IndiaSwing.Calibration
import IndiaSwing.Lib.DecimalSigns

namespace IndiaSwing.Calibration

open ExceptGuards KeySort SortedTuples DecimalContext

section Orders

variable {hex : ContentId → String} {plan : WalkForwardCalibrationPlan} {observations others : List CalibrationObservation}
  {cutoff : Instant}

theorem countOf_perm (h : others.Perm observations) (outcome : CalibrationOutcome) :
    countOf others outcome = countOf observations outcome := h.countP_eq _

theorem timeValues_perm (h : others.Perm observations) : (timeValues others).Perm (timeValues observations) :=
  (h.filter _).filterMap _

theorem observedTrials_perm (h : others.Perm observations) : observedTrials others = observedTrials observations :=
  sorted_eq_of_perm (h.map _).dedup

theorem oneResultEach_perm (h : others.Perm observations) (trialIds : List String) :
    OneResultEach others trialIds ↔ OneResultEach observations trialIds := by
  refine forall₂_congr fun trialId _ => ?_
  have hfilter := h.filter (·.1.sourceTrialId = trialId)
  rw [(hfilter.map (·.1.sourceResultId)).dedup.length_eq, (hfilter.map (·.1.sourceCompletionEventId)).dedup.length_eq]

theorem observation_time (o : CalibrationObservation) : o.1.outcome = .time ↔ o.1.realizedTimeExitR.isSome = true := by
  obtain ⟨-, h⟩ := raiseIf_bind_eq_ok.mp o.2
  obtain ⟨-, h⟩ := raiseIf_bind_eq_ok.mp h
  obtain ⟨htime, h⟩ := raiseIf_bind_eq_ok.mp h
  have hother := raiseIf_eq_ok.mp h
  constructor
  · intro houtcome
    by_contra hnone
    exact htime ⟨houtcome, by simpa using hnone⟩
  · intro hsome
    by_contra houtcome
    exact hother ⟨houtcome, Option.isSome_iff_ne_none.mp hsome⟩

/-- The outcomes divide the observations. -/
theorem counts_total (observations : List CalibrationObservation) :
    countOf observations .target + countOf observations .stop + (timeValues observations).length =
      observations.length := by
  induction observations with
  | nil => rfl
  | cons o observations ih =>
    have htime := observation_time o
    unfold countOf timeValues at ih ⊢
    rw [List.countP_cons, List.countP_cons, List.filter_cons]
    cases houtcome : o.1.outcome with
    | target =>
      simp only [decide_true, if_true, reduceCtorEq, decide_false, Bool.false_eq_true, if_false, List.length_cons]
      omega
    | stop =>
      simp only [decide_true, if_true, reduceCtorEq, decide_false, Bool.false_eq_true, if_false, List.length_cons]
      omega
    | time =>
      obtain ⟨r, hr⟩ := Option.isSome_iff_exists.mp (htime.mp houtcome)
      simp only [decide_true, if_true, reduceCtorEq, decide_false, Bool.false_eq_true, if_false, List.filterMap_cons, hr,
        List.length_cons]
      omega

/-- What the admission checks give. -/
structure Admits (hex : ContentId → String) (plan : WalkForwardCalibrationPlan)
    (observations : List CalibrationObservation) (cutoff : Instant) : Prop where
  nonempty : observations ≠ []
  predates : plan.1.registeredAt < cutoff
  each : ∀ o ∈ observations, o.1.signalConfigId = plan.1.signalConfigId ∧ o.1.partition = .test ∧ o.1.knownAt ≤ cutoff ∧
    plan.1.registeredAt < o.1.knownAt
  ids : (observations.map (idText hex)).Nodup
  trades : (observations.map (·.1.sourceTradeId)).Nodup
  signals : (observations.map (·.1.signalId)).Nodup
  trials : observedTrials observations = plan.1.sourceTrialIds
  results : OneResultEach observations plan.1.sourceTrialIds
  sample : plan.1.minimumSampleSize ≤ observations.length

theorem checkObservation_eq_ok {o : CalibrationObservation} :
    checkObservation plan cutoff o = .ok () ↔ o.1.signalConfigId = plan.1.signalConfigId ∧ o.1.partition = .test ∧
      o.1.knownAt ≤ cutoff ∧ plan.1.registeredAt < o.1.knownAt := by
  unfold checkObservation
  simp only [raiseIf_bind_eq_ok, raiseIf_eq_ok]
  simp only [not_not, not_lt, not_le, ne_eq]

theorem checkAdmission_eq_ok : checkAdmission hex plan observations cutoff = .ok () ↔ Admits hex plan observations cutoff := by
  have hloop : (observations.forM (checkObservation plan cutoff)) = .ok () ↔ ∀ o ∈ observations,
      o.1.signalConfigId = plan.1.signalConfigId ∧ o.1.partition = .test ∧ o.1.knownAt ≤ cutoff ∧
        plan.1.registeredAt < o.1.knownAt :=
    forM_eq_ok.trans (forall₂_congr fun _ _ => checkObservation_eq_ok)
  unfold checkAdmission
  rw [raiseIf_bind_eq_ok, raiseIf_bind_eq_ok, bind_eq_ok]
  simp only [raiseIf_bind_eq_ok, raiseIf_eq_ok]
  simp only [not_not, not_lt, not_le, ne_eq, exists_const_iff, hloop]
  constructor
  · rintro ⟨hne, hcutoff, -, heach, hids, htrades, hsignals, htrials, hresults, hsample⟩
    exact ⟨hne, hcutoff, heach, hids, htrades, hsignals, htrials, hresults, hsample⟩
  · intro h
    exact ⟨h.nonempty, h.predates, ⟨()⟩, h.each, h.ids, h.trades, h.signals, h.trials, h.results, h.sample⟩

theorem Admits.perm (h : Admits hex plan observations cutoff) (hperm : others.Perm observations) :
    Admits hex plan others cutoff where
  nonempty := fun hnil => h.nonempty (hnil ▸ hperm).symm.eq_nil
  predates := h.predates
  each := fun o ho => h.each o (hperm.mem_iff.mp ho)
  ids := (hperm.map _).nodup_iff.mpr h.ids
  trades := (hperm.map _).nodup_iff.mpr h.trades
  signals := (hperm.map _).nodup_iff.mpr h.signals
  trials := (observedTrials_perm hperm).trans h.trials
  results := (oneResultEach_perm hperm _).mpr h.results
  sample := hperm.length_eq ▸ h.sample

end Orders

section Probabilities

variable {plan plan' : WalkForwardCalibrationPlan} {observations others stops : List CalibrationObservation}

theorem counts_le (observations : List CalibrationObservation) :
    countOf observations .target + countOf observations .stop ≤ observations.length := by
  have htotal := counts_total observations
  omega

/-- The probabilities as exact shares of the sample with the prior trades. -/
theorem shares (plan : WalkForwardCalibrationPlan) (hne : observations ≠ []) :
    (0 : ℚ) < (observations.length + plan.1.adverseStopPriorTrades : ℕ) ∧
      (countOf observations .target : ℚ) / (observations.length + plan.1.adverseStopPriorTrades : ℕ) +
        (countOf observations .stop + plan.1.adverseStopPriorTrades : ℕ) /
          (observations.length + plan.1.adverseStopPriorTrades : ℕ) ≤ 1 := by
  have hlength := List.length_pos_iff.mpr hne
  have hpos : (0 : ℚ) < (observations.length + plan.1.adverseStopPriorTrades : ℕ) := by
    apply Nat.cast_pos.mpr
    omega
  refine ⟨hpos, ?_⟩
  have hcounts := counts_le observations
  rw [← add_div, div_le_one hpos]
  exact_mod_cast (by omega : countOf observations .target + (countOf observations .stop + plan.1.adverseStopPriorTrades) ≤
    observations.length + plan.1.adverseStopPriorTrades)

theorem probabilities_bounded (plan : WalkForwardCalibrationPlan) (hne : observations ≠ []) :
    (0 ≤ targetProbability (ofPrecision 28) plan observations ∧ targetProbability (ofPrecision 28) plan observations ≤ 1) ∧
      (0 ≤ stopProbability (ofPrecision 28) plan observations ∧ stopProbability (ofPrecision 28) plan observations ≤ 1) ∧
      (ofPrecision 28).add (targetProbability (ofPrecision 28) plan observations)
        (stopProbability (ofPrecision 28) plan observations) ≤ 1 := by
  obtain ⟨hpos, hsum⟩ := shares plan hne
  have htarget : (0 : ℚ) ≤ countOf observations .target / (observations.length + plan.1.adverseStopPriorTrades : ℕ) :=
    div_nonneg (Nat.cast_nonneg _) hpos.le
  have hstop : (0 : ℚ) ≤ (countOf observations .stop + plan.1.adverseStopPriorTrades : ℕ) /
      (observations.length + plan.1.adverseStopPriorTrades : ℕ) := div_nonneg (Nat.cast_nonneg _) hpos.le
  refine ⟨⟨ofPrecision_nonneg htarget, ofPrecision_le_one (by decide) htarget (by linarith)⟩,
    ⟨ofPrecision_nonneg hstop, ofPrecision_le_one (by decide) hstop (by linarith)⟩, ?_⟩
  exact add_shares_le_one (by decide) htarget hstop hsum

/-- With more stop outcomes or more prior trades a target is not likelier and a stop is not less likely. -/
theorem probabilities_monotone (hne : observations ≠ []) (hstops : ∀ o ∈ stops, o.1.outcome = .stop)
    (hperm : others.Perm (observations ++ stops))
    (hprior : plan.1.adverseStopPriorTrades ≤ plan'.1.adverseStopPriorTrades) :
    targetProbability (ofPrecision 28) plan' others ≤ targetProbability (ofPrecision 28) plan observations ∧
      stopProbability (ofPrecision 28) plan observations ≤ stopProbability (ofPrecision 28) plan' others := by
  have hnone : countOf stops .target = 0 := by
    apply List.countP_eq_zero.mpr
    intro o ho
    rw [hstops o ho]
    decide
  have hall : countOf stops .stop = stops.length := by
    apply List.countP_eq_length.mpr
    intro o ho
    exact decide_eq_true (hstops o ho)
  have htarget : countOf others .target = countOf observations .target := by
    rw [countOf_perm hperm, countOf, List.countP_append]
    exact (congrArg _ hnone).trans (Nat.add_zero _)
  have hstop : countOf others .stop = countOf observations .stop + stops.length := by
    rw [countOf_perm hperm, countOf, List.countP_append]
    exact congrArg _ hall
  have hlength : others.length = observations.length + stops.length := by rw [hperm.length_eq, List.length_append]
  obtain ⟨hpos, -⟩ := shares plan hne
  have hpos' : (0 : ℚ) < (others.length + plan'.1.adverseStopPriorTrades : ℕ) := by
    rw [hlength]
    refine lt_of_lt_of_le hpos (Nat.cast_le.mpr ?_)
    omega
  constructor
  · refine ofPrecision_mono (by decide) (div_nonneg (Nat.cast_nonneg _) hpos'.le) ?_
    rw [htarget, hlength]
    refine div_le_div_of_nonneg_left (Nat.cast_nonneg _) hpos (Nat.cast_le.mpr ?_)
    omega
  · refine ofPrecision_mono (by decide) (div_nonneg (Nat.cast_nonneg _) hpos.le) ?_
    rw [div_le_div_iff₀ hpos hpos', hstop, hlength, ← Nat.cast_mul, ← Nat.cast_mul, Nat.cast_le]
    obtain ⟨j, hj⟩ := Nat.exists_eq_add_of_le hprior
    have hcounts := counts_le observations
    have hstep : (countOf observations .stop + plan.1.adverseStopPriorTrades) * (stops.length + j) ≤
        (observations.length + plan.1.adverseStopPriorTrades) * (stops.length + j) :=
      Nat.mul_le_mul_right _ (by omega)
    rw [hj]
    linarith

end Probabilities

section Builder

variable {hex : ContentId → String} {plan : WalkForwardCalibrationPlan} {observations : List CalibrationObservation}
  {cutoff : Instant}

theorem sortedUnique_ids (h : (observations.map (idText hex)).Nodup) :
    SortedUnique ((sortOn hex (observations.map (·.1.observationId))).map hex) := by
  have hperm := (perm_sortOn hex (observations.map (·.1.observationId))).map hex
  rw [List.map_map] at hperm
  refine ⟨hperm.nodup_iff.mpr h, sorted_of_pairwise ?_⟩
  exact List.pairwise_map.mpr (sortOn_pairwise _ _)

theorem checkBindings_ok (h : Admits hex plan observations cutoff) :
    (calibrationFields (ofPrecision 28) hex plan observations cutoff).checkBindings hex = .ok () := by
  have hperm := perm_sortOn (idText hex) observations
  have hsorted := h.perm hperm
  have htrials := (not_or.mp (raiseIf_bind_eq_ok.mp plan.2).1).2
  obtain ⟨-, hplan⟩ := raiseIf_bind_eq_ok.mp plan.2
  obtain ⟨-, hplan⟩ := raiseIf_bind_eq_ok.mp hplan
  have hmethod := not_not.mp (raiseIf_eq_ok.mp hplan)
  refine raiseIf_bind_eq_ok.mpr ⟨?_, raiseIf_bind_eq_ok.mpr ⟨not_le.mpr h.predates, raiseIf_bind_eq_ok.mpr ⟨htrials,
    raiseIf_bind_eq_ok.mpr ⟨?_, raiseIf_bind_eq_ok.mpr ⟨?_, raiseIf_bind_eq_ok.mpr ⟨not_not.mpr hsorted.trials,
    raiseIf_bind_eq_ok.mpr ⟨not_not.mpr hsorted.trades, raiseIf_bind_eq_ok.mpr ⟨not_not.mpr hsorted.signals,
    raiseIf_bind_eq_ok.mpr ⟨not_not.mpr hsorted.results, raiseIf_bind_eq_ok.mpr ⟨not_not.mpr (sortedUnique_ids h.ids),
    raiseIf_neg ?_⟩⟩⟩⟩⟩⟩⟩⟩⟩⟩
  · rintro (hne | hne | hne | hne | hne)
    · exact hne rfl
    · exact hne rfl
    · exact hne rfl
    · exact hne rfl
    · exact hne hmethod.symm
  · rintro (hnil | hne)
    · exact hsorted.nonempty hnil
    · exact hne (sortOn_of_pairwise _ (sortOn_pairwise _ _)).symm
  · rintro ⟨o, ho, hbad⟩
    obtain ⟨hconfig, hpartition, hknown, hregistered⟩ := hsorted.each o ho
    rcases hbad with hne | hne | hlt | hle
    · exact hne hconfig
    · exact hne hpartition
    · exact absurd hknown (not_le.mpr hlt)
    · exact absurd hregistered (not_lt.mpr hle)
  · have hmap := map_sortOn (idText hex) hex (fun o : CalibrationObservation => o.1.observationId) (fun _ => rfl)
      observations
    rw [not_not]
    show (sortOn hex (observations.map (·.1.observationId))).map hex = _
    rw [← hmap, List.map_map]
    rfl

/-- Of the constructor's checks of values only the one of the time-exit return can fail. -/
theorem checkValues_eq_ok (h : Admits hex plan observations cutoff) :
    (calibrationFields (ofPrecision 28) hex plan observations cutoff).checkValues (ofPrecision 28) = .ok () ↔
      timeExitMean (ofPrecision 28) observations = timeExitMean (ofPrecision 28) (sortOn (idText hex) observations) := by
  have hperm := perm_sortOn (idText hex) observations
  obtain ⟨htarget, hstop, hsum⟩ := probabilities_bounded plan h.nonempty
  have hcounts : ¬(countOf observations .target ≠ countOf (sortOn (idText hex) observations) .target ∨
      countOf observations .stop ≠ countOf (sortOn (idText hex) observations) .stop ∨
      (timeValues observations).length ≠ (timeValues (sortOn (idText hex) observations)).length) := by
    rw [countOf_perm hperm, countOf_perm hperm, (timeValues_perm hperm).length_eq]
    simp
  constructor
  · intro hok
    obtain ⟨-, hok⟩ := raiseIf_bind_eq_ok.mp hok
    obtain ⟨-, hok⟩ := raiseIf_bind_eq_ok.mp hok
    obtain ⟨-, hok⟩ := raiseIf_bind_eq_ok.mp hok
    obtain ⟨-, hok⟩ := raiseIf_bind_eq_ok.mp hok
    obtain ⟨-, hok⟩ := raiseIf_bind_eq_ok.mp hok
    obtain ⟨-, hok⟩ := raiseIf_bind_eq_ok.mp hok
    obtain ⟨-, hok⟩ := raiseIf_bind_eq_ok.mp hok
    exact not_not.mp (raiseIf_bind_eq_ok.mp hok).1
  · intro hmean
    refine raiseIf_bind_eq_ok.mpr ⟨not_lt.mpr h.sample, raiseIf_bind_eq_ok.mpr ⟨not_not.mpr hperm.length_eq.symm,
      raiseIf_bind_eq_ok.mpr ⟨not_not.mpr (counts_total observations), raiseIf_bind_eq_ok.mpr ⟨hcounts,
      raiseIf_bind_eq_ok.mpr ⟨?_, raiseIf_bind_eq_ok.mpr ⟨?_, raiseIf_bind_eq_ok.mpr ⟨not_lt.mpr hsum,
      raiseIf_bind_eq_ok.mpr ⟨not_not.mpr hmean, raiseIf_bind_eq_ok.mpr ⟨not_not.mpr rfl,
      raiseIf_neg (not_not.mpr rfl)⟩⟩⟩⟩⟩⟩⟩⟩⟩
    · rw [not_or, not_not, not_not]
      exact ⟨rfl, htarget⟩
    · rw [not_or, not_not, not_not]
      exact ⟨rfl, hstop⟩

/-- The builder returns the calibration exactly when the caller's order gives the time-exit return of the sorted one. -/
theorem build_ok_iff (h : Admits hex plan observations cutoff) :
    (∃ c, buildWalkForwardCalibration (ofPrecision 28) hex plan observations cutoff = .ok c) ↔
      timeExitMean (ofPrecision 28) observations = timeExitMean (ofPrecision 28) (sortOn (idText hex) observations) := by
  rw [← checkValues_eq_ok h]
  unfold buildWalkForwardCalibration
  rw [checkAdmission_eq_ok.mpr h, ok_bind]
  constructor
  · rintro ⟨c, hc⟩
    have hcheck := c.2
    rw [← Checked.build_eq_ok.mp hc] at hcheck
    obtain ⟨_, -, hvalues⟩ := bind_eq_ok.mp hcheck
    exact hvalues
  · intro hvalues
    have hcheck : (calibrationFields (ofPrecision 28) hex plan observations cutoff).check (ofPrecision 28) hex = .ok () :=
      bind_eq_ok.mpr ⟨(), checkBindings_ok h, hvalues⟩
    exact ⟨_, Checked.build_of_ok hcheck⟩

theorem build_fields {c : WalkForwardCalibration (ofPrecision 28) hex}
    (hc : buildWalkForwardCalibration (ofPrecision 28) hex plan observations cutoff = .ok c) :
    c.1 = calibrationFields (ofPrecision 28) hex plan observations cutoff := by
  obtain ⟨_, -, hc⟩ := bind_eq_ok.mp hc
  exact (Checked.build_eq_ok.mp hc).symm

end Builder

section Orders

variable {hex : ContentId → String} {plan : WalkForwardCalibrationPlan} {observations others : List CalibrationObservation}
  {cutoff : Instant}

/-- The rounded mean of some returns is that of every order of them. -/
def OrderFree (ctx : DecimalContext) (values : List ℚ) : Prop :=
  ∀ others, others.Perm values → meanReturn ctx others = meanReturn ctx values

theorem timeValues_append (observations others : List CalibrationObservation) :
    timeValues (observations ++ others) = timeValues observations ++ timeValues others := by
  unfold timeValues
  rw [List.filter_append, List.filterMap_append]

theorem timeValues_of_time (h : ∀ o ∈ observations, o.1.outcome = .time) :
    timeValues observations = observations.map fun o => o.1.realizedTimeExitR.getD 0 := by
  induction observations with
  | nil => rfl
  | cons o observations ih =>
    have ho := h o List.mem_cons_self
    obtain ⟨r, hr⟩ := Option.isSome_iff_exists.mp ((observation_time o).mp ho)
    have hrest := ih fun o' ho' => h o' (List.mem_cons_of_mem _ ho')
    unfold timeValues at hrest ⊢
    rw [List.filter_cons, if_pos (decide_eq_true ho), List.filterMap_cons, hr, List.map_cons, hr, hrest]
    rfl

theorem timeValues_of_not_time (h : ∀ o ∈ observations, o.1.outcome ≠ .time) : timeValues observations = [] := by
  unfold timeValues
  rw [List.filter_eq_nil_iff.mpr fun o ho => by simpa using h o ho]
  rfl

/-- Every order of the returns is that of some order of the observations. -/
theorem exists_order {values : List ℚ} (h : values.Perm (timeValues observations)) :
    ∃ others, others.Perm observations ∧ timeValues others = values := by
  have hsplit := List.filter_append_perm (fun o : CalibrationObservation => decide (o.1.outcome = .time)) observations
  have htime : ∀ o ∈ observations.filter (fun o => decide (o.1.outcome = .time)), o.1.outcome = .time :=
    fun o ho => of_decide_eq_true (List.mem_filter.mp ho).2
  have hrest : ∀ o ∈ observations.filter (fun o => !decide (o.1.outcome = .time)), o.1.outcome ≠ .time := by
    intro o ho
    simpa using (List.mem_filter.mp ho).2
  have hvalues := timeValues_perm hsplit
  rw [timeValues_append, timeValues_of_not_time hrest, List.append_nil, timeValues_of_time htime] at hvalues
  obtain ⟨front, hfront, hmap⟩ := exists_perm_map_eq (hvalues.trans h.symm)
  refine ⟨front ++ observations.filter (fun o => !decide (o.1.outcome = .time)), (hfront.symm.append_right _).trans hsplit, ?_⟩
  rw [timeValues_append, timeValues_of_not_time hrest, List.append_nil,
    timeValues_of_time fun o ho => htime o (hfront.mem_iff.mpr ho)]
  exact hmap

theorem sortOn_perm (h : (observations.map (idText hex)).Nodup) (hperm : others.Perm observations) :
    sortOn (idText hex) others = sortOn (idText hex) observations := by
  refine sortOn_eq_of_perm _ hperm fun a ha b hb heq => ?_
  exact List.inj_on_of_nodup_map ((hperm.map _).nodup_iff.mpr h) ha hb heq

theorem orderFree_iff (h : (observations.map (idText hex)).Nodup) :
    OrderFree (ofPrecision 28) (timeValues observations) ↔ ∀ others, others.Perm observations →
      timeExitMean (ofPrecision 28) others = timeExitMean (ofPrecision 28) (sortOn (idText hex) others) := by
  constructor
  · intro hfree others hperm
    have hsorted := (perm_sortOn (idText hex) others).trans hperm
    exact (hfree _ (timeValues_perm hperm)).trans (hfree _ (timeValues_perm hsorted)).symm
  · intro hall values hvalues
    obtain ⟨others, hperm, rfl⟩ := exists_order hvalues
    have hother := hall others hperm
    have hself := hall observations (.refl _)
    rw [sortOn_perm h hperm] at hother
    exact hother.trans hself.symm

/-- The builder's values do not depend on the order but for the time-exit return. -/
theorem calibrationFields_perm (h : Admits hex plan observations cutoff) (hperm : others.Perm observations)
    (hmean : timeExitMean (ofPrecision 28) others = timeExitMean (ofPrecision 28) observations) :
    calibrationFields (ofPrecision 28) hex plan others cutoff =
      calibrationFields (ofPrecision 28) hex plan observations cutoff := by
  have hids : sortOn hex (others.map (·.1.observationId)) = sortOn hex (observations.map (·.1.observationId)) := by
    refine sortOn_eq_of_perm _ (hperm.map _) fun a ha b hb heq => ?_
    obtain ⟨o, ho, rfl⟩ := List.mem_map.mp ha
    obtain ⟨o', ho', rfl⟩ := List.mem_map.mp hb
    rw [List.inj_on_of_nodup_map h.ids (hperm.mem_iff.mp ho) (hperm.mem_iff.mp ho') heq]
  unfold calibrationFields targetProbability stopProbability
  rw [sortOn_perm h.ids hperm, hids, hmean, countOf_perm hperm, countOf_perm hperm, hperm.length_eq,
    (timeValues_perm hperm).length_eq]

end Orders

section Samples

def sampleReturn : ℕ → Option ℚ
  | 0 => some (10 ^ 28)
  | 1 => some 1
  | 2 => some (-10 ^ 28)
  | _ => none

def sampleFields (n : ℕ) : CalibrationObservationFields where
  signalConfigId := "c"
  sourceTrialId := "t"
  sourceResultId := "r"
  sourceCompletionEventId := "e"
  sourceTradeId := String.ofList [Char.ofNat (256 + n)]
  signalId := String.ofList [Char.ofNat (256 + n)]
  signalSession := 0
  resolvedSession := 0
  knownAt := 86400000000
  partition := .test
  outcome := if (sampleReturn n).isSome then .time else .target
  realizedTimeExitR := sampleReturn n

def sampleObservation (n : ℕ) : List CalibrationObservation :=
  match Checked.build CalibrationObservationFields.check (sampleFields n) with
  | .ok o => [o]
  | .error _ => []

def sampleHex : ContentId → String
  | .pair _ (.pair _ (.pair _ (.pair _ (.pair (.text trade) _)))) => trade
  | _ => ""

def samplePlan : WalkForwardCalibrationPlan :=
  ⟨⟨0, "c", ["t"], 100, 10, "TEST_ONLY_ADVERSE_STOP_PRIOR/v1"⟩, ok_of_toOption (by decide +kernel)⟩

/-- A hundred observations in the order of their ids, of which the first three are time exits. -/
def sampleOrder : List CalibrationObservation := (List.range 100).flatMap sampleObservation

/-- The same observations with the second one last. -/
def sampleShuffled : List CalibrationObservation := (0 :: List.range' 2 98 ++ [1]).flatMap sampleObservation

end Samples

end IndiaSwing.Calibration
