import IndiaSwing.FamilyAggregation
import IndiaSwing.Lib.StepDown

namespace IndiaSwing.FamilyAggregation

open ExceptGuards KeySort SortedTuples StepDown TextPatterns

section Tails

variable {wins wins' sampleCount n m : ℕ}

theorem familyContext_nonneg {value : ℚ} (h : 0 ≤ value) : 0 ≤ familyContext.round value :=
  DecimalContext.ofPrecision_nonneg h

theorem familyContext_le_one {value : ℚ} (hnonneg : 0 ≤ value) (h : value ≤ 1) : familyContext.round value ≤ 1 :=
  DecimalContext.ofPrecision_le_one (by decide) hnonneg h

theorem familyContext_mono {a b : ℚ} (ha : 0 ≤ a) (hab : a ≤ b) : familyContext.round a ≤ familyContext.round b :=
  DecimalContext.ofPrecision_mono (by decide) ha hab

/-- The tail of a sign test. -/
def signTail (wins sampleCount : ℕ) : ℚ :=
  familyContext.div ((∑ value ∈ Finset.Ico wins (sampleCount + 1), sampleCount.choose value : ℕ) : ℚ)
    ((2 ^ sampleCount : ℕ) : ℚ)

theorem exactSignTail_ok (hpos : sampleCount ≠ 0) (hle : wins ≤ sampleCount) :
    exactSignTail wins sampleCount = .ok (signTail wins sampleCount) := by
  unfold exactSignTail
  rw [raiseIf_neg (not_or.mpr ⟨hpos, not_lt.mpr hle⟩), ok_bind]
  rfl

theorem tail_antitone (h : wins ≤ wins') : ∑ value ∈ Finset.Ico wins' (sampleCount + 1), sampleCount.choose value ≤
    ∑ value ∈ Finset.Ico wins (sampleCount + 1), sampleCount.choose value :=
  Finset.sum_le_sum_of_subset (Finset.Ico_subset_Ico_left h)

theorem tail_le : ∑ value ∈ Finset.Ico wins (sampleCount + 1), sampleCount.choose value ≤ 2 ^ sampleCount := by
  rw [← Nat.sum_range_choose, Finset.range_eq_Ico]
  exact tail_antitone (Nat.zero_le wins)

/-- More wins have a smaller tail. -/
theorem signTail_antitone (h : wins ≤ wins') : signTail wins' sampleCount ≤ signTail wins sampleCount := by
  refine familyContext_mono (by positivity) ?_
  exact div_le_div_of_nonneg_right (by exact_mod_cast tail_antitone h) (by positivity)

theorem signTail_nonneg : 0 ≤ signTail wins sampleCount := familyContext_nonneg (by positivity)

theorem signTail_le_one : signTail wins sampleCount ≤ 1 := by
  refine familyContext_le_one (by positivity) ?_
  rw [div_le_one (by positivity)]
  exact_mod_cast tail_le

/-- The threshold of a trial with `n` trials from its rank on. -/
def remainingThreshold (n : ℕ) : ℚ := familyContext.div foldSignHolmAlpha (n : ℚ)

theorem holmThreshold_eq (h : n < m) : holmThreshold foldSignHolmAlpha m (1 + n) = remainingThreshold (m - n) := by
  unfold holmThreshold remainingThreshold
  congr 2
  omega

theorem alpha_nonneg : 0 ≤ foldSignHolmAlpha := by
  unfold foldSignHolmAlpha
  norm_num

theorem holmThreshold_unit (rank : ℕ) : 0 ≤ holmThreshold foldSignHolmAlpha m rank ∧
    holmThreshold foldSignHolmAlpha m rank ≤ 1 := by
  have hnonneg : 0 ≤ foldSignHolmAlpha / ((m - rank + 1 : ℕ) : ℚ) := div_nonneg alpha_nonneg (Nat.cast_nonneg _)
  refine ⟨familyContext_nonneg hnonneg, familyContext_le_one hnonneg ?_⟩
  have hone : (1 : ℚ) ≤ ((m - rank + 1 : ℕ) : ℚ) := by exact_mod_cast Nat.succ_pos _
  rw [div_le_one (zero_lt_one.trans_le hone)]
  refine le_trans ?_ hone
  unfold foldSignHolmAlpha
  norm_num

/-- The threshold falls as the family grows. -/
theorem remainingThreshold_antitone : AntitoneOn remainingThreshold (Set.Ici 1) := by
  intro n hn m _ h
  have hpos : (0 : ℚ) < n := Nat.cast_pos.mpr hn
  have hle : (n : ℚ) ≤ m := by exact_mod_cast h
  exact familyContext_mono (div_nonneg alpha_nonneg (Nat.cast_nonneg _)) (div_le_div_of_nonneg_left alpha_nonneg hpos hle)

end Tails

section Evidence

variable {aggregator : TrialFamilyEvaluationAggregator} {family : String} {runs others : List DeterministicComparisonRun}
  {run better : DeterministicComparisonRun} {raw : RawTrial} {raws : List RawTrial}

/-- The evidence of a run, as its folds give it. -/
def evidence (run : DeterministicComparisonRun) : RawTrial :=
  ⟨max (signTail run.baseWins run.foldCount) (signTail run.stressedWins run.foldCount), run.comparison.trialId, run,
    run.baseWins, run.stressedWins, signTail run.baseWins run.foldCount, signTail run.stressedWins run.foldCount⟩

theorem foldCount_ne_zero (run : DeterministicComparisonRun) : run.foldCount ≠ 0 :=
  fun h => run.folds_ne_nil (List.length_eq_zero_iff.mp h)

theorem requireRegistered_hex {registration : TrialRegistration} {trialId : String}
    (h : aggregator.requireRegistered trialId = .ok registration) : aggregator.hex registration.trialId = trialId := by
  unfold TrialFamilyEvaluationAggregator.requireRegistered at h
  split at h
  · next registration' hfind =>
    obtain rfl := Except.ok.inj h
    have hfound := List.find?_some hfind
    exact of_decide_eq_true hfound
  · cases h

theorem baseWins_le (run : DeterministicComparisonRun) : run.baseWins ≤ run.foldCount := run.wins_le _

theorem stressedWins_le (run : DeterministicComparisonRun) : run.stressedWins ≤ run.foldCount := run.wins_le _

theorem measureRun_eq_ok (h : aggregator.measureRun family run = .ok raw) : raw = evidence run := by
  unfold TrialFamilyEvaluationAggregator.measureRun at h
  obtain ⟨_, -, h⟩ := bind_eq_ok.mp h
  obtain ⟨registration, hregistered, h⟩ := bind_eq_ok.mp h
  obtain ⟨-, h⟩ := raiseIf_bind_eq_ok.mp h
  obtain ⟨-, h⟩ := raiseIf_bind_eq_ok.mp h
  rw [exactSignTail_ok (foldCount_ne_zero run) (baseWins_le run), ok_bind,
    exactSignTail_ok (foldCount_ne_zero run) (stressedWins_le run), ok_bind, requireRegistered_hex hregistered] at h
  exact (Except.ok.inj h).symm

/-- What the evidence of a family rests on. -/
structure Measured (aggregator : TrialFamilyEvaluationAggregator) (family : String)
    (runs : List DeterministicComparisonRun) : Prop where
  named : stripText family.toList ≠ []
  registered : aggregator.registry.registrationsForFamily family ≠ []
  policies : ∀ registration ∈ aggregator.registry.registrationsForFamily family,
    aggregator.multipleTestingPolicy registration.declaration = foldSignHolmPolicy
  distinct : (runs.map (·.comparison.trialId)).Nodup
  covers : ∀ trialId, trialId ∈ aggregator.registrationIds family ↔ trialId ∈ runs.map (·.comparison.trialId)
  measured : ∀ run ∈ runs, aggregator.measureRun family run = .ok (evidence run)

theorem measureFamily_eq_ok : aggregator.measureFamily family runs = .ok raws ↔
    Measured aggregator family runs ∧ raws = runs.map evidence := by
  unfold TrialFamilyEvaluationAggregator.measureFamily
  rw [raiseIf_bind_eq_ok, raiseIf_bind_eq_ok, raiseIf_bind_eq_ok, raiseIf_bind_eq_ok, mapM_eq_ok]
  constructor
  · rintro ⟨hnamed, hregistered, hpolicies, hcover, hruns⟩
    have hraws : List.Forall₂ (fun run raw => aggregator.measureRun family run = .ok raw ∧ raw = evidence run) runs raws :=
      hruns.imp fun run raw h => ⟨h, measureRun_eq_ok h⟩
    push Not at hpolicies hcover
    obtain ⟨hdistinct, hknown, hrun⟩ := hcover
    refine ⟨⟨hnamed, hregistered, hpolicies, hdistinct, fun trialId => ⟨hrun trialId, fun hid => ?_⟩, fun run hmem => ?_⟩, ?_⟩
    · obtain ⟨run, hmem, rfl⟩ := List.mem_map.mp hid
      exact hknown run hmem
    · obtain ⟨raw, -, hok, rfl⟩ := mem_of_forall₂_left hraws hmem
      exact hok
    · have hmap := forall₂_map_eq (f := evidence) (g := id) hraws fun run raw h => h.2.symm
      rw [hmap, List.map_id]
  · rintro ⟨hmeasured, rfl⟩
    refine ⟨hmeasured.named, hmeasured.registered, ?_, ?_, ?_⟩
    · push Not
      exact hmeasured.policies
    · push Not
      refine ⟨hmeasured.distinct, fun run hmem => ?_, fun trialId hmem => (hmeasured.covers trialId).mp hmem⟩
      exact (hmeasured.covers _).mpr (List.mem_map.mpr ⟨run, hmem, rfl⟩)
    · rw [List.forall₂_map_right_iff]
      exact List.forall₂_same.mpr hmeasured.measured

theorem Measured.perm (h : Measured aggregator family runs) (hperm : runs.Perm others) :
    Measured aggregator family others := by
  refine ⟨h.named, h.registered, h.policies, (hperm.map _).nodup_iff.mp h.distinct, fun trialId => ?_, fun run hrun => ?_⟩
  · rw [h.covers, (hperm.map _).mem_iff]
  · exact h.measured run (hperm.mem_iff.mpr hrun)

theorem Measured.ne_nil (h : Measured aggregator family runs) : runs ≠ [] := by
  rintro rfl
  obtain ⟨registration, hmem⟩ := List.exists_mem_of_ne_nil _ h.registered
  have hid : aggregator.hex registration.trialId ∈ aggregator.registrationIds family :=
    List.mem_dedup.mpr (List.mem_map.mpr ⟨registration, hmem, rfl⟩)
  cases (h.covers _).mp hid

/-- The keys of the runs differ. -/
theorem Measured.keys_nodup (h : Measured aggregator family runs) : (runs.map fun run => (evidence run).key).Nodup := by
  refine nodup_map_of h.distinct fun run _ run' _ heq => ?_
  exact congrArg (fun key => (ofLex key).2) heq

end Evidence

section Decisions

variable {familySize rank : ℕ} {go : Bool} {runs : List DeterministicComparisonRun} {decisions : List FamilyTrialDecision}

/-- What the decisions of some evidence are. -/
structure Decided (familySize rank : ℕ) (go : Bool) (raws : List RawTrial) (decisions : List FamilyTrialDecision) :
    Prop where
  keys : decisions.map (·.1.pValueKey) = raws.map RawTrial.key
  rejections : decisions.map (·.1.hypothesisRejected) =
    stepDown (holmThreshold foldSignHolmAlpha familySize) rank go (raws.map (·.rawP))
  ranks : decisions.map (·.1.holmRank) = List.range' rank raws.length
  checkRanks : checkRanks rank decisions = .ok ()
  checkStepDown : checkStepDown foldSignHolmAlpha familySize rank go decisions = .ok ()

/-- Going on as long as a trial is rejected. -/
theorem continue_eq (go met : Bool) : (if (go && met) = true then go else false) = (go && met) := by
  cases go <;> cases met <;> rfl

/-- The decision on the evidence of a run. -/
def runDecision (familySize rank : ℕ) (rejected : Bool) (run : DeterministicComparisonRun) :
    FamilyTrialDecisionFields where
  trialId := run.comparison.trialId
  comparisonId := run.comparison.comparisonId
  foldCount := run.foldCount
  baseWins := run.baseWins
  stressedWins := run.stressedWins
  basePValue := (evidence run).baseP
  stressedPValue := (evidence run).stressedP
  rawPValue := (evidence run).rawP
  holmRank := rank
  holmThreshold := holmThreshold foldSignHolmAlpha familySize rank
  hypothesisRejected := rejected
  comparisonPassed := run.comparison.passed
  eligible := rejected && run.comparison.passed

theorem runDecision_fractions (run : DeterministicComparisonRun) (rejected : Bool) :
    ∀ x ∈ (runDecision familySize rank rejected run).fractions, 0 ≤ x.2 ∧ x.2 ≤ 1 := by
  have hmax : 0 ≤ (evidence run).rawP ∧ (evidence run).rawP ≤ 1 :=
    ⟨le_max_of_le_left signTail_nonneg, max_le signTail_le_one signTail_le_one⟩
  intro x hx
  simp only [FamilyTrialDecisionFields.fractions, List.mem_cons, List.not_mem_nil, or_false] at hx
  rcases hx with rfl | rfl | rfl | rfl
  · exact ⟨signTail_nonneg, signTail_le_one⟩
  · exact ⟨signTail_nonneg, signTail_le_one⟩
  · exact hmax
  · exact holmThreshold_unit rank

/-- The decision on the evidence of a run passes its own check. -/
theorem runDecision_check (run : DeterministicComparisonRun) (hrank : rank ≠ 0) (rejected : Bool) :
    (runDecision familySize rank rejected run).check = .ok () := by
  have hraw : ¬(evidence run).rawP ≠ max (evidence run).baseP (evidence run).stressedP := not_not.mpr rfl
  have htails : ¬((evidence run).baseP ≠ signTail run.baseWins run.foldCount ∨
      (evidence run).stressedP ≠ signTail run.stressedWins run.foldCount) := not_or.mpr ⟨not_not.mpr rfl, not_not.mpr rfl⟩
  have hfractions : (runDecision familySize rank rejected run).fractions.forM
      (fun x => raiseIf (¬(0 ≤ x.2 ∧ x.2 ≤ 1)) (FamilyError.aggregation (x.1 ++ " must be between zero and one"))) =
        .ok () := forM_eq_ok.mpr fun x hx => raiseIf_neg (not_not.mpr (runDecision_fractions run rejected x hx))
  unfold FamilyTrialDecisionFields.check
  rw [hfractions]
  unfold runDecision
  dsimp only
  rw [raiseIf_neg (foldCount_ne_zero run), ok_bind, raiseIf_neg (not_lt.mpr (baseWins_le run)), ok_bind,
    raiseIf_neg (not_lt.mpr (stressedWins_le run)), ok_bind, ok_bind, raiseIf_neg hraw, ok_bind,
    exactSignTail_ok (foldCount_ne_zero run) (baseWins_le run), ok_bind,
    exactSignTail_ok (foldCount_ne_zero run) (stressedWins_le run), ok_bind, raiseIf_neg htails, ok_bind,
    raiseIf_neg hrank, ok_bind, raiseIf_neg (not_not.mpr rfl)]

theorem holmDecisions_cons (run : DeterministicComparisonRun) (rest : List RawTrial) (hrank : rank ≠ 0)
    {rejected : Bool} (hrejected : rejected =
      (go && decide ((evidence run).rawP ≤ holmThreshold foldSignHolmAlpha familySize rank))) :
    holmDecisions familySize rank go (evidence run :: rest) = (do
      let decisions ← holmDecisions familySize (rank + 1) rejected rest
      .ok (⟨runDecision familySize rank rejected run, runDecision_check run hrank rejected⟩ :: decisions)) := by
  subst hrejected
  rw [holmDecisions, continue_eq]
  exact congrArg (· >>= _) (Checked.build_of_ok (runDecision_check run hrank _))

/-- The evidence of runs is decided. -/
theorem holmDecisions_ok (hrank : rank ≠ 0) : ∃ decisions,
    holmDecisions familySize rank go (runs.map evidence) = .ok decisions ∧
      Decided familySize rank go (runs.map evidence) decisions := by
  induction runs generalizing rank go with
  | nil => exact ⟨[], rfl, rfl, rfl, rfl, rfl, rfl⟩
  | cons run runs ih =>
    obtain ⟨rejected, hrejected⟩ : ∃ rejected, rejected =
        (go && decide ((evidence run).rawP ≤ holmThreshold foldSignHolmAlpha familySize rank)) := ⟨_, rfl⟩
    obtain ⟨decisions, hok, hdecided⟩ := @ih (rank + 1) rejected (Nat.succ_ne_zero _)
    refine ⟨⟨runDecision familySize rank rejected run, runDecision_check run hrank rejected⟩ :: decisions, ?_, ?_, ?_, ?_, ?_, ?_⟩
    · rw [List.map_cons, holmDecisions_cons run _ hrank hrejected, hok, ok_bind]
    · rw [List.map_cons, List.map_cons, List.map_cons, hdecided.keys]
      rfl
    · rw [List.map_cons, List.map_cons, List.map_cons, stepDown, ← hrejected, hdecided.rejections]
      rfl
    · rw [List.map_cons, List.map_cons, List.length_cons, List.range'_succ, hdecided.ranks]
      rfl
    · have hsame : ¬(runDecision familySize rank rejected run).holmRank ≠ rank := not_not.mpr rfl
      rw [FamilyAggregation.checkRanks, raiseIf_neg hsame, ok_bind, hdecided.checkRanks]
    · have hgo : (go && decide ((runDecision familySize rank rejected run).rawPValue ≤
          holmThreshold foldSignHolmAlpha familySize rank)) = rejected := hrejected.symm
      have hsame : ¬((runDecision familySize rank rejected run).holmThreshold ≠
            holmThreshold foldSignHolmAlpha familySize rank ∨
          (runDecision familySize rank rejected run).hypothesisRejected ≠ rejected) :=
        not_or.mpr ⟨not_not.mpr rfl, not_not.mpr rfl⟩
      rw [FamilyAggregation.checkStepDown, continue_eq, hgo, raiseIf_neg hsame, ok_bind]
      exact hdecided.checkStepDown

end Decisions

section Aggregates

variable {aggregator : TrialFamilyEvaluationAggregator} {family : String} {runs others : List DeterministicComparisonRun}
  {familySize rank : ℕ} {go : Bool} {raws : List RawTrial} {decisions : List FamilyTrialDecision}

theorem Decided.trialIds (h : Decided familySize rank go raws decisions) :
    decisions.map (·.1.trialId) = raws.map (·.trialId) := by
  have hkeys := congrArg (List.map fun key => (ofLex key).2) h.keys
  rwa [List.map_map, List.map_map] at hkeys

theorem Decided.rawPValues (h : Decided familySize rank go raws decisions) :
    decisions.map (·.1.rawPValue) = raws.map (·.rawP) := by
  have hkeys := congrArg (List.map fun key => (ofLex key).1) h.keys
  rwa [List.map_map, List.map_map] at hkeys

theorem Decided.length_eq (h : Decided familySize rank go raws decisions) : decisions.length = raws.length := by
  have hlength := congrArg List.length h.keys
  rwa [List.length_map, List.length_map] at hlength

/-- Decisions are in the order of their ranks. -/
theorem Decided.rank_sorted (h : Decided familySize rank go raws decisions) :
    sortOn (fun d : FamilyTrialDecision => toLex (d.1.holmRank, d.1.trialId)) decisions = decisions := by
  have hranks : (decisions.map (·.1.holmRank)).Pairwise (· < ·) := by
    rw [h.ranks]
    exact List.pairwise_lt_range'
  refine sortOn_of_pairwise _ ((List.pairwise_map.mp hranks).imp fun hlt => ?_)
  exact Prod.Lex.toLex_le_toLex.mpr (.inl hlt)

/-- Decisions on sorted evidence are in the order of their p-values. -/
theorem Decided.pValue_sorted (h : Decided familySize rank go raws decisions)
    (hraws : raws.Pairwise fun raw raw' => raw.key ≤ raw'.key) :
    sortOn (fun d : FamilyTrialDecision => d.1.pValueKey) decisions = decisions := by
  have hkeys : (decisions.map (·.1.pValueKey)).Pairwise (· ≤ ·) := by
    rw [h.keys]
    exact List.pairwise_map.mpr hraws
  exact sortOn_of_pairwise _ (List.pairwise_map.mp hkeys)

/-- The runs in the order of the step-down. -/
def ordered (runs : List DeterministicComparisonRun) : List DeterministicComparisonRun :=
  sortOn (fun run => (evidence run).key) runs

theorem ordered_perm (runs : List DeterministicComparisonRun) : (ordered runs).Perm runs := perm_sortOn _ _

theorem sortOn_evidence (runs : List DeterministicComparisonRun) :
    sortOn RawTrial.key (runs.map evidence) = (ordered runs).map evidence :=
  (map_sortOn (fun run => (evidence run).key) RawTrial.key evidence (fun _ => rfl) runs).symm

theorem ordered_sorted (runs : List DeterministicComparisonRun) :
    ((ordered runs).map evidence).Pairwise fun raw raw' => raw.key ≤ raw'.key := by
  rw [← sortOn_evidence]
  exact sortOn_pairwise _ _

theorem Measured.registrationIds_sorted (h : Measured aggregator family runs) :
    sorted (aggregator.registrationIds family) ≠ [] ∧
      sorted (aggregator.registrationIds family) = sorted (sorted (aggregator.registrationIds family)).dedup := by
  have hnodup : (aggregator.registrationIds family).Nodup := List.nodup_dedup _
  refine ⟨fun hnil => ?_, ?_⟩
  · obtain ⟨run, hrun⟩ := List.exists_mem_of_ne_nil _ h.ne_nil
    have hid := mem_sorted.mpr ((h.covers _).mpr (List.mem_map.mpr ⟨run, hrun, rfl⟩))
    rw [hnil] at hid
    cases hid
  · rw [(sorted_perm.nodup_iff.mpr hnodup).dedup, sorted_sorted]

/-- The aggregate of measured runs is built. -/
theorem aggregate_ok (h : Measured aggregator family runs) : ∃ a, aggregator.aggregate family runs = .ok a ∧
    Decided runs.length 1 true ((ordered runs).map evidence) a.1.decisions := by
  obtain ⟨decisions, hok, hdecided⟩ : ∃ decisions,
      holmDecisions runs.length 1 true ((ordered runs).map evidence) = .ok decisions ∧
        Decided runs.length 1 true ((ordered runs).map evidence) decisions := holmDecisions_ok one_ne_zero
  have hlength : decisions.length = runs.length := by
    rw [hdecided.length_eq, List.length_map, (ordered_perm runs).length_eq]
  have hids : ∀ trialId, trialId ∈ decisions.map (·.1.trialId) ↔ trialId ∈ aggregator.registrationIds family := by
    intro trialId
    rw [hdecided.trialIds, List.map_map, h.covers]
    exact ((ordered_perm runs).map _).mem_iff
  have hne : decisions ≠ [] := by
    rintro rfl
    exact h.ne_nil (List.length_eq_zero_iff.mp hlength.symm)
  obtain ⟨hregistered, hsorted⟩ := h.registrationIds_sorted
  have hcheck : (⟨family, foldSignHolmPolicy, foldSignHolmAlpha, sorted (aggregator.registrationIds family),
      decisions⟩ : FamilyAggregateFields).check = .ok () := by
    unfold FamilyAggregateFields.check
    rw [raiseIf_neg h.named, ok_bind, raiseIf_neg (not_or.mpr ⟨not_not.mpr rfl, not_not.mpr rfl⟩), ok_bind,
      raiseIf_neg (not_or.mpr ⟨hregistered, not_not.mpr hsorted⟩), ok_bind,
      raiseIf_neg (not_or.mpr ⟨hne, not_not.mpr hdecided.rank_sorted.symm⟩), ok_bind, raiseIf_neg, ok_bind,
      hdecided.checkRanks, ok_bind, raiseIf_neg (not_not.mpr (hdecided.pValue_sorted (ordered_sorted runs)).symm), ok_bind]
    · rw [hlength]
      exact hdecided.checkStepDown
    · rintro (⟨d, hd, hunknown⟩ | ⟨trialId, hid, hmissing⟩)
      · exact hunknown (mem_sorted.mpr ((hids _).mp (List.mem_map.mpr ⟨d, hd, rfl⟩)))
      · exact hmissing ((hids _).mpr (mem_sorted.mp hid))
  refine ⟨⟨_, hcheck⟩, ?_, hdecided⟩
  unfold TrialFamilyEvaluationAggregator.aggregate
  rw [measureFamily_eq_ok.mpr ⟨h, rfl⟩, ok_bind, List.length_map, sortOn_evidence, hok, ok_bind]
  exact Checked.build_of_ok hcheck

/-- The order of the runs is no part of the evidence. -/
theorem ordered_of_perm (h : Measured aggregator family runs) (hperm : runs.Perm others) :
    ordered runs = ordered others := by
  refine sortOn_eq_of_perm _ hperm fun run hrun run' hrun' hkey => ?_
  exact List.inj_on_of_nodup_map h.keys_nodup hrun hrun' hkey

theorem aggregate_perm {a : FamilyAggregate} (h : Measured aggregator family runs) (hperm : runs.Perm others)
    (ha : aggregator.aggregate family runs = .ok a) : aggregator.aggregate family others = .ok a := by
  rw [← ha]
  unfold TrialFamilyEvaluationAggregator.aggregate
  rw [measureFamily_eq_ok.mpr ⟨h, rfl⟩, measureFamily_eq_ok.mpr ⟨h.perm hperm, rfl⟩, ok_bind, ok_bind, sortOn_evidence,
    sortOn_evidence, ordered_of_perm h hperm, List.length_map, List.length_map, hperm.length_eq]

end Aggregates

section Gate

variable {aggregator : TrialFamilyEvaluationAggregator} {family : String} {runs others : List DeterministicComparisonRun}
  {run : DeterministicComparisonRun} {a : FamilyAggregate} {d : FamilyTrialDecision} {i : ℕ}

/-- The key of a run in the step-down. -/
def runKey (run : DeterministicComparisonRun) : ℚ ×ₗ String := (evidence run).key

/-- The p-value of a key. -/
def keyPValue (key : ℚ ×ₗ String) : ℚ := (ofLex key).1

/-- The trial is among the rejected ones of an aggregate. -/
def Rejected (a : FamilyAggregate) (trialId : String) : Prop :=
  ∃ d ∈ a.1.decisions, d.1.trialId = trialId ∧ d.1.hypothesisRejected = true

/-- What the Holm gate decides about some runs: their raw p-values, sorted with the trial ids, are rejected up to the
first one above its threshold. -/
structure HolmGate (runs : List DeterministicComparisonRun) (a : FamilyAggregate) : Prop where
  trials : (a.1.decisions.map fun d => (d.1.trialId, d.1.rawPValue)).Perm (runs.map fun run =>
    (run.comparison.trialId, max (signTail run.baseWins run.foldCount) (signTail run.stressedWins run.foldCount)))
  increasing : a.1.decisions.Pairwise fun d d' => d.1.pValueKey < d'.1.pValueKey
  rejected : ∀ (i : ℕ) (d : FamilyTrialDecision), a.1.decisions[i]? = some d → (d.1.hypothesisRejected = true ↔
    ∀ j ≤ i, ∀ d' : FamilyTrialDecision, a.1.decisions[j]? = some d' →
      d'.1.rawPValue ≤ familyContext.div foldSignHolmAlpha ((a.1.decisions.length - j : ℕ) : ℚ))

theorem aggregate_eq_ok (ha : aggregator.aggregate family runs = .ok a) : Measured aggregator family runs ∧
    Decided runs.length 1 true ((ordered runs).map evidence) a.1.decisions := by
  have hmeasured : Measured aggregator family runs := by
    unfold TrialFamilyEvaluationAggregator.aggregate at ha
    obtain ⟨raws, hraws, -⟩ := bind_eq_ok.mp ha
    exact (measureFamily_eq_ok.mp hraws).1
  obtain ⟨b, hb, hdecided⟩ := aggregate_ok hmeasured
  obtain rfl := Except.ok.inj (hb.symm.trans ha)
  exact ⟨hmeasured, hdecided⟩

theorem map_runKey (runs : List DeterministicComparisonRun) :
    (runs.map evidence).map RawTrial.key = runs.map runKey := List.map_map

theorem Measured.increasing (h : Measured aggregator family runs) : ((ordered runs).map runKey).Pairwise (· < ·) := by
  have hle : ((ordered runs).map runKey).Pairwise (· ≤ ·) := by
    rw [← map_runKey]
    exact List.pairwise_map.mpr (ordered_sorted runs)
  have hnodup : ((ordered runs).map runKey).Nodup := ((ordered_perm runs).map _).nodup_iff.mpr h.keys_nodup
  exact (hle.and hnodup).imp fun hab => lt_of_le_of_ne hab.1 hab.2

/-- A decision is on the run at its place. -/
theorem Decided.run_at (h : Decided runs.length 1 true ((ordered runs).map evidence) a.1.decisions)
    (hd : a.1.decisions[i]? = some d) : ∃ run, (ordered runs)[i]? = some run ∧
      d.1.trialId = run.comparison.trialId ∧ d.1.rawPValue = (evidence run).rawP := by
  have htrial : (a.1.decisions.map (·.1.trialId))[i]? = some d.1.trialId := by rw [List.getElem?_map, hd]; rfl
  have hraw : (a.1.decisions.map (·.1.rawPValue))[i]? = some d.1.rawPValue := by rw [List.getElem?_map, hd]; rfl
  rw [h.trialIds, List.map_map, List.getElem?_map] at htrial
  rw [h.rawPValues, List.map_map, List.getElem?_map] at hraw
  obtain ⟨run, hrun, hid⟩ := Option.map_eq_some_iff.mp htrial
  obtain ⟨run', hrun', hvalue⟩ := Option.map_eq_some_iff.mp hraw
  obtain rfl := Option.some.inj (hrun.symm.trans hrun')
  exact ⟨run, hrun, hid.symm, hvalue.symm⟩

/-- A run is rejected at its place as `Rejects` says. -/
theorem rejected_at (hmeasured : Measured aggregator family runs)
    (h : Decided runs.length 1 true ((ordered runs).map evidence) a.1.decisions) (hd : a.1.decisions[i]? = some d)
    (hrun : (ordered runs)[i]? = some run) :
    d.1.hypothesisRejected = true ↔ Rejects keyPValue remainingThreshold (runs.map runKey) (runKey run) := by
  have hkey : ((ordered runs).map runKey)[i]? = some (runKey run) := by rw [List.getElem?_map, hrun]; rfl
  have hranked : ∀ j < ((ordered runs).map runKey).length, holmThreshold foldSignHolmAlpha runs.length (1 + j) =
      remainingThreshold (((ordered runs).map runKey).length - j) := by
    intro j hj
    rw [List.length_map, (ordered_perm runs).length_eq] at hj ⊢
    exact holmThreshold_eq hj
  have hscan := @stepDown_iff_rejects _ _ _ _ remainingThreshold keyPValue _ _ _ _ hmeasured.increasing hkey hranked
  have hplace : (a.1.decisions.map (·.1.hypothesisRejected))[i]? = some d.1.hypothesisRejected := by
    rw [List.getElem?_map, hd]; rfl
  have hvalues : ((ordered runs).map runKey).map keyPValue = ((ordered runs).map evidence).map (·.rawP) := by
    rw [List.map_map, List.map_map]; rfl
  rw [hvalues, ← h.rejections, hplace, Option.some_inj, rejects_perm ((ordered_perm runs).map runKey)] at hscan
  exact hscan

/-- Which trials an aggregate rejects. -/
theorem rejected_iff (ha : aggregator.aggregate family runs = .ok a) (hrun : run ∈ runs) :
    Rejected a run.comparison.trialId ↔
      Rejects keyPValue remainingThreshold (runs.map runKey) (runKey run) := by
  obtain ⟨hmeasured, hdecided⟩ := aggregate_eq_ok ha
  constructor
  · rintro ⟨d, hd, hid, hrejected⟩
    obtain ⟨i, hi⟩ := List.mem_iff_getElem?.mp hd
    obtain ⟨run', hrun', hid', -⟩ := hdecided.run_at hi
    have hmem : run' ∈ runs := (ordered_perm runs).mem_iff.mp (List.mem_of_getElem? hrun')
    obtain rfl := List.inj_on_of_nodup_map hmeasured.distinct hmem hrun (hid'.symm.trans hid)
    exact (rejected_at hmeasured hdecided hi hrun').mp hrejected
  · intro hrejects
    obtain ⟨i, hi⟩ := List.mem_iff_getElem?.mp ((ordered_perm runs).mem_iff.mpr hrun)
    have hlt : i < a.1.decisions.length := by
      rw [hdecided.length_eq, List.length_map]
      exact (List.getElem?_eq_some_iff.mp hi).1
    have hd : a.1.decisions[i]? = some a.1.decisions[i] := List.getElem?_eq_getElem hlt
    obtain ⟨run', hrun', hid, -⟩ := hdecided.run_at hd
    obtain rfl := Option.some.inj (hi.symm.trans hrun')
    exact ⟨_, List.getElem_mem hlt, hid, (rejected_at hmeasured hdecided hd hi).mpr hrejects⟩

theorem holmGate_of_decided (hmeasured : Measured aggregator family runs)
    (h : Decided runs.length 1 true ((ordered runs).map evidence) a.1.decisions) : HolmGate runs a := by
  have hlength : a.1.decisions.length = runs.length := by
    rw [h.length_eq, List.length_map, (ordered_perm runs).length_eq]
  refine ⟨?_, ?_, ?_⟩
  · have hkeys := congrArg (List.map fun key => ((ofLex key).2, (ofLex key).1)) h.keys
    rw [List.map_map, List.map_map, List.map_map] at hkeys
    exact (List.Perm.of_eq hkeys).trans ((ordered_perm runs).map _)
  · have hkeys : (a.1.decisions.map (·.1.pValueKey)).Pairwise (· < ·) := by
      rw [h.keys, map_runKey]
      exact hmeasured.increasing
    exact List.pairwise_map.mp hkeys
  · intro i d hd
    have hplace : (a.1.decisions.map (·.1.hypothesisRejected))[i]? = some d.1.hypothesisRejected := by
      rw [List.getElem?_map, hd]; rfl
    have hi : i < a.1.decisions.length := (List.getElem?_eq_some_iff.mp hd).1
    have hscan := @stepDown_eq_true ℚ _ (holmThreshold foldSignHolmAlpha runs.length) 1 i true
      (((ordered runs).map evidence).map (·.rawP))
    rw [← h.rejections, hplace, Option.some_inj, ← h.rawPValues, List.length_map] at hscan
    rw [hscan]
    constructor
    · rintro ⟨-, -, hall⟩ j hj d' hd'
      have hvalue := hall j hj d'.1.rawPValue (by rw [List.getElem?_map, hd']; rfl)
      rw [holmThreshold_eq (by omega), ← hlength] at hvalue
      exact hvalue
    · intro hall
      refine ⟨rfl, hi, ?_⟩
      intro j hj v hv
      rw [List.getElem?_map] at hv
      obtain ⟨d', hd', rfl⟩ := Option.map_eq_some_iff.mp hv
      rw [holmThreshold_eq (by omega), ← hlength]
      exact hall j hj d' hd'

/-- A run of the same trial on as many folds with at least the wins of another. -/
structure MoreWins (run better : DeterministicComparisonRun) : Prop where
  trialId : better.comparison.trialId = run.comparison.trialId
  foldCount : better.foldCount = run.foldCount
  baseWins : run.baseWins ≤ better.baseWins
  stressedWins : run.stressedWins ≤ better.stressedWins

theorem MoreWins.key_le {better : DeterministicComparisonRun} (h : MoreWins run better) : runKey better ≤ runKey run := by
  have hbase : signTail better.baseWins better.foldCount ≤ signTail run.baseWins run.foldCount := by
    rw [h.foldCount]
    exact signTail_antitone h.baseWins
  have hstressed : signTail better.stressedWins better.foldCount ≤ signTail run.stressedWins run.foldCount := by
    rw [h.foldCount]
    exact signTail_antitone h.stressedWins
  have hraw : (evidence better).rawP ≤ (evidence run).rawP := max_le_max hbase hstressed
  refine Prod.Lex.toLex_le_toLex.mpr ?_
  rcases eq_or_lt_of_le hraw with heq | hlt
  · exact .inr ⟨heq, h.trialId.le⟩
  · exact .inl hlt

theorem keyPValue_mono : Monotone keyPValue := Prod.Lex.monotone_fst

/-- The Holm gate: measured runs are aggregated, by the step-down of their sorted p-values and in any order alike; a
further trial never makes a trial rejected, and more wins never make a rejected trial fail. -/
theorem holm_gate {raws : List RawTrial} (h : aggregator.measureFamily family runs = .ok raws) :
    ∃ a, aggregator.aggregate family runs = .ok a ∧ HolmGate runs a ∧
      (∀ others, runs.Perm others → aggregator.aggregate family others = .ok a) ∧
      (∀ (wider : TrialFamilyEvaluationAggregator) (family' : String) (new : DeterministicComparisonRun)
        (more : List DeterministicComparisonRun) (b : FamilyAggregate), more.Perm (new :: runs) →
          wider.aggregate family' more = .ok b →
            ∀ run ∈ runs, Rejected b run.comparison.trialId → Rejected a run.comparison.trialId) ∧
      ∀ (other : TrialFamilyEvaluationAggregator) (family' : String) (run better : DeterministicComparisonRun)
        (rest others : List DeterministicComparisonRun) (b : FamilyAggregate), runs.Perm (run :: rest) →
          others.Perm (better :: rest) → MoreWins run better → other.aggregate family' others = .ok b →
            Rejected a run.comparison.trialId → Rejected b run.comparison.trialId := by
  obtain ⟨hmeasured, -⟩ := measureFamily_eq_ok.mp h
  obtain ⟨a, ha, hdecided⟩ := aggregate_ok hmeasured
  refine ⟨a, ha, holmGate_of_decided hmeasured hdecided, fun others hperm => aggregate_perm hmeasured hperm ha, ?_, ?_⟩
  · intro wider family' new more b hperm hb run hrun hrejected
    have hmem : run ∈ more := hperm.mem_iff.mpr (List.mem_cons_of_mem _ hrun)
    have hwide := (rejects_perm (hperm.map runKey)).mp ((rejected_iff hb hmem).mp hrejected)
    exact (rejected_iff ha hrun).mpr (hwide.of_cons remainingThreshold_antitone)
  · intro other family' run better rest others b hruns hothers hwins hb hrejected
    have hrun : run ∈ runs := hruns.mem_iff.mpr List.mem_cons_self
    have hbetter : better ∈ others := hothers.mem_iff.mpr List.mem_cons_self
    have hbefore := (rejects_perm (hruns.map runKey)).mp ((rejected_iff ha hrun).mp hrejected)
    have hafter := (rejects_perm (hothers.map runKey)).mpr (hbefore.of_lower keyPValue_mono hwins.key_le)
    rw [← hwins.trialId]
    exact (rejected_iff hb hbetter).mpr hafter

/-- A family of one registered trial. -/
def sampleAggregator : TrialFamilyEvaluationAggregator where
  registry := [⟨0, .exploratory, "swing", none, 1, "net_return", [], 2, 3, [], none, 4, by simp⟩]
  hex _ := "4f6a1c0b9e83d2574f6a1c0b9e83d2574f6a1c0b9e83d2574f6a1c0b9e83d257"
  multipleTestingPolicy _ := foldSignHolmPolicy
  requirePersisted _ := .ok ()

/-- A run that wins its five folds. -/
def sampleRun : DeterministicComparisonRun where
  comparison := ⟨sampleAggregator.hex .absent, "c1", "net_return", true⟩
  foldSummaries := List.replicate 5 ⟨1 / 100, some (1 / 200)⟩
  folds_ne_nil := by decide

theorem holm_gate_sample : ∃ a, sampleAggregator.aggregate "swing" [sampleRun] = .ok a ∧ HolmGate [sampleRun] a := by
  obtain ⟨raws, h, -⟩ := @exists_ok_of_any _ _ (sampleAggregator.measureFamily "swing" [sampleRun])
    (fun raws => raws.all fun raw => raw.rawP ≤ 5 / 100) (by decide +kernel)
  obtain ⟨a, ha, hgate, -⟩ := holm_gate h
  exact ⟨a, ha, hgate⟩

end Gate

end IndiaSwing.FamilyAggregation
