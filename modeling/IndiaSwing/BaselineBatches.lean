import IndiaSwing.BaselineGeneratorSteps

namespace IndiaSwing.Baselines

open ExceptGuards KeySort TextPatterns TopRanked

variable {hex : ContentId → String} {plan : PurgedWalkForwardPlan} {dataset : EvaluationDataset hex}
  {instruments : List PointInTimeInstrument} {policy : DailyExecutionPolicy} {generator : Generator}
  {leads : Candidate → Prop} {signalSession entrySession : SessionDate} {fold : WalkForwardFold}

section Folds

/-- What a generator gives in a fold with this signal session. -/
structure Generates (dataset : EvaluationDataset hex) (instruments : List PointInTimeInstrument) (generator : Generator)
    (signalSession : SessionDate) (leads : Candidate → Prop) : Prop where
  decides : Decides instruments (generator.reasons signalSession) leads
  sourced : ∀ c, leads c → c.instrument ∈ instruments ∧
    barAt dataset signalSession c.instrument.1.symbol = some c.signalBar
  affordable : ∀ c, leads c → c.Affordable .exact generator.sizing.slotNotional
  ids : (instruments.map (·.1.instrumentId)).Nodup
  sizing : SizingBounds generator.sizing
  scoreName : checkNormalizedText generator.scoreName "score_name" = .ok ()

/-- The decision of a fold on an instrument. -/
structure DecidedBy (generator : Generator) (fold : WalkForwardFold) (signalSession : SessionDate)
    (leads : Candidate → Prop) (i : PointInTimeInstrument) (d : GeneratedSignalDecision) : Prop where
  generator_eq : d.1.generatorId = generator.generatorId
  role_eq : d.1.role = generator.role
  fold_eq : d.1.foldId = fold.1.foldId
  session_eq : d.1.signalSession = signalSession
  instrument_eq : d.1.instrumentId = i.1.instrumentId
  symbol_eq : d.1.symbol = i.1.symbol
  selected_iff : d.1.selected = true ↔ ∃ c, leads c ∧ c.instrument = i

theorem instrumentDecision_ok (h : Generates dataset instruments generator signalSession leads) (fold : WalkForwardFold)
    {i : PointInTimeInstrument} (hi : i ∈ instruments) :
    ∃ d, instrumentDecision generator fold signalSession i = .ok d ∧
      DecidedBy generator fold signalSession leads i d := by
  have hkeys := h.decides.keys.nodup_iff.mpr h.ids
  have hmem := h.decides.keys.mem_iff.mpr (List.mem_map_of_mem (f := fun i => i.1.instrumentId) hi)
  obtain ⟨r, hr, hkey⟩ := List.mem_map.mp hmem
  have hget : (generator.reasons signalSession).get i.1.instrumentId = some r.2 := by
    rw [Reasons.get, (find_reverse_iff hkeys).mpr ⟨hr, hkey⟩]
    rfl
  obtain ⟨-, hupper, -⟩ := instrument_facts i
  unfold instrumentDecision
  rw [hget]
  dsimp only
  rw [Checked.build_of_ok]
  · refine ⟨_, rfl, rfl, rfl, rfl, rfl, rfl, rfl, ?_⟩
    show decide (r.2.reason = "SELECTED") = true ↔ _
    rw [decide_eq_true_iff, h.decides.selected r hr]
    refine exists_congr fun c => and_congr_right fun hc => ?_
    rw [hkey]
    constructor
    · exact eq_of_nodup_map h.ids (h.sourced c hc).1 hi
    · rintro rfl
      rfl
  · refine raiseIf_bind_eq_ok.mpr ⟨not_not.mpr hupper, bind_eq_ok.mpr ⟨(), h.scoreName, bind_eq_ok.mpr ⟨(),
      checkNormalizedText_of_mem (h.decides.texts r hr) _, raiseIf_bind_eq_ok.mpr ⟨not_not.mpr (h.decides.evidence r hr),
        raiseIf_neg (not_not.mpr rfl)⟩⟩⟩⟩

theorem decisions_ok (h : Generates dataset instruments generator signalSession leads) (fold : WalkForwardFold) :
    ∃ decisions, instruments.mapM (instrumentDecision generator fold signalSession) = .ok decisions ∧
      List.Forall₂ (DecidedBy generator fold signalSession leads) instruments decisions :=
  mapM_exists fun _ hi => instrumentDecision_ok h fold hi

/-- The intent of a selected decision is made from the candidate that leads to it. -/
theorem selectedIntent_eq (h : Generates dataset instruments generator signalSession leads) {c : Candidate} (hc : leads c)
    {d : GeneratedSignalDecision} (hd : d.1.instrumentId = c.instrument.1.instrumentId) :
    selectedIntent .exact dataset instruments policy generator signalSession entrySession d =
      intent .exact policy generator.sizing d c.instrument c.signalBar entrySession := by
  obtain ⟨hmem, hbar⟩ := h.sourced c hc
  unfold selectedIntent
  rw [(find_reverse_iff h.ids).mpr ⟨hmem, hd.symm⟩]
  dsimp only
  rw [hbar]

/-- The intent is of the decision. -/
structure IntentFor (d : GeneratedSignalDecision) (i : EvaluationTradeIntent) : Prop where
  signal_eq : i.signalId = d.1.decisionId
  session_eq : i.entryOrder.signalSession = d.1.signalSession
  symbol_eq : i.entryOrder.symbol = d.1.symbol

/-- What a fold contributes to a batch. -/
structure FoldOutput (generator : Generator) (instruments : List PointInTimeInstrument) (fold : WalkForwardFold)
    (output : List GeneratedSignalDecision × List EvaluationTradeIntent) : Prop where
  decided : ∃ signalSession leads, List.Forall₂ (DecidedBy generator fold signalSession leads) instruments output.1
  intents : List.Forall₂ IntentFor (output.1.filter (·.1.selected)) output.2

theorem selected_candidate {decisions : List GeneratedSignalDecision}
    (h : List.Forall₂ (DecidedBy generator fold signalSession leads) instruments decisions)
    {d : GeneratedSignalDecision} (hd : d ∈ decisions.filter (·.1.selected)) :
    ∃ c, leads c ∧ DecidedBy generator fold signalSession leads c.instrument d := by
  obtain ⟨hmem, hselected⟩ := List.mem_filter.mp hd
  obtain ⟨i, -, hdecided⟩ := mem_of_forall₂_right h hmem
  obtain ⟨c, hc, rfl⟩ := hdecided.selected_iff.mp hselected
  exact ⟨c, hc, hdecided⟩

theorem intents_ok (h : Generates dataset instruments generator signalSession leads) (hentry : signalSession < entrySession)
    (hfit : ∀ c, leads c → ExitsFit generator.sizing c) {decisions : List GeneratedSignalDecision}
    (hdecisions : List.Forall₂ (DecidedBy generator fold signalSession leads) instruments decisions) :
    ∃ intents, (decisions.filter (·.1.selected)).mapM
        (selectedIntent .exact dataset instruments policy generator signalSession entrySession) = .ok intents ∧
      List.Forall₂ IntentFor (decisions.filter (·.1.selected)) intents := by
  refine mapM_exists fun d hd => ?_
  obtain ⟨c, hc, hdecided⟩ := selected_candidate hdecisions hd
  obtain ⟨i, hi, hsignal, hsession, hsymbol⟩ := @intent_ok policy generator.sizing d c entrySession h.sizing
    (h.affordable c hc) (hdecided.session_eq ▸ hentry) (hfit c hc)
  refine ⟨i, ?_, hsignal, hsession, hsymbol.trans hdecided.symbol_eq.symm⟩
  rw [selectedIntent_eq h hc hdecided.instrument_eq]
  exact hi

/-- The fold is generated when the exits of every candidate that leads fit the grid. -/
theorem generateFold_ok {rest : List SessionDate} (htest : fold.1.testSessions = signalSession :: entrySession :: rest)
    (h : Generates dataset instruments generator signalSession leads)
    (hfit : ∀ c, leads c → ExitsFit generator.sizing c) :
    ∃ output, generateFold .exact dataset instruments policy generator fold = .ok output ∧
      FoldOutput generator instruments fold output := by
  have hentry : signalSession < entrySession := by
    have hsorted := (testSessions_ok fold).2
    rw [htest] at hsorted
    exact List.rel_of_pairwise_cons hsorted List.mem_cons_self
  obtain ⟨decisions, hdecisions, hdecided⟩ := decisions_ok h fold
  obtain ⟨intents, hintents, hfor⟩ := @intents_ok hex dataset instruments policy _ _ _ _ _ h hentry hfit _ hdecided
  refine ⟨(decisions, intents), ?_, ⟨_, _, hdecided⟩, hfor⟩
  unfold generateFold
  rw [htest]
  exact bind_eq_ok.mpr ⟨decisions, hdecisions, bind_eq_ok.mpr ⟨intents, hintents, rfl⟩⟩

theorem fit_of_generateFold_ok {rest : List SessionDate}
    (htest : fold.1.testSessions = signalSession :: entrySession :: rest)
    (h : Generates dataset instruments generator signalSession leads)
    {output : List GeneratedSignalDecision × List EvaluationTradeIntent}
    (hok : generateFold .exact dataset instruments policy generator fold = .ok output) {c : Candidate} (hc : leads c) :
    ExitsFit generator.sizing c := by
  obtain ⟨decisions, hdecisions, hdecided⟩ := decisions_ok h fold
  unfold generateFold at hok
  rw [htest] at hok
  obtain ⟨decisions', hdecisions', hok⟩ := bind_eq_ok.mp hok
  obtain ⟨intents, hintents, -⟩ := bind_eq_ok.mp hok
  obtain rfl := Except.ok.inj (hdecisions.symm.trans hdecisions')
  obtain ⟨d, hd, hdecision⟩ := mem_of_forall₂_left hdecided (h.sourced c hc).1
  have hselected : d ∈ decisions.filter (·.1.selected) :=
    List.mem_filter.mpr ⟨hd, hdecision.selected_iff.mpr ⟨c, hc, rfl⟩⟩
  obtain ⟨i, -, hi⟩ := mem_of_forall₂_left (mapM_eq_ok.mp hintents) hselected
  rw [selectedIntent_eq h hc hdecision.instrument_eq] at hi
  exact fit_of_intent_ok hi

end Folds

section Batch

def decisionIdentity (d : GeneratedSignalDecision) : ContentId × SessionDate × ContentId :=
  (d.1.foldId, d.1.signalSession, d.1.instrumentId)

theorem foldOutput_facts {output : List GeneratedSignalDecision × List EvaluationTradeIntent}
    (h : FoldOutput generator instruments fold output) {d : GeneratedSignalDecision} (hd : d ∈ output.1) :
    d.1.generatorId = generator.generatorId ∧ d.1.role = generator.role ∧ d.1.foldId = fold.1.foldId := by
  obtain ⟨_, _, hdecided⟩ := h.decided
  obtain ⟨i, -, hi⟩ := mem_of_forall₂_right hdecided hd
  exact ⟨hi.generator_eq, hi.role_eq, hi.fold_eq⟩

/-- The folds have ids of their own, and in a fold every instrument is decided once. -/
theorem identities_nodup (hids : (instruments.map (·.1.instrumentId)).Nodup) {folds : List WalkForwardFold}
    {outputs : List (List GeneratedSignalDecision × List EvaluationTradeIntent)}
    (h : List.Forall₂ (FoldOutput generator instruments) folds outputs) (hfolds : (folds.map (·.1.foldId)).Nodup) :
    ((outputs.flatMap (·.1)).map decisionIdentity).Nodup := by
  induction h with
  | nil => exact .nil
  | @cons fold output folds outputs houtput hrest ih =>
    obtain ⟨hfresh, hfolds⟩ := List.nodup_cons.mp hfolds
    obtain ⟨_, _, hdecided⟩ := houtput.decided
    have hinstruments : instruments.map (·.1.instrumentId) = output.1.map (·.1.instrumentId) :=
      forall₂_map_eq hdecided fun _ _ hi => hi.instrument_eq.symm
    have hfirst : (output.1.map decisionIdentity).Nodup := by
      refine nodup_map_of (hinstruments ▸ hids) fun a _ b _ heq => ?_
      exact (Prod.mk.inj (Prod.mk.inj heq).2).2
    rw [List.flatMap_cons, List.map_append, List.nodup_append]
    refine ⟨hfirst, ih hfolds, ?_⟩
    intro key hkey key' hkey' heq
    obtain ⟨d, hd, rfl⟩ := List.mem_map.mp hkey
    obtain ⟨d', hd', rfl⟩ := List.mem_map.mp hkey'
    obtain ⟨output', houtput', hd'⟩ := List.mem_flatMap.mp hd'
    obtain ⟨fold', hfold', hrelated⟩ := mem_of_forall₂_right hrest houtput'
    have hsame : fold.1.foldId = fold'.1.foldId := by
      rw [← (foldOutput_facts houtput hd).2.2, ← (foldOutput_facts hrelated hd').2.2]
      exact (Prod.mk.inj heq).1
    have hmem := List.mem_map_of_mem (f := fun f : WalkForwardFold => f.1.foldId) hfold'
    rw [← hsame] at hmem
    exact hfresh hmem

def signalIdentity (d : GeneratedSignalDecision) : SessionDate × String × ContentId :=
  (d.1.signalSession, d.1.symbol, d.1.decisionId)

def intentIdentity (i : EvaluationTradeIntent) : SessionDate × String × ContentId :=
  (i.entryOrder.signalSession, i.entryOrder.symbol, i.signalId)

/-- Every selected decision of the folds has its intent. -/
theorem selected_eq_intents {folds : List WalkForwardFold}
    {outputs : List (List GeneratedSignalDecision × List EvaluationTradeIntent)}
    (h : List.Forall₂ (FoldOutput generator instruments) folds outputs) :
    ((outputs.flatMap (·.1)).filter (·.1.selected)).map signalIdentity = (outputs.flatMap (·.2)).map intentIdentity := by
  induction h with
  | nil => rfl
  | cons houtput _ ih =>
    rw [List.flatMap_cons, List.flatMap_cons, List.filter_append, List.map_append, List.map_append, ih]
    congr 1
    refine forall₂_map_eq houtput.intents fun d i hi => ?_
    rw [signalIdentity, intentIdentity, hi.session_eq, hi.symbol_eq, hi.signal_eq]

theorem folds_ne (plan : PurgedWalkForwardPlan) : plan.1.folds ≠ [] := by
  obtain ⟨-, h⟩ := raiseIf_bind_eq_ok.mp plan.2
  obtain ⟨_, -, h⟩ := bind_eq_ok.mp h
  obtain ⟨-, h⟩ := raiseIf_bind_eq_ok.mp h
  obtain ⟨-, h⟩ := raiseIf_bind_eq_ok.mp h
  obtain ⟨hfolds, -⟩ := raiseIf_bind_eq_ok.mp h
  exact hfolds

theorem sourceIds (dataset : EvaluationDataset hex) :
    ¬(dataset.1.sourceSnapshotIds = [] ∨ ¬(dataset.1.sourceSnapshotIds.map hex).Pairwise (· < ·)) := by
  obtain ⟨-, h⟩ := raiseIf_bind_eq_ok.mp dataset.2
  obtain ⟨-, h⟩ := raiseIf_bind_eq_ok.mp h
  obtain ⟨-, h⟩ := raiseIf_bind_eq_ok.mp h
  obtain ⟨-, h⟩ := raiseIf_bind_eq_ok.mp h
  obtain ⟨_, hsources, -⟩ := bind_eq_ok.mp h
  exact raiseIf_eq_ok.mp hsources

theorem decisions_ne (hinstruments : instruments ≠ [])
    {outputs : List (List GeneratedSignalDecision × List EvaluationTradeIntent)}
    (h : List.Forall₂ (FoldOutput generator instruments) plan.1.folds outputs) : outputs.flatMap (·.1) ≠ [] := by
  obtain ⟨fold, hfold⟩ := List.exists_mem_of_ne_nil _ (folds_ne plan)
  obtain ⟨output, houtput, hrelated⟩ := mem_of_forall₂_left h hfold
  obtain ⟨_, _, hdecided⟩ := hrelated.decided
  obtain ⟨i, hi⟩ := List.exists_mem_of_ne_nil _ hinstruments
  obtain ⟨d, hd, -⟩ := mem_of_forall₂_left hdecided hi
  exact List.ne_nil_of_mem (List.mem_flatMap.mpr ⟨output, houtput, hd⟩)

/-- The batch of some folds passes its own checks. -/
theorem batch_ok (hinstruments : instruments ≠ []) (hids : (instruments.map (·.1.instrumentId)).Nodup)
    {outputs : List (List GeneratedSignalDecision × List EvaluationTradeIntent)}
    (h : List.Forall₂ (FoldOutput generator instruments) plan.1.folds outputs) :
    ({ generatorId := generator.generatorId
       role := generator.role
       splitPlanId := plan.1.planId
       sourceSnapshotIds := dataset.1.sourceSnapshotIds
       decisions := sortOn GeneratedIntentBatchFields.decisionKey (outputs.flatMap (·.1))
       intents := sortOn (GeneratedIntentBatchFields.intentKey hex) (outputs.flatMap (·.2)) } :
      GeneratedIntentBatchFields).check hex = .ok () := by
  have hperm := perm_sortOn GeneratedIntentBatchFields.decisionKey (outputs.flatMap (·.1))
  have hpermIntents := perm_sortOn (GeneratedIntentBatchFields.intentKey hex) (outputs.flatMap (·.2))
  have hkeys := ((hperm.filter (·.1.selected)).map signalIdentity).trans
    ((List.Perm.of_eq (selected_eq_intents h)).trans (hpermIntents.map intentIdentity).symm)
  refine bind_eq_ok.mpr ⟨(), raiseIf_neg (sourceIds dataset), raiseIf_bind_eq_ok.mpr ⟨?_, raiseIf_bind_eq_ok.mpr ⟨?_,
    raiseIf_bind_eq_ok.mpr ⟨?_, raiseIf_bind_eq_ok.mpr ⟨?_, raiseIf_neg ?_⟩⟩⟩⟩⟩
  · rw [not_or, not_not]
    refine ⟨fun hempty => decisions_ne hinstruments h ?_, (sortOn_of_pairwise _ (sortOn_pairwise _ _)).symm⟩
    have hnil := hperm.symm
    rw [show sortOn GeneratedIntentBatchFields.decisionKey (outputs.flatMap (·.1)) = [] from hempty] at hnil
    exact hnil.eq_nil
  · rw [not_not]
    exact (hperm.map decisionIdentity).nodup_iff.mpr (identities_nodup hids h (planFacts plan).ids)
  · rintro ⟨d, hd, hne⟩
    obtain ⟨output, houtput, hd⟩ := List.mem_flatMap.mp (hperm.mem_iff.mp hd)
    obtain ⟨fold, -, hrelated⟩ := mem_of_forall₂_right h houtput
    obtain ⟨hgenerator, hrole, -⟩ := foldOutput_facts hrelated hd
    rcases hne with hne | hne
    · exact hne hgenerator
    · exact hne hrole
  · exact not_not.mpr (sortOn_of_pairwise _ (sortOn_pairwise _ _)).symm
  · rw [not_not]
    exact ⟨hkeys.subset, hkeys.symm.subset⟩

/-- What the folds of a plan ask of the inputs of a generator. -/
structure GeneratesAll (plan : PurgedWalkForwardPlan) (dataset : EvaluationDataset hex)
    (instruments : List PointInTimeInstrument) (generator : Generator) (leads : SessionDate → Candidate → Prop) :
    Prop where
  folds : ∀ signalSession, Generates dataset instruments generator signalSession (leads signalSession)
  instruments_ne : instruments ≠ []
  horizon : ∀ fold ∈ plan.1.folds, 2 ≤ fold.1.testSessions.length

/-- In every fold the exits of every candidate that leads fit the grid. -/
def AllFit (plan : PurgedWalkForwardPlan) (sizing : Sizing) (leads : SessionDate → Candidate → Prop) : Prop :=
  ∀ fold ∈ plan.1.folds, ∀ signalSession ∈ fold.1.testSessions.head?, ∀ c, leads signalSession c → ExitsFit sizing c

theorem test_sessions {fold : WalkForwardFold} (h : 2 ≤ fold.1.testSessions.length) :
    ∃ signalSession entrySession rest, fold.1.testSessions = signalSession :: entrySession :: rest := by
  match htest : fold.1.testSessions with
  | [] => simp [htest] at h
  | [_] => simp [htest] at h
  | signalSession :: entrySession :: rest => exact ⟨signalSession, entrySession, rest, rfl⟩

/-- The batch is generated exactly when all exits fit. -/
theorem generateBatch_iff {leads : SessionDate → Candidate → Prop}
    (h : GeneratesAll plan dataset instruments generator leads) :
    (∃ batch, generateBatch .exact plan dataset instruments policy generator = .ok batch) ↔
      AllFit plan generator.sizing leads := by
  constructor
  · rintro ⟨batch, hbatch⟩ fold hfold signalSession hsignal c hc
    obtain ⟨outputs, houtputs, -⟩ := bind_eq_ok.mp hbatch
    obtain ⟨output, -, houtput⟩ := mem_of_forall₂_left (mapM_eq_ok.mp houtputs) hfold
    obtain ⟨signal, entry, rest, htest⟩ := test_sessions (h.horizon fold hfold)
    rw [htest, List.head?_cons, Option.mem_some_iff] at hsignal
    subst hsignal
    exact fit_of_generateFold_ok htest (h.folds _) houtput hc
  · intro hfit
    obtain ⟨outputs, houtputs, hrelated⟩ := mapM_exists fun fold hfold => by
      obtain ⟨signal, entry, rest, htest⟩ := test_sessions (h.horizon fold hfold)
      have hhead : signal ∈ fold.1.testSessions.head? := by
        rw [htest]
        rfl
      exact @generateFold_ok hex dataset instruments policy generator _ _ _ _ _ htest (h.folds signal)
        (hfit fold hfold signal hhead)
    have hids := (h.folds 0).ids
    exact ⟨_, bind_eq_ok.mpr ⟨outputs, houtputs, Checked.build_of_ok (batch_ok h.instruments_ne hids hrelated)⟩⟩

end Batch

section Generators

variable {initialCapital : ℚ}

theorem checkFraction_ok {value : ℚ} {name : String} (h : checkFraction value name = .ok ()) : 0 < value ∧ value < 1 := by
  obtain ⟨_, hpositive, h⟩ := bind_eq_ok.mp h
  exact ⟨not_le.mp (raiseIf_eq_ok.mp hpositive), not_le.mp (raiseIf_eq_ok.mp h)⟩

theorem momentum_sizing (config : MomentumBaselineConfig) (initialCapital : ℚ) :
    SizingBounds (momentumSizing .exact config initialCapital) := by
  obtain ⟨_, -, h⟩ := bind_eq_ok.mp config.2
  obtain ⟨_, -, h⟩ := bind_eq_ok.mp h
  obtain ⟨_, -, h⟩ := bind_eq_ok.mp h
  obtain ⟨_, hstop, h⟩ := bind_eq_ok.mp h
  obtain ⟨_, htarget, h⟩ := bind_eq_ok.mp h
  obtain ⟨_, hholding, -⟩ := bind_eq_ok.mp h
  exact ⟨(checkFraction_ok hstop).1, (checkFraction_ok hstop).2, not_le.mp (raiseIf_eq_ok.mp htarget),
    Nat.pos_of_ne_zero (raiseIf_eq_ok.mp hholding)⟩

theorem equalWeight_sizing (config : EqualWeightBenchmarkConfig) (initialCapital : ℚ) :
    SizingBounds (equalWeightSizing .exact config initialCapital) := by
  obtain ⟨_, -, h⟩ := bind_eq_ok.mp config.2
  obtain ⟨_, -, h⟩ := bind_eq_ok.mp h
  obtain ⟨_, hstop, h⟩ := bind_eq_ok.mp h
  obtain ⟨_, htarget, h⟩ := bind_eq_ok.mp h
  obtain ⟨_, hholding, -⟩ := bind_eq_ok.mp h
  exact ⟨(checkFraction_ok hstop).1, (checkFraction_ok hstop).2, not_le.mp (raiseIf_eq_ok.mp htarget),
    Nat.pos_of_ne_zero (raiseIf_eq_ok.mp hholding)⟩

theorem momentumGenerator_sizing (config : MomentumBaselineConfig) (dataset : EvaluationDataset hex)
    (instruments : List PointInTimeInstrument) (initialCapital : ℚ) :
    (momentumGenerator .exact config dataset instruments initialCapital).sizing =
      momentumSizing .exact config initialCapital := rfl

theorem equalWeightGenerator_sizing (config : EqualWeightBenchmarkConfig) (dataset : EvaluationDataset hex)
    (instruments : List PointInTimeInstrument) (initialCapital : ℚ) :
    (equalWeightGenerator .exact config dataset instruments initialCapital).sizing =
      equalWeightSizing .exact config initialCapital := rfl

theorem momentum_generates {config : MomentumBaselineConfig}
    (h : Admitted plan dataset instruments config.1.maximumHoldingSessions) :
    GeneratesAll plan dataset instruments (momentumGenerator .exact config dataset instruments initialCapital)
      (MomentumLeads config dataset instruments initialCapital) := by
  have hsizing := momentum_sizing config initialCapital
  refine ⟨fun signalSession => ⟨momentum_decides h.symbols h.ids, fun c hc => ?_, fun c hc => ?_, h.ids, hsizing, ?_⟩,
    h.instruments_ne, fun fold hfold => ?_⟩
  · exact candidate_facts (momentum_screens config dataset signalSession) (List.mem_of_mem_filter hc.1)
  · exact of_decide_eq_true (List.mem_filter.mp hc.1).2
  · exact raiseIf_neg (by decide : ¬("CLOSE_MOMENTUM" = "" ∨ stripText "CLOSE_MOMENTUM".toList ≠ "CLOSE_MOMENTUM".toList))
  · have hlength := h.horizon fold hfold
    have hholding : 0 < config.1.maximumHoldingSessions := hsizing.holding_pos
    omega

theorem equalWeight_generates {config : EqualWeightBenchmarkConfig}
    (h : Admitted plan dataset instruments config.1.maximumHoldingSessions) :
    GeneratesAll plan dataset instruments (equalWeightGenerator .exact config dataset instruments initialCapital)
      (EqualWeightLeads config dataset instruments initialCapital) := by
  have hsizing := equalWeight_sizing config initialCapital
  have hscreens := fun signalSession => equalWeight_screens config dataset initialCapital signalSession
  refine ⟨fun signalSession => ⟨equalWeight_decides h.symbols h.ids, fun c hc => ?_, fun c hc => ?_, h.ids, hsizing, ?_⟩,
    h.instruments_ne, fun fold hfold => ?_⟩
  · exact candidate_facts (hscreens signalSession) hc.1
  · obtain ⟨i, -, hi⟩ := mem_candidates.mp hc.1
    exact equalWeight_affordable hi
  · exact raiseIf_neg
      (by decide : ¬("SIGNAL_TURNOVER" = "" ∨ stripText "SIGNAL_TURNOVER".toList ≠ "SIGNAL_TURNOVER".toList))
  · have hlength := h.horizon fold hfold
    have hholding : 0 < config.1.maximumHoldingSessions := hsizing.holding_pos
    omega

/-- With admitted inputs a generator returns a batch exactly when its holding period is within the label horizon and
every instrument it selects leaves a tick under its limit for the stop. -/
theorem baselines_generate_iff (plan : PurgedWalkForwardPlan) (dataset : EvaluationDataset hex)
    (instruments : List PointInTimeInstrument) (policy : DailyExecutionPolicy) (initialCapital : ℚ)
    (strategy : MomentumBaselineConfig) (benchmark : EqualWeightBenchmarkConfig)
    (hstrategy : validateInputs plan dataset instruments initialCapital strategy.1.maximumHoldingSessions = .ok ())
    (hbenchmark : validateInputs plan dataset instruments initialCapital benchmark.1.maximumHoldingSessions = .ok ()) :
    ((∃ batch, generateMomentum .exact strategy plan dataset instruments policy initialCapital = .ok batch) ↔
        strategy.1.maximumHoldingSessions ≤ plan.1.labelHorizonSessions ∧
          AllFit plan (momentumSizing .exact strategy initialCapital)
            (MomentumLeads strategy dataset instruments initialCapital)) ∧
      ((∃ batch, generateEqualWeight .exact benchmark plan dataset instruments policy initialCapital = .ok batch) ↔
        benchmark.1.maximumHoldingSessions ≤ plan.1.labelHorizonSessions ∧
          AllFit plan (equalWeightSizing .exact benchmark initialCapital)
            (EqualWeightLeads benchmark dataset instruments initialCapital)) := by
  have hmomentum := @momentum_generates hex plan dataset instruments initialCapital _
    (admitted_of_validateInputs hstrategy)
  have hequal := @equalWeight_generates hex plan dataset instruments initialCapital _
    (admitted_of_validateInputs hbenchmark)
  constructor
  · rw [← momentumGenerator_sizing strategy dataset instruments, ← @generateBatch_iff hex plan dataset instruments
      policy _ _ hmomentum, generateMomentum, hstrategy, ok_bind]
    simp only [raiseIf_bind_eq_ok, not_lt, exists_and_left]
  · rw [← equalWeightGenerator_sizing benchmark dataset instruments, ← @generateBatch_iff hex plan dataset instruments
      policy _ _ hequal, generateEqualWeight, hbenchmark, ok_bind]
    simp only [raiseIf_bind_eq_ok, not_lt, exists_and_left]

end Generators

section Samples

def sampleFold : WalkForwardFold := ⟨⟨[0], [11], [22, 23]⟩, ok_of_toOption (by decide +kernel)⟩

/-- One fold of a calendar of twenty-four sessions. -/
def samplePlan : PurgedWalkForwardPlan :=
  ⟨⟨"NSE", (List.range 24).map Int.ofNat, 10, 10, [sampleFold]⟩, ok_of_toOption (by decide +kernel)⟩

def sampleBar (session : SessionDate) (close : ℚ) (h : 0 < close) : SimulationBar :=
  ⟨session, "AB", close, close, close, close, 1000, true, false, h, h, h, h, by simp, by simp, fun _ => by decide,
    fun _ => rfl⟩

def sampleHex : ContentId → String
  | .digest value => toString value
  | _ => ""

def sampleInstruments : List PointInTimeInstrument :=
  [⟨⟨"AB", "INE000000001", .digest 1, [22], 1 / 20, none, []⟩, ok_of_toOption (by decide +kernel)⟩]

theorem samplePrice_pos : (0 : ℚ) < 100 := by decide +kernel

/-- A share that closes at a hundred. -/
def sampleDataset : EvaluationDataset sampleHex :=
  ⟨⟨(List.range 24).map Int.ofNat, [sampleBar 21 100 samplePrice_pos, sampleBar 22 100 samplePrice_pos],
    [.digest 1], [.digest 1]⟩, ok_of_toOption (by decide +kernel)⟩

theorem pennyPrice_pos : (0 : ℚ) < 1 / 20 := by decide +kernel

/-- A share that closes at its tick. -/
def pennyDataset : EvaluationDataset sampleHex :=
  ⟨⟨(List.range 24).map Int.ofNat, [sampleBar 21 (1 / 20) pennyPrice_pos, sampleBar 22 (1 / 20) pennyPrice_pos],
    [.digest 1], [.digest 1]⟩, ok_of_toOption (by decide +kernel)⟩

def samplePolicy : DailyExecutionPolicy :=
  ⟨0, 1 / 100, none, "daily-ohlcv-pessimistic/v1", by norm_num, (fun _ h => nomatch h), by decide⟩

def sampleStrategy : MomentumBaselineConfig :=
  ⟨⟨1, 1, 1 / 2, 0, 1 / 10, 1 / 5, 1, "cross-sectional-close-momentum/v1"⟩, ok_of_toOption (by decide +kernel)⟩

def sampleBenchmark : EqualWeightBenchmarkConfig :=
  ⟨⟨1, 1 / 2, 1 / 10, 1 / 5, 1, "point-in-time-liquid-equal-weight/v1"⟩, ok_of_toOption (by decide +kernel)⟩

theorem baselines_generate_sample :
    ((∃ batch, generateMomentum .exact sampleStrategy samplePlan sampleDataset sampleInstruments samplePolicy 1000 =
          .ok batch) ↔
        sampleStrategy.1.maximumHoldingSessions ≤ samplePlan.1.labelHorizonSessions ∧
          AllFit samplePlan (momentumSizing .exact sampleStrategy 1000)
            (MomentumLeads sampleStrategy sampleDataset sampleInstruments 1000)) ∧
      ((∃ batch, generateEqualWeight .exact sampleBenchmark samplePlan sampleDataset sampleInstruments samplePolicy 1000 =
          .ok batch) ↔
        sampleBenchmark.1.maximumHoldingSessions ≤ samplePlan.1.labelHorizonSessions ∧
          AllFit samplePlan (equalWeightSizing .exact sampleBenchmark 1000)
            (EqualWeightLeads sampleBenchmark sampleDataset sampleInstruments 1000)) :=
  baselines_generate_iff samplePlan sampleDataset sampleInstruments samplePolicy 1000 sampleStrategy sampleBenchmark
    (ok_of_toOption (by decide +kernel)) (ok_of_toOption (by decide +kernel))

example : (generateMomentum .exact sampleStrategy samplePlan sampleDataset sampleInstruments samplePolicy
    1000).toOption.any (·.1.intents.length = 1) = true := by decide +kernel

/-- A share at its tick size is affordable and selected, and its stop below the tick aborts both batches. -/
theorem penny_share_aborts :
    validateInputs samplePlan pennyDataset sampleInstruments 1000 1 = .ok () ∧
      (¬∃ batch, generateMomentum .exact sampleStrategy samplePlan pennyDataset sampleInstruments samplePolicy 1000 =
        .ok batch) ∧
      ¬∃ batch, generateEqualWeight .exact sampleBenchmark samplePlan pennyDataset sampleInstruments samplePolicy 1000 =
        .ok batch := by
  have hmomentum : (generateMomentum .exact sampleStrategy samplePlan pennyDataset sampleInstruments samplePolicy
      1000).toOption.isSome = false := by decide +kernel
  have hequal : (generateEqualWeight .exact sampleBenchmark samplePlan pennyDataset sampleInstruments samplePolicy
      1000).toOption.isSome = false := by decide +kernel
  refine ⟨ok_of_toOption (by decide +kernel), fun ⟨batch, hbatch⟩ => ?_, fun ⟨batch, hbatch⟩ => ?_⟩
  · rw [hbatch] at hmomentum
    cases hmomentum
  · rw [hbatch] at hequal
    cases hequal

end Samples

end IndiaSwing.Baselines
