import IndiaSwing.BaselineGenerators
import IndiaSwing.Lib.TickGrid
import IndiaSwing.Lib.KeySort
import IndiaSwing.PromotedIntentSteps

namespace IndiaSwing.Baselines

open ExceptGuards KeySort TextPatterns TopRanked

section Lookups

variable {α κ : Type*} [DecidableEq κ] {f : α → κ} {values : List α} {a : α} {k : κ}

theorem eq_of_nodup_map (h : (values.map f).Nodup) {b : α} (ha : a ∈ values) (hb : b ∈ values) (heq : f a = f b) :
    a = b := List.inj_on_of_nodup_map h ha hb heq

/-- In a dictionary whose keys do not repeat the order of the assignments does not matter. -/
theorem find_reverse_iff (h : (values.map f).Nodup) :
    values.reverse.find? (f · = k) = some a ↔ a ∈ values ∧ f a = k := by
  constructor
  · intro hfind
    have hmem := List.mem_reverse.mp (List.mem_of_find?_eq_some hfind)
    have hkey := List.find?_some hfind
    exact ⟨hmem, of_decide_eq_true hkey⟩
  · intro ⟨hmem, hkey⟩
    cases hfind : values.reverse.find? (f · = k) with
    | none =>
      have hnone := List.find?_eq_none.mp hfind a (List.mem_reverse.mpr hmem)
      exact absurd (decide_eq_true hkey) hnone
    | some b =>
      have hb := List.mem_reverse.mp (List.mem_of_find?_eq_some hfind)
      have hkeyb : f b = k := of_decide_eq_true (List.find?_some (p := fun b => decide (f b = k)) hfind)
      rw [eq_of_nodup_map h hb hmem (hkeyb.trans hkey.symm)]

end Lookups

section Instruments

variable {hex : ContentId → String} {plan : PurgedWalkForwardPlan} {dataset : EvaluationDataset hex}
  {instruments : List PointInTimeInstrument} {initialCapital : ℚ} {holding : ℕ}

theorem checkInstruments_symbols {symbols isins : List String} {instruments : List PointInTimeInstrument}
    (h : checkInstruments dataset symbols isins instruments = .ok ()) :
    (∀ i ∈ instruments, i.1.symbol ∉ symbols) ∧ (instruments.map (·.1.symbol)).Nodup := by
  induction instruments generalizing symbols isins with
  | nil => exact ⟨fun i hi => absurd hi List.not_mem_nil, .nil⟩
  | cons i instruments ih =>
    unfold checkInstruments at h
    obtain ⟨hnew, h⟩ := raiseIf_bind_eq_ok.mp h
    obtain ⟨-, h⟩ := raiseIf_bind_eq_ok.mp h
    obtain ⟨-, h⟩ := raiseIf_bind_eq_ok.mp h
    obtain ⟨-, h⟩ := raiseIf_bind_eq_ok.mp h
    obtain ⟨hrest, hnodup⟩ := ih h
    constructor
    · intro j hj
      rcases List.mem_cons.mp hj with rfl | hj
      · exact (not_or.mp hnew).1
      · exact fun hmem => hrest j hj (List.mem_cons_of_mem _ hmem)
    · rw [List.map_cons, List.nodup_cons]
      refine ⟨fun hmem => ?_, hnodup⟩
      obtain ⟨j, hj, heq⟩ := List.mem_map.mp hmem
      exact hrest j hj (heq ▸ List.mem_cons_self)

/-- What the admitted inputs give the generators. -/
structure Admitted (plan : PurgedWalkForwardPlan) (dataset : EvaluationDataset hex)
    (instruments : List PointInTimeInstrument) (holding : ℕ) : Prop where
  calendar : dataset.1.sessions = plan.1.orderedSessions
  instruments_ne : instruments ≠ []
  symbols : (instruments.map (·.1.symbol)).Nodup
  horizon : ∀ fold ∈ plan.1.folds, holding + 1 ≤ fold.1.testSessions.length

theorem admitted_of_validateInputs (h : validateInputs plan dataset instruments initialCapital holding = .ok ()) :
    Admitted plan dataset instruments holding := by
  obtain ⟨_, -, h⟩ := bind_eq_ok.mp h
  obtain ⟨hcalendar, h⟩ := raiseIf_bind_eq_ok.mp h
  obtain ⟨hsorted, h⟩ := raiseIf_bind_eq_ok.mp h
  obtain ⟨_, hinstruments, h⟩ := bind_eq_ok.mp h
  have hhorizon := raiseIf_eq_ok.mp h
  refine ⟨not_not.mp hcalendar, (not_or.mp hsorted).1, (checkInstruments_symbols hinstruments).2, fun fold hfold => ?_⟩
  by_contra hshort
  exact hhorizon ⟨fold, hfold, not_le.mp hshort⟩

theorem instrumentId_symbol {i j : PointInTimeInstrument} (h : i.1.instrumentId = j.1.instrumentId) :
    i.1.symbol = j.1.symbol := by
  have hfields := (ContentId.ofFields_inj.mp h).2
  exact ContentId.text.inj (List.cons.inj hfields).1

theorem Admitted.ids (h : Admitted plan dataset instruments holding) :
    (instruments.map (·.1.instrumentId)).Nodup :=
  nodup_map_of h.symbols fun _ _ _ _ heq => instrumentId_symbol heq

theorem instrument_facts (i : PointInTimeInstrument) :
    i.1.symbol ≠ "" ∧ isNormalizedUpper i.1.symbol = true ∧ i.1.isin.toList.length = 12 ∧
      isNormalizedUpper i.1.isin = true ∧ 0 < i.1.tickSize := by
  obtain ⟨hsymbol, h⟩ := raiseIf_bind_eq_ok.mp i.2
  obtain ⟨hisin, h⟩ := raiseIf_bind_eq_ok.mp h
  obtain ⟨-, h⟩ := raiseIf_bind_eq_ok.mp h
  obtain ⟨_, htick, -⟩ := bind_eq_ok.mp h
  obtain ⟨hne, hupper⟩ := not_or.mp hsymbol
  obtain ⟨hlength, hisinUpper⟩ := not_or.mp hisin
  exact ⟨hne, not_not.mp hupper, not_not.mp hlength, not_not.mp hisinUpper, not_le.mp (raiseIf_eq_ok.mp htick)⟩

end Instruments

section Intents

variable {policy : DailyExecutionPolicy} {sizing : Sizing} {decision : GeneratedSignalDecision} {c : Candidate}
  {entrySession : SessionDate}

/-- What a valid configuration gives a sizing. -/
structure SizingBounds (sizing : Sizing) : Prop where
  stop_pos : 0 < sizing.stopLossFraction
  stop_lt : sizing.stopLossFraction < 1
  target_pos : 0 < sizing.targetGainFraction
  holding_pos : 0 < sizing.maximumHoldingSessions

/-- The stop distance leaves at least one tick under the limit price. -/
def ExitsFit (sizing : Sizing) (c : Candidate) : Prop :=
  c.instrument.1.tickSize ≤ c.limitPrice .exact * (1 - sizing.stopLossFraction)

theorem onTickFloor_pos_iff {value tick : ℚ} (htick : 0 < tick) : 0 < onTickFloor .exact value tick ↔ tick ≤ value := by
  show 0 < (⌊value / tick⌋ : ℚ) * tick ↔ _
  rw [mul_pos_iff_of_pos_right htick, Int.cast_pos, Int.floor_pos, le_div_iff₀ htick, one_mul]

theorem order_create_ok {symbol : String} {signalSession : SessionDate} {quantity : ℕ} {limitPrice tickSize : ℚ}
    (hentry : signalSession < entrySession) (hquantity : quantity ≠ 0) (hlimit : 0 < limitPrice)
    (htick : 0 < tickSize) (hon : OnTick limitPrice tickSize) :
    ∃ order, LimitEntryOrder.create symbol signalSession entrySession entrySession quantity limitPrice tickSize
        policy.maximumParticipation = .ok order ∧
      order.symbol = symbol ∧ order.signalSession = signalSession ∧ order.limitPrice = limitPrice ∧
        order.tickSize = tickSize := by
  unfold LimitEntryOrder.create
  rw [dif_neg (not_le.mpr hentry), dif_neg (lt_irrefl _), dif_neg hquantity, dif_neg (not_le.mpr hlimit),
    dif_neg (not_le.mpr htick), dif_neg (not_not.mpr hon), dif_neg (not_not.mpr policy.participation)]
  exact ⟨_, rfl, rfl, rfl, rfl, rfl⟩

theorem intent_create_ok {signalId snapshotId : ContentId} {isin : String} {order : LimitEntryOrder}
    {limitPrice tickSize stopPrice targetPrice : ℚ} {holding : ℕ} (hlength : isin.toList.length = 12)
    (hisin : isNormalizedUpper isin = true) (hlimit : order.limitPrice = limitPrice) (htick : order.tickSize = tickSize)
    (hstop : 0 < stopPrice) (hstopTick : OnTick stopPrice tickSize) (htarget : 0 < targetPrice)
    (htargetTick : OnTick targetPrice tickSize) (hprices : stopPrice < limitPrice ∧ limitPrice < targetPrice)
    (hholding : 0 < holding) :
    ∃ i, EvaluationTradeIntent.create signalId snapshotId isin order stopPrice targetPrice holding = .ok i ∧
      i.signalId = signalId ∧ i.entryOrder = order := by
  subst hlimit htick
  have htext : ¬(isin.toList.length ≠ 12 ∨ ¬isNormalizedUpper isin) := by
    rw [not_or, not_not, not_not]
    exact ⟨hlength, hisin⟩
  unfold EvaluationTradeIntent.create
  rw [if_neg htext, dif_neg (not_le.mpr hstop), dif_neg (not_not.mpr hstopTick), dif_neg (not_le.mpr htarget),
    dif_neg (not_not.mpr htargetTick), dif_neg (not_not.mpr hprices), dif_neg hholding.ne']
  exact ⟨_, rfl, rfl, rfl⟩

/-- A positive limit lies strictly between its exits, whatever the fractions are. -/
theorem exits_around {limit tick : ℚ} (hsizing : SizingBounds sizing) (htick : 0 < tick) (hlimit : 0 < limit) :
    onTickFloor .exact (limit * (1 - sizing.stopLossFraction)) tick < limit ∧
      limit < onTickCeiling .exact (limit * (1 + sizing.targetGainFraction)) tick := by
  have hstop : onTickFloor .exact (limit * (1 - sizing.stopLossFraction)) tick ≤ limit * (1 - sizing.stopLossFraction) :=
    TickGrid.floorTo_le htick _
  have htarget : limit * (1 + sizing.targetGainFraction) ≤
      onTickCeiling .exact (limit * (1 + sizing.targetGainFraction)) tick := TickGrid.le_ceilingTo htick _
  have hloss := mul_pos hlimit hsizing.stop_pos
  have hgain := mul_pos hlimit hsizing.target_pos
  constructor <;> linarith

/-- An affordable candidate has an intent exactly when its stop stays on the grid. -/
theorem intent_ok (hsizing : SizingBounds sizing) (hafford : c.Affordable .exact sizing.slotNotional)
    (hentry : decision.1.signalSession < entrySession) (hfit : ExitsFit sizing c) :
    ∃ i, intent .exact policy sizing decision c.instrument c.signalBar entrySession = .ok i ∧
      i.signalId = decision.1.decisionId ∧ i.entryOrder.signalSession = decision.1.signalSession ∧
        i.entryOrder.symbol = c.instrument.1.symbol := by
  obtain ⟨hsymbol, hupper, hlength, hisin, htick⟩ := instrument_facts c.instrument
  obtain ⟨hlimit, hquantity⟩ := not_or.mp hafford
  rw [not_le] at hlimit hquantity
  obtain ⟨hbelow, habove⟩ := exits_around hsizing htick hlimit
  have hstop := (onTickFloor_pos_iff htick).mpr hfit
  have hexits : ¬(onTickFloor .exact (c.limitPrice .exact * (1 - sizing.stopLossFraction)) c.instrument.1.tickSize ≤ 0 ∨
      ¬(onTickFloor .exact (c.limitPrice .exact * (1 - sizing.stopLossFraction)) c.instrument.1.tickSize <
          c.limitPrice .exact ∧
        c.limitPrice .exact <
          onTickCeiling .exact (c.limitPrice .exact * (1 + sizing.targetGainFraction)) c.instrument.1.tickSize)) := by
    rw [not_or, not_not, not_le]
    exact ⟨hstop, hbelow, habove⟩
  have htext : ¬(c.instrument.1.symbol = "" ∨ ¬isNormalizedUpper c.instrument.1.symbol) := by
    rw [not_or, not_not]
    exact ⟨hsymbol, hupper⟩
  have hshares : (DecimalContext.toInt (sizing.slotNotional / c.limitPrice .exact)).toNat ≠ 0 := by
    have hpos : 0 < DecimalContext.toInt (sizing.slotNotional / c.limitPrice .exact) := hquantity
    omega
  obtain ⟨order, horder, hsymbolEq, hsession, hlimitEq, htickEq⟩ := @order_create_ok policy entrySession
    c.instrument.1.symbol decision.1.signalSession _ _ _ hentry hshares hlimit htick (onTick_floor htick)
  obtain ⟨i, hi, hsignal, horderEq⟩ := @intent_create_ok decision.1.decisionId c.instrument.1.universeSnapshotId
    c.instrument.1.isin order _ _ _ _ _ hlength hisin hlimitEq htickEq hstop (onTick_floor htick)
    (hlimit.trans habove) (onTick_ceiling htick) ⟨hbelow, habove⟩ hsizing.holding_pos
  refine ⟨i, ?_, hsignal, horderEq ▸ hsession, horderEq ▸ hsymbolEq⟩
  refine raiseIf_bind_eq_ok.mpr ⟨not_le.mpr hlimit, raiseIf_bind_eq_ok.mpr ⟨not_le.mpr hquantity,
    raiseIf_bind_eq_ok.mpr ⟨hexits, raiseIf_bind_eq_ok.mpr ⟨htext, bind_eq_ok.mpr ⟨order, ?_, hi⟩⟩⟩⟩⟩
  exact mapError_eq_ok.mpr horder

theorem fit_of_intent_ok {i : EvaluationTradeIntent}
    (h : intent .exact policy sizing decision c.instrument c.signalBar entrySession = .ok i) : ExitsFit sizing c := by
  obtain ⟨-, -, -, -, htick⟩ := instrument_facts c.instrument
  obtain ⟨-, h⟩ := raiseIf_bind_eq_ok.mp h
  obtain ⟨-, h⟩ := raiseIf_bind_eq_ok.mp h
  obtain ⟨hexits, -⟩ := raiseIf_bind_eq_ok.mp h
  exact (onTickFloor_pos_iff htick).mp (not_le.mp (not_or.mp hexits).1)

end Intents

end IndiaSwing.Baselines

namespace IndiaSwing.Baselines

open ExceptGuards KeySort TextPatterns TopRanked

variable {hex : ContentId → String} {dataset : EvaluationDataset hex} {instruments : List PointInTimeInstrument}
  {initialCapital : ℚ} {signalSession : SessionDate}

section Texts

/-- The reasons that a fold gives to what it does not select. -/
def signalRejections : List String :=
  ["NOT_POINT_IN_TIME_ELIGIBLE", "INSUFFICIENT_LOOKBACK", "MISSING_AS_OF_BAR", "NOT_TRADABLE_AT_SIGNAL_CLOSE",
    "BELOW_MINIMUM_MOMENTUM", "INSUFFICIENT_SLOT_NOTIONAL", "OUTSIDE_POSITION_RANK", "OUTSIDE_CONSTITUENT_RANK"]

def signalReasons : List String := "SELECTED" :: signalRejections

theorem ne_selected_of_mem {text : String} (h : text ∈ signalRejections) : text ≠ "SELECTED" := by
  have hnot : "SELECTED" ∉ signalRejections := by decide
  exact fun heq => hnot (heq ▸ h)

theorem checkNormalizedText_of_mem {text : String} (h : text ∈ signalReasons) (name : String) :
    checkNormalizedText text name = .ok () := by
  have hall : ∀ text ∈ signalReasons, ¬(text = "" ∨ stripText text.toList ≠ text.toList) := by decide +kernel
  exact raiseIf_neg (hall text h)

end Texts

section Screens

variable {screen : PointInTimeInstrument → SignalReason ⊕ Candidate}

/-- What a screen gives: a usable reason, or a candidate that is about the instrument and has its signal bar. -/
structure Screens (dataset : EvaluationDataset hex) (signalSession : SessionDate)
    (screen : PointInTimeInstrument → SignalReason ⊕ Candidate) : Prop where
  rejects : ∀ i reason, screen i = .inl reason → reason.evidenceBarIds.Nodup ∧ reason.reason ∈ signalRejections
  keeps : ∀ i c, screen i = .inr c → c.instrument = i ∧ c.evidenceBarIds.Nodup ∧
    barAt dataset signalSession i.1.symbol = some c.signalBar

theorem mem_candidates {c : Candidate} :
    c ∈ candidates instruments screen ↔ ∃ i ∈ instruments, screen i = .inr c := by
  simp only [candidates, List.mem_filterMap, Sum.getRight?_eq_some_iff]

theorem mem_rejections {r : ContentId × SignalReason} :
    r ∈ rejections instruments screen ↔ ∃ i ∈ instruments, screen i = .inl r.2 ∧ r.1 = i.1.instrumentId := by
  simp only [rejections, List.mem_filterMap, Option.map_eq_some_iff, Sum.getLeft?_eq_some_iff]
  constructor
  · rintro ⟨i, hi, reason, hreason, rfl⟩
    exact ⟨i, hi, hreason, rfl⟩
  · rintro ⟨i, hi, hreason, hid⟩
    exact ⟨i, hi, r.2, hreason, by rw [← hid]⟩

theorem candidate_facts (h : Screens dataset signalSession screen) {c : Candidate}
    (hc : c ∈ candidates instruments screen) :
    c.instrument ∈ instruments ∧ barAt dataset signalSession c.instrument.1.symbol = some c.signalBar := by
  obtain ⟨i, hi, hkeep⟩ := mem_candidates.mp hc
  obtain ⟨rfl, -, hbar⟩ := h.keeps i c hkeep
  exact ⟨hi, hbar⟩

/-- A screen divides the instruments. -/
theorem screened_perm (h : Screens dataset signalSession screen) (instruments : List PointInTimeInstrument) :
    ((rejections instruments screen).map (·.1) ++
      (candidates instruments screen).map (·.instrument.1.instrumentId)).Perm (instruments.map (·.1.instrumentId)) := by
  induction instruments with
  | nil => exact .nil
  | cons i instruments ih =>
    cases hi : screen i with
    | inl reason =>
      simp only [rejections, candidates, List.filterMap_cons, hi, Sum.getLeft?_inl, Sum.getRight?_inl, Option.map_some,
        List.map_cons, List.cons_append]
      exact ih.cons _
    | inr c =>
      simp only [rejections, candidates, List.filterMap_cons, hi, Sum.getLeft?_inr, Sum.getRight?_inr, Option.map_none,
        List.map_cons]
      rw [(h.keeps i c hi).1]
      exact List.perm_middle.trans (ih.cons _)

end Screens

section Decides

/-- What the reasons of a fold give: one for every instrument, each of a usable form, and a selection of those that
lead. -/
structure Decides (instruments : List PointInTimeInstrument) (reasons : Reasons) (leads : Candidate → Prop) : Prop where
  keys : (reasons.map (·.1)).Perm (instruments.map (·.1.instrumentId))
  evidence : ∀ r ∈ reasons, r.2.evidenceBarIds.Nodup
  texts : ∀ r ∈ reasons, r.2.reason ∈ signalReasons
  selected : ∀ r ∈ reasons, r.2.reason = "SELECTED" ↔ ∃ c, leads c ∧ c.instrument.1.instrumentId = r.1

/-- The reasons that a ranking gives to its candidates. -/
structure Ranks (ranked : List Candidate) (reasons : Reasons) (leads : Candidate → Prop) : Prop where
  keys : reasons.map (·.1) = ranked.map (·.instrument.1.instrumentId)
  named : ∀ r ∈ reasons, ∃ c ∈ ranked, r.2.evidenceBarIds = c.evidenceBarIds
  texts : ∀ r ∈ reasons, r.2.reason ∈ signalReasons
  selected : ∀ r ∈ reasons, r.2.reason = "SELECTED" ↔ ∃ c, leads c ∧ c.instrument.1.instrumentId = r.1

theorem decides_of_ranks {screen : PointInTimeInstrument → SignalReason ⊕ Candidate} {ranked : List Candidate}
    {reasons : Reasons} {leads : Candidate → Prop} (hscreens : Screens dataset signalSession screen)
    (hids : (instruments.map (·.1.instrumentId)).Nodup) (hperm : ranked.Perm (candidates instruments screen))
    (hranks : Ranks ranked reasons leads) (hleads : ∀ c, leads c → c ∈ ranked) :
    Decides instruments (rejections instruments screen ++ reasons) leads := by
  have hkeys : ((rejections instruments screen ++ reasons).map (·.1)).Perm (instruments.map (·.1.instrumentId)) := by
    rw [List.map_append, hranks.keys]
    exact ((hperm.map _).append_left _).trans (screened_perm hscreens instruments)
  refine ⟨hkeys, fun r hr => ?_, fun r hr => ?_, fun r hr => ?_⟩
  · rcases List.mem_append.mp hr with hr | hr
    · obtain ⟨i, -, hi, -⟩ := mem_rejections.mp hr
      exact (hscreens.rejects i r.2 hi).1
    · obtain ⟨c, hc, heq⟩ := hranks.named r hr
      obtain ⟨i, -, hi⟩ := mem_candidates.mp (hperm.mem_iff.mp hc)
      rw [heq]
      exact (hscreens.keeps i c hi).2.1
  · rcases List.mem_append.mp hr with hr | hr
    · obtain ⟨i, -, hi, -⟩ := mem_rejections.mp hr
      exact List.mem_cons_of_mem _ (hscreens.rejects i r.2 hi).2
    · exact hranks.texts r hr
  · rcases List.mem_append.mp hr with hrejected | hr
    · obtain ⟨i, hmem, hi, hid⟩ := mem_rejections.mp hrejected
      constructor
      · intro hselected
        exact absurd hselected (ne_selected_of_mem (hscreens.rejects i r.2 hi).2)
      · rintro ⟨c, hc, heq⟩
        obtain ⟨j, hj, hkeep⟩ := mem_candidates.mp (hperm.mem_iff.mp (hleads c hc))
        have hsame : j = i := by
          rw [(hscreens.keeps j c hkeep).1, hid] at heq
          exact eq_of_nodup_map hids hj hmem heq
        rw [hsame, hi] at hkeep
        cases hkeep
    · exact hranks.selected r hr

end Decides

section Momentum

variable {config : MomentumBaselineConfig} {slotNotional : ℚ}

theorem lookback_pos (config : MomentumBaselineConfig) : 0 < config.1.lookbackSessions := by
  obtain ⟨_, hlookback, -⟩ := bind_eq_ok.mp config.2
  exact Nat.pos_of_ne_zero (raiseIf_eq_ok.mp hlookback)

theorem barAt_session {session : SessionDate} {symbol : String} {bar : SimulationBar}
    (h : barAt dataset session symbol = some bar) : bar.session = session := by
  have hfound := List.find?_some h
  exact (of_decide_eq_true hfound).1

theorem barId_session {bar bar' : SimulationBar} (h : bar.barId = bar'.barId) : bar.session = bar'.session := by
  have hfields := (ContentId.ofFields_inj.mp h).2
  exact ContentId.int.inj (List.cons.inj hfields).1

/-- The session the momentum is measured from is another one than the signal session. -/
theorem lookbackSession_ne {startSession : SessionDate}
    (h : lookbackSession config dataset signalSession = some startSession) : startSession ≠ signalSession := by
  unfold lookbackSession at h
  split at h
  · cases h
  next hback =>
    have hpos := lookback_pos config
    rintro rfl
    obtain ⟨hlt, hget⟩ := List.getElem?_eq_some_iff.mp h
    have hbefore : dataset.1.sessions.idxOf startSession - config.1.lookbackSessions <
        dataset.1.sessions.idxOf startSession := by omega
    have hsessions := (not_or.mp (raiseIf_bind_eq_ok.mp dataset.2).1).2
    have hnodup : dataset.1.sessions.Nodup := (not_not.mp hsessions).imp fun hab => ne_of_lt hab
    have hindex := hnodup.idxOf_getElem _ hlt
    rw [hget] at hindex
    omega

theorem evidence_nodup {startSession : SessionDate} {symbol : String} {startBar signalBar : SimulationBar}
    (h : lookbackSession config dataset signalSession = some startSession)
    (hstart : barAt dataset startSession symbol = some startBar)
    (hsignal : barAt dataset signalSession symbol = some signalBar) : [startBar.barId, signalBar.barId].Nodup := by
  refine List.nodup_cons.mpr ⟨fun hmem => ?_, List.nodup_singleton _⟩
  have heq := barId_session (List.mem_singleton.mp hmem)
  rw [barAt_session hstart, barAt_session hsignal] at heq
  exact lookbackSession_ne h heq

theorem momentum_screens (config : MomentumBaselineConfig) (dataset : EvaluationDataset hex)
    (signalSession : SessionDate) :
    Screens dataset signalSession (momentumScreen .exact config dataset signalSession) := by
  constructor
  · intro i reason h
    unfold momentumScreen at h
    split at h
    · cases h
      exact ⟨.nil, (by decide : "NOT_POINT_IN_TIME_ELIGIBLE" ∈ signalRejections)⟩
    · split at h
      · cases h
        exact ⟨.nil, (by decide : "INSUFFICIENT_LOOKBACK" ∈ signalRejections)⟩
      next startSession hstart =>
        split at h
        next startBar signalBar hs hb =>
          dsimp only at h
          split at h
          · cases h
            exact ⟨evidence_nodup hstart hs hb, (by decide : "NOT_TRADABLE_AT_SIGNAL_CLOSE" ∈ signalRejections)⟩
          · split at h
            · cases h
              exact ⟨evidence_nodup hstart hs hb, (by decide : "BELOW_MINIMUM_MOMENTUM" ∈ signalRejections)⟩
            · cases h
        next hmissing =>
          cases h
          refine ⟨?_, (by decide : "MISSING_AS_OF_BAR" ∈ signalRejections)⟩
          cases hs : barAt dataset startSession i.1.symbol with
          | none => cases hb : barAt dataset signalSession i.1.symbol <;> simp
          | some startBar =>
            cases hb : barAt dataset signalSession i.1.symbol with
            | none => simp
            | some signalBar => exact absurd hb (hmissing _ _ hs)
  · intro i c h
    unfold momentumScreen at h
    split at h
    · cases h
    · split at h
      · cases h
      next startSession hstart =>
        split at h
        next startBar signalBar hs hb =>
          dsimp only at h
          split at h
          · cases h
          · split at h
            · cases h
            · cases h
              exact ⟨rfl, evidence_nodup hstart hs hb, hb⟩
        next => cases h

theorem selectMomentum_keys (maximumPositions : ℕ) (selected : List ContentId) (ranked : List Candidate) :
    (selectMomentum .exact maximumPositions slotNotional selected ranked).map (·.1) =
      ranked.map (·.instrument.1.instrumentId) := by
  induction ranked generalizing selected with
  | nil => rfl
  | cons c ranked ih =>
    unfold selectMomentum
    split
    · rw [List.map_cons, List.map_cons, ih]; rfl
    · split
      · rw [List.map_cons, List.map_cons, ih]; rfl
      · rw [List.map_cons, List.map_cons, ih]; rfl

theorem selectMomentum_named {maximumPositions : ℕ} {selected : List ContentId} {ranked : List Candidate}
    {r : ContentId × SignalReason} (h : r ∈ selectMomentum .exact maximumPositions slotNotional selected ranked) :
    ∃ c ∈ ranked, r.2.evidenceBarIds = c.evidenceBarIds ∧ r.2.reason ∈ signalReasons := by
  induction ranked generalizing selected with
  | nil => cases h
  | cons c ranked ih =>
    have hlater : ∀ {selected}, r ∈ selectMomentum .exact maximumPositions slotNotional selected ranked →
        ∃ c' ∈ c :: ranked, r.2.evidenceBarIds = c'.evidenceBarIds ∧ r.2.reason ∈ signalReasons := by
      intro selected hr
      obtain ⟨c', hc', hfacts⟩ := ih hr
      exact ⟨c', List.mem_cons_of_mem _ hc', hfacts⟩
    unfold selectMomentum at h
    split at h
    · rcases List.mem_cons.mp h with rfl | h
      · exact ⟨c, List.mem_cons_self, rfl, (by decide : "INSUFFICIENT_SLOT_NOTIONAL" ∈ signalReasons)⟩
      · exact hlater h
    · split at h
      · rcases List.mem_cons.mp h with rfl | h
        · exact ⟨c, List.mem_cons_self, rfl, (by decide : "OUTSIDE_POSITION_RANK" ∈ signalReasons)⟩
        · exact hlater h
      · rcases List.mem_cons.mp h with rfl | h
        · exact ⟨c, List.mem_cons_self, rfl, (by decide : "SELECTED" ∈ signalReasons)⟩
        · exact hlater h

/-- The loop selects the first affordable candidates, as many as there are positions left. -/
theorem selectMomentum_selected {maximumPositions : ℕ} {selected : List ContentId} {ranked : List Candidate}
    (hids : (ranked.map (·.instrument.1.instrumentId)).Nodup)
    (hnew : ∀ c ∈ ranked, c.instrument.1.instrumentId ∉ selected) {r : ContentId × SignalReason}
    (h : r ∈ selectMomentum .exact maximumPositions slotNotional selected ranked) :
    r.2.reason = "SELECTED" ↔
      r.1 ∈ ((ranked.filter (·.Affordable .exact slotNotional)).take (maximumPositions - selected.length)).map
        (·.instrument.1.instrumentId) := by
  induction ranked generalizing selected with
  | nil => cases h
  | cons c ranked ih =>
    obtain ⟨hfresh, hrest⟩ := List.nodup_cons.mp hids
    have hlater : ∀ {selected' : List ContentId}, r ∈ selectMomentum .exact maximumPositions slotNotional selected' ranked →
        r.1 ≠ c.instrument.1.instrumentId := by
      intro selected' hr heq
      have hkey := List.mem_map_of_mem (f := fun r : ContentId × SignalReason => r.1) hr
      rw [selectMomentum_keys, heq] at hkey
      exact hfresh hkey
    have hnew' := fun c' hc' => hnew c' (List.mem_cons_of_mem c hc')
    unfold selectMomentum at h
    by_cases hafford : c.Affordable .exact slotNotional
    · rw [if_neg (not_not.mpr hafford)] at h
      rw [List.filter_cons, if_pos (decide_eq_true hafford)]
      by_cases hfull : maximumPositions ≤ selected.length
      · have hnone : maximumPositions - selected.length = 0 := by omega
        rw [if_pos hfull] at h
        rw [hnone, List.take_zero, List.map_nil]
        rcases List.mem_cons.mp h with rfl | h
        · exact iff_of_false (by decide : "OUTSIDE_POSITION_RANK" ≠ "SELECTED") List.not_mem_nil
        · have hrec := ih hrest hnew' h
          rwa [hnone, List.take_zero, List.map_nil] at hrec
      · have hleft : maximumPositions - selected.length = maximumPositions - (selected.length + 1) + 1 := by omega
        rw [if_neg hfull] at h
        rw [hleft, List.take_succ_cons, List.map_cons, List.mem_cons]
        rcases List.mem_cons.mp h with rfl | h
        · exact iff_of_true rfl (.inl rfl)
        · have hlength : (selected.insert c.instrument.1.instrumentId).length = selected.length + 1 :=
            List.length_insert_of_not_mem (hnew c List.mem_cons_self)
          have hrec := ih hrest (fun c' hc' hmem => by
            rcases List.mem_insert_iff.mp hmem with heq | hmem
            · have hkey := List.mem_map_of_mem (f := fun c : Candidate => c.instrument.1.instrumentId) hc'
              rw [heq] at hkey
              exact hfresh hkey
            · exact hnew' c' hc' hmem) h
          rw [hlength] at hrec
          rw [hrec]
          exact (or_iff_right (hlater h)).symm
    · rw [if_pos hafford] at h
      rw [List.filter_cons, if_neg (by rwa [decide_eq_true_iff])]
      rcases List.mem_cons.mp h with rfl | h
      · refine iff_of_false (by decide : "INSUFFICIENT_SLOT_NOTIONAL" ≠ "SELECTED") fun hmem => ?_
        obtain ⟨c', hc', heq⟩ := List.mem_map.mp hmem
        have hmem' := List.mem_of_mem_filter (List.mem_of_mem_take hc')
        have hkey := List.mem_map_of_mem (f := fun c : Candidate => c.instrument.1.instrumentId) hmem'
        rw [heq] at hkey
        exact hfresh hkey
      · exact ih hrest hnew' h

/-- The candidates of a fold whose slot pays for a share. -/
def momentumAffordable (config : MomentumBaselineConfig) (dataset : EvaluationDataset hex)
    (instruments : List PointInTimeInstrument) (initialCapital : ℚ) (signalSession : SessionDate) : List Candidate :=
  (candidates instruments (momentumScreen .exact config dataset signalSession)).filter
    (·.Affordable .exact (momentumSizing .exact config initialCapital).slotNotional)

/-- An affordable candidate with a position left by those ahead of it. -/
def MomentumLeads (config : MomentumBaselineConfig) (dataset : EvaluationDataset hex)
    (instruments : List PointInTimeInstrument) (initialCapital : ℚ) (signalSession : SessionDate) (c : Candidate) : Prop :=
  c ∈ momentumAffordable config dataset instruments initialCapital signalSession ∧
    ahead momentumKey (momentumAffordable config dataset instruments initialCapital signalSession) c <
      config.1.maximumPositions

theorem candidates_ids {screen : PointInTimeInstrument → SignalReason ⊕ Candidate}
    (hscreens : Screens dataset signalSession screen) (hids : (instruments.map (·.1.instrumentId)).Nodup) :
    ((candidates instruments screen).map (·.instrument.1.instrumentId)).Nodup :=
  (List.nodup_append.mp ((screened_perm hscreens instruments).nodup_iff.mpr hids)).2.1

theorem symbols_of_ids {values : List Candidate} (hvalues : ∀ c ∈ values, c.instrument ∈ instruments)
    (hsymbols : (instruments.map (·.1.symbol)).Nodup) (hids : (values.map (·.instrument.1.instrumentId)).Nodup) :
    (values.map (·.instrument.1.symbol)).Nodup := by
  refine nodup_map_of hids fun a ha b hb heq => ?_
  rw [eq_of_nodup_map hsymbols (hvalues a ha) (hvalues b hb) heq]

theorem momentum_decides (hsymbols : (instruments.map (·.1.symbol)).Nodup)
    (hids : (instruments.map (·.1.instrumentId)).Nodup) :
    Decides instruments (momentumReasons .exact config dataset instruments initialCapital signalSession)
      (MomentumLeads config dataset instruments initialCapital signalSession) := by
  have hscreens := momentum_screens config dataset signalSession
  have hcandidates := candidates_ids hscreens hids
  have hperm := perm_sortOn momentumKey (candidates instruments (momentumScreen .exact config dataset signalSession))
  have hranked := (hperm.map (·.instrument.1.instrumentId)).nodup_iff.mpr hcandidates
  have hkeys : ((candidates instruments (momentumScreen .exact config dataset signalSession)).map
      momentumKey).Nodup := by
    refine nodup_map_of (symbols_of_ids (fun c hc => (candidate_facts hscreens hc).1) hsymbols hcandidates)
      fun a _ b _ heq => ?_
    have hinner := (Prod.mk.inj (toLex.injective heq)).2
    exact (Prod.mk.inj (toLex.injective hinner)).2
  have htop : ∀ c, c ∈ ((sortOn momentumKey (candidates instruments
      (momentumScreen .exact config dataset signalSession))).filter
        (·.Affordable .exact (momentumSizing .exact config initialCapital).slotNotional)).take
          config.1.maximumPositions ↔ MomentumLeads config dataset instruments initialCapital signalSession c :=
    fun c => mem_take_filter_sortOn hkeys _ _
  refine decides_of_ranks hscreens hids hperm ⟨selectMomentum_keys _ _ _, fun r hr => ?_, fun r hr => ?_, fun r hr => ?_⟩
    fun c hc => ?_
  · obtain ⟨c, hc, hevidence, -⟩ := selectMomentum_named hr
    exact ⟨c, hc, hevidence⟩
  · obtain ⟨c, -, -, htext⟩ := selectMomentum_named hr
    exact htext
  · rw [selectMomentum_selected hranked (fun _ _ => List.not_mem_nil) hr, List.length_nil, Nat.sub_zero, List.mem_map]
    exact exists_congr fun c => and_congr_left' (htop c)
  · exact List.mem_of_mem_filter (List.mem_of_mem_take ((htop c).mpr hc))

end Momentum

section EqualWeight

variable {config : EqualWeightBenchmarkConfig}

theorem equalWeight_screens (config : EqualWeightBenchmarkConfig) (dataset : EvaluationDataset hex)
    (initialCapital : ℚ) (signalSession : SessionDate) :
    Screens dataset signalSession (equalWeightScreen .exact config dataset initialCapital signalSession) := by
  constructor
  · intro i reason h
    unfold equalWeightScreen at h
    split at h
    · cases h
      exact ⟨.nil, (by decide : "NOT_POINT_IN_TIME_ELIGIBLE" ∈ signalRejections)⟩
    · split at h
      · cases h
        exact ⟨.nil, (by decide : "MISSING_AS_OF_BAR" ∈ signalRejections)⟩
      · dsimp only at h
        split at h
        · cases h
          exact ⟨List.nodup_singleton _, (by decide : "NOT_TRADABLE_AT_SIGNAL_CLOSE" ∈ signalRejections)⟩
        · split at h
          · cases h
            exact ⟨List.nodup_singleton _, (by decide : "INSUFFICIENT_SLOT_NOTIONAL" ∈ signalRejections)⟩
          · cases h
  · intro i c h
    unfold equalWeightScreen at h
    split at h
    · cases h
    · split at h
      · cases h
      next hbar =>
        dsimp only at h
        split at h
        · cases h
        · split at h
          · cases h
          · cases h
            exact ⟨rfl, List.nodup_singleton _, hbar⟩

theorem equalWeight_affordable {i : PointInTimeInstrument} {c : Candidate}
    (h : equalWeightScreen .exact config dataset initialCapital signalSession i = .inr c) :
    c.Affordable .exact (equalWeightSizing .exact config initialCapital).slotNotional := by
  unfold equalWeightScreen at h
  split at h
  · cases h
  · split at h
    · cases h
    · dsimp only at h
      split at h
      · cases h
      · split at h
        · cases h
        next hafford =>
          cases h
          exact not_not.mp hafford

/-- The candidates of a fold, which are affordable. -/
def equalWeightCandidates (config : EqualWeightBenchmarkConfig) (dataset : EvaluationDataset hex)
    (instruments : List PointInTimeInstrument) (initialCapital : ℚ) (signalSession : SessionDate) : List Candidate :=
  candidates instruments (equalWeightScreen .exact config dataset initialCapital signalSession)

/-- A candidate with a place left by those ahead of it. -/
def EqualWeightLeads (config : EqualWeightBenchmarkConfig) (dataset : EvaluationDataset hex)
    (instruments : List PointInTimeInstrument) (initialCapital : ℚ) (signalSession : SessionDate) (c : Candidate) : Prop :=
  c ∈ equalWeightCandidates config dataset instruments initialCapital signalSession ∧
    ahead equalWeightKey (equalWeightCandidates config dataset instruments initialCapital signalSession) c <
      config.1.maximumConstituents

theorem equalWeight_decides (hsymbols : (instruments.map (·.1.symbol)).Nodup)
    (hids : (instruments.map (·.1.instrumentId)).Nodup) :
    Decides instruments (equalWeightReasons .exact config dataset instruments initialCapital signalSession)
      (EqualWeightLeads config dataset instruments initialCapital signalSession) := by
  have hscreens := equalWeight_screens config dataset initialCapital signalSession
  have hcandidates := candidates_ids hscreens hids
  have hperm := perm_sortOn equalWeightKey (equalWeightCandidates config dataset instruments initialCapital signalSession)
  have hkeys : ((equalWeightCandidates config dataset instruments initialCapital signalSession).map
      equalWeightKey).Nodup := by
    refine nodup_map_of (symbols_of_ids (fun c hc => (candidate_facts hscreens hc).1) hsymbols hcandidates)
      fun a _ b _ heq => ?_
    exact (Prod.mk.inj (toLex.injective heq)).2
  have htop : ∀ c, c ∈ (sortOn equalWeightKey (equalWeightCandidates config dataset instruments initialCapital
      signalSession)).take config.1.maximumConstituents ↔
        EqualWeightLeads config dataset instruments initialCapital signalSession c :=
    fun c => mem_take_sortOn hkeys _
  refine decides_of_ranks hscreens hids hperm ⟨?_, fun r hr => ?_, fun r hr => ?_, fun r hr => ?_⟩ fun c hc => ?_
  · rw [List.map_map]
    rfl
  · obtain ⟨c, hc, rfl⟩ := List.mem_map.mp hr
    exact ⟨c, hc, rfl⟩
  · obtain ⟨c, -, rfl⟩ := List.mem_map.mp hr
    unfold Candidate.reason
    dsimp only
    split
    · exact List.mem_cons_self
    · decide
  · obtain ⟨c, -, rfl⟩ := List.mem_map.mp hr
    have hselected : (if c.instrument.1.instrumentId ∈ ((sortOn equalWeightKey (equalWeightCandidates config dataset
        instruments initialCapital signalSession)).take config.1.maximumConstituents).map (·.instrument.1.instrumentId)
        then "SELECTED" else "OUTSIDE_CONSTITUENT_RANK") = "SELECTED" ↔
        c.instrument.1.instrumentId ∈ ((sortOn equalWeightKey (equalWeightCandidates config dataset instruments
          initialCapital signalSession)).take config.1.maximumConstituents).map (·.instrument.1.instrumentId) := by
      split
      next hin => exact iff_of_true rfl hin
      next hout => exact iff_of_false (by decide) hout
    refine hselected.trans ?_
    rw [List.mem_map]
    exact exists_congr fun c' => and_congr_left' (htop c')
  · exact List.mem_of_mem_take ((htop c).mpr hc)

end EqualWeight

end IndiaSwing.Baselines
