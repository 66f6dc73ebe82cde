import IndiaSwing.Lib.RelatedRuns
import IndiaSwing.Simulator
import IndiaSwing.TradeIntents

namespace IndiaSwing

open ExceptGuards RelatedRuns

variable {bar : SimulationBar} {bars : List SimulationBar} {s s' price tickSize : ℚ}

theorem adverseBuy_onTick (htick : 0 < tickSize) :
    OnTick (adverseBuy .exact price s tickSize) tickSize := onTick_intCast_mul _ htick

theorem adverseSell_onTick (htick : 0 < tickSize) :
    OnTick (adverseSell .exact price s tickSize) tickSize := onTick_intCast_mul _ htick

theorem le_adverseBuy_exact (hprice : 0 ≤ price) (hs : 0 ≤ s) (htick : 0 < tickSize) :
    price ≤ adverseBuy .exact price s tickSize := by
  have hceil : price * (1 + s / 10000) / tickSize ≤ (⌈price * (1 + s / 10000) / tickSize⌉ : ℚ) :=
    Int.le_ceil _
  have hraise : price ≤ price * (1 + s / 10000) :=
    le_mul_of_one_le_right hprice (by linarith [div_nonneg hs (by norm_num : (0 : ℚ) ≤ 10000)])
  calc price ≤ price * (1 + s / 10000) := hraise
    _ = price * (1 + s / 10000) / tickSize * tickSize := (div_mul_cancel₀ _ htick.ne').symm
    _ ≤ ⌈price * (1 + s / 10000) / tickSize⌉ * tickSize :=
        mul_le_mul_of_nonneg_right hceil htick.le
    _ = adverseBuy .exact price s tickSize := rfl

theorem adverseBuy_exact_mono (hprice : 0 ≤ price) (htick : 0 < tickSize) (h : s ≤ s') :
    adverseBuy .exact price s tickSize ≤ adverseBuy .exact price s' tickSize := by
  have hbps : s / 10000 ≤ s' / 10000 := div_le_div_of_nonneg_right h (by norm_num)
  have hraw : price * (1 + s / 10000) ≤ price * (1 + s' / 10000) :=
    mul_le_mul_of_nonneg_left (by linarith) hprice
  have hceil : ⌈price * (1 + s / 10000) / tickSize⌉ ≤ ⌈price * (1 + s' / 10000) / tickSize⌉ :=
    Int.ceil_mono (div_le_div_of_nonneg_right hraw htick.le)
  exact mul_le_mul_of_nonneg_right (Int.cast_le.mpr hceil) htick.le

theorem adverseSell_exact_antitone (hprice : 0 ≤ price) (htick : 0 < tickSize) (h : s ≤ s') :
    adverseSell .exact price s' tickSize ≤ adverseSell .exact price s tickSize := by
  have hbps : s / 10000 ≤ s' / 10000 := div_le_div_of_nonneg_right h (by norm_num)
  have hraw : price * (1 - s' / 10000) ≤ price * (1 - s / 10000) :=
    mul_le_mul_of_nonneg_left (by linarith) hprice
  have hfloor : ⌊price * (1 - s' / 10000) / tickSize⌋ ≤ ⌊price * (1 - s / 10000) / tickSize⌋ :=
    Int.floor_mono (div_le_div_of_nonneg_right hraw htick.le)
  exact mul_le_mul_of_nonneg_right (Int.cast_le.mpr hfloor) htick.le

/-- Two fills that differ in nothing but prices, slippage and ids. -/
structure SameFill (fill fill' : SimulatedFill) : Prop where
  session : fill.session = fill'.session
  symbol : fill.symbol = fill'.symbol
  quantity : fill.quantity = fill'.quantity
  exitReason : fill.exitReason = fill'.exitReason

def DearerEntry (fill fill' : SimulatedFill) : Prop :=
  SameFill fill fill' ∧ fill.fillPrice ≤ fill'.fillPrice

def CheaperExit (fill fill' : SimulatedFill) : Prop :=
  SameFill fill fill' ∧ fill'.fillPrice ≤ fill.fillPrice

theorem FillsFrom.sameFill {fill fill' : SimulatedFill} {orderId orderId' : ContentId}
    {side : FillSide} {quantity : ℕ} {reason : Option ExitReason}
    (h : FillsFrom fill orderId bar side quantity s reason)
    (h' : FillsFrom fill' orderId' bar side quantity s' reason) : SameFill fill fill' :=
  ⟨h.session.trans h'.session.symm, h.symbol.trans h'.symbol.symm,
    h.quantity.trans h'.quantity.symm, h.exitReason.trans h'.exitReason.symm⟩

/-- Two fills of one order on one bar, at prices that both are positive. -/
theorem simulatedFill_create_inStep {orderId : ContentId} {side : FillSide} {quantity : ℕ}
    {trigger fillPrice fillPrice' : ℚ} {reason : Option ExitReason} {R : SimulatedFill →
      SimulatedFill → Prop} (htrigger : 0 < trigger) (hprice : 0 < fillPrice)
    (hprice' : 0 < fillPrice') (hs : 0 ≤ s) (hs' : 0 ≤ s')
    (hR : ∀ fill fill', SameFill fill fill' → fill.fillPrice = fillPrice →
      fill'.fillPrice = fillPrice' → R fill fill') :
    InStep R (SimulatedFill.create orderId bar.barId bar.session bar.symbol side quantity trigger
        fillPrice s reason)
      (SimulatedFill.create orderId bar.barId bar.session bar.symbol side quantity trigger
        fillPrice' s' reason) := by
  unfold SimulatedFill.create
  rw [dif_neg (not_le.mpr htrigger), dif_neg (not_le.mpr hprice), dif_neg (not_lt.mpr hs),
    dif_neg (not_le.mpr htrigger), dif_neg (not_le.mpr hprice'), dif_neg (not_lt.mpr hs')]
  exact .ok (hR _ _ ⟨rfl, rfl, rfl, rfl⟩ rfl rfl)

section Entry

variable {order : LimitEntryOrder}

theorem limitTrigger_some {trigger : ℚ} (h : limitTrigger order bar = some trigger) :
    0 < trigger ∧ trigger ≤ order.limitPrice := by
  unfold limitTrigger at h
  split at h
  next hopen =>
    cases Option.some.inj h
    exact ⟨bar.open_pos, hopen⟩
  next =>
    split at h
    next =>
      cases Option.some.inj h
      exact ⟨order.limit_pos, le_rfl⟩
    next => cases h

/-- The price of a triggered entry lies between the trigger and the limit. -/
theorem entryPrice_bounds {trigger : ℚ} (h : limitTrigger order bar = some trigger) (hs : 0 ≤ s) :
    trigger ≤ min order.limitPrice (adverseBuy .exact trigger s order.tickSize) ∧
      OnTick (min order.limitPrice (adverseBuy .exact trigger s order.tickSize)) order.tickSize := by
  obtain ⟨hpos, hle⟩ := limitTrigger_some h
  refine ⟨le_min hle (le_adverseBuy_exact hpos.le hs order.tick_pos), ?_⟩
  rcases min_choice order.limitPrice (adverseBuy .exact trigger s order.tickSize) with hmin | hmin
  · rw [hmin]
    exact order.limit_onTick
  · rw [hmin]
    exact adverseBuy_onTick order.tick_pos

/-- Whether and where a bar fills an entry does not depend on the slippage. -/
theorem simulateLimitEntry_inStep (order : LimitEntryOrder) (bar : SimulationBar) (hs : 0 ≤ s)
    (h : s ≤ s') : InStep (Option.Rel DearerEntry) (simulateLimitEntry .exact order bar s)
      (simulateLimitEntry .exact order bar s') := by
  have hs' : 0 ≤ s' := hs.trans h
  unfold simulateLimitEntry
  rw [raiseIf_neg (not_lt.mpr hs), raiseIf_neg (not_lt.mpr hs')]
  apply InStep.guard
  intro _
  split
  next => exact .ok .none
  next =>
    split
    next => exact .ok .none
    next =>
      cases htrigger : limitTrigger order bar with
      | none => exact .ok .none
      | some trigger =>
        obtain ⟨hpos, -⟩ := limitTrigger_some htrigger
        have hlow := (entryPrice_bounds htrigger hs).1
        have hlow' := (entryPrice_bounds htrigger hs').1
        have hmono := adverseBuy_exact_mono hpos.le order.tick_pos h
        apply InStep.bind (R := DearerEntry)
        · apply simulatedFill_create_inStep hpos (hpos.trans_le hlow) (hpos.trans_le hlow') hs hs'
          intro fill fill' hsame hprice hprice'
          refine ⟨hsame, ?_⟩
          rw [hprice, hprice']
          exact min_le_min_left _ hmono
        · intro fill fill' hfill
          exact .ok (.some hfill)

theorem entryScan_inStep (order : LimitEntryOrder) (bars : List SimulationBar)
    (sessions : List SessionDate) (hs : 0 ≤ s) (h : s ≤ s') :
    InStep (Option.Rel DearerEntry) (entryScan .exact order bars s sessions)
      (entryScan .exact order bars s' sessions) := by
  induction sessions with
  | nil => exact .ok .none
  | cons session rest ih =>
    unfold entryScan
    split
    next => exact ih
    next =>
      split
      next => exact .ok .none
      next =>
        cases barOn bars session with
        | none => exact .error _
        | some bar =>
          apply (simulateLimitEntry_inStep order bar hs h).bind
          intro fill fill' hfill
          cases hfill with
          | none => exact ih
          | some hfill => exact .ok (.some hfill)

/-- A property of every fill that a bar can give the order holds of the fill of a scan. -/
theorem entryScan_some {sessions : List SessionDate} {fill : SimulatedFill}
    {P : SimulatedFill → Prop}
    (hbar : ∀ bar, simulateLimitEntry .exact order bar s = .ok (some fill) → P fill)
    (h : entryScan .exact order bars s sessions = .ok (some fill)) : P fill := by
  induction sessions with
  | nil => cases h
  | cons session rest ih =>
    unfold entryScan at h
    split at h
    next => exact ih h
    next =>
      split at h
      next => cases h
      next =>
        split at h
        next => cases h
        next bar hon =>
          obtain ⟨result, hresult, h⟩ := bind_eq_ok.mp h
          cases result with
          | none => exact ih h
          | some value =>
            cases Option.some.inj (Except.ok.inj h)
            exact hbar bar hresult

/-- An entry costs at least its trigger and at most the limit, on the tick grid. -/
structure EntryPriced (order : LimitEntryOrder) (fill : SimulatedFill) : Prop where
  trigger_le : fill.triggerPrice ≤ fill.fillPrice
  le_limit : fill.fillPrice ≤ order.limitPrice
  onTick : OnTick fill.fillPrice order.tickSize

theorem simulateLimitEntry_priced {fill : SimulatedFill}
    (h : simulateLimitEntry .exact order bar s = .ok (some fill)) : EntryPriced order fill := by
  unfold simulateLimitEntry at h
  obtain ⟨hs, h⟩ := raiseIf_bind_eq_ok.mp h
  obtain ⟨-, h⟩ := raiseIf_bind_eq_ok.mp h
  split at h
  next => cases h
  next =>
    split at h
    next => cases h
    next =>
      split at h
      next => cases h
      next trigger htrigger =>
        obtain ⟨value, hvalue, h⟩ := bind_eq_ok.mp h
        cases Option.some.inj (Except.ok.inj h)
        obtain ⟨-, rfl, hprice⟩ := simulatedFill_create_ok hvalue
        obtain ⟨hle, htick⟩ := entryPrice_bounds htrigger (not_lt.mp hs)
        rw [← hprice] at hle htick
        exact ⟨hle, hprice.le.trans (min_le_left _ _), htick⟩

end Entry

section Exit

variable {order order' : ProtectiveExitOrder}

/-- Two orders that protect one position bought at two prices. -/
structure SameProtection (order order' : ProtectiveExitOrder) : Prop where
  symbol : order.symbol = order'.symbol
  quantity : order.quantity = order'.quantity
  entrySession : order.entrySession = order'.entrySession
  stopPrice : order.stopPrice = order'.stopPrice
  targetPrice : order.targetPrice = order'.targetPrice
  tickSize : order.tickSize = order'.tickSize
  maximumParticipation : order.maximumParticipation = order'.maximumParticipation

/-- The trigger and the reason agree, and the second price is no better. -/
def CheaperTrigger (trigger trigger' : ℚ × ℚ × ExitReason) : Prop :=
  trigger.1 = trigger'.1 ∧ trigger.2.2 = trigger'.2.2 ∧ trigger'.2.1 ≤ trigger.2.1

theorem protectiveTrigger_rel (hsame : SameProtection order order') (bar : SimulationBar)
    (h : s ≤ s') : Option.Rel CheaperTrigger (protectiveTrigger .exact order bar s)
      (protectiveTrigger .exact order' bar s') := by
  have hsell : ∀ price : ℚ, 0 < price → adverseSell .exact price s' order'.tickSize ≤
      adverseSell .exact price s order'.tickSize := by
    intro price hprice
    exact adverseSell_exact_antitone hprice.le order'.tick_pos h
  have htarget : 0 < order'.targetPrice :=
    order'.stop_pos.trans (order'.stop_lt.trans order'.lt_target)
  unfold protectiveTrigger
  simp only [hsame.stopPrice, hsame.targetPrice, hsame.entrySession, hsame.tickSize]
  split
  next =>
    split
    next => exact .none
    next =>
      refine .some ⟨rfl, rfl, hsell _ ?_⟩
      split
      next => exact order'.stop_pos
      next =>
        split
        next => exact bar.open_pos
        next => exact order'.stop_pos
  next =>
    split
    next =>
      split
      next => exact .none
      next =>
        refine .some ⟨rfl, rfl, max_le_max_left _ (hsell _ ?_)⟩
        split
        next => exact bar.open_pos
        next => exact htarget
    next => exact .none

theorem simulatedFill_create_whenBoth {orderId orderId' : ContentId} {side : FillSide}
    {quantity : ℕ} {trigger trigger' fillPrice fillPrice' : ℚ} {reason : Option ExitReason}
    (h : fillPrice' ≤ fillPrice) :
    WhenBoth CheaperExit (SimulatedFill.create orderId bar.barId bar.session bar.symbol side
        quantity trigger fillPrice s reason)
      (SimulatedFill.create orderId' bar.barId bar.session bar.symbol side quantity trigger'
        fillPrice' s' reason) := by
  constructor
  intro fill fill' hfill hfill'
  obtain ⟨hfrom, -, hprice⟩ := simulatedFill_create_ok hfill
  obtain ⟨hfrom', -, hprice'⟩ := simulatedFill_create_ok hfill'
  exact ⟨hfrom.sameFill hfrom', by rw [hprice, hprice']; exact h⟩

theorem simulateProtectiveExit_whenBoth (hsame : SameProtection order order')
    (bar : SimulationBar) (hs : 0 ≤ s) (h : s ≤ s') :
    WhenBoth (Option.Rel CheaperExit) (simulateProtectiveExit .exact order bar s)
      (simulateProtectiveExit .exact order' bar s') := by
  unfold simulateProtectiveExit
  rw [raiseIf_neg (not_lt.mpr hs), raiseIf_neg (not_lt.mpr (hs.trans h))]
  simp only [hsame.symbol, hsame.quantity, hsame.entrySession, hsame.maximumParticipation, ok_bind]
  apply WhenBoth.guard
  intro _
  split
  next => exact .ok .none
  next =>
    split
    next => exact .ok .none
    next =>
      have htrigger := protectiveTrigger_rel hsame bar h
      generalize protectiveTrigger .exact order bar s = first at htrigger ⊢
      generalize protectiveTrigger .exact order' bar s' = second at htrigger ⊢
      cases htrigger with
      | none => exact .ok .none
      | @some first second hfirst =>
        obtain ⟨-, hreason, hprice⟩ := hfirst
        dsimp only
        rw [hreason]
        apply (simulatedFill_create_whenBoth hprice).bind
        intro fill fill' hfill
        exact .ok (.some hfill)

theorem simulateTimeExit_whenBoth (hsame : SameProtection order order')
    (bar : SimulationBar) (hs : 0 ≤ s) (h : s ≤ s') :
    WhenBoth (Option.Rel CheaperExit) (simulateTimeExit .exact order bar s)
      (simulateTimeExit .exact order' bar s') := by
  have hprice : adverseSell .exact bar.close s' order'.tickSize ≤
      adverseSell .exact bar.close s order'.tickSize :=
    adverseSell_exact_antitone bar.close_pos.le order'.tick_pos h
  unfold simulateTimeExit
  rw [raiseIf_neg (not_lt.mpr hs), raiseIf_neg (not_lt.mpr (hs.trans h))]
  simp only [hsame.symbol, hsame.quantity, hsame.entrySession, hsame.maximumParticipation,
    hsame.tickSize, ok_bind]
  apply WhenBoth.guard
  intro _
  split
  next => exact .ok .none
  next =>
    split
    next => exact .ok .none
    next =>
      apply (simulatedFill_create_whenBoth hprice).bind
      intro fill fill' hfill
      exact .ok (.some hfill)

/-- Where the scan stops and why does not depend on the slippage. -/
theorem exitScan_whenBoth (hsame : SameProtection order order') (bars : List SimulationBar)
    (sessions : List SessionDate) (hs : 0 ≤ s) (h : s ≤ s') :
    WhenBoth (Option.Rel CheaperExit) (exitScan .exact order bars s sessions)
      (exitScan .exact order' bars s' sessions) := by
  induction sessions with
  | nil => exact .ok .none
  | cons session rest ih =>
    unfold exitScan
    cases barOn bars session with
    | none => exact .error_left _
    | some bar =>
      apply (simulateProtectiveExit_whenBoth hsame bar hs h).bind
      intro fill fill' hfill
      cases hfill with
      | some hfill => exact .ok (.some hfill)
      | none =>
        dsimp only
        split
        next => exact simulateTimeExit_whenBoth hsame bar hs h
        next => exact ih

/-- A stop or time exit gets at most its trigger, and every exit is on the tick grid. -/
structure ExitPriced (tickSize : ℚ) (fill : SimulatedFill) : Prop where
  le_trigger : fill.exitReason ≠ some .target → fill.fillPrice ≤ fill.triggerPrice
  onTick : OnTick fill.fillPrice tickSize

theorem protectiveTrigger_priced {trigger fillPrice : ℚ} {reason : ExitReason} (hs : 0 ≤ s)
    (h : protectiveTrigger .exact order bar s = some (trigger, fillPrice, reason)) :
    (reason ≠ .target → fillPrice ≤ trigger) ∧ OnTick fillPrice order.tickSize := by
  unfold protectiveTrigger at h
  dsimp only at h
  split at h
  next =>
    split at h
    next => cases h
    next =>
      simp only [Option.some.injEq, Prod.mk.injEq] at h
      obtain ⟨rfl, rfl, -⟩ := h
      refine ⟨fun _ => adverseSell_exact_le ?_ hs order.tick_pos,
        adverseSell_onTick order.tick_pos⟩
      split
      next => exact order.stop_pos.le
      next =>
        split
        next => exact bar.open_pos.le
        next => exact order.stop_pos.le
  next =>
    split at h
    next =>
      split at h
      next => cases h
      next =>
        simp only [Option.some.injEq, Prod.mk.injEq] at h
        obtain ⟨rfl, rfl, rfl⟩ := h
        refine ⟨fun hreason => absurd rfl hreason, ?_⟩
        rcases max_choice order.targetPrice (adverseSell .exact
          (if order.targetPrice ≤ bar.open_ then bar.open_ else order.targetPrice) s
          order.tickSize) with hmax | hmax
        · rw [hmax]
          exact order.target_onTick
        · rw [hmax]
          exact adverseSell_onTick order.tick_pos
    next => cases h

theorem simulateProtectiveExit_priced {fill : SimulatedFill} (hs : 0 ≤ s)
    (h : simulateProtectiveExit .exact order bar s = .ok (some fill)) :
    ExitPriced order.tickSize fill := by
  obtain ⟨-, reason, htrigger, hfrom⟩ := simulateProtectiveExit_some h
  obtain ⟨hle, htick⟩ := protectiveTrigger_priced hs htrigger
  refine ⟨?_, htick⟩
  rw [hfrom.exitReason]
  intro hreason
  exact hle fun heq => hreason (congrArg some heq)

theorem simulateTimeExit_priced {fill : SimulatedFill} (hs : 0 ≤ s)
    (h : simulateTimeExit .exact order bar s = .ok (some fill)) :
    ExitPriced order.tickSize fill := by
  unfold simulateTimeExit at h
  obtain ⟨-, h⟩ := raiseIf_bind_eq_ok.mp h
  obtain ⟨-, h⟩ := raiseIf_bind_eq_ok.mp h
  split at h
  next => cases h
  next =>
    split at h
    next => cases h
    next =>
      obtain ⟨value, hvalue, h⟩ := bind_eq_ok.mp h
      cases Option.some.inj (Except.ok.inj h)
      obtain ⟨-, htrigger, hprice⟩ := simulatedFill_create_ok hvalue
      refine ⟨fun _ => ?_, ?_⟩
      · rw [htrigger, hprice]
        exact adverseSell_exact_le bar.close_pos.le hs order.tick_pos
      · rw [hprice]
        exact adverseSell_onTick order.tick_pos

theorem exitScan_priced {sessions : List SessionDate} {fill : SimulatedFill} (hs : 0 ≤ s)
    (h : exitScan .exact order bars s sessions = .ok (some fill)) :
    ExitPriced order.tickSize fill := by
  induction sessions with
  | nil => cases h
  | cons session rest ih =>
    unfold exitScan at h
    split at h
    next => cases h
    next bar hon =>
      obtain ⟨result, hresult, h⟩ := bind_eq_ok.mp h
      cases result with
      | some value =>
        cases Option.some.inj (Except.ok.inj h)
        exact simulateProtectiveExit_priced hs hresult
      | none =>
        dsimp only at h
        split at h
        next => exact simulateTimeExit_priced hs h
        next => exact ih h

end Exit

section Trade

variable {intent : EvaluationTradeIntent} {policy : DailyExecutionPolicy}

theorem protectiveExitOrder_same {entryFill entryFill' : SimulatedFill}
    {order order' : ProtectiveExitOrder} (hfill : SameFill entryFill entryFill')
    (h : protectiveExitOrder intent entryFill policy = .ok order)
    (h' : protectiveExitOrder intent entryFill' policy = .ok order') :
    SameProtection order order' := by
  unfold protectiveExitOrder ProtectiveExitOrder.create at h h'
  split_ifs at h
  split_ifs at h'
  cases Except.ok.inj h
  cases Except.ok.inj h'
  exact ⟨hfill.symbol, hfill.quantity, hfill.session, rfl, rfl, rfl, rfl⟩

theorem protectiveExitOrder_tickSize {entryFill : SimulatedFill} {order : ProtectiveExitOrder}
    (h : protectiveExitOrder intent entryFill policy = .ok order) :
    order.tickSize = intent.entryOrder.tickSize := by
  unfold protectiveExitOrder ProtectiveExitOrder.create at h
  split_ifs at h
  cases Except.ok.inj h
  rfl

theorem evaluatedTrade_create_ok {intentId : ContentId} {isin : String}
    {entryFill exitFill : SimulatedFill} {trade : EvaluatedTrade}
    (h : EvaluatedTrade.create intentId isin entryFill exitFill = .ok trade) :
    trade.intentId = intentId ∧ trade.isin = isin ∧ trade.entryFill = entryFill ∧
      trade.exitFill = exitFill := by
  unfold EvaluatedTrade.create at h
  split_ifs at h
  cases Except.ok.inj h
  exact ⟨rfl, rfl, rfl, rfl⟩

/-- One position, entered at least as dear and left at most as well. -/
structure WorseTrade (trade trade' : EvaluatedTrade) : Prop where
  entry : DearerEntry trade.entryFill trade'.entryFill
  exit : CheaperExit trade.exitFill trade'.exitFill

theorem WorseTrade.grossPnl_le {trade trade' : EvaluatedTrade} (h : WorseTrade trade trade') :
    trade'.grossPnl .exact ≤ trade.grossPnl .exact := by
  have hspread : trade'.exitFill.fillPrice - trade'.entryFill.fillPrice ≤
      trade.exitFill.fillPrice - trade.entryFill.fillPrice := sub_le_sub h.exit.2 h.entry.2
  simp only [EvaluatedTrade.grossPnl, DecimalContext.exact_mul, DecimalContext.exact_sub,
    h.entry.1.quantity]
  exact mul_le_mul_of_nonneg_right hspread (Nat.cast_nonneg _)

theorem evaluateHolding_whenBoth (intent : EvaluationTradeIntent) (bars : List SimulationBar)
    (sessions : List SessionDate) (policy : DailyExecutionPolicy) {entryFill entryFill'
      : SimulatedFill} (hentry : DearerEntry entryFill entryFill') (hs : 0 ≤ s) (h : s ≤ s') :
    WhenBoth WorseTrade (evaluateHolding .exact intent bars sessions policy s entryFill)
      (evaluateHolding .exact intent bars sessions policy s' entryFill') := by
  unfold evaluateHolding
  rw [hentry.1.session]
  apply WhenBoth.guard
  intro _
  have horder : WhenBoth SameProtection (protectiveExitOrder intent entryFill policy)
      (protectiveExitOrder intent entryFill' policy) :=
    ⟨fun order order' => protectiveExitOrder_same hentry.1⟩
  apply horder.bind
  intro order order' hsame
  apply (exitScan_whenBoth hsame bars _ hs h).bind
  intro exitFill exitFill' hexit
  cases hexit with
  | none => exact .error_left _
  | some hexit =>
    constructor
    intro trade trade' htrade htrade'
    obtain ⟨-, -, rfl, rfl⟩ := evaluatedTrade_create_ok htrade
    obtain ⟨-, -, rfl, rfl⟩ := evaluatedTrade_create_ok htrade'
    exact ⟨hentry, hexit⟩

theorem evaluateIntent_eq_some {ctx : DecimalContext} {sessions : List SessionDate}
    {trade : EvaluatedTrade}
    (h : evaluateIntent ctx intent bars sessions policy s = .ok (some trade)) :
    ∃ entryFill, entryScan ctx intent.entryOrder bars s sessions = .ok (some entryFill) ∧
      evaluateHolding ctx intent bars sessions policy s entryFill = .ok trade := by
  unfold evaluateIntent at h
  obtain ⟨result, hresult, h⟩ := bind_eq_ok.mp h
  cases result with
  | none => cases h
  | some entryFill =>
    obtain ⟨value, hvalue, h⟩ := bind_eq_ok.mp h
    cases Option.some.inj (Except.ok.inj h)
    exact ⟨entryFill, hresult, hvalue⟩

theorem evaluateIntent_eq_none {ctx : DecimalContext} {sessions : List SessionDate} :
    evaluateIntent ctx intent bars sessions policy s = .ok none ↔
      entryScan ctx intent.entryOrder bars s sessions = .ok none := by
  unfold evaluateIntent
  constructor
  · intro h
    obtain ⟨result, hresult, h⟩ := bind_eq_ok.mp h
    cases result with
    | none => exact hresult
    | some entryFill =>
      obtain ⟨value, hvalue, h⟩ := bind_eq_ok.mp h
      cases h
  · intro h
    rw [h, ok_bind]
    rfl

theorem evaluateHolding_ok {ctx : DecimalContext} {sessions : List SessionDate}
    {entryFill : SimulatedFill} {trade : EvaluatedTrade}
    (h : evaluateHolding ctx intent bars sessions policy s entryFill = .ok trade) :
    ∃ order, protectiveExitOrder intent entryFill policy = .ok order ∧
      sessions.idxOf entryFill.session + intent.maxHoldingSessions - 1 < sessions.length ∧
      exitScan ctx order bars s ((sessions.drop (sessions.idxOf entryFill.session)).take
        (sessions.idxOf entryFill.session + intent.maxHoldingSessions - 1 + 1 -
          sessions.idxOf entryFill.session)) = .ok (some trade.exitFill) ∧
      trade.entryFill = entryFill ∧ trade.intentId = intent.intentId ∧ trade.isin = intent.isin := by
  unfold evaluateHolding at h
  obtain ⟨hhorizon, h⟩ := raiseIf_bind_eq_ok.mp h
  obtain ⟨order, horder, h⟩ := bind_eq_ok.mp h
  obtain ⟨result, hresult, h⟩ := bind_eq_ok.mp h
  cases result with
  | none => cases h
  | some exitFill =>
    obtain ⟨hid, hisin, hentry, rfl⟩ := evaluatedTrade_create_ok h
    exact ⟨order, horder, not_le.mp hhorizon, hresult, hentry, hid, hisin⟩

/-- More slippage neither makes nor breaks a trade's fills in time, and never improves a price. -/
theorem evaluateIntent_slippage (intent : EvaluationTradeIntent) (bars : List SimulationBar)
    (sessions : List SessionDate) (policy : DailyExecutionPolicy) (s s' : ℚ) (hs : 0 ≤ s)
    (h : s ≤ s') :
    (evaluateIntent .exact intent bars sessions policy s = .ok none ↔
      evaluateIntent .exact intent bars sessions policy s' = .ok none) ∧
    (∀ trade trade', evaluateIntent .exact intent bars sessions policy s = .ok (some trade) →
      evaluateIntent .exact intent bars sessions policy s' = .ok (some trade') →
      trade.entryFill.session = trade'.entryFill.session ∧
      trade.exitFill.session = trade'.exitFill.session ∧
      trade.exitFill.exitReason = trade'.exitFill.exitReason ∧
      trade.entryFill.quantity = trade'.entryFill.quantity ∧
      trade.exitFill.quantity = trade'.exitFill.quantity ∧
      trade.entryFill.fillPrice ≤ trade'.entryFill.fillPrice ∧
      trade'.exitFill.fillPrice ≤ trade.exitFill.fillPrice ∧
      trade'.grossPnl .exact ≤ trade.grossPnl .exact) ∧
    ∀ trade, evaluateIntent .exact intent bars sessions policy s = .ok (some trade) →
      trade.entryFill.triggerPrice ≤ trade.entryFill.fillPrice ∧
      trade.entryFill.fillPrice ≤ intent.entryOrder.limitPrice ∧
      (trade.exitFill.exitReason ≠ some .target →
        trade.exitFill.fillPrice ≤ trade.exitFill.triggerPrice) ∧
      OnTick trade.entryFill.fillPrice intent.entryOrder.tickSize ∧
      OnTick trade.exitFill.fillPrice intent.entryOrder.tickSize := by
  have hscan := entryScan_inStep intent.entryOrder bars sessions hs h
  refine ⟨?_, ?_, ?_⟩
  · rw [evaluateIntent_eq_none, evaluateIntent_eq_none]
    exact hscan.ok_none_iff
  · intro trade trade' htrade htrade'
    obtain ⟨entryFill, hentry, hholding⟩ := evaluateIntent_eq_some htrade
    obtain ⟨entryFill', hentry', hholding'⟩ := evaluateIntent_eq_some htrade'
    have hdearer : DearerEntry entryFill entryFill' := by
      cases hscan.whenBoth.related _ _ hentry hentry' with
      | some hdearer => exact hdearer
    have hworse := evaluateHolding_whenBoth intent bars sessions policy hdearer hs h
    obtain ⟨⟨hin, hbought⟩, hout, hsold⟩ := hworse.related trade trade' hholding hholding'
    exact ⟨hin.session, hout.session, hout.exitReason, hin.quantity, hout.quantity, hbought, hsold,
      WorseTrade.grossPnl_le ⟨⟨hin, hbought⟩, hout, hsold⟩⟩
  · intro trade htrade
    obtain ⟨entryFill, hentry, hholding⟩ := evaluateIntent_eq_some htrade
    obtain ⟨order, horder, -, hexit, rfl, -, -⟩ := evaluateHolding_ok hholding
    have hbought : EntryPriced intent.entryOrder trade.entryFill :=
      entryScan_some (P := EntryPriced intent.entryOrder) (fun bar => simulateLimitEntry_priced) hentry
    have hsold := exitScan_priced hs hexit
    rw [protectiveExitOrder_tickSize horder] at hsold
    exact ⟨hbought.trigger_le, hbought.le_limit, hsold.le_trigger, hbought.onTick, hsold.onTick⟩

theorem plainQuantity_pos : 0 < 10 := by decide

theorem plainLimit_pos : (0 : ℚ) < 100 := by decide +kernel

theorem plainTick_pos : (0 : ℚ) < 1 / 20 := by decide +kernel

theorem plainStop_pos : (0 : ℚ) < 90 := by decide +kernel

theorem plainHolding_pos : 0 < 2 := by decide

theorem plainParticipation : (0 : ℚ) < 1 / 100 ∧ (1 / 100 : ℚ) ≤ 1 := by decide +kernel

/-- A buy at up to 100 after session 1, stopped at 90 or sold at 120 within two sessions. -/
def plainIntent : EvaluationTradeIntent where
  signalId := .digest 1
  universeSnapshotId := .digest 2
  isin := "INE000A01010"
  entryOrder := ⟨"INFY", 1, 2, 3, 10, 100, 1 / 20, 1 / 100, by decide, by decide, plainQuantity_pos,
    plainLimit_pos, plainTick_pos, by decide +kernel, plainParticipation⟩
  stopPrice := 90
  targetPrice := 120
  maxHoldingSessions := 2
  stop_pos := plainStop_pos
  target_pos := by decide +kernel
  stop_onTick := by decide +kernel
  target_onTick := by decide +kernel
  stop_lt := by decide +kernel
  lt_target := by decide +kernel
  holding_pos := plainHolding_pos

theorem plainUnstressed : ∀ stressed ∈ (none : Option ℚ), 0 < stressed ∧ 10 < stressed := by decide

theorem plainVersion_ne : "daily-ohlcv-pessimistic/v1" ≠ "" := by decide

def plainPolicy : DailyExecutionPolicy :=
  ⟨10, 1 / 100, none, "daily-ohlcv-pessimistic/v1", plainParticipation, plainUnstressed, plainVersion_ne⟩

theorem plainHigh_pos : (0 : ℚ) < 104 := by decide +kernel

theorem plainLow_pos : (0 : ℚ) < 96 := by decide +kernel

theorem plainClose_pos : (0 : ℚ) < 101 := by decide +kernel

theorem plainVolume_pos : true = true → 0 < 5000 := by decide

theorem plainUnlocked : false = true → true = true := by decide

/-- A bar that opens at 98 and ranges from 96 to 104. -/
def plainBar (session : SessionDate) : SimulationBar :=
  ⟨session, "INFY", 98, 104, 96, 101, 5000, true, false, by decide +kernel, plainHigh_pos, plainLow_pos,
    plainClose_pos, by decide +kernel, by decide +kernel, plainVolume_pos, plainUnlocked⟩

theorem evaluateIntent_slippage_plain :
    ∃ trade trade',
      evaluateIntent .exact plainIntent [plainBar 2, plainBar 3] [1, 2, 3] plainPolicy 10 =
        .ok (some trade) ∧
      evaluateIntent .exact plainIntent [plainBar 2, plainBar 3] [1, 2, 3] plainPolicy 50 =
        .ok (some trade') ∧
      trade'.grossPnl .exact ≤ trade.grossPnl .exact := by
  have hten : (evaluateIntent .exact plainIntent [plainBar 2, plainBar 3] [1, 2, 3] plainPolicy
      10).toOption.any (·.isSome) = true := by decide +kernel
  have hfifty : (evaluateIntent .exact plainIntent [plainBar 2, plainBar 3] [1, 2, 3] plainPolicy
      50).toOption.any (·.isSome) = true := by decide +kernel
  obtain ⟨result, hresult, hsome⟩ := exists_ok_of_any hten
  obtain ⟨result', hresult', hsome'⟩ := exists_ok_of_any hfifty
  obtain ⟨trade, rfl⟩ := Option.isSome_iff_exists.mp hsome
  obtain ⟨trade', rfl⟩ := Option.isSome_iff_exists.mp hsome'
  have hworse := (evaluateIntent_slippage plainIntent [plainBar 2, plainBar 3] [1, 2, 3]
    plainPolicy 10 50 (by norm_num) (by norm_num)).2.1 trade trade' hresult hresult'
  exact ⟨trade, trade', hresult, hresult', hworse.2.2.2.2.2.2.2⟩

end Trade

end IndiaSwing
