import Mathlib.Tactic.Linarith
import IndiaSwing.Lib.DecimalContext
import IndiaSwing.Lib.ExceptGuards
import IndiaSwing.ContentIds
import IndiaSwing.Timestamps

namespace IndiaSwing

open DecimalContext (Divides)
open ExceptGuards (raiseIf)

structure ValueError where
  message : String
  deriving DecidableEq, Repr

inductive ExitReason
  | stop
  | target
  | time
  deriving DecidableEq, Repr

inductive FillSide
  | buy
  | sell
  deriving DecidableEq, Repr

def ExitReason.value : ExitReason → String
  | .stop => "STOP"
  | .target => "TARGET"
  | .time => "TIME"

def FillSide.value : FillSide → String
  | .buy => "BUY"
  | .sell => "SELL"

/-- `_on_tick` -/
def OnTick (value tickSize : ℚ) : Prop := Divides tickSize value

instance (value tickSize : ℚ) : Decidable (OnTick value tickSize) :=
  inferInstanceAs (Decidable (Divides _ _))

theorem onTick_intCast_mul (n : ℤ) {tickSize : ℚ} (htick : 0 < tickSize) :
    OnTick (n * tickSize) tickSize := (DecimalContext.divides_iff htick.ne').mpr ⟨n, rfl⟩

def adverseBuy (ctx : DecimalContext) (price slippageBps tickSize : ℚ) : ℚ :=
  let raw := ctx.mul price (ctx.add 1 (ctx.div slippageBps 10000))
  ctx.mul ⌈ctx.div raw tickSize⌉ tickSize

def adverseSell (ctx : DecimalContext) (price slippageBps tickSize : ℚ) : ℚ :=
  let raw := ctx.mul price (ctx.sub 1 (ctx.div slippageBps 10000))
  ctx.mul ⌊ctx.div raw tickSize⌋ tickSize

@[ext] structure SimulationBar where
  session : SessionDate
  symbol : String
  open_ : ℚ
  high : ℚ
  low : ℚ
  close : ℚ
  volume : ℕ
  tradable : Bool
  lowerCircuitSellLocked : Bool
  open_pos : 0 < open_
  high_pos : 0 < high
  low_pos : 0 < low
  close_pos : 0 < close
  le_high : max open_ (max low close) ≤ high
  low_le : low ≤ min open_ (min high close)
  volume_pos : tradable = true → 0 < volume
  locked_tradable : lowerCircuitSellLocked = true → tradable = true
  deriving Repr

instance : DecidableEq SimulationBar := fun _ _ => decidable_of_iff _ SimulationBar.ext_iff.symm

def boolId (value : Bool) : ContentId := .int (if value then 1 else 0)

def SimulationBar.barId (bar : SimulationBar) : ContentId :=
  .ofFields "daily-execution-simulation-bar/v1"
    [.int bar.session, .text bar.symbol, .decimal bar.open_, .decimal bar.high, .decimal bar.low,
      .decimal bar.close, .int bar.volume, boolId bar.tradable, boolId bar.lowerCircuitSellLocked]

@[ext] structure LimitEntryOrder where
  symbol : String
  signalSession : SessionDate
  firstEligibleSession : SessionDate
  expirySession : SessionDate
  quantity : ℕ
  limitPrice : ℚ
  tickSize : ℚ
  maximumParticipation : ℚ
  signal_lt : signalSession < firstEligibleSession
  first_le : firstEligibleSession ≤ expirySession
  quantity_pos : 0 < quantity
  limit_pos : 0 < limitPrice
  tick_pos : 0 < tickSize
  limit_onTick : OnTick limitPrice tickSize
  participation : 0 < maximumParticipation ∧ maximumParticipation ≤ 1
  deriving Repr

instance : DecidableEq LimitEntryOrder := fun _ _ => decidable_of_iff _ LimitEntryOrder.ext_iff.symm

def LimitEntryOrder.create (symbol : String)
    (signalSession firstEligibleSession expirySession : SessionDate) (quantity : ℕ)
    (limitPrice tickSize maximumParticipation : ℚ) : Except ValueError LimitEntryOrder :=
  if hsignal : firstEligibleSession ≤ signalSession then
    .error ⟨"entry must start strictly after the signal session"⟩
  else if hexpiry : expirySession < firstEligibleSession then
    .error ⟨"expiry cannot precede the first eligible session"⟩
  else if hquantity : quantity = 0 then
    .error ⟨"quantity must be positive"⟩
  else if hlimit : limitPrice ≤ 0 then
    .error ⟨"limit_price must be finite and positive"⟩
  else if htick : tickSize ≤ 0 then
    .error ⟨"tick_size must be finite and positive"⟩
  else if hon : ¬OnTick limitPrice tickSize then
    .error ⟨"limit_price must be an exact tick multiple"⟩
  else if hpart : ¬(0 < maximumParticipation ∧ maximumParticipation ≤ 1) then
    .error ⟨"maximum_participation must be in (0, 1]"⟩
  else
    .ok ⟨symbol, signalSession, firstEligibleSession, expirySession, quantity, limitPrice, tickSize,
      maximumParticipation, not_le.mp hsignal, not_lt.mp hexpiry, Nat.pos_of_ne_zero hquantity,
      not_le.mp hlimit, not_le.mp htick, not_not.mp hon, not_not.mp hpart⟩

def LimitEntryOrder.orderId (order : LimitEntryOrder) : ContentId :=
  .ofFields "daily-limit-entry-order/v1"
    [.text order.symbol, .int order.signalSession, .int order.firstEligibleSession,
      .int order.expirySession, .int order.quantity, .decimal order.limitPrice,
      .decimal order.tickSize, .decimal order.maximumParticipation]

@[ext] structure ProtectiveExitOrder where
  symbol : String
  quantity : ℕ
  entrySession : SessionDate
  entryPrice : ℚ
  stopPrice : ℚ
  targetPrice : ℚ
  tickSize : ℚ
  maximumParticipation : ℚ
  quantity_pos : 0 < quantity
  stop_pos : 0 < stopPrice
  tick_pos : 0 < tickSize
  stop_lt : stopPrice < entryPrice
  lt_target : entryPrice < targetPrice
  entry_onTick : OnTick entryPrice tickSize
  stop_onTick : OnTick stopPrice tickSize
  target_onTick : OnTick targetPrice tickSize
  participation : 0 < maximumParticipation ∧ maximumParticipation ≤ 1
  deriving Repr

instance : DecidableEq ProtectiveExitOrder := fun _ _ => decidable_of_iff _ ProtectiveExitOrder.ext_iff.symm

def ProtectiveExitOrder.create (symbol : String) (quantity : ℕ) (entrySession : SessionDate)
    (entryPrice stopPrice targetPrice tickSize maximumParticipation : ℚ) :
    Except ValueError ProtectiveExitOrder :=
  if hquantity : quantity = 0 then
    .error ⟨"quantity must be positive"⟩
  else if entryPrice ≤ 0 then
    .error ⟨"entry_price must be finite and positive"⟩
  else if hstop : stopPrice ≤ 0 then
    .error ⟨"stop_price must be finite and positive"⟩
  else if targetPrice ≤ 0 then
    .error ⟨"target_price must be finite and positive"⟩
  else if htick : tickSize ≤ 0 then
    .error ⟨"tick_size must be finite and positive"⟩
  else if horder : ¬(stopPrice < entryPrice ∧ entryPrice < targetPrice) then
    .error ⟨"protective prices must satisfy stop < entry < target"⟩
  else if hon : ¬(OnTick entryPrice tickSize ∧ OnTick stopPrice tickSize ∧
      OnTick targetPrice tickSize) then
    .error ⟨"entry, stop, and target must be exact tick multiples"⟩
  else if hpart : ¬(0 < maximumParticipation ∧ maximumParticipation ≤ 1) then
    .error ⟨"maximum_participation must be in (0, 1]"⟩
  else
    .ok ⟨symbol, quantity, entrySession, entryPrice, stopPrice, targetPrice, tickSize,
      maximumParticipation, Nat.pos_of_ne_zero hquantity, not_le.mp hstop, not_le.mp htick,
      (not_not.mp horder).1, (not_not.mp horder).2, (not_not.mp hon).1, (not_not.mp hon).2.1,
      (not_not.mp hon).2.2, not_not.mp hpart⟩

def ProtectiveExitOrder.idFields (order : ProtectiveExitOrder) : List ContentId :=
  [.text order.symbol, .int order.quantity, .int order.entrySession, .decimal order.entryPrice,
    .decimal order.stopPrice, .decimal order.targetPrice, .decimal order.tickSize,
    .decimal order.maximumParticipation]

@[ext] structure SimulatedFill where
  orderId : ContentId
  barId : ContentId
  session : SessionDate
  symbol : String
  side : FillSide
  quantity : ℕ
  triggerPrice : ℚ
  fillPrice : ℚ
  slippageBps : ℚ
  exitReason : Option ExitReason
  trigger_pos : 0 < triggerPrice
  fill_pos : 0 < fillPrice
  slippage_nonneg : 0 ≤ slippageBps
  deriving Repr

instance : DecidableEq SimulatedFill := fun _ _ => decidable_of_iff _ SimulatedFill.ext_iff.symm

def SimulatedFill.create (orderId barId : ContentId) (session : SessionDate) (symbol : String)
    (side : FillSide) (quantity : ℕ) (triggerPrice fillPrice slippageBps : ℚ)
    (exitReason : Option ExitReason) : Except ValueError SimulatedFill :=
  if htrigger : triggerPrice ≤ 0 then
    .error ⟨"trigger_price must be finite and positive"⟩
  else if hfill : fillPrice ≤ 0 then
    .error ⟨"fill_price must be finite and positive"⟩
  else if hslippage : slippageBps < 0 then
    .error ⟨"slippage_bps must be a non-negative Decimal"⟩
  else
    .ok ⟨orderId, barId, session, symbol, side, quantity, triggerPrice, fillPrice, slippageBps,
      exitReason, not_le.mp htrigger, not_le.mp hfill, not_lt.mp hslippage⟩

def SimulatedFill.fillId (fill : SimulatedFill) : ContentId :=
  .ofFields "daily-simulated-fill/v1"
    [fill.orderId, fill.barId, .int fill.session, .text fill.symbol, .text fill.side.value,
      .int fill.quantity, .decimal fill.triggerPrice, .decimal fill.fillPrice,
      .decimal fill.slippageBps, .option (fun reason => .text reason.value) fill.exitReason]

section Simulation

variable (ctx : DecimalContext)

/-- The bar cannot fill the order: it is not tradable, or the order exceeds its participation. -/
def unfillable (bar : SimulationBar) (quantity : ℕ) (maximumParticipation : ℚ) : Bool :=
  bar.tradable = false ∨
    DecimalContext.toInt (ctx.mul bar.volume maximumParticipation) < (quantity : ℤ)

/-- The price at which a bar reaches a buy limit. -/
def limitTrigger (order : LimitEntryOrder) (bar : SimulationBar) : Option ℚ :=
  if bar.open_ ≤ order.limitPrice then some bar.open_
  else if bar.low ≤ order.limitPrice then some order.limitPrice
  else none

def simulateLimitEntry (order : LimitEntryOrder) (bar : SimulationBar) (slippageBps : ℚ) :
    Except ValueError (Option SimulatedFill) := do
  raiseIf (slippageBps < 0) ⟨"slippage_bps must be a finite non-negative Decimal"⟩
  raiseIf (order.symbol ≠ bar.symbol) ⟨"order and bar symbols differ"⟩
  if ¬(order.firstEligibleSession ≤ bar.session ∧ bar.session ≤ order.expirySession) then
    return none
  if unfillable ctx bar order.quantity order.maximumParticipation then
    return none
  match limitTrigger order bar with
  | none => return none
  | some trigger =>
    let fillPrice := min order.limitPrice (adverseBuy ctx trigger slippageBps order.tickSize)
    let fill ← SimulatedFill.create order.orderId bar.barId bar.session bar.symbol .buy
      order.quantity trigger fillPrice slippageBps none
    return some fill

/-- The stop or target of a bar, with its trigger and fill prices: the stop comes first, and a
target on the entry session is carried. -/
def protectiveTrigger (order : ProtectiveExitOrder) (bar : SimulationBar) (slippageBps : ℚ) :
    Option (ℚ × ℚ × ExitReason) :=
  let sameAsEntry := bar.session = order.entrySession
  if bar.low ≤ order.stopPrice then
    if bar.lowerCircuitSellLocked then none
    else
      let trigger :=
        if sameAsEntry then order.stopPrice
        else if bar.open_ ≤ order.stopPrice then bar.open_ else order.stopPrice
      some (trigger, adverseSell ctx trigger slippageBps order.tickSize, .stop)
  else if order.targetPrice ≤ bar.high then
    if sameAsEntry then none
    else
      let trigger := if order.targetPrice ≤ bar.open_ then bar.open_ else order.targetPrice
      some (trigger, max order.targetPrice (adverseSell ctx trigger slippageBps order.tickSize),
        .target)
  else none

def simulateProtectiveExit (order : ProtectiveExitOrder) (bar : SimulationBar) (slippageBps : ℚ) :
    Except ValueError (Option SimulatedFill) := do
  raiseIf (slippageBps < 0) ⟨"slippage_bps must be a finite non-negative Decimal"⟩
  raiseIf (order.symbol ≠ bar.symbol) ⟨"order and bar symbols differ"⟩
  if bar.session < order.entrySession then
    return none
  if unfillable ctx bar order.quantity order.maximumParticipation then
    return none
  match protectiveTrigger ctx order bar slippageBps with
  | none => return none
  | some (trigger, fillPrice, reason) =>
    let fill ← SimulatedFill.create (.ofFields "daily-protective-exit-order/v1" order.idFields)
      bar.barId bar.session bar.symbol .sell order.quantity trigger fillPrice slippageBps (some reason)
    return some fill

def simulateTimeExit (order : ProtectiveExitOrder) (bar : SimulationBar) (slippageBps : ℚ) :
    Except ValueError (Option SimulatedFill) := do
  raiseIf (slippageBps < 0) ⟨"slippage_bps must be a finite non-negative Decimal"⟩
  raiseIf (order.symbol ≠ bar.symbol) ⟨"order and bar symbols differ"⟩
  if bar.session < order.entrySession then
    return none
  if bar.lowerCircuitSellLocked || unfillable ctx bar order.quantity order.maximumParticipation then
    return none
  let fill ← SimulatedFill.create
    (.ofFields "daily-time-exit-order/v1" (order.idFields ++ [.int bar.session])) bar.barId
    bar.session bar.symbol .sell order.quantity bar.close
    (adverseSell ctx bar.close slippageBps order.tickSize) slippageBps (some .time)
  return some fill

end Simulation

end IndiaSwing

namespace IndiaSwing

open ExceptGuards

variable {ctx : DecimalContext} {bar : SimulationBar} {slippageBps : ℚ} {fill : SimulatedFill}

/-- The fields that a fill takes over from its order, its bar and the kind of simulation. -/
structure FillsFrom (fill : SimulatedFill) (orderId : ContentId) (bar : SimulationBar)
    (side : FillSide) (quantity : ℕ) (slippageBps : ℚ) (exitReason : Option ExitReason) : Prop where
  orderId : fill.orderId = orderId
  barId : fill.barId = bar.barId
  session : fill.session = bar.session
  symbol : fill.symbol = bar.symbol
  side : fill.side = side
  quantity : fill.quantity = quantity
  slippage : fill.slippageBps = slippageBps
  exitReason : fill.exitReason = exitReason

theorem simulatedFill_create_ok {orderId : ContentId} {side : FillSide} {quantity : ℕ}
    {triggerPrice fillPrice : ℚ} {exitReason : Option ExitReason}
    (h : SimulatedFill.create orderId bar.barId bar.session bar.symbol side quantity triggerPrice
      fillPrice slippageBps exitReason = .ok fill) :
    FillsFrom fill orderId bar side quantity slippageBps exitReason ∧
      fill.triggerPrice = triggerPrice ∧ fill.fillPrice = fillPrice := by
  unfold SimulatedFill.create at h
  split at h
  next => cases h
  next =>
    split at h
    next => cases h
    next =>
      split at h
      next => cases h
      next =>
        obtain rfl := Except.ok.inj h
        exact ⟨⟨rfl, rfl, rfl, rfl, rfl, rfl, rfl, rfl⟩, rfl, rfl⟩

/-- An entry fills inside its window, at most at its limit. -/
theorem simulateLimitEntry_some {order : LimitEntryOrder}
    (h : simulateLimitEntry ctx order bar slippageBps = .ok (some fill)) :
    order.firstEligibleSession ≤ bar.session ∧ bar.session ≤ order.expirySession ∧
      fill.fillPrice ≤ order.limitPrice ∧
      FillsFrom fill order.orderId bar .buy order.quantity slippageBps none := by
  unfold simulateLimitEntry at h
  obtain ⟨-, h⟩ := raiseIf_bind_eq_ok.mp h
  obtain ⟨-, h⟩ := raiseIf_bind_eq_ok.mp h
  split at h
  next => cases h
  next hwindow =>
    split at h
    next => cases h
    next =>
      split at h
      next => cases h
      next trigger htrigger =>
        obtain ⟨value, hvalue, h⟩ := bind_eq_ok.mp h
        obtain rfl := Option.some.inj (Except.ok.inj h)
        obtain ⟨hfrom, -, hprice⟩ := simulatedFill_create_ok hvalue
        rw [not_not] at hwindow
        exact ⟨hwindow.1, hwindow.2, hprice.le.trans (min_le_left _ _), hfrom⟩

theorem simulateProtectiveExit_some {order : ProtectiveExitOrder}
    (h : simulateProtectiveExit ctx order bar slippageBps = .ok (some fill)) :
    order.entrySession ≤ bar.session ∧
      ∃ reason, protectiveTrigger ctx order bar slippageBps =
          some (fill.triggerPrice, fill.fillPrice, reason) ∧
        FillsFrom fill (.ofFields "daily-protective-exit-order/v1" order.idFields) bar .sell
          order.quantity slippageBps (some reason) := by
  unfold simulateProtectiveExit at h
  obtain ⟨-, h⟩ := raiseIf_bind_eq_ok.mp h
  obtain ⟨-, h⟩ := raiseIf_bind_eq_ok.mp h
  split at h
  next => cases h
  next hsession =>
    split at h
    next => cases h
    next =>
      split at h
      next => cases h
      next trigger fillPrice reason htrigger =>
        obtain ⟨value, hvalue, h⟩ := bind_eq_ok.mp h
        obtain rfl := Option.some.inj (Except.ok.inj h)
        obtain ⟨hfrom, rfl, rfl⟩ := simulatedFill_create_ok hvalue
        exact ⟨not_lt.mp hsession, reason, htrigger, hfrom⟩

theorem simulateTimeExit_some {order : ProtectiveExitOrder}
    (h : simulateTimeExit ctx order bar slippageBps = .ok (some fill)) :
    order.entrySession ≤ bar.session ∧
      FillsFrom fill (.ofFields "daily-time-exit-order/v1" (order.idFields ++ [.int bar.session]))
        bar .sell order.quantity slippageBps (some .time) := by
  unfold simulateTimeExit at h
  obtain ⟨-, h⟩ := raiseIf_bind_eq_ok.mp h
  obtain ⟨-, h⟩ := raiseIf_bind_eq_ok.mp h
  split at h
  next => cases h
  next hsession =>
    split at h
    next => cases h
    next =>
      obtain ⟨value, hvalue, h⟩ := bind_eq_ok.mp h
      obtain rfl := Option.some.inj (Except.ok.inj h)
      exact ⟨not_lt.mp hsession, (simulatedFill_create_ok hvalue).1⟩

/-- A protective exit is a stop or a target, and on the entry session it is a stop at the stop
price. -/
theorem protectiveTrigger_some {order : ProtectiveExitOrder} {trigger fillPrice : ℚ}
    {reason : ExitReason}
    (h : protectiveTrigger ctx order bar slippageBps = some (trigger, fillPrice, reason)) :
    reason ≠ .time ∧ (bar.session = order.entrySession → reason = .stop ∧
      fillPrice = adverseSell ctx order.stopPrice slippageBps order.tickSize) := by
  unfold protectiveTrigger at h
  dsimp only at h
  split at h
  next =>
    split at h
    next => cases h
    next =>
      simp only [Option.some.injEq, Prod.mk.injEq] at h
      obtain ⟨-, rfl, rfl⟩ := h
      exact ⟨by decide, fun hsame => ⟨rfl, by rw [if_pos hsame]⟩⟩
  next =>
    split at h
    next =>
      split at h
      next => cases h
      next hsame =>
        simp only [Option.some.injEq, Prod.mk.injEq] at h
        obtain ⟨-, -, rfl⟩ := h
        exact ⟨by decide, fun hs => absurd hs hsame⟩
    next => cases h

/-- In exact arithmetic an adverse sell at a tick multiple never gets more than that price. -/
theorem adverseSell_exact_le {price tickSize : ℚ} (hprice : 0 ≤ price) (hslippage : 0 ≤ slippageBps)
    (htick : 0 < tickSize) : adverseSell .exact price slippageBps tickSize ≤ price := by
  have hfloor : (⌊price * (1 - slippageBps / 10000) / tickSize⌋ : ℚ) ≤
      price * (1 - slippageBps / 10000) / tickSize := Int.floor_le _
  have hcut : price * (1 - slippageBps / 10000) ≤ price :=
    mul_le_of_le_one_right hprice (by linarith [div_nonneg hslippage (by norm_num : (0 : ℚ) ≤ 10000)])
  calc adverseSell .exact price slippageBps tickSize
      = ⌊price * (1 - slippageBps / 10000) / tickSize⌋ * tickSize := rfl
    _ ≤ price * (1 - slippageBps / 10000) / tickSize * tickSize :=
        mul_le_mul_of_nonneg_right hfloor htick.le
    _ = price * (1 - slippageBps / 10000) := div_mul_cancel₀ _ htick.ne'
    _ ≤ price := hcut

end IndiaSwing
