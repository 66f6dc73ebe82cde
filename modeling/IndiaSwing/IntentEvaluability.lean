import IndiaSwing.TradeLookahead

namespace IndiaSwing

open ExceptGuards

section Data

variable (ctx : DecimalContext) (intent : EvaluationTradeIntent) (policy : DailyExecutionPolicy)
  (bars : List SimulationBar) (sessions : List SessionDate) (s : ℚ)

/-- A bar that takes the intent's quantity both ways. -/
def UsableBar (bar : SimulationBar) : Prop :=
  bar.symbol = intent.entryOrder.symbol ∧ bar.tradable = true ∧ bar.lowerCircuitSellLocked = false ∧
    unfillable ctx bar intent.entryOrder.quantity intent.entryOrder.maximumParticipation = false ∧
    unfillable ctx bar intent.entryOrder.quantity policy.maximumParticipation = false

instance (bar : SimulationBar) : Decidable (UsableBar ctx intent policy bar) := inferInstanceAs (Decidable (_ ∧ _))

/-- A session on which the order may fill. -/
def inEntryWindow (order : LimitEntryOrder) (session : SessionDate) : Bool :=
  order.firstEligibleSession ≤ session && session ≤ order.expirySession

/-- The calendar's sessions from one of them on, through a holding of the intent. -/
def holdingSessions (i : ℕ) : List SessionDate := (sessions.drop i).take intent.maxHoldingSessions

/-- The data of an evaluable intent: from every session of the entry window on there is a usable bar on each
session of the full holding horizon. -/
def FullData : Prop :=
  ∀ i < sessions.length, (∃ session ∈ sessions[i]?, inEntryWindow intent.entryOrder session = true) →
    i + intent.maxHoldingSessions ≤ sessions.length ∧
      ∀ later ∈ holdingSessions intent sessions i,
        ∃ bar ∈ barOn bars later, UsableBar ctx intent policy bar

instance : Decidable (FullData ctx intent policy bars sessions) := inferInstanceAs (Decidable (∀ _, _))

/-- The bar that fills the entry: the first one of the window whose low touches the limit. -/
def touchingBar : Option SimulationBar :=
  ((sessions.filter (inEntryWindow intent.entryOrder)).filterMap (barOn bars)).find?
    fun bar => bar.low ≤ intent.entryOrder.limitPrice

/-- The price before slippage at which a stop or the horizon sells, from the bars of the holding; a target sells
at no such price. -/
def salePrice (entrySession : SessionDate) : List SimulationBar → Option ℚ
  | [] => none
  | bar :: rest =>
    if bar.low ≤ intent.stopPrice then
      some (if bar.session = entrySession then intent.stopPrice else min bar.open_ intent.stopPrice)
    else if intent.targetPrice ≤ bar.high ∧ bar.session ≠ entrySession then none
    else if rest = [] then some bar.close
    else salePrice entrySession rest

/-- The bars of the holding that starts on a session. -/
def holdingBars (entrySession : SessionDate) : List SimulationBar :=
  (holdingSessions intent sessions (sessions.idxOf entrySession)).filterMap (barOn bars)

/-- The entry price of a touching bar. -/
def touchedPrice (bar : SimulationBar) : ℚ :=
  min intent.entryOrder.limitPrice
    (adverseBuy ctx (min bar.open_ intent.entryOrder.limitPrice) s intent.entryOrder.tickSize)

/-- The entry is bought on the tick grid above the stop, and a stop or horizon sale gets a positive price. -/
def EvaluableIn : Prop :=
  ∀ bar ∈ touchingBar intent bars sessions,
    (intent.stopPrice < touchedPrice ctx intent s bar ∧ OnTick (touchedPrice ctx intent s bar) intent.entryOrder.tickSize) ∧
      ∀ price ∈ salePrice intent bar.session (holdingBars intent bars sessions bar.session),
        0 < adverseSell ctx price s intent.entryOrder.tickSize

/-- The same in exact arithmetic: with slippage the opening of the entry bar stays above the stop, and the sale
keeps a tick. -/
def Evaluable : Prop :=
  ∀ bar ∈ touchingBar intent bars sessions,
    intent.stopPrice < min bar.open_ intent.entryOrder.limitPrice * (1 + s / 10000) ∧
      ∀ price ∈ salePrice intent bar.session (holdingBars intent bars sessions bar.session),
        intent.entryOrder.tickSize ≤ price * (1 - s / 10000)

end Data

section Bars

variable {ctx : DecimalContext} {intent : EvaluationTradeIntent} {policy : DailyExecutionPolicy}
  {bars : List SimulationBar} {bar : SimulationBar} {sessions : List SessionDate} {s : ℚ}

/-- A usable bar of the window fills the entry exactly when its low touches the limit. -/
theorem simulateLimitEntry_usable (hs : 0 ≤ s) (husable : UsableBar ctx intent policy bar)
    (hwindow : inEntryWindow intent.entryOrder bar.session = true) :
    simulateLimitEntry ctx intent.entryOrder bar s =
      if bar.low ≤ intent.entryOrder.limitPrice then
        (SimulatedFill.create intent.entryOrder.orderId bar.barId bar.session bar.symbol .buy
          intent.entryOrder.quantity (min bar.open_ intent.entryOrder.limitPrice)
          (touchedPrice ctx intent s bar) s none).map some
      else .ok none := by
  obtain ⟨hsymbol, -, -, hvolume, -⟩ := husable
  obtain ⟨hfirst, hexpiry⟩ := (Bool.and_eq_true _ _).mp hwindow
  have hinside : intent.entryOrder.firstEligibleSession ≤ bar.session ∧
      bar.session ≤ intent.entryOrder.expirySession := ⟨of_decide_eq_true hfirst, of_decide_eq_true hexpiry⟩
  unfold simulateLimitEntry
  rw [raiseIf_neg (not_lt.mpr hs), ok_bind, raiseIf_neg (not_not.mpr hsymbol.symm), ok_bind,
    if_neg (not_not.mpr hinside), if_neg (by rw [hvolume]; decide)]
  have hlow : bar.low ≤ bar.open_ := bar.low_le.trans (min_le_left _ _)
  unfold limitTrigger touchedPrice
  by_cases hopen : bar.open_ ≤ intent.entryOrder.limitPrice
  · rw [if_pos hopen, if_pos (hlow.trans hopen), min_eq_left hopen]
    rfl
  · rw [if_neg hopen, min_eq_right (not_le.mp hopen).le]
    by_cases htouch : bar.low ≤ intent.entryOrder.limitPrice
    · rw [if_pos htouch, if_pos htouch]
      rfl
    · rw [if_neg htouch, if_neg htouch]
      rfl

theorem barOn_usable {session : SessionDate} (h : ∃ bar ∈ barOn bars session, UsableBar ctx intent policy bar) :
    ∃ bar, barOn bars session = some bar ∧ bar.session = session ∧ UsableBar ctx intent policy bar := by
  obtain ⟨bar, hbar, husable⟩ := h
  exact ⟨bar, hbar, barOn_session hbar, husable⟩

/-- The entry scan over usable bars is decided by the first bar that touches the limit. -/
theorem entryScan_usable (hs : 0 ≤ s) (hsorted : sessions.Pairwise (· < ·))
    (husable : ∀ session ∈ sessions, inEntryWindow intent.entryOrder session = true →
      ∃ bar ∈ barOn bars session, UsableBar ctx intent policy bar) :
    entryScan ctx intent.entryOrder bars s sessions =
      match touchingBar intent bars sessions with
      | none => .ok none
      | some bar => (SimulatedFill.create intent.entryOrder.orderId bar.barId bar.session bar.symbol .buy
          intent.entryOrder.quantity (min bar.open_ intent.entryOrder.limitPrice)
          (touchedPrice ctx intent s bar) s none).map some := by
  induction sessions with
  | nil => rfl
  | cons session rest ih =>
    have hrest := ih hsorted.of_cons fun later hlater => husable later (List.mem_cons_of_mem _ hlater)
    have hskip : inEntryWindow intent.entryOrder session = false →
        touchingBar intent bars (session :: rest) = touchingBar intent bars rest := by
      intro hout
      unfold touchingBar
      rw [List.filter_cons_of_neg (by rw [hout]; decide)]
    unfold entryScan
    by_cases hearly : session < intent.entryOrder.firstEligibleSession
    · rw [if_pos hearly, hskip, hrest]
      unfold inEntryWindow
      rw [decide_eq_false (not_le.mpr hearly), Bool.false_and]
    rw [if_neg hearly]
    by_cases hlate : intent.entryOrder.expirySession < session
    · have hnone : touchingBar intent bars (session :: rest) = none := by
        unfold touchingBar
        rw [List.filter_eq_nil_iff.mpr]
        · rfl
        · intro later hlater hwindow
          have hle : session ≤ later := by
            rcases List.mem_cons.mp hlater with rfl | hlater
            · exact le_rfl
            · exact (List.rel_of_pairwise_cons hsorted hlater).le
          have hexpiry := of_decide_eq_true ((Bool.and_eq_true _ _).mp hwindow).2
          exact absurd (hlate.trans_le (hle.trans hexpiry)) (lt_irrefl _)
      rw [if_pos hlate, hnone]
    rw [if_neg hlate]
    have hwindow : inEntryWindow intent.entryOrder session = true :=
      (Bool.and_eq_true _ _).mpr ⟨decide_eq_true (not_lt.mp hearly), decide_eq_true (not_lt.mp hlate)⟩
    obtain ⟨bar, hbar, hsession, hgood⟩ := barOn_usable (husable session List.mem_cons_self hwindow)
    have htouching : touchingBar intent bars (session :: rest) =
        if bar.low ≤ intent.entryOrder.limitPrice then some bar else touchingBar intent bars rest := by
      unfold touchingBar
      rw [List.filter_cons_of_pos hwindow, List.filterMap_cons_some hbar, List.find?_cons]
      by_cases htouch : bar.low ≤ intent.entryOrder.limitPrice
      · rw [if_pos htouch, decide_eq_true htouch]
      · rw [if_neg htouch, decide_eq_false htouch]
    simp only [hbar]
    rw [simulateLimitEntry_usable hs hgood (hsession ▸ hwindow), htouching]
    by_cases htouch : bar.low ≤ intent.entryOrder.limitPrice
    · rw [if_pos htouch, if_pos htouch]
      dsimp only
      cases SimulatedFill.create intent.entryOrder.orderId bar.barId bar.session bar.symbol .buy
        intent.entryOrder.quantity (min bar.open_ intent.entryOrder.limitPrice) (touchedPrice ctx intent s bar) s
        none with
      | error e => rfl
      | ok fill => rfl
    · rw [if_neg htouch, if_neg htouch, ok_bind]
      exact hrest

/-- The fields of the order that protects an entry. -/
theorem protectiveExitOrder_fields {entryFill : SimulatedFill} {order : ProtectiveExitOrder}
    (h : protectiveExitOrder intent entryFill policy = .ok order) :
    order.symbol = entryFill.symbol ∧ order.quantity = entryFill.quantity ∧
      order.entrySession = entryFill.session ∧ order.stopPrice = intent.stopPrice ∧
      order.targetPrice = intent.targetPrice ∧ order.tickSize = intent.entryOrder.tickSize ∧
      order.maximumParticipation = policy.maximumParticipation := by
  unfold protectiveExitOrder ProtectiveExitOrder.create at h
  split_ifs at h
  obtain rfl := Except.ok.inj h
  exact ⟨rfl, rfl, rfl, rfl, rfl, rfl, rfl⟩

/-- An entry can be protected exactly when it is on the tick grid above the stop. -/
theorem protectiveExitOrder_ok_iff {entryFill : SimulatedFill} (hquantity : 0 < entryFill.quantity)
    (hlimit : entryFill.fillPrice ≤ intent.entryOrder.limitPrice) :
    (∃ order, protectiveExitOrder intent entryFill policy = .ok order) ↔
      intent.stopPrice < entryFill.fillPrice ∧ OnTick entryFill.fillPrice intent.entryOrder.tickSize := by
  have htarget : entryFill.fillPrice < intent.targetPrice := hlimit.trans_lt intent.lt_target
  constructor
  · rintro ⟨order, h⟩
    unfold protectiveExitOrder ProtectiveExitOrder.create at h
    split_ifs at h with _ _ _ _ _ horder hon
    exact ⟨horder.1, hon.1⟩
  · rintro ⟨hstop, htick⟩
    unfold protectiveExitOrder ProtectiveExitOrder.create
    rw [dif_neg hquantity.ne', if_neg (not_le.mpr entryFill.fill_pos), dif_neg (not_le.mpr intent.stop_pos),
      if_neg (not_le.mpr intent.target_pos), dif_neg (not_le.mpr intent.entryOrder.tick_pos),
      dif_neg (not_not.mpr ⟨hstop, htarget⟩), dif_neg (not_not.mpr ⟨htick, intent.stop_onTick, intent.target_onTick⟩),
      dif_neg (not_not.mpr policy.participation)]
    exact ⟨_, rfl⟩

/-- A fill is made exactly at a positive price. -/
theorem create_map_ok_iff {orderId barId : ContentId} {session : SessionDate} {symbol : String}
    {side : FillSide} {quantity : ℕ} {triggerPrice fillPrice slippageBps : ℚ} {exitReason : Option ExitReason}
    (htrigger : 0 < triggerPrice) (hs : 0 ≤ slippageBps) :
    (∃ result, (SimulatedFill.create orderId barId session symbol side quantity triggerPrice fillPrice slippageBps
      exitReason).map some = .ok result) ↔ 0 < fillPrice := by
  unfold SimulatedFill.create
  rw [dif_neg (not_le.mpr htrigger)]
  by_cases hfill : fillPrice ≤ 0
  · rw [dif_pos hfill]
    exact iff_of_false (fun ⟨_, h⟩ => nomatch h) (not_lt.mpr hfill)
  · rw [dif_neg hfill, dif_neg (not_lt.mpr hs)]
    exact iff_of_true ⟨_, rfl⟩ (not_le.mp hfill)

theorem map_some_ok {x : Except ValueError SimulatedFill} {result : Option SimulatedFill}
    (h : x.map some = .ok result) : ∃ fill, x = .ok fill ∧ result = some fill := by
  cases x with
  | error e => cases h
  | ok fill => exact ⟨fill, rfl, (Except.ok.inj h).symm⟩

theorem map_some_ne_none {x : Except ValueError SimulatedFill} : x.map some ≠ .ok none := by
  intro h
  obtain ⟨fill, -, hnone⟩ := map_some_ok h
  cases hnone

theorem map_some_bind {x : Except ValueError SimulatedFill}
    {k : Option SimulatedFill → Except ValueError (Option SimulatedFill)}
    (hk : ∀ fill, k (some fill) = .ok (some fill)) : (x.map some >>= k) = x.map some := by
  cases x with
  | error e => rfl
  | ok fill => exact hk fill

section Exit

variable {entryFill : SimulatedFill} {order : ProtectiveExitOrder}

/-- The order of an entry of the intent. -/
structure Protects (intent : EvaluationTradeIntent) (policy : DailyExecutionPolicy) (entrySession : SessionDate)
    (order : ProtectiveExitOrder) : Prop where
  symbol : order.symbol = intent.entryOrder.symbol
  quantity : order.quantity = intent.entryOrder.quantity
  entrySession : order.entrySession = entrySession
  stopPrice : order.stopPrice = intent.stopPrice
  targetPrice : order.targetPrice = intent.targetPrice
  tickSize : order.tickSize = intent.entryOrder.tickSize
  maximumParticipation : order.maximumParticipation = policy.maximumParticipation

variable {entrySession : SessionDate}

/-- What a stop or a target of a bar that is not locked triggers. -/
theorem protectiveTrigger_unlocked (hprotects : Protects intent policy entrySession order)
    (hunlocked : bar.lowerCircuitSellLocked = false) :
    protectiveTrigger ctx order bar s =
      if bar.low ≤ intent.stopPrice then
        let price := if bar.session = entrySession then intent.stopPrice else min bar.open_ intent.stopPrice
        some (price, adverseSell ctx price s intent.entryOrder.tickSize, .stop)
      else if intent.targetPrice ≤ bar.high ∧ bar.session ≠ entrySession then
        let price := max bar.open_ intent.targetPrice
        some (price, max intent.targetPrice (adverseSell ctx price s intent.entryOrder.tickSize), .target)
      else none := by
  unfold protectiveTrigger
  rw [hprotects.stopPrice, hprotects.targetPrice, hprotects.entrySession, hprotects.tickSize, hunlocked]
  dsimp only
  by_cases hstop : bar.low ≤ intent.stopPrice
  · rw [if_pos hstop, if_pos hstop, if_neg Bool.false_ne_true]
    by_cases hsame : bar.session = entrySession
    · rw [if_pos hsame, if_pos hsame]
    · rw [if_neg hsame, if_neg hsame]
      by_cases hgap : bar.open_ ≤ intent.stopPrice
      · rw [if_pos hgap, min_eq_left hgap]
      · rw [if_neg hgap, min_eq_right (not_le.mp hgap).le]
  · rw [if_neg hstop, if_neg hstop]
    by_cases htarget : intent.targetPrice ≤ bar.high
    · rw [if_pos htarget]
      by_cases hsame : bar.session = entrySession
      · rw [if_pos hsame, if_neg fun h => h.2 hsame]
      · rw [if_neg hsame, if_pos (show intent.targetPrice ≤ bar.high ∧ bar.session ≠ entrySession from ⟨htarget, hsame⟩)]
        by_cases hgap : intent.targetPrice ≤ bar.open_
        · rw [if_pos hgap, max_eq_left hgap]
        · rw [if_neg hgap, max_eq_right (not_le.mp hgap).le]
    · rw [if_neg htarget, if_neg fun h => htarget h.1]

/-- On a usable bar the protective exit is decided by the bar's low and high. -/
theorem simulateProtectiveExit_usable (hs : 0 ≤ s) (hprotects : Protects intent policy entrySession order)
    (husable : UsableBar ctx intent policy bar) (hlater : entrySession ≤ bar.session) :
    simulateProtectiveExit ctx order bar s =
      match protectiveTrigger ctx order bar s with
      | none => .ok none
      | some (trigger, fillPrice, reason) =>
        (SimulatedFill.create (.ofFields "daily-protective-exit-order/v1" order.idFields) bar.barId bar.session
          bar.symbol .sell order.quantity trigger fillPrice s (some reason)).map some := by
  obtain ⟨hsymbol, -, -, -, hvolume⟩ := husable
  rw [← hprotects.quantity, ← hprotects.maximumParticipation] at hvolume
  unfold simulateProtectiveExit
  rw [raiseIf_neg (not_lt.mpr hs), ok_bind, raiseIf_neg (not_not.mpr (hprotects.symbol.trans hsymbol.symm)), ok_bind,
    if_neg (not_lt.mpr (hprotects.entrySession.le.trans hlater)), if_neg (by rw [hvolume]; decide)]
  rfl

theorem simulateTimeExit_usable (hs : 0 ≤ s) (hprotects : Protects intent policy entrySession order)
    (husable : UsableBar ctx intent policy bar) (hlater : entrySession ≤ bar.session) :
    simulateTimeExit ctx order bar s =
      (SimulatedFill.create (.ofFields "daily-time-exit-order/v1" (order.idFields ++ [.int bar.session])) bar.barId
        bar.session bar.symbol .sell order.quantity bar.close
        (adverseSell ctx bar.close s intent.entryOrder.tickSize) s (some .time)).map some := by
  obtain ⟨hsymbol, -, hunlocked, -, hvolume⟩ := husable
  rw [← hprotects.quantity, ← hprotects.maximumParticipation] at hvolume
  unfold simulateTimeExit
  rw [raiseIf_neg (not_lt.mpr hs), ok_bind, raiseIf_neg (not_not.mpr (hprotects.symbol.trans hsymbol.symm)), ok_bind,
    if_neg (not_lt.mpr (hprotects.entrySession.le.trans hlater)), if_neg (by rw [hunlocked, hvolume]; decide),
    hprotects.tickSize]
  rfl

/-- The exit scan over usable bars raises only for a sale without a positive price, and never comes to nothing. -/
theorem exitScan_usable (hs : 0 ≤ s) (hprotects : Protects intent policy entrySession order) (hne : sessions ≠ [])
    (husable : ∀ session ∈ sessions, entrySession ≤ session ∧
      ∃ bar ∈ barOn bars session, UsableBar ctx intent policy bar) :
    ((∃ result, exitScan ctx order bars s sessions = .ok result) ↔
      ∀ price ∈ salePrice intent entrySession (sessions.filterMap (barOn bars)),
        0 < adverseSell ctx price s intent.entryOrder.tickSize) ∧
      exitScan ctx order bars s sessions ≠ .ok none := by
  induction sessions with
  | nil => exact absurd rfl hne
  | cons session rest ih =>
    obtain ⟨hlater, hbar⟩ := husable session List.mem_cons_self
    obtain ⟨bar, hbar, hsession, hgood⟩ := barOn_usable hbar
    have hrest : rest.filterMap (barOn bars) = [] ↔ rest = [] := by
      constructor
      · intro hnil
        cases rest with
        | nil => rfl
        | cons later rest =>
          obtain ⟨-, bar, hbar, -⟩ := husable later (List.mem_cons_of_mem _ List.mem_cons_self)
          rw [List.filterMap_cons_some (Option.mem_def.mp hbar)] at hnil
          cases hnil
      · rintro rfl
        rfl
    have hsale : salePrice intent entrySession ((session :: rest).filterMap (barOn bars)) =
        if bar.low ≤ intent.stopPrice then
          some (if bar.session = entrySession then intent.stopPrice else min bar.open_ intent.stopPrice)
        else if intent.targetPrice ≤ bar.high ∧ bar.session ≠ entrySession then none
        else if rest = [] then some bar.close
        else salePrice intent entrySession (rest.filterMap (barOn bars)) := by
      rw [List.filterMap_cons_some hbar, salePrice]
      simp only [hrest]
    have hlaterBar : entrySession ≤ bar.session := hsession.symm ▸ hlater
    unfold exitScan
    simp only [hbar]
    rw [simulateProtectiveExit_usable hs hprotects hgood hlaterBar, protectiveTrigger_unlocked hprotects hgood.2.2.1,
      hsale]
    have hprice : 0 < (if bar.session = entrySession then intent.stopPrice else min bar.open_ intent.stopPrice) := by
      split
      next => exact intent.stop_pos
      next => exact lt_min bar.open_pos intent.stop_pos
    by_cases hstop : bar.low ≤ intent.stopPrice
    · rw [if_pos hstop, if_pos hstop]
      dsimp only
      rw [map_some_bind (by intro fill; rfl)]
      refine ⟨(create_map_ok_iff hprice hs).trans ⟨?_, fun h => h _ rfl⟩, map_some_ne_none⟩
      rintro hsold price hmem
      obtain rfl := Option.some.inj hmem
      exact hsold
    rw [if_neg hstop, if_neg hstop]
    by_cases htarget : intent.targetPrice ≤ bar.high ∧ bar.session ≠ entrySession
    · rw [if_pos htarget, if_pos htarget]
      dsimp only
      have hsold : 0 < max intent.targetPrice
          (adverseSell ctx (max bar.open_ intent.targetPrice) s intent.entryOrder.tickSize) :=
        lt_max_of_lt_left intent.target_pos
      rw [map_some_bind (by intro fill; rfl)]
      refine ⟨(create_map_ok_iff (lt_max_of_lt_left bar.open_pos) hs).trans ?_, map_some_ne_none⟩
      exact iff_of_true hsold fun price hmem => nomatch hmem
    rw [if_neg htarget, if_neg htarget]
    dsimp only
    rw [ok_bind]
    by_cases hlast : rest = []
    · rw [if_pos hlast, if_pos hlast, simulateTimeExit_usable hs hprotects hgood hlaterBar]
      refine ⟨(create_map_ok_iff bar.close_pos hs).trans ⟨?_, fun h => h _ rfl⟩, map_some_ne_none⟩
      rintro hsold price hmem
      obtain rfl := Option.some.inj hmem
      exact hsold
    · rw [if_neg hlast, if_neg hlast]
      exact ih hlast fun later hmem => husable later (List.mem_cons_of_mem _ hmem)

end Exit

end Bars

section ExitFills

variable {ctx : DecimalContext} {bars : List SimulationBar} {sessions : List SessionDate} {s : ℚ}
  {order : ProtectiveExitOrder} {fill : SimulatedFill}

/-- A property of every fill that a bar can give the protected position holds of the fill of a scan. -/
theorem exitScan_some {P : SimulatedFill → Prop}
    (hexit : ∀ bar, simulateProtectiveExit ctx order bar s = .ok (some fill) → P fill)
    (htime : ∀ bar, simulateTimeExit ctx order bar s = .ok (some fill) → P fill)
    (h : exitScan ctx order bars s sessions = .ok (some fill)) : P fill := by
  induction sessions with
  | nil => cases h
  | cons session rest ih =>
    unfold exitScan at h
    split at h
    next => cases h
    next bar hbar =>
      obtain ⟨result, hresult, h⟩ := bind_eq_ok.mp h
      cases result with
      | some value =>
        obtain rfl := Option.some.inj (Except.ok.inj h)
        exact hexit bar hresult
      | none =>
        dsimp only at h
        split at h
        next => exact htime bar h
        next => exact ih h

/-- An exit fill sells the position of its order, not before the entry. -/
structure SellsPosition (order : ProtectiveExitOrder) (fill : SimulatedFill) : Prop where
  side : fill.side = .sell
  symbol : fill.symbol = order.symbol
  quantity : fill.quantity = order.quantity
  session : order.entrySession ≤ fill.session

theorem exitScan_sells (h : exitScan ctx order bars s sessions = .ok (some fill)) : SellsPosition order fill := by
  refine exitScan_some (P := SellsPosition order) ?_ ?_ h
  · intro bar hresult
    obtain ⟨hsession, reason, -, hfrom⟩ := simulateProtectiveExit_some hresult
    unfold simulateProtectiveExit at hresult
    obtain ⟨-, hresult⟩ := raiseIf_bind_eq_ok.mp hresult
    obtain ⟨hsymbol, -⟩ := raiseIf_bind_eq_ok.mp hresult
    exact ⟨hfrom.side, hfrom.symbol.trans (not_not.mp hsymbol).symm, hfrom.quantity, hfrom.session.ge.trans' hsession⟩
  · intro bar hresult
    obtain ⟨hsession, hfrom⟩ := simulateTimeExit_some hresult
    unfold simulateTimeExit at hresult
    obtain ⟨-, hresult⟩ := raiseIf_bind_eq_ok.mp hresult
    obtain ⟨hsymbol, -⟩ := raiseIf_bind_eq_ok.mp hresult
    exact ⟨hfrom.side, hfrom.symbol.trans (not_not.mp hsymbol).symm, hfrom.quantity, hfrom.session.ge.trans' hsession⟩

end ExitFills

section Evaluation

variable {ctx : DecimalContext} {intent : EvaluationTradeIntent} {policy : DailyExecutionPolicy}
  {bars : List SimulationBar} {sessions : List SessionDate} {s : ℚ}

/-- With slippage the sale of a price keeps a tick exactly when it is positive. -/
theorem adverseSell_exact_pos {price tickSize : ℚ} (htick : 0 < tickSize) :
    0 < adverseSell .exact price s tickSize ↔ tickSize ≤ price * (1 - s / 10000) := by
  have hdef : adverseSell .exact price s tickSize = ⌊price * (1 - s / 10000) / tickSize⌋ * tickSize := rfl
  rw [hdef, mul_pos_iff_of_pos_right htick, Int.cast_pos, Int.floor_pos, le_div_iff₀ htick, one_mul]

/-- A price on the tick grid is below an adverse buy exactly when it is below the slipped price. -/
theorem lt_adverseBuy_exact {level price tickSize : ℚ} (htick : 0 < tickSize) (hlevel : OnTick level tickSize) :
    level < adverseBuy .exact price s tickSize ↔ level < price * (1 + s / 10000) := by
  obtain ⟨n, rfl⟩ := (DecimalContext.divides_iff htick.ne').mp hlevel
  have hdef : adverseBuy .exact price s tickSize = ⌈price * (1 + s / 10000) / tickSize⌉ * tickSize := rfl
  rw [hdef, mul_lt_mul_iff_of_pos_right htick, Int.cast_lt, Int.lt_ceil, lt_div_iff₀ htick]

/-- In exact arithmetic the condition is one on the opening and the sold price. -/
theorem evaluableIn_exact : EvaluableIn .exact intent bars sessions s ↔ Evaluable intent bars sessions s := by
  have htick := intent.entryOrder.tick_pos
  unfold EvaluableIn Evaluable
  refine forall_congr' fun bar => imp_congr_right fun _ => and_congr ?_ ?_
  · have honTick : OnTick (touchedPrice .exact intent s bar) intent.entryOrder.tickSize := by
      unfold touchedPrice
      rcases min_choice intent.entryOrder.limitPrice (adverseBuy .exact
        (min bar.open_ intent.entryOrder.limitPrice) s intent.entryOrder.tickSize) with hmin | hmin
      · rw [hmin]
        exact intent.entryOrder.limit_onTick
      · rw [hmin]
        exact adverseBuy_onTick htick
    rw [and_iff_left honTick, touchedPrice, lt_min_iff, and_iff_right intent.stop_lt]
    exact lt_adverseBuy_exact htick intent.stop_onTick
  · exact forall_congr' fun price => imp_congr_right fun _ => adverseSell_exact_pos htick

theorem touchingBar_some {bar : SimulationBar} (h : touchingBar intent bars sessions = some bar) :
    barOn bars bar.session = some bar ∧ bar.session ∈ sessions ∧
      inEntryWindow intent.entryOrder bar.session = true := by
  obtain ⟨session, hsession, hbar⟩ := List.mem_filterMap.mp (List.mem_of_find?_eq_some h)
  obtain ⟨hmem, hwindow⟩ := List.mem_filter.mp hsession
  obtain rfl := barOn_session hbar
  exact ⟨hbar, hmem, hwindow⟩

/-- A filled entry over full data makes a trade exactly when it can be protected and sold. -/
theorem evaluateHolding_usable (hs : 0 ≤ s) (hsorted : sessions.Pairwise (· < ·))
    (hdata : FullData ctx intent policy bars sessions) {bar : SimulationBar} {entryFill : SimulatedFill}
    (hmem : bar.session ∈ sessions) (hwindow : inEntryWindow intent.entryOrder bar.session = true)
    (hsymbol : bar.symbol = intent.entryOrder.symbol)
    (hfrom : FillsFrom entryFill intent.entryOrder.orderId bar .buy intent.entryOrder.quantity s none)
    (hlimit : entryFill.fillPrice ≤ intent.entryOrder.limitPrice) :
    (∃ trade, evaluateHolding ctx intent bars sessions policy s entryFill = .ok trade) ↔
      (intent.stopPrice < entryFill.fillPrice ∧ OnTick entryFill.fillPrice intent.entryOrder.tickSize) ∧
        ∀ price ∈ salePrice intent bar.session (holdingBars intent bars sessions bar.session),
          0 < adverseSell ctx price s intent.entryOrder.tickSize := by
  have hindex := List.idxOf_lt_length_of_mem hmem
  have hat : sessions[sessions.idxOf bar.session]? = some bar.session := by
    rw [List.getElem?_eq_getElem hindex, List.getElem_idxOf hindex]
  obtain ⟨hlength, husable⟩ := hdata _ hindex ⟨bar.session, hat, hwindow⟩
  have hholding := intent.holding_pos
  have hheld : (sessions.drop (sessions.idxOf bar.session)).take
      (sessions.idxOf bar.session + intent.maxHoldingSessions - 1 + 1 - sessions.idxOf bar.session) =
      holdingSessions intent sessions (sessions.idxOf bar.session) := by
    unfold holdingSessions
    congr 1
    omega
  have hne : holdingSessions intent sessions (sessions.idxOf bar.session) ≠ [] := by
    intro hnil
    have hlen := congrArg List.length hnil
    rw [holdingSessions, List.length_take, List.length_drop, List.length_nil] at hlen
    omega
  have hlater : ∀ session ∈ holdingSessions intent sessions (sessions.idxOf bar.session), bar.session ≤ session ∧
      ∃ bar ∈ barOn bars session, UsableBar ctx intent policy bar := fun session hsession =>
    ⟨sorted_idxOf_le hsorted (List.mem_of_mem_take hsession) hmem, husable session hsession⟩
  have hquantity : 0 < entryFill.quantity := hfrom.quantity ▸ intent.entryOrder.quantity_pos
  unfold evaluateHolding
  dsimp only
  rw [hfrom.session, raiseIf_neg (by omega), ok_bind, hheld, ← protectiveExitOrder_ok_iff hquantity hlimit]
  by_cases hprotected : ∃ order, protectiveExitOrder intent entryFill policy = .ok order
  · obtain ⟨order, horder⟩ := hprotected
    obtain ⟨ho, hq, hentry, hstop, htarget, htick, hcap⟩ := protectiveExitOrder_fields horder
    have hprotects : Protects intent policy bar.session order :=
      ⟨ho.trans (hfrom.symbol.trans hsymbol), hq.trans hfrom.quantity, hentry.trans hfrom.session, hstop, htarget,
        htick, hcap⟩
    obtain ⟨hiff, hsome⟩ := exitScan_usable hs hprotects hne hlater
    rw [and_iff_right ⟨order, horder⟩, horder, ok_bind]
    refine Iff.trans ⟨?_, ?_⟩ hiff
    · rintro ⟨trade, htrade⟩
      obtain ⟨result, hresult, -⟩ := bind_eq_ok.mp htrade
      exact ⟨result, hresult⟩
    · rintro ⟨result, hresult⟩
      cases result with
      | none => exact absurd hresult hsome
      | some exitFill =>
        have hsells := exitScan_sells hresult
        have hfills : entryFill.symbol = exitFill.symbol ∧ entryFill.quantity = exitFill.quantity ∧
            entryFill.session ≤ exitFill.session :=
          ⟨(hsells.symbol.trans ho).symm, (hsells.quantity.trans hq).symm, hentry.ge.trans hsells.session⟩
        rw [hresult, ok_bind]
        dsimp only
        unfold EvaluatedTrade.create
        rw [dif_neg (not_not.mpr ⟨hfrom.side, hsells.side⟩), dif_neg (not_not.mpr hfills)]
        exact ⟨_, rfl⟩
  · refine iff_of_false ?_ fun h => hprotected h.1
    rintro ⟨trade, htrade⟩
    obtain ⟨order, horder, -⟩ := bind_eq_ok.mp htrade
    exact hprotected ⟨order, horder⟩

/-- Over full data an evaluation returns exactly when the bar that fills the entry opens, with slippage, above the
stop, and the price of a stop or horizon sale keeps a tick after slippage. -/
theorem evaluateIntent_returns_iff (ctx : DecimalContext) (intent : EvaluationTradeIntent)
    (policy : DailyExecutionPolicy) (bars : List SimulationBar) (sessions : List SessionDate) (s : ℚ)
    (hsorted : sessions.Pairwise (· < ·)) (hdata : FullData ctx intent policy bars sessions) (hs : 0 ≤ s) :
    ((∃ result, evaluateIntent ctx intent bars sessions policy s = .ok result) ↔
      EvaluableIn ctx intent bars sessions s) ∧
      (ctx = .exact → (EvaluableIn ctx intent bars sessions s ↔ Evaluable intent bars sessions s)) := by
  refine ⟨?_, fun hexact => hexact ▸ evaluableIn_exact⟩
  have hwindowed : ∀ session ∈ sessions, inEntryWindow intent.entryOrder session = true →
      ∃ bar ∈ barOn bars session, UsableBar ctx intent policy bar := by
    intro session hmem hwindow
    have hindex := List.idxOf_lt_length_of_mem hmem
    have hat : sessions[sessions.idxOf session]? = some session := by
      rw [List.getElem?_eq_getElem hindex, List.getElem_idxOf hindex]
    refine (hdata _ hindex ⟨session, hat, hwindow⟩).2 session ?_
    obtain ⟨k, hk⟩ := Nat.exists_eq_succ_of_ne_zero intent.holding_pos.ne'
    rw [holdingSessions, List.drop_eq_getElem_cons hindex, hk, List.take_succ_cons, List.getElem_idxOf hindex]
    exact List.mem_cons_self
  have hscan := entryScan_usable hs hsorted hwindowed
  unfold evaluateIntent EvaluableIn
  rw [hscan]
  cases htouching : touchingBar intent bars sessions with
  | none => exact iff_of_true ⟨none, rfl⟩ fun bar hbar => nomatch hbar
  | some bar =>
    obtain ⟨hbar, hmem, hwindow⟩ := touchingBar_some htouching
    obtain ⟨bar', hbar', husable⟩ := hwindowed _ hmem hwindow
    obtain rfl := Option.some.inj (hbar.symm.trans hbar')
    have htrigger : 0 < min bar.open_ intent.entryOrder.limitPrice := lt_min bar.open_pos intent.entryOrder.limit_pos
    have honly : ∀ {P : SimulationBar → Prop}, (∀ bar' ∈ some bar, P bar') ↔ P bar :=
      ⟨fun h => h bar rfl, fun h bar' hmem => Option.some.inj hmem ▸ h⟩
    rw [honly]
    dsimp only
    cases hcreate : SimulatedFill.create intent.entryOrder.orderId bar.barId bar.session bar.symbol .buy
        intent.entryOrder.quantity (min bar.open_ intent.entryOrder.limitPrice) (touchedPrice ctx intent s bar) s
        none with
    | error e =>
      have hprice : ¬0 < touchedPrice ctx intent s bar := by
        intro hpos
        obtain ⟨result, hresult⟩ := (create_map_ok_iff htrigger hs).mpr hpos
        rw [hcreate] at hresult
        cases hresult
      refine iff_of_false ?_ fun h => hprice (intent.stop_pos.trans h.1.1)
      rintro ⟨result, hresult⟩
      cases hresult
    | ok entryFill =>
      obtain ⟨hfrom, -, hprice⟩ := simulatedFill_create_ok hcreate
      have hlimit : entryFill.fillPrice ≤ intent.entryOrder.limitPrice := hprice.le.trans (min_le_left _ _)
      rw [← hprice, ← evaluateHolding_usable hs hsorted hdata hmem hwindow husable.1 hfrom hlimit]
      constructor
      · rintro ⟨result, hresult⟩
        obtain ⟨found, hfound, hresult⟩ := bind_eq_ok.mp hresult
        obtain rfl := Except.ok.inj hfound
        obtain ⟨trade, htrade, -⟩ := bind_eq_ok.mp hresult
        exact ⟨trade, htrade⟩
      · rintro ⟨trade, htrade⟩
        exact ⟨some trade, bind_eq_ok.mpr ⟨some entryFill, rfl, bind_eq_ok.mpr ⟨trade, htrade, rfl⟩⟩⟩

theorem gappedHigh_pos : (0 : ℚ) < 95 := by decide +kernel

theorem gappedVolume_pos : true = true → 0 < 5000 := by decide

theorem gappedUnlocked : false = true → true = true := by decide

/-- A session that opens at 89, below the stop of 90. -/
def gappedBar (session : SessionDate) : SimulationBar :=
  ⟨session, "INFY", 89, 95, 88, 91, 5000, true, false, by decide +kernel, gappedHigh_pos, by decide +kernel,
    by decide +kernel, by decide +kernel, by decide +kernel, gappedVolume_pos, gappedUnlocked⟩

theorem evaluateIntent_returns_iff_plain :
    (∃ result, evaluateIntent .exact plainIntent [plainBar 2, plainBar 3, plainBar 4] [1, 2, 3, 4] plainPolicy 10 =
        .ok result) ↔ EvaluableIn .exact plainIntent [plainBar 2, plainBar 3, plainBar 4] [1, 2, 3, 4] 10 :=
  (evaluateIntent_returns_iff .exact plainIntent plainPolicy [plainBar 2, plainBar 3, plainBar 4] [1, 2, 3, 4] 10
    (by decide) (by decide +kernel) (by decide)).1

/-- An entry bar that opens below the stop aborts the evaluation. -/
theorem gappedEntry_raises :
    FullData .exact plainIntent plainPolicy [gappedBar 2, plainBar 3, plainBar 4] [1, 2, 3, 4] ∧
      evaluateIntent .exact plainIntent [gappedBar 2, plainBar 3, plainBar 4] [1, 2, 3, 4] plainPolicy 10 =
        .error ⟨"protective prices must satisfy stop < entry < target"⟩ :=
  ⟨by decide +kernel, by decide +kernel⟩

end Evaluation

end IndiaSwing
