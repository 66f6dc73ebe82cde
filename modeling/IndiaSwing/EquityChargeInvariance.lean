import IndiaSwing.EquityCharges
import IndiaSwing.Lib.KeySort

namespace IndiaSwing.Costs

open ExceptGuards KeyedTotals SortedTuples

section Economics

variable {schedule : NseDeliveryCostScheduleFields} {tradeDate : SessionDate}
  {day other rest : List DeliveryFillFields} {fill first second : DeliveryFillFields}

/-- The key of an order's total. -/
def orderKey (f : DeliveryFillFields) : ((String × String) × FillSide) × String := ((f.scrip, f.side), f.orderId)

/-- Two days with the same traded economics: the sides and quantities of each scrip, and the turnovers of each
security, order and side, of all scrips and of any kind of them. -/
structure SameEconomics (day other : List DeliveryFillFields) : Prop where
  sides : ∀ scrip side, (∃ f ∈ day, f.scrip = scrip ∧ f.side = side) ↔ ∃ f ∈ other, f.scrip = scrip ∧ f.side = side
  quantities : ∀ scrip side, quantityByScripSide day scrip side = quantityByScripSide other scrip side
  securities : (securityTurnover day).Perm (securityTurnover other)
  orders : ∀ kind : String × String → Bool, (totals orderKey (·.turnover) (day.filter fun f => kind f.scrip)).Perm
    (totals orderKey (·.turnover) (other.filter fun f => kind f.scrip))
  turnovers : ∀ (kind : String × String → Bool) (side : FillSide),
    sideTurnover (day.filter fun f => kind f.scrip) side = sideTurnover (other.filter fun f => kind f.scrip) side

theorem SameEconomics.refl (day : List DeliveryFillFields) : SameEconomics day day :=
  ⟨fun _ _ => Iff.rfl, fun _ _ => rfl, .refl _, fun _ => .refl _, fun _ _ => rfl⟩

theorem SameEconomics.trans {third : List DeliveryFillFields} (h : SameEconomics day other)
    (h' : SameEconomics other third) : SameEconomics day third :=
  ⟨fun scrip side => (h.sides scrip side).trans (h'.sides scrip side),
    fun scrip side => (h.quantities scrip side).trans (h'.quantities scrip side),
    h.securities.trans h'.securities, fun kind => (h.orders kind).trans (h'.orders kind),
    fun kind side => (h.turnovers kind side).trans (h'.turnovers kind side)⟩

/-- The order of the fills is no part of the economics. -/
theorem sameEconomics_of_perm (h : day.Perm other) : SameEconomics day other := by
  refine ⟨fun scrip side => ?_, fun scrip side => totalOf_perm h _, totals_perm h, fun kind => ?_, fun kind side => ?_⟩
  · exact exists_congr fun f => and_congr_left fun _ => h.mem_iff
  · exact totals_perm (h.filter _)
  · exact (((h.filter _).filter _).map _).sum_eq

/-- A fill split between two of its date, scrip, side, price and order. -/
structure SplitFill (fill first second : DeliveryFillFields) : Prop where
  tradeDates : first.tradeDate = fill.tradeDate ∧ second.tradeDate = fill.tradeDate
  symbols : first.symbol = fill.symbol ∧ second.symbol = fill.symbol
  isins : first.isin = fill.isin ∧ second.isin = fill.isin
  sides : first.side = fill.side ∧ second.side = fill.side
  prices : first.price = fill.price ∧ second.price = fill.price
  orderIds : first.orderId = fill.orderId ∧ second.orderId = fill.orderId
  quantity : fill.quantity = first.quantity + second.quantity

theorem SplitFill.scrips (h : SplitFill fill first second) : first.scrip = fill.scrip ∧ second.scrip = fill.scrip := by
  unfold DeliveryFillFields.scrip
  rw [h.symbols.1, h.symbols.2, h.isins.1, h.isins.2]
  exact ⟨rfl, rfl⟩

theorem SplitFill.turnover (h : SplitFill fill first second) : fill.turnover = first.turnover + second.turnover := by
  unfold DeliveryFillFields.turnover
  rw [h.prices.1, h.prices.2, h.quantity, Nat.cast_add, mul_add]

theorem SplitFill.bySecurity (h : SplitFill fill first second) :
    Splits (fun f : DeliveryFillFields => (f.scrip, f.side)) (·.turnover) fill first second :=
  ⟨by rw [h.scrips.1, h.sides.1], by rw [h.scrips.2, h.sides.2], h.turnover⟩

theorem SplitFill.byQuantity (h : SplitFill fill first second) :
    Splits (fun f : DeliveryFillFields => (f.scrip, f.side)) (·.quantity) fill first second :=
  ⟨by rw [h.scrips.1, h.sides.1], by rw [h.scrips.2, h.sides.2], h.quantity⟩

theorem SplitFill.byOrder (h : SplitFill fill first second) : Splits orderKey (·.turnover) fill first second := by
  refine ⟨?_, ?_, h.turnover⟩
  · unfold orderKey
    rw [h.scrips.1, h.sides.1, h.orderIds.1]
  · unfold orderKey
    rw [h.scrips.2, h.sides.2, h.orderIds.2]

/-- Filtering by scrip keeps both parts of a split fill or neither. -/
theorem SplitFill.filter (h : SplitFill fill first second) (kind : String × String → Bool) :
    (kind fill.scrip = true ∧ (fill :: rest).filter (fun f => kind f.scrip) =
        fill :: rest.filter (fun f => kind f.scrip) ∧
      (first :: second :: rest).filter (fun f => kind f.scrip) =
        first :: second :: rest.filter (fun f => kind f.scrip)) ∨
      (fill :: rest).filter (fun f => kind f.scrip) = (first :: second :: rest).filter fun f => kind f.scrip := by
  obtain ⟨hfirst, hsecond⟩ := h.scrips
  by_cases hkind : kind fill.scrip = true
  · exact .inl ⟨hkind, by simp [hkind], by simp [hfirst, hsecond, hkind]⟩
  · exact .inr (by simp [hfirst, hsecond, hkind])

theorem sideTurnover_cons (f : DeliveryFillFields) (day : List DeliveryFillFields) (side : FillSide) :
    sideTurnover (f :: day) side = (if f.side = side then f.turnover else 0) + sideTurnover day side := by
  unfold sideTurnover
  by_cases hside : f.side = side
  · simp [hside]
  · simp [hside]

theorem SplitFill.sideTurnover (h : SplitFill fill first second) (rest : List DeliveryFillFields) (side : FillSide) :
    sideTurnover (fill :: rest) side = sideTurnover (first :: second :: rest) side := by
  rw [sideTurnover_cons, sideTurnover_cons, sideTurnover_cons, h.sides.1, h.sides.2, h.turnover, ← add_assoc]
  by_cases hside : fill.side = side
  · rw [if_pos hside, if_pos hside, if_pos hside]
  · rw [if_neg hside, if_neg hside, if_neg hside, add_zero]

/-- Splitting a fill is no part of the economics. -/
theorem sameEconomics_of_split (h : SplitFill fill first second) (rest : List DeliveryFillFields) :
    SameEconomics (fill :: rest) (first :: second :: rest) := by
  refine ⟨fun scrip side => ?_, fun scrip side => h.byQuantity.totalOf_eq _, h.bySecurity.totals_perm,
    fun kind => ?_, fun kind side => ?_⟩
  · simp only [List.mem_cons, exists_eq_or_imp, h.scrips.1, h.scrips.2, h.sides.1, h.sides.2]
    tauto
  · rcases h.filter kind with ⟨-, hone, htwo⟩ | hsame
    · rw [hone, htwo]
      exact h.byOrder.totals_perm
    · rw [hsame]
  · rcases h.filter kind with ⟨-, hone, htwo⟩ | hsame
    · rw [hone, htwo]
      exact h.sideTurnover _ side
    · rw [hsame]

theorem SameEconomics.mem_intraday (h : SameEconomics day other) (scrip : String × String) :
    scrip ∈ intradayScrips day ↔ scrip ∈ intradayScrips other := by
  rw [mem_intradayScrips, mem_intradayScrips, h.sides, h.sides]

/-- The intraday fills of a day are those of a kind of scrips. -/
theorem SameEconomics.intradayFills_eq (h : SameEconomics day other) :
    intradayFills other = other.filter fun f => decide (f.scrip ∈ intradayScrips day) :=
  List.filter_congr fun f _ => decide_eq_decide.mpr (h.mem_intraday f.scrip).symm

theorem SameEconomics.orderTurnover_perm (h : SameEconomics day other) :
    (orderTurnover day).Perm (orderTurnover other) := by
  unfold orderTurnover
  rw [h.intradayFills_eq]
  exact h.orders fun scrip => decide (scrip ∈ intradayScrips day)

theorem SameEconomics.sideTurnover_eq (h : SameEconomics day other) (side : FillSide) :
    sideTurnover day side = sideTurnover other side := by
  have hall := h.turnovers (fun _ => true) side
  rwa [List.filter_true, List.filter_true] at hall

theorem SameEconomics.intradayTurnover_eq (h : SameEconomics day other) (side : FillSide) :
    sideTurnover (intradayFills day) side = sideTurnover (intradayFills other) side := by
  rw [h.intradayFills_eq]
  exact h.turnovers (fun scrip => decide (scrip ∈ intradayScrips day)) side

theorem mem_soldScrips {scrip : String × String} : scrip ∈ soldScrips day ↔ ∃ f ∈ day, f.scrip = scrip ∧ f.side = .sell := by
  unfold soldScrips
  rw [List.mem_dedup, List.mem_map]
  constructor
  · rintro ⟨f, hf, hscrip⟩
    obtain ⟨hf, hside⟩ := List.mem_filter.mp hf
    exact ⟨f, hf, hscrip, of_decide_eq_true hside⟩
  · rintro ⟨f, hf, hscrip, hside⟩
    exact ⟨f, List.mem_filter.mpr ⟨hf, decide_eq_true hside⟩, hscrip⟩

theorem SameEconomics.deliverySells_eq (h : SameEconomics day other) :
    ((soldScrips day).filter (· ∉ intradayScrips day)).length =
      ((soldScrips other).filter (· ∉ intradayScrips other)).length := by
  have hperm : (soldScrips day).Perm (soldScrips other) := by
    refine (List.perm_ext_iff_of_nodup (List.nodup_dedup _) (List.nodup_dedup _)).mpr fun scrip => ?_
    show scrip ∈ soldScrips day ↔ scrip ∈ soldScrips other
    rw [mem_soldScrips, mem_soldScrips, h.sides]
  have hkind : (soldScrips other).filter (· ∉ intradayScrips other) =
      (soldScrips other).filter (· ∉ intradayScrips day) :=
    List.filter_congr fun scrip _ => decide_eq_decide.mpr (not_congr (h.mem_intraday scrip).symm)
  rw [hkind]
  exact (hperm.filter _).length_eq

theorem SameEconomics.stt_eq (h : SameEconomics day other) :
    stt day (nettedRate schedule day) = stt other (nettedRate schedule other) := by
  have hrate : nettedRate schedule day = nettedRate schedule other := by
    funext scrip side
    unfold nettedRate
    by_cases hscrip : scrip ∈ intradayScrips day
    · rw [if_pos hscrip, if_pos ((h.mem_intraday scrip).mp hscrip)]
    · rw [if_neg hscrip, if_neg fun hother => hscrip ((h.mem_intraday scrip).mpr hother)]
  unfold stt
  rw [hrate]
  exact congrArg rupee (h.securities.map _).sum_eq

/-- Days with the same economics have the same leg. -/
theorem SameEconomics.leg_eq (h : SameEconomics day other) :
    equityCashLeg schedule tradeDate day = equityCashLeg schedule tradeDate other := by
  have hbad : (∃ scrip ∈ intradayScrips day,
        quantityByScripSide day scrip .buy ≠ quantityByScripSide day scrip .sell) ↔
      ∃ scrip ∈ intradayScrips other,
        quantityByScripSide other scrip .buy ≠ quantityByScripSide other scrip .sell := by
    refine exists_congr fun scrip => and_congr (h.mem_intraday scrip) ?_
    rw [h.quantities, h.quantities]
  have hbrokerage : intradayBrokerage schedule day = intradayBrokerage schedule other :=
    (h.orderTurnover_perm.map _).sum_eq
  have horders : ((orderTurnover day).map (·.2)).sum = ((orderTurnover other).map (·.2)).sum :=
    (h.orderTurnover_perm.map _).sum_eq
  unfold equityCashLeg legCharges
  dsimp only
  rw [hbrokerage, horders, h.stt_eq, h.deliverySells_eq, h.intradayTurnover_eq, h.sideTurnover_eq .buy,
    h.sideTurnover_eq .sell]
  by_cases hraise : ∃ scrip ∈ intradayScrips day,
      quantityByScripSide day scrip .buy ≠ quantityByScripSide day scrip .sell
  · rw [raiseIf_pos hraise, raiseIf_pos (hbad.mp hraise)]
  · rw [raiseIf_neg hraise, raiseIf_neg fun hother => hraise (hbad.mpr hother)]

end Economics

section Tuples

variable {fills others rest : List DeliveryFill} {schedule : NseDeliveryCostSchedule} {fill first second : DeliveryFill}
  {breakdown : DeliveryChargeBreakdown}

theorem tradeDates_congr (h : ∀ d, (∃ fill ∈ fills, fill.1.tradeDate = d) ↔ ∃ fill ∈ others, fill.1.tradeDate = d) :
    tradeDates fills = tradeDates others := by
  have hperm : (tradeDates fills).Perm (tradeDates others) := by
    refine (List.perm_ext_iff_of_nodup ((tradeDates_increasing fills).imp ne_of_lt)
      ((tradeDates_increasing others).imp ne_of_lt)).mpr fun d => ?_
    rw [mem_tradeDates, mem_tradeDates, h]
  exact hperm.eq_of_pairwise (fun a b _ _ hab hba => absurd hba (lt_asymm hab)) (tradeDates_increasing fills)
    (tradeDates_increasing others)

theorem checkFills_eq_ok : checkFills fills schedule = .ok () ↔ fills ≠ [] ∧ (fills.map (·.1.fillId)).Nodup ∧
    ∀ fill ∈ fills, schedule.1.appliesOn fill.1.tradeDate := by
  unfold checkFills
  rw [raiseIf_bind_eq_ok, raiseIf_bind_eq_ok, not_not, forM_eq_ok]
  refine and_congr_right fun _ => and_congr_right fun _ => forall_congr' fun fill => imp_congr_right fun _ => ?_
  rw [raiseIf_eq_ok, not_not]

/-- A fill tuple with the same dates and, date by date, the same economics is priced alike. -/
theorem charges_congr (hdates : ∀ d, (∃ fill ∈ fills, fill.1.tradeDate = d) ↔ ∃ fill ∈ others, fill.1.tradeDate = d)
    (hsame : ∀ d, SameEconomics (byDate fills d) (byDate others d)) (hids : (others.map (·.1.fillId)).Nodup)
    (h : calculateEquityCashCharges fills schedule = .ok breakdown) :
    calculateEquityCashCharges others schedule = .ok breakdown := by
  obtain ⟨hcheck, hid, hlegs⟩ := calculateEquityCashCharges_ok_iff.mp h
  obtain ⟨hne, -, happlies⟩ := checkFills_eq_ok.mp hcheck
  obtain ⟨fill, hfill⟩ := List.exists_mem_of_ne_nil _ hne
  obtain ⟨other, hother, -⟩ := (hdates _).mp ⟨fill, hfill, rfl⟩
  refine calculateEquityCashCharges_ok_iff.mpr ⟨checkFills_eq_ok.mpr ⟨List.ne_nil_of_mem hother, hids, ?_⟩, hid, ?_⟩
  · intro f hf
    obtain ⟨g, hg, hdate⟩ := (hdates _).mpr ⟨f, hf, rfl⟩
    exact hdate ▸ happlies g hg
  · have hleg : (fun d => equityCashLeg schedule.1 d (byDate others d)) =
        fun d => equityCashLeg schedule.1 d (byDate fills d) := funext fun d => ((hsame d).leg_eq).symm
    rw [← tradeDates_congr hdates, hleg]
    exact hlegs

theorem charges_perm (hperm : fills.Perm others) (h : calculateEquityCashCharges fills schedule = .ok breakdown) :
    calculateEquityCashCharges others schedule = .ok breakdown := by
  obtain ⟨hcheck, -, -⟩ := calculateEquityCashCharges_ok_iff.mp h
  refine charges_congr (fun d => exists_congr fun fill => and_congr_left fun _ => hperm.mem_iff) (fun d => ?_)
    ((hperm.map _).nodup_iff.mp (checkFills_eq_ok.mp hcheck).2.1) h
  exact sameEconomics_of_perm ((hperm.map _).filter _)

theorem charges_split (hsplit : SplitFill fill.1 first.1 second.1)
    (hids : ((first :: second :: rest).map (·.1.fillId)).Nodup)
    (h : calculateEquityCashCharges (fill :: rest) schedule = .ok breakdown) :
    calculateEquityCashCharges (first :: second :: rest) schedule = .ok breakdown := by
  refine charges_congr (fun d => ?_) (fun d => ?_) hids h
  · simp only [List.mem_cons, exists_eq_or_imp, hsplit.tradeDates.1, hsplit.tradeDates.2]
    tauto
  · unfold byDate
    by_cases hdate : fill.1.tradeDate = d
    · have hfirst := hsplit.tradeDates.1.trans hdate
      have hsecond := hsplit.tradeDates.2.trans hdate
      have hone : ((fill :: rest).map (·.1)).filter (·.tradeDate = d) =
          fill.1 :: (rest.map (·.1)).filter (·.tradeDate = d) := by simp [hdate]
      have htwo : ((first :: second :: rest).map (·.1)).filter (·.tradeDate = d) =
          first.1 :: second.1 :: (rest.map (·.1)).filter (·.tradeDate = d) := by simp [hfirst, hsecond]
      rw [hone, htwo]
      exact sameEconomics_of_split hsplit _
    · have hfirst : ¬first.1.tradeDate = d := hsplit.tradeDates.1.symm ▸ hdate
      have hsecond : ¬second.1.tradeDate = d := hsplit.tradeDates.2.symm ▸ hdate
      have hsame : ((first :: second :: rest).map (·.1)).filter (·.tradeDate = d) =
          ((fill :: rest).map (·.1)).filter (·.tradeDate = d) := by simp [hdate, hfirst, hsecond]
      rw [hsame]
      exact .refl _

end Tuples

section Bounds

variable {schedule : NseDeliveryCostScheduleFields} {tradeDate : SessionDate} {day : List DeliveryFillFields}
  {leg : DeliveryLegCharges}

/-- No component of a leg is negative. -/
structure NonnegLeg (leg : DeliveryLegCharges) : Prop where
  turnover : 0 ≤ leg.turnover
  brokerage : 0 ≤ leg.brokerage
  stt : 0 ≤ leg.stt
  exchangeAndIpft : 0 ≤ leg.exchangeAndIpft
  sebi : 0 ≤ leg.sebi
  stamp : 0 ≤ leg.stamp
  gst : 0 ≤ leg.gst
  dpBase : 0 ≤ leg.dpBase
  dpGst : 0 ≤ leg.dpGst

theorem sum_turnover_le {part : List DeliveryFillFields} (hpos : ∀ f ∈ day, 0 ≤ f.turnover) (h : part.Sublist day) :
    (part.map (·.turnover)).sum ≤ (day.map (·.turnover)).sum := by
  refine (h.map _).sum_le_sum fun x hx => ?_
  obtain ⟨f, hf, rfl⟩ := List.mem_map.mp hx
  exact hpos f hf

theorem sum_turnover_nonneg (hpos : ∀ f ∈ day, 0 ≤ f.turnover) : 0 ≤ (day.map (·.turnover)).sum := by
  refine List.sum_nonneg fun x hx => ?_
  obtain ⟨f, hf, rfl⟩ := List.mem_map.mp hx
  exact hpos f hf

theorem sideTurnover_nonneg (hpos : ∀ f ∈ day, 0 ≤ f.turnover) (side : FillSide) : 0 ≤ sideTurnover day side :=
  sum_turnover_nonneg fun f hf => hpos f (List.mem_of_mem_filter hf)

theorem sides_add (day : List DeliveryFillFields) :
    sideTurnover day .buy + sideTurnover day .sell = (day.map (·.turnover)).sum := by
  induction day with
  | nil => simp [sideTurnover]
  | cons f day ih =>
    rw [sideTurnover_cons, sideTurnover_cons, List.map_cons, List.sum_cons, ← ih]
    cases f.side with
    | buy =>
      rw [if_pos rfl, if_neg (by decide)]
      ring
    | sell =>
      rw [if_neg (by decide), if_pos rfl]
      ring

theorem totals_nonneg {κ : Type} [DecidableEq κ] {key : DeliveryFillFields → κ} (hpos : ∀ f ∈ day, 0 ≤ f.turnover) :
    ∀ entry ∈ totals key (·.turnover) day, 0 ≤ entry.2 := by
  intro entry hentry
  obtain ⟨k, -, rfl⟩ := List.mem_map.mp hentry
  exact sum_turnover_nonneg fun f hf => hpos f (List.mem_of_mem_filter hf)

theorem intradayFills_pos (hpos : ∀ f ∈ day, 0 ≤ f.turnover) : ∀ f ∈ intradayFills day, 0 ≤ f.turnover :=
  fun f hf => hpos f (List.mem_of_mem_filter hf)

theorem intradayBrokerage_nonneg (facts : RateFacts schedule) (hpos : ∀ f ∈ day, 0 ≤ f.turnover) :
    0 ≤ intradayBrokerage schedule day := by
  refine List.sum_nonneg fun x hx => ?_
  obtain ⟨entry, hentry, rfl⟩ := List.mem_map.mp hx
  have hvalue : 0 ≤ entry.2 := totals_nonneg (intradayFills_pos hpos) entry hentry
  exact le_min facts.intradayCap (paise_nonneg (bps_nonneg hvalue facts.intradayBrokerage))

/-- The intraday brokerage is capped for every order. -/
theorem intradayBrokerage_le : intradayBrokerage schedule day ≤
    schedule.intradayBrokerageCapPerOrder * (orderTurnover day).length := by
  have hcap := List.sum_le_card_nsmul ((orderTurnover day).map fun entry =>
    min schedule.intradayBrokerageCapPerOrder (paise (bps entry.2 schedule.intradayBrokerageBps)))
    schedule.intradayBrokerageCapPerOrder fun x hx => by
      obtain ⟨entry, -, rfl⟩ := List.mem_map.mp hx
      exact min_le_left _ _
  rw [List.length_map, nsmul_eq_mul, mul_comm] at hcap
  exact hcap

theorem stt_nonneg {rate : String × String → FillSide → ℚ} (hrate : ∀ scrip side, 0 ≤ rate scrip side)
    (hpos : ∀ f ∈ day, 0 ≤ f.turnover) : 0 ≤ stt day rate := by
  refine rupee_nonneg (List.sum_nonneg fun x hx => ?_)
  obtain ⟨entry, hentry, rfl⟩ := List.mem_map.mp hx
  exact paise_nonneg (bps_nonneg (totals_nonneg hpos entry hentry) (hrate _ _))

theorem nettedRate_nonneg (facts : RateFacts schedule) (scrip : String × String) (side : FillSide) :
    0 ≤ nettedRate schedule day scrip side := by
  have hdelivery : 0 ≤ deliveryRate schedule side := by
    cases side with
    | buy => exact facts.sttBuy
    | sell => exact facts.sttSell
  unfold nettedRate
  split
  · cases side with
    | buy => exact le_rfl
    | sell => exact facts.intradaySttSell
  · exact hdelivery

theorem legCharges_nonneg (facts : RateFacts schedule) (hpos : ∀ f ∈ day, 0 ≤ f.turnover) {brokerage stamp stt : ℚ}
    (hbrokerage : 0 ≤ brokerage) (hstamp : 0 ≤ stamp) (hstt : 0 ≤ stt) (debited : ℕ) :
    NonnegLeg (legCharges schedule tradeDate day brokerage stamp stt debited) := by
  have hturnover : 0 ≤ sideTurnover day .buy + sideTurnover day .sell :=
    add_nonneg (sideTurnover_nonneg hpos _) (sideTurnover_nonneg hpos _)
  have hexchange := paise_nonneg (bps_nonneg hturnover facts.exchangeAndIpft)
  have hsebi := paise_nonneg (bps_nonneg hturnover facts.sebi)
  have hbase := paise_nonneg (mul_nonneg facts.dpBase (Nat.cast_nonneg debited))
  exact ⟨paise_nonneg hturnover, hbrokerage, hstt, hexchange, hsebi, hstamp,
    paise_nonneg (mul_nonneg (add_nonneg (add_nonneg hbrokerage hexchange) hsebi) facts.gst), hbase,
    paise_nonneg (mul_nonneg hbase facts.gst)⟩

theorem equityCashLeg_nonneg (facts : RateFacts schedule) (hpos : ∀ f ∈ day, 0 ≤ f.turnover)
    (h : equityCashLeg schedule tradeDate day = .ok leg) : NonnegLeg leg := by
  obtain ⟨-, h⟩ := raiseIf_bind_eq_ok.mp h
  obtain rfl := Except.ok.inj h
  have hresidual : 0 ≤ sideTurnover day .buy + sideTurnover day .sell - ((orderTurnover day).map (·.2)).sum := by
    rw [sides_add, orderTurnover, sum_totals]
    exact sub_nonneg.mpr (sum_turnover_le hpos List.filter_sublist)
  have hdelivery : 0 ≤ sideTurnover day .buy - sideTurnover (intradayFills day) .buy :=
    sub_nonneg.mpr (sum_turnover_le (fun f hf => hpos f (List.mem_of_mem_filter hf))
      (List.Sublist.filter _ List.filter_sublist))
  have hintraday : 0 ≤ sideTurnover (intradayFills day) .buy := sideTurnover_nonneg (intradayFills_pos hpos) _
  refine legCharges_nonneg facts hpos ?_ ?_ (stt_nonneg (nettedRate_nonneg facts) hpos) _
  · exact paise_nonneg (add_nonneg (intradayBrokerage_nonneg facts hpos) (bps_nonneg hresidual facts.brokerage))
  · exact rupee_nonneg (add_nonneg (bps_nonneg hdelivery facts.stampBuy) (bps_nonneg hintraday facts.intradayStampBuy))

end Bounds

section Charges

variable {fills : List DeliveryFill} {schedule : NseDeliveryCostSchedule} {breakdown : DeliveryChargeBreakdown}

/-- Charges depend on the traded economics only: neither the order of the fills nor splitting one between two of
its date, scrip, side, price and order changes a leg, no component is negative, and the intraday brokerage of a
date is at most the cap for each of its distinct intraday orders. -/
theorem charges_of_economics (h : calculateEquityCashCharges fills schedule = .ok breakdown) :
    (∀ others, fills.Perm others → calculateEquityCashCharges others schedule = .ok breakdown) ∧
    (∀ fill first second rest others, fills.Perm (fill :: rest) → SplitFill fill.1 first.1 second.1 →
      (first :: second :: rest).Perm others → (others.map (·.1.fillId)).Nodup →
        calculateEquityCashCharges others schedule = .ok breakdown) ∧
    (∀ leg ∈ breakdown.1.legs, NonnegLeg leg) ∧
    ∀ tradeDate, intradayBrokerage schedule.1 (byDate fills tradeDate) ≤
      schedule.1.intradayBrokerageCapPerOrder * (orderTurnover (byDate fills tradeDate)).length := by
  refine ⟨fun others hperm => charges_perm hperm h, ?_, ?_, fun tradeDate => intradayBrokerage_le⟩
  · intro fill first second rest others hperm hsplit hothers hids
    have hids' : ((first :: second :: rest).map (·.1.fillId)).Nodup := (hothers.map _).nodup_iff.mpr hids
    exact charges_perm hothers (charges_split hsplit hids' (charges_perm hperm h))
  · obtain ⟨-, -, hlegs⟩ := calculateEquityCashCharges_ok_iff.mp h
    intro leg hleg
    obtain ⟨d, -, hday⟩ := KeySort.mem_of_forall₂_right (mapM_eq_ok.mp hlegs) hleg
    refine equityCashLeg_nonneg (rateFacts schedule) (fun f hf => ?_) hday
    obtain ⟨fill, -, rfl⟩ := List.mem_map.mp (List.mem_of_mem_filter hf)
    exact (turnover_pos fill).le

/-- The purchase of ten shares and the two of five it may be split in. -/
theorem charges_of_economics_purchase : ∃ breakdown,
    calculateEquityCashCharges [sampleFill] (zerodhaNseDeliverySchedule2026 .residentRetailStandard) = .ok breakdown ∧
      ∀ leg ∈ breakdown.1.legs, NonnegLeg leg := by
  obtain ⟨breakdown, h, -⟩ := exists_ok_of_any (x := calculateEquityCashCharges [sampleFill]
    (zerodhaNseDeliverySchedule2026 .residentRetailStandard)) (p := fun _ => true) (by decide +kernel)
  exact ⟨breakdown, h, (charges_of_economics h).2.2.1⟩

end Charges

end IndiaSwing.Costs
