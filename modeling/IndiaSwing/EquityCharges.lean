import IndiaSwing.CostSchedules
import IndiaSwing.Lib.KeyedTotals

namespace IndiaSwing.Costs

open ExceptGuards KeyedTotals SortedTuples

section Legs

structure DeliveryLegCharges where
  tradeDate : SessionDate
  turnover : ℚ
  brokerage : ℚ
  stt : ℚ
  exchangeAndIpft : ℚ
  sebi : ℚ
  stamp : ℚ
  gst : ℚ
  dpBase : ℚ
  dpGst : ℚ
  deriving DecidableEq, Repr

/-- The fields of a `DeliveryChargeBreakdown`. -/
structure DeliveryChargeBreakdownFields where
  scheduleId : ContentId
  legs : List DeliveryLegCharges
  deriving DecidableEq, Repr

/-- `DeliveryChargeBreakdown.__post_init__` -/
def DeliveryChargeBreakdownFields.check (b : DeliveryChargeBreakdownFields) : Except CostError Unit := do
  raiseIf (b.legs = []) (.valueError "at least one charge leg is required")
  raiseIf (b.legs.insertionSort (fun a b => a.tradeDate ≤ b.tradeDate) ≠ b.legs)
    (.valueError "charge legs must be ordered by trade date")
  raiseIf (¬(b.legs.map (·.tradeDate)).Nodup) (.valueError "charge legs must have unique trade dates")

abbrev DeliveryChargeBreakdown := { b : DeliveryChargeBreakdownFields // b.check = .ok () }

end Legs

section Days

variable (schedule : NseDeliveryCostScheduleFields) (tradeDate : SessionDate) (day : List DeliveryFillFields)

/-- The scrips of a day. -/
def scrips : List (String × String) := (day.map (·.scrip)).dedup

/-- `sides_by_scrip` -/
def sidesByScrip (scrip : String × String) : List FillSide := ((day.filter (·.scrip = scrip)).map (·.side)).dedup

/-- `quantity_by_scrip_side` -/
def quantityByScripSide (scrip : String × String) (side : FillSide) : ℕ :=
  totalOf (fun f : DeliveryFillFields => (f.scrip, f.side)) (·.quantity) day (scrip, side)

/-- The turnover of the buys or of the sells of some fills. -/
def sideTurnover (side : FillSide) : ℚ := ((day.filter (·.side = side)).map (·.turnover)).sum

/-- `security_turnover` -/
def securityTurnover : List (((String × String) × FillSide) × ℚ) :=
  totals (fun f : DeliveryFillFields => (f.scrip, f.side)) (·.turnover) day

/-- `stt`, rounded for each security and side and then for the contract note. -/
def stt (rate : String × String → FillSide → ℚ) : ℚ :=
  rupee ((securityTurnover day).map fun entry => paise (bps entry.2 (rate entry.1.1 entry.1.2))).sum

/-- The scrips that some fills sell. -/
def soldScrips : List (String × String) := ((day.filter (·.side = .sell)).map (·.scrip)).dedup

/-- The leg of a day, once its brokerage, its stamp duty, its STT and its debited scrips are known. -/
def legCharges (brokerage stamp stt : ℚ) (debitedScrips : ℕ) : DeliveryLegCharges :=
  let turnover := sideTurnover day .buy + sideTurnover day .sell
  let exchangeAndIpft := paise (bps turnover schedule.exchangeAndIpftBps)
  let sebi := paise (bps turnover schedule.sebiBps)
  let dpBase := paise (schedule.dpBasePerScrip * debitedScrips)
  { tradeDate := tradeDate
    turnover := paise turnover
    brokerage := brokerage
    stt := stt
    exchangeAndIpft := exchangeAndIpft
    sebi := sebi
    stamp := stamp
    gst := paise ((brokerage + exchangeAndIpft + sebi) * schedule.gstRate)
    dpBase := dpBase
    dpGst := paise (dpBase * schedule.gstRate) }

/-- The STT rate of a delivery. -/
def deliveryRate (side : FillSide) : ℚ :=
  match side with
  | .buy => schedule.sttBuyBps
  | .sell => schedule.sttSellBps

/-- A day of `calculate_delivery_charges`. -/
def deliveryLeg : Except CostError DeliveryLegCharges := do
  raiseIf (∃ scrip ∈ scrips day, 1 < (sidesByScrip day scrip).length)
    (.costScheduleError "same-day buys and sells of one scrip are ambiguous under a delivery tariff")
  let turnover := sideTurnover day .buy + sideTurnover day .sell
  let brokerage := paise (bps turnover schedule.brokerageBps)
  let stamp := rupee (bps (sideTurnover day .buy) schedule.stampBuyBps)
  .ok (legCharges schedule tradeDate day brokerage stamp (stt day fun _ side => deliveryRate schedule side)
    (soldScrips day).length)

/-- `intraday_scrips`: the scrips that a day both buys and sells. -/
def intradayScrips : List (String × String) := (scrips day).filter fun scrip => (sidesByScrip day scrip).length ≠ 1

local instance lawfulScrip : LawfulBEq (String × String) := inferInstance

/-- The fills of the scrips traded intraday. -/
def intradayFills : List DeliveryFillFields := day.filter (·.scrip ∈ intradayScrips day)

/-- `order_turnover` -/
def orderTurnover : List ((((String × String) × FillSide) × String) × ℚ) :=
  totals (fun f : DeliveryFillFields => ((f.scrip, f.side), f.orderId)) (·.turnover) (intradayFills day)

/-- The brokerage of the intraday orders, capped for each of them. -/
def intradayBrokerage : ℚ :=
  ((orderTurnover day).map fun entry =>
    min schedule.intradayBrokerageCapPerOrder (paise (bps entry.2 schedule.intradayBrokerageBps))).sum

/-- The STT rate of a scrip's side under same-day netting. -/
def nettedRate (scrip : String × String) (side : FillSide) : ℚ :=
  if scrip ∈ intradayScrips day then
    match side with
    | .buy => 0
    | .sell => schedule.intradaySttSellBps
  else deliveryRate schedule side

/-- A day of `calculate_equity_cash_charges`. -/
def equityCashLeg : Except CostError DeliveryLegCharges := do
  raiseIf (∃ scrip ∈ intradayScrips day, quantityByScripSide day scrip .buy ≠ quantityByScripSide day scrip .sell)
    (.costScheduleError "partially netted same-day positions require explicit allocation evidence")
  let turnover := sideTurnover day .buy + sideTurnover day .sell
  let intradayBuyTurnover := sideTurnover (intradayFills day) .buy
  let deliveryBuyTurnover := sideTurnover day .buy - intradayBuyTurnover
  let residualTurnover := turnover - ((orderTurnover day).map (·.2)).sum
  let brokerage := paise (intradayBrokerage schedule day + bps residualTurnover schedule.brokerageBps)
  let stamp := rupee (bps deliveryBuyTurnover schedule.stampBuyBps +
    bps intradayBuyTurnover schedule.intradayStampBuyBps)
  let deliverySells := (soldScrips day).filter (· ∉ intradayScrips day)
  .ok (legCharges schedule tradeDate day brokerage stamp (stt day (nettedRate schedule day)) deliverySells.length)

end Days

section Calculators

variable (fills : List DeliveryFill) (schedule : NseDeliveryCostSchedule)

/-- The checks of a fill tuple. -/
def checkFills : Except CostError Unit := do
  raiseIf (fills = []) (.valueError "fills must be a non-empty tuple")
  raiseIf (¬(fills.map (·.1.fillId)).Nodup) (.costScheduleError "duplicate fills are not allowed")
  fills.forM fun fill => raiseIf (¬schedule.1.appliesOn fill.1.tradeDate)
    (.doesNotApply schedule.1.scheduleId fill.1.tradeDate)

/-- The trade dates of some fills, in order. -/
def tradeDates : List SessionDate := sorted ((fills.map (·.1.tradeDate)).dedup)

/-- `by_date` -/
def byDate (tradeDate : SessionDate) : List DeliveryFillFields :=
  (fills.map (·.1)).filter (·.tradeDate = tradeDate)

/-- The breakdown of a fill tuple, a day after the other. -/
def chargeBreakdown (leg : NseDeliveryCostScheduleFields → SessionDate → List DeliveryFillFields →
    Except CostError DeliveryLegCharges) : Except CostError DeliveryChargeBreakdown := do
  checkFills fills schedule
  let legs ← (tradeDates fills).mapM fun tradeDate => leg schedule.1 tradeDate (byDate fills tradeDate)
  Checked.build DeliveryChargeBreakdownFields.check ⟨schedule.1.scheduleId, legs⟩

/-- `calculate_delivery_charges` -/
def calculateDeliveryCharges : Except CostError DeliveryChargeBreakdown := chargeBreakdown fills schedule deliveryLeg

/-- `calculate_equity_cash_charges` -/
def calculateEquityCashCharges : Except CostError DeliveryChargeBreakdown :=
  chargeBreakdown fills schedule equityCashLeg

end Calculators

end IndiaSwing.Costs

namespace IndiaSwing.Costs

open ExceptGuards KeyedTotals SortedTuples

section Days

variable {schedule : NseDeliveryCostScheduleFields} {tradeDate : SessionDate} {day : List DeliveryFillFields}
  {scrip : String × String} {leg : DeliveryLegCharges}

theorem mem_scrips : scrip ∈ scrips day ↔ ∃ f ∈ day, f.scrip = scrip := by
  unfold scrips
  rw [List.mem_dedup, List.mem_map]

theorem mem_sidesByScrip {side : FillSide} :
    side ∈ sidesByScrip day scrip ↔ ∃ f ∈ day, f.scrip = scrip ∧ f.side = side := by
  unfold sidesByScrip
  rw [List.mem_dedup, List.mem_map]
  constructor
  · rintro ⟨f, hf, hside⟩
    obtain ⟨hf, hscrip⟩ := List.mem_filter.mp hf
    exact ⟨f, hf, of_decide_eq_true hscrip, hside⟩
  · rintro ⟨f, hf, hscrip, hside⟩
    exact ⟨f, List.mem_filter.mpr ⟨hf, decide_eq_true hscrip⟩, hside⟩

theorem sidesByScrip_pos (h : scrip ∈ scrips day) : 0 < (sidesByScrip day scrip).length := by
  obtain ⟨f, hf, hscrip⟩ := mem_scrips.mp h
  exact List.length_pos_of_mem (mem_sidesByScrip.mpr ⟨f, hf, hscrip, rfl⟩)

theorem length_sides_iff {sides : List FillSide} (h : sides.Nodup) :
    1 < sides.length ↔ .buy ∈ sides ∧ .sell ∈ sides := by
  constructor
  · intro hlength
    match sides, h with
    | [.buy, .sell], _ => simp
    | [.sell, .buy], _ => simp
    | .buy :: .buy :: _, h => simp at h
    | .sell :: .sell :: _, h => simp at h
    | .buy :: .sell :: .buy :: _, h => simp at h
    | .buy :: .sell :: .sell :: _, h => simp at h
    | .sell :: .buy :: .buy :: _, h => simp at h
    | .sell :: .buy :: .sell :: _, h => simp at h
  · rintro ⟨hbuy, hsell⟩
    match sides, hbuy, hsell with
    | _ :: _ :: _, _, _ => simp
    | [.buy], _, hsell => simp at hsell
    | [.sell], hbuy, _ => simp at hbuy

/-- A scrip is traded intraday when the day both buys and sells it. -/
theorem mem_intradayScrips : scrip ∈ intradayScrips day ↔
    (∃ f ∈ day, f.scrip = scrip ∧ f.side = .buy) ∧ ∃ f ∈ day, f.scrip = scrip ∧ f.side = .sell := by
  have hnodup : (sidesByScrip day scrip).Nodup := List.nodup_dedup _
  unfold intradayScrips
  rw [List.mem_filter, decide_eq_true_eq, ← mem_sidesByScrip, ← mem_sidesByScrip, ← length_sides_iff hnodup]
  constructor
  · rintro ⟨hmem, hlength⟩
    have hpos := sidesByScrip_pos hmem
    omega
  · intro hlength
    have hboth := (length_sides_iff hnodup).mp hlength
    obtain ⟨f, hf, hscrip, -⟩ := mem_sidesByScrip.mp hboth.1
    exact ⟨mem_scrips.mpr ⟨f, hf, hscrip⟩, by omega⟩

/-- Without a scrip on both sides a day of the mixed calculator is one of the delivery calculator. -/
theorem equityCashLeg_of_deliveryLeg (h : deliveryLeg schedule tradeDate day = .ok leg) :
    equityCashLeg schedule tradeDate day = .ok leg := by
  obtain ⟨hsides, h⟩ := raiseIf_bind_eq_ok.mp h
  have hnone : intradayScrips day = [] := by
    refine List.filter_eq_nil_iff.mpr fun scrip hscrip hlength => hsides ⟨scrip, hscrip, ?_⟩
    have hpos := sidesByScrip_pos hscrip
    have hne := of_decide_eq_true hlength
    omega
  have hfills : intradayFills day = [] := by
    unfold intradayFills
    rw [hnone]
    exact List.filter_eq_nil_iff.mpr fun f _ hmem => List.not_mem_nil (of_decide_eq_true hmem)
  have horders : orderTurnover day = [] := by
    unfold orderTurnover
    rw [hfills]
    rfl
  have hrate : nettedRate schedule day = fun _ side => deliveryRate schedule side := by
    funext scrip side
    unfold nettedRate
    rw [if_neg (hnone ▸ List.not_mem_nil)]
  have hsold : (soldScrips day).filter (· ∉ intradayScrips day) = soldScrips day :=
    List.filter_eq_self.mpr fun scrip _ => decide_eq_true (hnone ▸ List.not_mem_nil)
  have hnoBuys : sideTurnover [] .buy = 0 := rfl
  unfold equityCashLeg intradayBrokerage
  dsimp only
  have hno : ¬∃ scrip ∈ intradayScrips day,
      quantityByScripSide day scrip .buy ≠ quantityByScripSide day scrip .sell := by
    rw [hnone]
    rintro ⟨scrip, hmem, -⟩
    cases hmem
  rw [raiseIf_neg hno, ok_bind, hsold, hrate, horders, hfills, hnoBuys, ← h]
  have hzero : ∀ rate : ℚ, bps 0 rate = 0 := fun rate => by rw [bps, zero_mul, zero_div]
  simp only [List.map_nil, List.sum_nil, sub_zero, zero_add, hzero, add_zero]

/-- The mixed calculator refuses a day only for a scrip bought and sold in unequal quantities. -/
theorem equityCashLeg_error {e : CostError} (h : equityCashLeg schedule tradeDate day = .error e) :
    ∃ f ∈ day, ∃ g ∈ day, f.scrip = g.scrip ∧ f.side = .buy ∧ g.side = .sell ∧
      quantityByScripSide day f.scrip .buy ≠ quantityByScripSide day f.scrip .sell := by
  rcases raiseIf_bind_eq_error.mp h with ⟨⟨scrip, hscrip, hquantity⟩, -⟩ | ⟨-, h⟩
  · obtain ⟨⟨f, hf, rfl, hbuy⟩, g, hg, hsame, hsell⟩ := mem_intradayScrips.mp hscrip
    exact ⟨f, hf, g, hg, hsame.symm, hbuy, hsell, hquantity⟩
  · cases h

theorem equityCashLeg_tradeDate (h : equityCashLeg schedule tradeDate day = .ok leg) : leg.tradeDate = tradeDate := by
  obtain ⟨-, h⟩ := raiseIf_bind_eq_ok.mp h
  exact (Except.ok.inj h) ▸ rfl

end Days

section Breakdowns

variable {fills : List DeliveryFill} {schedule : NseDeliveryCostSchedule} {legs : List DeliveryLegCharges}

theorem tradeDates_increasing (fills : List DeliveryFill) : (tradeDates fills).Pairwise (· < ·) := by
  have hnodup : (tradeDates fills).Nodup := sorted_perm.nodup_iff.mpr (List.nodup_dedup _)
  have hsorted : (tradeDates fills).Pairwise (· ≤ ·) := sorted_pairwise
  exact hsorted.imp₂ (fun _ _ hle hne => lt_of_le_of_ne hle hne) hnodup

theorem mem_tradeDates {tradeDate : SessionDate} :
    tradeDate ∈ tradeDates fills ↔ ∃ fill ∈ fills, fill.1.tradeDate = tradeDate := by
  unfold tradeDates
  rw [mem_sorted, List.mem_dedup, List.mem_map]

/-- A breakdown with a leg for each trade date is accepted. -/
theorem breakdown_check (hne : fills ≠ []) {scheduleId : ContentId}
    (hlegs : legs.map (·.tradeDate) = tradeDates fills) :
    DeliveryChargeBreakdownFields.check ⟨scheduleId, legs⟩ = .ok () := by
  have hincreasing : (legs.map (·.tradeDate)).Pairwise (· < ·) := hlegs ▸ tradeDates_increasing fills
  refine raiseIf_bind_eq_ok.mpr ⟨?_, raiseIf_bind_eq_ok.mpr ⟨not_not.mpr ?_, raiseIf_neg (not_not.mpr ?_)⟩⟩
  · rintro rfl
    obtain ⟨fill, hfill⟩ := List.exists_mem_of_ne_nil _ hne
    have hdate := mem_tradeDates.mpr ⟨fill, hfill, rfl⟩
    rw [← hlegs] at hdate
    cases hdate
  · refine List.Pairwise.insertionSort_eq ?_
    rw [List.pairwise_map] at hincreasing
    exact hincreasing.imp le_of_lt
  · exact hincreasing.imp ne_of_lt

/-- The legs of a breakdown carry the trade dates. -/
theorem legs_tradeDates
    (hlegs : (tradeDates fills).mapM (fun d => equityCashLeg schedule.1 d (byDate fills d)) = .ok legs) :
    legs.map (·.tradeDate) = tradeDates fills := by
  have hall := mapM_eq_ok.mp hlegs
  clear hlegs
  generalize tradeDates fills = dates at hall
  induction hall with
  | nil => rfl
  | cons hleg _ ih => rw [List.map_cons, ih, equityCashLeg_tradeDate hleg]

theorem calculateEquityCashCharges_ok_iff {breakdown : DeliveryChargeBreakdown} :
    calculateEquityCashCharges fills schedule = .ok breakdown ↔ checkFills fills schedule = .ok () ∧
      breakdown.1.scheduleId = schedule.1.scheduleId ∧
      (tradeDates fills).mapM (fun d => equityCashLeg schedule.1 d (byDate fills d)) = .ok breakdown.1.legs := by
  unfold calculateEquityCashCharges chargeBreakdown
  constructor
  · intro h
    obtain ⟨_, hcheck, h⟩ := bind_eq_ok.mp h
    obtain ⟨legs, hlegs, h⟩ := bind_eq_ok.mp h
    have hfields := Checked.build_eq_ok.mp h
    rw [← hfields]
    exact ⟨hcheck, rfl, hlegs⟩
  · rintro ⟨hcheck, hid, hlegs⟩
    rw [hcheck, ok_bind, hlegs, ok_bind, ← hid]
    exact Checked.build_of_ok breakdown.2

/-- The two calculators agree: what the delivery calculator prices the mixed one prices alike, and the mixed one
refuses a fill tuple only for a duplicate, a date outside the schedule or a scrip that is bought and sold on one
date in unequal quantities. -/
theorem cost_calculators_agree (fills : List DeliveryFill) (schedule : NseDeliveryCostSchedule) (hne : fills ≠ []) :
    (∀ breakdown, calculateDeliveryCharges fills schedule = .ok breakdown →
      calculateEquityCashCharges fills schedule = .ok breakdown) ∧
    ∀ e, calculateEquityCashCharges fills schedule = .error e →
      ¬(fills.map (·.1.fillId)).Nodup ∨ (∃ fill ∈ fills, ¬schedule.1.appliesOn fill.1.tradeDate) ∨
        ∃ buy ∈ fills, ∃ sell ∈ fills, buy.1.tradeDate = sell.1.tradeDate ∧ buy.1.scrip = sell.1.scrip ∧
          buy.1.side = .buy ∧ sell.1.side = .sell ∧
          quantityByScripSide (byDate fills buy.1.tradeDate) buy.1.scrip .buy ≠
            quantityByScripSide (byDate fills buy.1.tradeDate) buy.1.scrip .sell := by
  refine ⟨fun breakdown h => ?_, fun e h => ?_⟩
  · unfold calculateDeliveryCharges chargeBreakdown at h
    obtain ⟨_, hcheck, h⟩ := bind_eq_ok.mp h
    obtain ⟨legs, hlegs, h⟩ := bind_eq_ok.mp h
    have hfields := Checked.build_eq_ok.mp h
    refine calculateEquityCashCharges_ok_iff.mpr ⟨hcheck, by rw [← hfields], ?_⟩
    rw [← hfields]
    exact mapM_eq_ok.mpr ((mapM_eq_ok.mp hlegs).imp fun d leg hleg => equityCashLeg_of_deliveryLeg hleg)
  · unfold calculateEquityCashCharges chargeBreakdown at h
    rcases bind_eq_error.mp h with hcheck | ⟨_, hcheck, h⟩
    · rcases raiseIf_bind_eq_error.mp hcheck with ⟨hnil, -⟩ | ⟨-, hcheck⟩
      · exact absurd hnil hne
      rcases raiseIf_bind_eq_error.mp hcheck with ⟨hduplicate, -⟩ | ⟨-, hcheck⟩
      · exact .inl hduplicate
      · refine .inr (.inl ?_)
        by_contra hall
        have hok : fills.forM (fun fill => raiseIf (¬schedule.1.appliesOn fill.1.tradeDate)
            (CostError.doesNotApply schedule.1.scheduleId fill.1.tradeDate)) = .ok () :=
          forM_eq_ok.mpr fun fill hfill => raiseIf_neg fun hout => hall ⟨fill, hfill, hout⟩
        rw [hok] at hcheck
        cases hcheck
    · rcases bind_eq_error.mp h with hlegs | ⟨legs, hlegs, h⟩
      · refine .inr (.inr ?_)
        by_contra hnone
        have hall : ∀ d ∈ tradeDates fills, ∃ leg,
            equityCashLeg schedule.1 d (byDate fills d) = .ok leg ∧ leg.tradeDate = d := by
          intro d _
          cases hleg : equityCashLeg schedule.1 d (byDate fills d) with
          | ok leg => exact ⟨leg, rfl, equityCashLeg_tradeDate hleg⟩
          | error e =>
            obtain ⟨f, hf, g, hg, hscrip, hbuy, hsell, hquantity⟩ := equityCashLeg_error hleg
            obtain ⟨hfmem, hfdate⟩ := List.mem_filter.mp hf
            obtain ⟨hgmem, hgdate⟩ := List.mem_filter.mp hg
            obtain ⟨buy, hbuys, rfl⟩ := List.mem_map.mp hfmem
            obtain ⟨sell, hsells, rfl⟩ := List.mem_map.mp hgmem
            obtain rfl := of_decide_eq_true hfdate
            exact absurd ⟨buy, hbuys, sell, hsells, (of_decide_eq_true hgdate).symm, hscrip, hbuy, hsell, hquantity⟩
              hnone
        obtain ⟨legs, hok, -⟩ := mapM_exists hall
        cases hok.symm.trans hlegs
      · rw [Checked.build_of_ok (breakdown_check hne (legs_tradeDates hlegs))] at h
        cases h

theorem cost_calculators_agree_purchase : ∃ breakdown,
    calculateDeliveryCharges [sampleFill] (zerodhaNseDeliverySchedule2026 .residentRetailStandard) = .ok breakdown ∧
      calculateEquityCashCharges [sampleFill] (zerodhaNseDeliverySchedule2026 .residentRetailStandard) =
        .ok breakdown := by
  obtain ⟨breakdown, h, -⟩ := exists_ok_of_any (x := calculateDeliveryCharges [sampleFill]
    (zerodhaNseDeliverySchedule2026 .residentRetailStandard)) (p := fun _ => true) (by decide +kernel)
  exact ⟨breakdown, h, (cost_calculators_agree [sampleFill] _ (List.cons_ne_nil _ _)).1 breakdown h⟩

end Breakdowns

end IndiaSwing.Costs
