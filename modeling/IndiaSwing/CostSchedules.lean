import IndiaSwing.Lib.Checked
import IndiaSwing.Lib.SortedTuples
import IndiaSwing.Lib.TextPatterns
import IndiaSwing.Simulator

namespace IndiaSwing.Costs

open ExceptGuards TextPatterns

/-- The exceptions of the cost calculators: a `ValueError` or a `CostScheduleError` with its text, and the
`CostScheduleError` that names a schedule and a date. -/
inductive CostError
  | valueError (message : String)
  | costScheduleError (message : String)
  | doesNotApply (scheduleId : ContentId) (tradeDate : SessionDate)
  deriving DecidableEq, Repr

section Quantize

/-- `quantize` to a number of steps in one rupee, with `ROUND_HALF_UP` -/
def quantizeHalfUp (steps : ℕ) (value : ℚ) : ℚ :=
  if 0 ≤ value then ⌊value * steps + 1 / 2⌋ / steps else -(⌊-value * steps + 1 / 2⌋ / steps)

/-- `_paise` -/
def paise (value : ℚ) : ℚ := quantizeHalfUp 100 value

/-- `_rupee` -/
def rupee (value : ℚ) : ℚ := quantizeHalfUp 1 value

/-- `_bps` -/
def bps (turnover rate : ℚ) : ℚ := turnover * rate / 10000

theorem quantizeHalfUp_nonneg {steps : ℕ} {value : ℚ} (h : 0 ≤ value) : 0 ≤ quantizeHalfUp steps value := by
  unfold quantizeHalfUp
  rw [if_pos h]
  have hscaled : 0 ≤ value * steps + 1 / 2 := by positivity
  have hfloor : (0 : ℚ) ≤ ⌊value * steps + 1 / 2⌋ := by exact_mod_cast Int.floor_nonneg.mpr hscaled
  exact div_nonneg hfloor (Nat.cast_nonneg _)

theorem paise_nonneg {value : ℚ} (h : 0 ≤ value) : 0 ≤ paise value := quantizeHalfUp_nonneg h

theorem rupee_nonneg {value : ℚ} (h : 0 ≤ value) : 0 ≤ rupee value := quantizeHalfUp_nonneg h

theorem bps_nonneg {turnover rate : ℚ} (hturnover : 0 ≤ turnover) (hrate : 0 ≤ rate) : 0 ≤ bps turnover rate :=
  div_nonneg (mul_nonneg hturnover hrate) (by decide)

end Quantize

section Fills

/-- The fields of a `DeliveryFill`. Of the price the exponent is kept as well, which its text and so the fill's
id shows. -/
structure DeliveryFillFields where
  tradeDate : SessionDate
  symbol : String
  isin : String
  side : FillSide
  quantity : ℕ
  price : ℚ
  priceExponent : ℤ
  orderId : String
  deriving DecidableEq, Repr

namespace DeliveryFillFields

variable (f : DeliveryFillFields)

/-- `DeliveryFill.__post_init__` -/
def check : Except CostError Unit := do
  raiseIf (f.symbol = "" ∨ isNormalizedUpper f.symbol = false)
    (.valueError "symbol must be normalized uppercase text")
  raiseIf (f.isin = "" ∨ isNormalizedUpper f.isin = false) (.valueError "isin must be normalized uppercase text")
  raiseIf (f.isin.length ≠ 12) (.valueError "isin must contain 12 characters")
  raiseIf (f.quantity = 0) (.valueError "quantity must be a positive integer")
  raiseIf (f.price ≤ 0) (.valueError "price must be positive")
  raiseIf (stripText f.orderId.toList = []) (.valueError "order_id is required")

/-- `fill_id` -/
def fillId : ContentId :=
  .ofFields "nse-equity-cash-fill/v2" [.int f.tradeDate, .text f.symbol, .text f.isin, .text f.side.value,
    .int f.quantity, .decimal f.price, .int f.priceExponent, .text f.orderId]

def turnover : ℚ := f.price * f.quantity

/-- The key of a scrip. -/
def scrip : String × String := (f.symbol, f.isin)

end DeliveryFillFields

abbrev DeliveryFill := { f : DeliveryFillFields // f.check = .ok () }

theorem turnover_pos (fill : DeliveryFill) : 0 < fill.1.turnover := by
  obtain ⟨-, h⟩ := raiseIf_bind_eq_ok.mp fill.2
  obtain ⟨-, h⟩ := raiseIf_bind_eq_ok.mp h
  obtain ⟨-, h⟩ := raiseIf_bind_eq_ok.mp h
  obtain ⟨hquantity, h⟩ := raiseIf_bind_eq_ok.mp h
  obtain ⟨hprice, -⟩ := raiseIf_bind_eq_ok.mp h
  exact mul_pos (not_le.mp hprice) (Nat.cast_pos.mpr (Nat.pos_of_ne_zero hquantity))

/-- A purchase of ten shares on the ninth of March 2026. -/
def sampleFill : DeliveryFill where
  val := ⟨739684, "INFY", "INE009A01021", .buy, 10, 1000, 0, "O-1"⟩
  property := by decide +kernel

end Fills

section Schedules

inductive ZerodhaDpTariff
  | residentRetailStandard
  | residentRetailFemaleFirstHolder
  deriving DecidableEq, Repr

def ZerodhaDpTariff.value : ZerodhaDpTariff → String
  | .residentRetailStandard => "RESIDENT_RETAIL_STANDARD"
  | .residentRetailFemaleFirstHolder => "RESIDENT_RETAIL_FEMALE_FIRST_HOLDER"

/-- The fields of an `NseDeliveryCostSchedule`. -/
structure NseDeliveryCostScheduleFields where
  effectiveFrom : SessionDate
  effectiveTo : Option SessionDate
  dpTariff : ZerodhaDpTariff
  brokerageBps : ℚ
  sttBuyBps : ℚ
  sttSellBps : ℚ
  exchangeAndIpftBps : ℚ
  sebiBps : ℚ
  stampBuyBps : ℚ
  gstRate : ℚ
  dpBasePerScrip : ℚ
  intradayBrokerageBps : ℚ
  intradayBrokerageCapPerOrder : ℚ
  intradaySttSellBps : ℚ
  intradayStampBuyBps : ℚ
  sourceUrls : List String
  policyVersion : String
  deriving DecidableEq, Repr

namespace NseDeliveryCostScheduleFields

variable (s : NseDeliveryCostScheduleFields)

/-- The rates with their names, in the order they are checked. -/
def rates : List (String × ℚ) :=
  [("brokerage_bps", s.brokerageBps), ("stt_buy_bps", s.sttBuyBps), ("stt_sell_bps", s.sttSellBps),
    ("exchange_and_ipft_bps", s.exchangeAndIpftBps), ("sebi_bps", s.sebiBps), ("stamp_buy_bps", s.stampBuyBps),
    ("gst_rate", s.gstRate), ("dp_base_per_scrip", s.dpBasePerScrip),
    ("intraday_brokerage_bps", s.intradayBrokerageBps),
    ("intraday_brokerage_cap_per_order", s.intradayBrokerageCapPerOrder),
    ("intraday_stt_sell_bps", s.intradaySttSellBps), ("intraday_stamp_buy_bps", s.intradayStampBuyBps)]

/-- `NseDeliveryCostSchedule.__post_init__` -/
def check : Except CostError Unit := do
  raiseIf (∃ last ∈ s.effectiveTo, last < s.effectiveFrom)
    (.valueError "effective_to cannot precede effective_from")
  s.rates.forM fun (name, rate) => raiseIf (rate < 0) (.valueError (name ++ " cannot be negative"))
  raiseIf (1 < s.gstRate) (.valueError "gst_rate must be expressed as a fraction")
  raiseIf (s.sourceUrls = [] ∨ (∃ url ∈ s.sourceUrls, ¬"https://".toList <+: url.toList) ∨ ¬s.sourceUrls.Nodup)
    (.valueError "source_urls must be unique HTTPS URLs")
  raiseIf (s.policyVersion = "") (.valueError "policy_version is required")

/-- `schedule_id` -/
def scheduleId : ContentId :=
  .ofFields "nse-equity-cash-cost-schedule/v2" ([.int s.effectiveFrom, .option .int s.effectiveTo,
    .text s.dpTariff.value] ++ s.rates.map (fun rate => .decimal rate.2) ++
    [.list (s.sourceUrls.map .text), .text s.policyVersion])

/-- `applies_on` -/
def appliesOn (tradeDate : SessionDate) : Prop :=
  s.effectiveFrom ≤ tradeDate ∧ ∀ last ∈ s.effectiveTo, tradeDate ≤ last

instance (tradeDate : SessionDate) : Decidable (s.appliesOn tradeDate) := inferInstanceAs (Decidable (_ ∧ _))

end NseDeliveryCostScheduleFields

abbrev NseDeliveryCostSchedule := { s : NseDeliveryCostScheduleFields // s.check = .ok () }

/-- No rate of a schedule is negative. -/
theorem rate_nonneg (schedule : NseDeliveryCostSchedule) : ∀ rate ∈ schedule.1.rates, 0 ≤ rate.2 := by
  obtain ⟨-, h⟩ := raiseIf_bind_eq_ok.mp schedule.2
  obtain ⟨_, hrates, -⟩ := bind_eq_ok.mp h
  intro rate hrate
  exact not_lt.mp (raiseIf_eq_ok.mp (forM_eq_ok.mp hrates rate hrate))

/-- The rates of a schedule by name. -/
structure RateFacts (s : NseDeliveryCostScheduleFields) : Prop where
  brokerage : 0 ≤ s.brokerageBps
  sttBuy : 0 ≤ s.sttBuyBps
  sttSell : 0 ≤ s.sttSellBps
  exchangeAndIpft : 0 ≤ s.exchangeAndIpftBps
  sebi : 0 ≤ s.sebiBps
  stampBuy : 0 ≤ s.stampBuyBps
  gst : 0 ≤ s.gstRate
  dpBase : 0 ≤ s.dpBasePerScrip
  intradayBrokerage : 0 ≤ s.intradayBrokerageBps
  intradayCap : 0 ≤ s.intradayBrokerageCapPerOrder
  intradaySttSell : 0 ≤ s.intradaySttSellBps
  intradayStampBuy : 0 ≤ s.intradayStampBuyBps

theorem rateFacts (schedule : NseDeliveryCostSchedule) : RateFacts schedule.1 := by
  have h := rate_nonneg schedule
  simp only [NseDeliveryCostScheduleFields.rates, List.forall_mem_cons] at h
  obtain ⟨h1, h2, h3, h4, h5, h6, h7, h8, h9, h10, h11, h12, -⟩ := h
  exact ⟨h1, h2, h3, h4, h5, h6, h7, h8, h9, h10, h11, h12⟩

/-- `zerodha_nse_delivery_schedule_2026`, from the first of March 2026 -/
def zerodhaNseDeliverySchedule2026 (dpTariff : ZerodhaDpTariff) : NseDeliveryCostSchedule where
  val :=
    { effectiveFrom := 739676
      effectiveTo := none
      dpTariff := dpTariff
      brokerageBps := 0
      sttBuyBps := 10
      sttSellBps := 10
      exchangeAndIpftBps := 307 / 1000
      sebiBps := 1 / 100
      stampBuyBps := 3 / 2
      gstRate := 18 / 100
      dpBasePerScrip :=
        match dpTariff with
        | .residentRetailStandard => 13
        | .residentRetailFemaleFirstHolder => 1275 / 100
      intradayBrokerageBps := 3
      intradayBrokerageCapPerOrder := 20
      intradaySttSellBps := 5 / 2
      intradayStampBuyBps := 3 / 10
      sourceUrls := ["https://zerodha.com/charges",
        "https://nsearchives.nseindia.com/content/circulars/FA73061.pdf",
        "https://www.incometaxindia.gov.in/w/section-98-55",
        "https://support.zerodha.com/category/account-opening/resident-individual/ri-charges/articles/how-is-the-securities-transaction-tax-stt-calculated",
        "https://support.zerodha.com/category/account-opening/resident-individual/ri-charges/articles/brokerage-charged-for-partial-delivery",
        "https://www.sebi.gov.in/sebi_data/attachdocs/aug-2021/1628678904669.pdf",
        "https://www.indiacode.nic.in/show-data?abv=CEN&actid=AC_CEN_2_2_00036_189902_1523339055436&orderno=18&orgactid=AC_CEN_2_2_00036_189902_1523339055436&sectionId=49724&sectionno=9A&statehandle=123456789%2F1362",
        "https://www.cdslindia.com/dp/dpdetails.aspx?dp_id=81600"]
      policyVersion := "zerodha-nse-equity-cash-cost/v2" }
  property := by cases dpTariff <;> decide +kernel

end Schedules

end IndiaSwing.Costs
