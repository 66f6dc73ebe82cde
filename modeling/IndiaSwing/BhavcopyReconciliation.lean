import IndiaSwing.IdentityRegistry
import IndiaSwing.LegacyArchive
import IndiaSwing.Lib.DecimalPrecision

namespace IndiaSwing

open ExceptGuards KeySort Grouping DigitText TextPatterns

namespace LegacyArchive

section Fields

/-- `_decimal` of a field up to a bound -/
def decimalField (maximum : ℚ) (field text : String) : Except String PlainDecimal :=
  match readDecimal text.toList with
  | none => .error (field ++ " is not a canonical decimal")
  | some d => if d.value ≤ maximum then .ok d else .error (field ++ " is outside its supported range")

/-- `_unsigned_integer` of a field -/
def integerField (minimum : ℕ) (field text : String) : Except String ℕ :=
  if isCanonicalNatural text.toList then
    let parsed := value text.toList
    if minimum ≤ parsed ∧ parsed ≤ 10 ^ 18 then .ok parsed else .error (field ++ " is outside its supported range")
  else .error (field ++ " is not an unsigned integer")

/-- `int(character, 36)` of a digit or of a capital letter -/
def base36 (c : Char) : ℕ := if c.isDigit then c.toNat - 48 else c.toNat - 55

/-- The digits of an identifier, a letter as its two. -/
def expandedIdentifier (text : List Char) : List Char :=
  text.flatMap fun c => if c.isDigit then [c] else digits (base36 c)

/-- The sum of the digits from the right, every second one doubled. -/
def luhnSum (text : List Char) : ℕ :=
  ((expandedIdentifier text).reverse.zipIdx.map fun entry =>
    let weighted := if entry.2 % 2 = 1 then 2 * value [entry.1] else value [entry.1]
    weighted / 10 + weighted % 10).sum

/-- `validated_isin_or_none` gives the identifier -/
def isValidatedIsin (text : String) : Bool := IdentityRegistry.isIsin text.toList && luhnSum text.toList % 10 = 0

/-- `str.strip` -/
def strip (text : String) : String := String.ofList (stripText text.toList)

/-- The context of the default precision. -/
def defaultContext : DecimalContext := .ofPrecision 28

/-- `Decimal` of a field that the checks of its row have let through -/
def decimalOf (text : String) : Except String ℚ :=
  match readDecimal text.toList with
  | some d => .ok d.value
  | none => .error "InvalidOperation"

/-- `quantize(Decimal("0.01"), rounding=ROUND_HALF_UP)` in a context of so many digits -/
def quantizeWithin (digits : ℕ) (amount : ℚ) : Except String PlainDecimal := do
  raiseIf (10 ^ digits ≤ (quantizeCents amount).digits) "InvalidOperation"
  return quantizeCents amount

end Fields

section Udiff

/-- The fields of a UDiFF row that are read, under the names of the header. -/
structure UdiffTexts where
  tradDt : String
  bizDt : String
  sgmt : String
  src : String
  finInstrmTp : String
  finInstrmId : String
  isin : String
  tckrSymb : String
  sctySrs : String
  finInstrmNm : String
  opnPric : String
  hghPric : String
  lwPric : String
  clsPric : String
  lastPric : String
  prvsClsgPric : String
  ttlTradgVol : String
  ttlTrfVal : String
  ttlNbOfTxsExctd : String
  ssnId : String
  newBrdLotQty : String

namespace UdiffTexts

def key (texts : UdiffTexts) : ListingKey := (texts.tckrSymb, texts.sctySrs)

end UdiffTexts

/-- The keys that a row may share with no other row: of its instrument and of its listing. -/
abbrev UdiffKeys := (ℕ × String) × (String × String × String)

variable (fromisoformat : String → Option CalendarDay)

/-- The checks of a row up to its keys. -/
def checkUdiffScope (claimedDate : CalendarDay) (texts : UdiffTexts) : Except String UdiffKeys := do
  match fromisoformat texts.tradDt, fromisoformat texts.bizDt with
  | some tradeDate, some businessDate =>
    raiseIf (tradeDate ≠ claimedDate ∨ businessDate ≠ claimedDate) "UDiFF row dates disagree with the container filename"
    raiseIf (texts.sgmt ≠ "CM") "UDiFF Sgmt is outside the pinned CM final-session scope"
    raiseIf (texts.src ≠ "NSE") "UDiFF Src is outside the pinned CM final-session scope"
    raiseIf (texts.finInstrmTp ≠ "STK") "UDiFF FinInstrmTp is outside the pinned CM final-session scope"
    raiseIf (texts.ssnId ≠ "F1") "UDiFF SsnId is outside the pinned CM final-session scope"
    let instrumentId ← integerField 1 "UDiFF FinInstrmId" texts.finInstrmId
    raiseIf (¬isSymbol texts.tckrSymb) "UDiFF ticker symbol is invalid"
    raiseIf (¬isSeries texts.sctySrs) "UDiFF security series is invalid"
    raiseIf (¬isRawIdentifier texts.isin ∨ ¬isValidatedIsin texts.isin) "UDiFF ISIN is invalid"
    raiseIf (texts.finInstrmNm = "") "UDiFF instrument name is required"
    return ((instrumentId, texts.ssnId), (texts.tckrSymb, texts.sctySrs, texts.ssnId))
  | _, _ => .error "UDiFF row contains an invalid date"

/-- The checks of the numbers of a row. -/
def checkUdiffNumbers (texts : UdiffTexts) : Except String Unit := do
  let openPrice ← decimalField maximumDecimal "UDiFF OpnPric" texts.opnPric
  let high ← decimalField maximumDecimal "UDiFF HghPric" texts.hghPric
  let low ← decimalField maximumDecimal "UDiFF LwPric" texts.lwPric
  let close ← decimalField maximumDecimal "UDiFF ClsPric" texts.clsPric
  let last ← decimalField maximumDecimal "UDiFF LastPric" texts.lastPric
  let previousClose ← decimalField maximumDecimal "UDiFF PrvsClsgPric" texts.prvsClsgPric
  raiseIf (openPrice.value ≤ 0 ∨ high.value ≤ 0 ∨ low.value ≤ 0 ∨ close.value ≤ 0 ∨ last.value ≤ 0 ∨
      previousClose.value ≤ 0)
    "UDiFF prices must be positive"
  raiseIf (high.value < max (max openPrice.value low.value) (max close.value last.value) ∨
      min (min openPrice.value high.value) (min close.value last.value) < low.value)
    "UDiFF OHLC values are inconsistent"
  let tradedVolume ← integerField 1 "UDiFF TtlTradgVol" texts.ttlTradgVol
  let tradedValue ← decimalField maximumDecimal "UDiFF TtlTrfVal" texts.ttlTrfVal
  raiseIf (tradedValue.value ≤ 0) "UDiFF traded value must be positive"
  let preciseAverage := defaultContext.div tradedValue.value tradedVolume
  raiseIf (¬(low.value ≤ preciseAverage ∧ preciseAverage ≤ high.value))
    "UDiFF traded value implies an average outside its daily range"
  let _ ← integerField 1 "UDiFF TtlNbOfTxsExctd" texts.ttlNbOfTxsExctd
  let _ ← integerField 1 "UDiFF NewBrdLotQty" texts.newBrdLotQty
  return ()

/-- The loop of `_parse_udiff` over the rows, with the keys that were seen. -/
def checkUdiffRows (claimedDate : CalendarDay) : List UdiffKeys → List UdiffTexts → Except String Unit
  | _, [] => .ok ()
  | seen, texts :: rows => do
    let keys ← checkUdiffScope fromisoformat claimedDate texts
    raiseIf (keys.1 ∈ seen.map (·.1)) "UDiFF contains a duplicate session instrument ID"
    raiseIf (keys.2 ∈ seen.map (·.2)) "UDiFF contains a duplicate session symbol-series"
    checkUdiffNumbers texts
    checkUdiffRows claimedDate (keys :: seen) rows

/-- `_parse_udiff` of the rows that the CSV reader gives under the pinned header -/
def parseUdiff (claimedDate : CalendarDay) (rows : List UdiffTexts) : Except String Unit := do
  raiseIf (rows = []) "UDiFF contains no data rows"
  checkUdiffRows fromisoformat claimedDate [] rows

end Udiff

section FullDelivery

/-- The fields of a full-delivery row under the names of the header. -/
structure FullTexts where
  symbol : String
  series : String
  date1 : String
  prevClose : String
  openPrice : String
  highPrice : String
  lowPrice : String
  lastPrice : String
  closePrice : String
  avgPrice : String
  ttlTrdQnty : String
  turnoverLacs : String
  noOfTrades : String
  delivQty : String
  delivPer : String

namespace FullTexts

def key (texts : FullTexts) : ListingKey := (texts.symbol, texts.series)

/-- `_field_map` of a row whose fields are stripped -/
def stripped (texts : FullTexts) : FullTexts where
  symbol := strip texts.symbol
  series := strip texts.series
  date1 := strip texts.date1
  prevClose := strip texts.prevClose
  openPrice := strip texts.openPrice
  highPrice := strip texts.highPrice
  lowPrice := strip texts.lowPrice
  lastPrice := strip texts.lastPrice
  closePrice := strip texts.closePrice
  avgPrice := strip texts.avgPrice
  ttlTrdQnty := strip texts.ttlTrdQnty
  turnoverLacs := strip texts.turnoverLacs
  noOfTrades := strip texts.noOfTrades
  delivQty := strip texts.delivQty
  delivPer := strip texts.delivPer

end FullTexts

/-- The checks of a row up to its key. -/
def checkFullScope (claimedDate : CalendarDay) (texts : FullTexts) : Except String Unit := do
  match nseTextDate texts.date1 with
  | none => .error "full Bhavcopy DATE1 contains an invalid date"
  | some rowDate =>
    raiseIf (rowDate ≠ claimedDate) "full Bhavcopy row date disagrees with its filename"
    raiseIf (¬isSymbol texts.symbol) "full Bhavcopy symbol is invalid"
    raiseIf (¬isSeries texts.series) "full Bhavcopy series is invalid"

/-- The checks of the delivered quantity and of its percentage. -/
def checkDelivery (traded : ℕ) (delivQty delivPer : String) : Except String Unit := do
  if delivQty = "-" ∧ delivPer = "-" then return ()
  else do
    raiseIf (delivQty = "-" ∨ delivPer = "-") "full Bhavcopy delivery missingness is inconsistent"
    let delivered ← integerField 0 "full Bhavcopy delivery" delivQty
    let deliveryPercent ← decimalField 100 "full Bhavcopy delivery percent" delivPer
    let expected ← quantizeWithin 28 (defaultContext.div (defaultContext.mul 100 delivered) traded)
    raiseIf (traded < delivered ∨ deliveryPercent.value ≠ expected.value)
      "full Bhavcopy delivery values are inconsistent"

/-- The checks of the numbers of a row. -/
def checkFullNumbers (texts : FullTexts) : Except String Unit := do
  let previousClose ← decimalField maximumDecimal "full Bhavcopy PREV_CLOSE" texts.prevClose
  let openPrice ← decimalField maximumDecimal "full Bhavcopy OPEN_PRICE" texts.openPrice
  let high ← decimalField maximumDecimal "full Bhavcopy HIGH_PRICE" texts.highPrice
  let low ← decimalField maximumDecimal "full Bhavcopy LOW_PRICE" texts.lowPrice
  let last ← decimalField maximumDecimal "full Bhavcopy LAST_PRICE" texts.lastPrice
  let close ← decimalField maximumDecimal "full Bhavcopy CLOSE_PRICE" texts.closePrice
  let average ← decimalField maximumDecimal "full Bhavcopy AVG_PRICE" texts.avgPrice
  raiseIf (previousClose.value ≤ 0 ∨ openPrice.value ≤ 0 ∨ high.value ≤ 0 ∨ low.value ≤ 0 ∨ last.value ≤ 0 ∨
      close.value ≤ 0 ∨ average.value ≤ 0)
    "full Bhavcopy prices must be positive"
  raiseIf (high.value < max (max openPrice.value low.value) (max last.value close.value) ∨
      min (min openPrice.value high.value) (min last.value close.value) < low.value)
    "full Bhavcopy OHLC values are inconsistent"
  let traded ← integerField 1 "full Bhavcopy volume" texts.ttlTrdQnty
  let _ ← decimalField maximumDecimal "full Bhavcopy turnover" texts.turnoverLacs
  let _ ← integerField 1 "full Bhavcopy trade count" texts.noOfTrades
  checkDelivery traded texts.delivQty texts.delivPer

local instance lawfulKey : LawfulBEq ListingKey := inferInstanceAs (LawfulBEq (String × String))

/-- The loop of `_parse_full_delivery` over the rows, with the keys that were seen. -/
def checkFullRows (claimedDate : CalendarDay) : List ListingKey → List FullTexts → Except String Unit
  | _, [] => .ok ()
  | seen, row :: rows => do
    let texts := row.stripped
    checkFullScope claimedDate texts
    raiseIf (texts.key ∈ seen) "full Bhavcopy contains a duplicate listing key"
    checkFullNumbers texts
    checkFullRows claimedDate (texts.key :: seen) rows

/-- `_parse_full_delivery` of the rows that the CSV reader gives under the pinned header -/
def parseFullDelivery (claimedDate : CalendarDay) (rows : List FullTexts) : Except String Unit := do
  raiseIf (rows = []) "full Bhavcopy contains no data rows"
  checkFullRows claimedDate [] rows

end FullDelivery

section Reconcilers

/-- `exact_fields`: the fields that both reports state. -/
def exactFields : List ((FullTexts → String) × (UdiffTexts → String)) :=
  [(FullTexts.prevClose, UdiffTexts.prvsClsgPric), (FullTexts.openPrice, UdiffTexts.opnPric),
    (FullTexts.highPrice, UdiffTexts.hghPric), (FullTexts.lowPrice, UdiffTexts.lwPric),
    (FullTexts.lastPrice, UdiffTexts.lastPric), (FullTexts.closePrice, UdiffTexts.clsPric),
    (FullTexts.ttlTrdQnty, UdiffTexts.ttlTradgVol), (FullTexts.noOfTrades, UdiffTexts.ttlNbOfTxsExctd)]

/-- The loop over the fields that both reports state. -/
def checkExactFields (message : String) (full : FullTexts) (udiff : UdiffTexts) : Except String Unit :=
  exactFields.forM fun names => do
    let fullValue ← decimalOf (names.1 full)
    let udiffValue ← decimalOf (names.2 udiff)
    raiseIf (fullValue ≠ udiffValue) message

/-- The turnover in lacs and the average price of a UDiFF row, in paise, from quotients of so many digits. -/
def derivedValues (digits : ℕ) (udiff : UdiffTexts) : Except String (PlainDecimal × PlainDecimal) := do
  let volume ← decimalOf udiff.ttlTradgVol
  let transferValue ← decimalOf udiff.ttlTrfVal
  let turnoverLacs ← quantizeWithin digits ((DecimalContext.ofPrecision digits).div transferValue 100000)
  let averagePrice ← quantizeWithin digits ((DecimalContext.ofPrecision digits).div transferValue volume)
  return (turnoverLacs, averagePrice)

/-- The check of the derived values of a row. -/
def checkDerivedValues (digits : ℕ) (message : String) (full : FullTexts) (udiff : UdiffTexts) : Except String Unit := do
  let derived ← derivedValues digits udiff
  let turnoverLacs ← decimalOf full.turnoverLacs
  let averagePrice ← decimalOf full.avgPrice
  raiseIf (turnoverLacs ≠ derived.1.value ∨ averagePrice ≠ derived.2.value) message

/-- The body of the loop of `_reconcile_eq_rows` over the keys. -/
def reconcileKey (fullRows : List FullTexts) (udiffRows : List UdiffTexts) (key : ListingKey) :
    Except String (ListingKey × FullTexts × UdiffTexts) :=
  match lastUnder FullTexts.key fullRows key, lastUnder UdiffTexts.key udiffRows key with
  | some full, some udiff => do
    checkExactFields "EQ OHLCV or trade fields contradict UDiFF" full udiff
    checkDerivedValues 50 "EQ derived values contradict UDiFF" full udiff
    return (key, full, udiff)
  | _, _ => .error "KeyError"

/-- `_reconcile_eq_rows` -/
def reconcileEqRows (full : List FullTexts) (udiff : List UdiffTexts) :
    Except String (List (ListingKey × FullTexts × UdiffTexts)) := do
  let fullRows := full.map FullTexts.stripped
  raiseIf ((fullRows.map FullTexts.key).toFinset ≠ (udiff.map UdiffTexts.key).toFinset)
    "EQ coverage differs between full Bhavcopy and UDiFF"
  (sortOn toLex (fullRows.map FullTexts.key).dedup).mapM (reconcileKey fullRows udiff)

/-- `_CORE_FULL_BHAVCOPY_SERIES` -/
def coreFullBhavcopySeries : List String := ["EQ"]

/-- The body of the loop of `_validate_bundle_completeness` over the rows of a full report. -/
def crossCheckRow (udiffRows : List UdiffTexts) (full : FullTexts) : Except String Unit := do
  match lastUnder UdiffTexts.key udiffRows full.key with
  | none => .error "full Bhavcopy row is missing from same-date UDiFF"
  | some udiff =>
    checkExactFields "full Bhavcopy contradicts same-date UDiFF" full udiff
    checkDerivedValues 28 "full Bhavcopy derived values contradict same-date UDiFF" full udiff

/-- What `_validate_bundle_completeness` checks of a full report and the UDiFF report of its date. -/
def crossCheckBundle (full : List FullTexts) (udiff : List UdiffTexts) : Except String Unit := do
  let fullRows := full.map FullTexts.stripped
  fullRows.forM (crossCheckRow udiff)
  let coveredSeries := fullRows.map (·.series)
  let expectedKeys := (udiff.map UdiffTexts.key).filter (·.2 ∈ coveredSeries)
  raiseIf ((fullRows.map FullTexts.key).toFinset ≠ expectedKeys.toFinset)
    "full Bhavcopy incompletely covers a reported series"
  raiseIf (∃ series ∈ udiff.map UdiffTexts.sctySrs, series ∈ coreFullBhavcopySeries ∧ series ∉ coveredSeries)
    "full Bhavcopy omits a core equity series"

end Reconcilers

section Reports

/-- A UDiFF report that is accepted row by row. -/
structure UdiffReport (fromisoformat : String → Option CalendarDay) where
  claimedDate : CalendarDay
  rows : List UdiffTexts
  date : calendarDay claimedDate.year claimedDate.month claimedDate.day = some claimedDate
  accepted : parseUdiff fromisoformat claimedDate rows = .ok ()

/-- A full-delivery report that is accepted row by row. -/
structure FullReport where
  claimedDate : CalendarDay
  rows : List FullTexts
  accepted : parseFullDelivery claimedDate rows = .ok ()

end Reports

end LegacyArchive

end IndiaSwing
