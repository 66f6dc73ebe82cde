import IndiaSwing.ContentIds
import IndiaSwing.Lib.CivilTime
import IndiaSwing.Lib.DecimalContext
import IndiaSwing.Lib.DigitText
import IndiaSwing.Lib.ExceptGuards
import IndiaSwing.Lib.Grouping
import IndiaSwing.Lib.KeySort
import IndiaSwing.Lib.TextPatterns
import Mathlib.Data.Finset.Dedup
import Mathlib.Data.Prod.Lex
import Mathlib.Data.String.Basic

namespace IndiaSwing

open ExceptGuards KeySort Grouping DigitText TextPatterns CivilTime

namespace LegacyArchive

section Texts

/-- A decimal without a sign, as its digits and the number of them after the point. -/
structure PlainDecimal where
  digits : ℕ
  places : ℕ
  deriving DecidableEq, Repr

def PlainDecimal.value (d : PlainDecimal) : ℚ := d.digits / 10 ^ d.places

/-- `(?:0|[1-9][0-9]*)` -/
def isCanonicalNatural (text : List Char) : Bool :=
  text ≠ [] && text.all Char.isDigit && (text = ['0'] || text.head? ≠ some '0')

/-- `_unsigned_integer`, or `none` where it raises a `DailyReportError` -/
def unsignedInteger (minimum : ℕ) (text : String) : Option ℕ :=
  if isCanonicalNatural text.toList then
    let parsed := value text.toList
    if minimum ≤ parsed ∧ parsed ≤ 10 ^ 18 then some parsed else none
  else none

/-- `_zero_padded_unsigned_integer` -/
def zeroPaddedUnsignedInteger (text field : String) : Except String ℕ :=
  if text ≠ "" ∧ text.toList.all Char.isDigit then .ok (value text.toList)
  else .error (field ++ " is not an unsigned integer")

/-- `(?:0|[1-9][0-9]*)(?:\.[0-9]+)?` -/
def readDecimal (text : List Char) : Option PlainDecimal :=
  let whole := text.takeWhile Char.isDigit
  if isCanonicalNatural whole then
    match text.dropWhile Char.isDigit with
    | [] => some ⟨value whole, 0⟩
    | point :: fraction =>
      if point = '.' ∧ fraction ≠ [] ∧ fraction.all Char.isDigit then
        some ⟨value (whole ++ fraction), fraction.length⟩
      else none
  else none

/-- `_decimal`, or `none` where it raises a `DailyReportError` -/
def decimalAtMost (maximum : ℚ) (text : String) : Option PlainDecimal :=
  (readDecimal text.toList).filter fun d => d.value ≤ maximum

/-- The bound that `_decimal` has by default. -/
def maximumDecimal : ℚ := 100000000000000000000

def inClass (kind : Char → Bool) (maximum : ℕ) (text : String) : Bool :=
  text ≠ "" && text.toList.length ≤ maximum && text.toList.all kind

def isUpperDigit (c : Char) : Bool := c.isUpper || c.isDigit

/-- `[A-Z0-9&-]{1,25}` -/
def isSymbol : String → Bool := inClass (fun c => isUpperDigit c || c = '&' || c = '-') 25

/-- `[A-Z0-9]{1,3}` -/
def isSeries : String → Bool := inClass isUpperDigit 3

/-- `[A-Z0-9]{1,12}` -/
def isRawIdentifier : String → Bool := inClass isUpperDigit 12

/-- A day of the calendar: year, month and day. -/
structure CalendarDay where
  year : ℕ
  month : ℕ
  day : ℕ
  deriving DecidableEq, Repr

/-- `date(year, month, day)`, or `none` where it raises a `ValueError` -/
def calendarDay (year month day : ℕ) : Option CalendarDay :=
  if (1 ≤ year ∧ year ≤ 9999) ∧ (1 ≤ month ∧ month ≤ 12) ∧ 1 ≤ day ∧ day ≤ daysInMonth year month then
    some ⟨year, month, day⟩
  else none

def monthNames : List (String × ℕ) :=
  [("JAN", 1), ("FEB", 2), ("MAR", 3), ("APR", 4), ("MAY", 5), ("JUN", 6), ("JUL", 7), ("AUG", 8),
    ("SEP", 9), ("OCT", 10), ("NOV", 11), ("DEC", 12)]

/-- `_nse_text_date`, or `none` where it raises a `DailyReportError` -/
def nseTextDate (text : String) : Option CalendarDay :=
  match text.toList with
  | [d₁, d₂, '-', m₁, m₂, m₃, '-', y₁, y₂, y₃, y₄] => do
    let day ← decimalNumber [d₁, d₂]
    let year ← decimalNumber [y₁, y₂, y₃, y₄]
    let month ← monthNames.lookup (String.ofList ([m₁, m₂, m₃].map Char.toUpper))
    calendarDay year month day
  | _ => none

/-- What `%d` matches at the front of a text, in the order in which it is tried. -/
def dayChoices (text : List Char) : List (ℕ × List Char) :=
  let pair := match text with
    | a :: b :: rest =>
      match decimalDigit b with
      | some n =>
        if a = '3' ∧ (b = '0' ∨ b = '1') then [(30 + n, rest)]
        else if a = '1' then [(10 + n, rest)]
        else if a = '2' then [(20 + n, rest)]
        else if a = '0' ∧ '1' ≤ b ∧ b ≤ '9' then [(n, rest)]
        else []
      | none => []
    | _ => []
  let single := match text with
    | a :: rest => if '1' ≤ a ∧ a ≤ '9' then [(value [a], rest)] else []
    | [] => []
  let spaced := match text with
    | ' ' :: b :: rest => if '1' ≤ b ∧ b ≤ '9' then [(value [b], rest)] else []
    | _ => []
  pair ++ single ++ spaced

/-- What `%m` matches at the front of a text. -/
def monthChoices (text : List Char) : List (ℕ × List Char) :=
  let pair := match text with
    | '1' :: b :: rest => if '0' ≤ b ∧ b ≤ '2' then [(10 + value [b], rest)] else []
    | '0' :: b :: rest => if '1' ≤ b ∧ b ≤ '9' then [(value [b], rest)] else []
    | _ => []
  let single := match text with
    | a :: rest => if '1' ≤ a ∧ a ≤ '9' then [(value [a], rest)] else []
    | [] => []
  pair ++ single

/-- `_date_from_digits(value, "%d%m%Y", ...)`, or `none` where it raises a `DailyReportError`: what is
left after the first match is an error. -/
def dateFromDigits (text : String) : Option CalendarDay := do
  let matched := (dayChoices text.toList).flatMap fun day =>
    (monthChoices day.2).filterMap fun month =>
      match month.2 with
      | y₁ :: y₂ :: y₃ :: y₄ :: rest =>
        (decimalNumber [y₁, y₂, y₃, y₄]).map fun year => (year, month.1, day.1, rest)
      | _ => none
  let (year, month, day, rest) ← matched.head?
  if rest = [] then calendarDay year month day else none

end Texts

section Bhavcopy

def legacyFullBhavcopyHeaderNames : List String :=
  ["SYMBOL", "SERIES", "OPEN", "HIGH", "LOW", "CLOSE", "LAST", "PREVCLOSE", "TOTTRDQTY", "TOTTRDVAL",
    "TIMESTAMP", "TOTALTRADES", "ISIN"]

/-- The fields of a row under the names of the header. -/
structure BhavcopyTexts where
  symbol : String
  series : String
  «open» : String
  high : String
  low : String
  close : String
  last : String
  previousClose : String
  tradedQuantity : String
  tradedValue : String
  timestamp : String
  totalTrades : String
  isin : String
  deriving DecidableEq

/-- The fields after the last named one. -/
def terminalFields (requireTerminalEmpty : Bool) : List String := if requireTerminalEmpty then [""] else []

/-- `_field_map` of a row of the right width. -/
def bhavcopyTexts (requireTerminalEmpty : Bool) (row : List String) : Except String BhavcopyTexts :=
  match row with
  | symbol :: series :: «open» :: high :: low :: close :: last :: previousClose :: quantity :: traded ::
      timestamp :: trades :: isin :: terminal =>
    if terminal.length ≠ (terminalFields requireTerminalEmpty).length then
      .error "legacy Bhavcopy row width is inconsistent"
    else if terminal ≠ terminalFields requireTerminalEmpty then
      .error "legacy Bhavcopy row has a non-empty terminal field"
    else
      .ok ⟨symbol, series, «open», high, low, close, last, previousClose, quantity, traded, timestamp, trades,
        isin⟩
  | _ => .error "legacy Bhavcopy row width is inconsistent"

/-- The numbers of a row. -/
structure BhavcopyNumbers where
  «open» : PlainDecimal
  high : PlainDecimal
  low : PlainDecimal
  close : PlainDecimal
  last : PlainDecimal
  previousClose : PlainDecimal
  tradedQuantity : ℕ
  totalTradedValue : PlainDecimal
  totalTrades : ℕ
  deriving DecidableEq

/-- What is kept of an EQ row. -/
structure BhavcopyEqRow where
  symbol : String
  series : String
  isin : String
  numbers : BhavcopyNumbers
  deriving DecidableEq

abbrev ListingKey := String × String

/-- The checks of a row that come before its key is looked up. -/
def checkBhavcopyIdentity (session : CalendarDay) (texts : BhavcopyTexts) : Except String Unit := do
  match nseTextDate texts.timestamp with
  | none => .error "legacy Bhavcopy row validation failed"
  | some rowDate =>
    raiseIf (rowDate ≠ session) "legacy Bhavcopy row date disagrees with its session"
    raiseIf (¬isSymbol texts.symbol) "legacy Bhavcopy symbol is invalid"
    raiseIf (¬isSeries texts.series) "legacy Bhavcopy series is invalid"

/-- The numbers of a row, where they all parse. -/
def bhavcopyNumbers (texts : BhavcopyTexts) : Option BhavcopyNumbers := do
  let openPrice ← decimalAtMost maximumDecimal texts.«open»
  let high ← decimalAtMost maximumDecimal texts.high
  let low ← decimalAtMost maximumDecimal texts.low
  let close ← decimalAtMost maximumDecimal texts.close
  let last ← decimalAtMost maximumDecimal texts.last
  let previousClose ← decimalAtMost maximumDecimal texts.previousClose
  let tradedQuantity ← unsignedInteger 0 texts.tradedQuantity
  let totalTradedValue ← decimalAtMost maximumDecimal texts.tradedValue
  let totalTrades ← unsignedInteger 0 texts.totalTrades
  return ⟨openPrice, high, low, close, last, previousClose, tradedQuantity, totalTradedValue, totalTrades⟩

/-- The stricter constraints of the EQ lane. -/
def checkEqNumbers (n : BhavcopyNumbers) : Except String Unit := do
  raiseIf (n.open.value ≤ 0 ∨ n.high.value ≤ 0 ∨ n.low.value ≤ 0 ∨ n.close.value ≤ 0 ∨ n.last.value ≤ 0 ∨
      n.previousClose.value ≤ 0)
    "legacy Bhavcopy prices must be positive"
  raiseIf (n.high.value < max (max n.open.value n.low.value) (max n.last.value n.close.value) ∨
      min (min n.open.value n.high.value) (min n.last.value n.close.value) < n.low.value)
    "legacy Bhavcopy OHLC values are inconsistent"
  raiseIf (n.tradedQuantity < 1) "legacy Bhavcopy traded quantity must be positive"
  raiseIf (n.totalTrades < 1) "legacy Bhavcopy trade count must be positive"

/-- What a row gives after its key: an EQ row, or nothing. -/
def bhavcopyRowOutcome (texts : BhavcopyTexts) : Except String (Option BhavcopyEqRow) := do
  raiseIf (¬isRawIdentifier texts.isin) "legacy Bhavcopy ISIN is invalid"
  match bhavcopyNumbers texts with
  | none => .error "legacy Bhavcopy row validation failed"
  | some numbers =>
    if texts.series ≠ "EQ" then return none
    else do
      checkEqNumbers numbers
      return some ⟨texts.symbol, texts.series, texts.isin, numbers⟩

/-- The body of the loop over the rows: the key of a row, and what is kept of it. -/
def parseBhavcopyRow (requireTerminalEmpty : Bool) (session : CalendarDay) (seenKeys : List ListingKey)
    (row : List String) : Except String (ListingKey × Option BhavcopyEqRow) := do
  let texts ← bhavcopyTexts requireTerminalEmpty row
  checkBhavcopyIdentity session texts
  raiseIf ((texts.symbol, texts.series) ∈ seenKeys) "legacy Bhavcopy contains a duplicate listing key"
  let outcome ← bhavcopyRowOutcome texts
  return ((texts.symbol, texts.series), outcome)

/-- The loop over the rows. The rows that are kept come with their numbers. -/
def parseBhavcopyRows (requireTerminalEmpty : Bool) (session : CalendarDay) :
    ℕ → List ListingKey → List (List String) → Except String (List (ℕ × BhavcopyEqRow))
  | _, _, [] => .ok []
  | rowNumber, seenKeys, row :: rows => do
    let (key, outcome) ← parseBhavcopyRow requireTerminalEmpty session seenKeys row
    let eqRows ← parseBhavcopyRows requireTerminalEmpty session (rowNumber + 1) (key :: seenKeys) rows
    return (outcome.map fun eqRow => (rowNumber, eqRow)).toList ++ eqRows

/-- `_parse_legacy_full_bhavcopy` of the rows that the CSV reader gives, or of none where it fails -/
def parseLegacyFullBhavcopy (session : CalendarDay) (rows : Option (List (List String))) :
    Except String (List (ℕ × BhavcopyEqRow)) := do
  match rows with
  | none => .error "legacy Bhavcopy is not strict UTF-8 CSV"
  | some [] => .error "legacy Bhavcopy is empty"
  | some (header :: dataRows) =>
    raiseIf (header ≠ legacyFullBhavcopyHeaderNames ++ [""] ∧ header ≠ legacyFullBhavcopyHeaderNames)
      "legacy Bhavcopy header is not canonical"
    raiseIf (dataRows = []) "legacy Bhavcopy contains no data rows"
    let eqRows ← parseBhavcopyRows (header = legacyFullBhavcopyHeaderNames ++ [""]) session 2 [] dataRows
    raiseIf (eqRows = []) "legacy Bhavcopy contains no EQ rows"
    return eqRows

end Bhavcopy

section Mto

variable (ctx : DecimalContext)

def mtoTitleLine : String := "Security Wise Delivery Position - Compulsory Rolling Settlement"

def mtoHeaderRecord : List String :=
  ["Record Type", "Sr No", "Name of Security", "Quantity Traded",
    "Deliverable Quantity(gross across client level)", "% of Deliverable Quantity to Traded Quantity"]

/-- `quantize(Decimal("0.01"), rounding=ROUND_HALF_UP)` of a value that is not negative -/
def quantizeCents (amount : ℚ) : PlainDecimal := ⟨⌊amount * 100 + 1 / 2⌋.toNat, 2⟩

/-- What is between a front and a closing `>`, where there is no other `>`. -/
def bracketed (front : String) (text : String) : Option (List Char) :=
  if text.toList.take front.toList.length = front.toList then
    let inner := (text.toList.drop front.toList.length).dropLast
    if (text.toList.drop front.toList.length).getLast? = some '>' ∧ inner ≠ [] ∧ '>' ∉ inner then some inner
    else none
  else none

/-- The trade date and the settlement date of the settlement line, where it has one of its shapes. -/
def settlementDates (row : List String) : Option (List Char × Option (List Char)) :=
  match row with
  | [tradeField, typeField, noField, dateField] => do
    let trade ← (bracketed "Trade Date <" tradeField).orElse fun _ => bracketed "rade Date <" tradeField
    let kind ← bracketed "Settlement Type <" typeField
    let number ← bracketed "Settlement No <" noField
    let settlement ← bracketed "Settlement Date <" dateField
    if kind.length ≤ 10 ∧ kind.all isUpperDigit ∧ number.all Char.isDigit then some (trade, some settlement)
    else none
  | [tradeField, typeField] => do
    let trade ← bracketed "Trade Date <" tradeField
    let kind ← bracketed "Settlement Type <" typeField
    if kind.length ≤ 10 ∧ kind.all isUpperDigit then some (trade, none) else none
  | _ => none

structure MtoRow where
  symbol : String
  series : String
  tradedQuantity : ℕ
  deliverableQuantity : ℕ
  percent : PlainDecimal
  deriving DecidableEq

/-- The quantities and the percentage of a row, where they parse. -/
def mtoNumbers (symbol series traded deliverable percent : String) : Option MtoRow := do
  let tradedQuantity ← unsignedInteger 1 traded
  let deliverableQuantity ← unsignedInteger 0 deliverable
  let percentValue ← decimalAtMost 100 percent
  return ⟨symbol, series, tradedQuantity, deliverableQuantity, percentValue⟩

/-- What a row gives after its key. -/
def mtoRowOutcome (symbol series traded deliverable percent : String) : Except String MtoRow := do
  match mtoNumbers symbol series traded deliverable percent with
  | none => .error "MTO row validation failed"
  | some row =>
    raiseIf (row.tradedQuantity < row.deliverableQuantity) "MTO deliverable quantity exceeds traded quantity"
    let expectedPercent := quantizeCents (ctx.div (100 * row.deliverableQuantity) row.tradedQuantity)
    raiseIf (1 / 100 < |ctx.sub row.percent.value expectedPercent.value|)
      "MTO delivery percent disagrees with its traded and deliverable quantities"
    return row

/-- The body of the loop over the rows. -/
def parseMtoRow (index : ℕ) (seenKeys : List ListingKey) (row : List String) :
    Except String (ListingKey × MtoRow) := do
  match row with
  | [recordType, serialText, symbol, series, traded, deliverable, percent] =>
    raiseIf (recordType ≠ "20") "MTO record type is not canonical"
    match unsignedInteger 1 serialText with
    | none => .error "MTO row validation failed"
    | some serial =>
      raiseIf (serial ≠ index) "MTO serial numbers are not sequential"
      raiseIf (¬isSymbol symbol) "MTO symbol is invalid"
      raiseIf (¬isSeries series) "MTO series is invalid"
      raiseIf ((symbol, series) ∈ seenKeys) "MTO contains a duplicate listing key"
      let outcome ← mtoRowOutcome ctx symbol series traded deliverable percent
      return ((symbol, series), outcome)
  | _ => .error "MTO row width is inconsistent"

def parseMtoRows : ℕ → List ListingKey → List (List String) → Except String (List MtoRow)
  | _, _, [] => .ok []
  | index, seenKeys, row :: rows => do
    let (key, parsed) ← parseMtoRow ctx index seenKeys row
    let rest ← parseMtoRows (index + 1) (key :: seenKeys) rows
    return parsed :: rest

/-- The data rows, without one blank record at the end. -/
def mtoDataRows (rows : List (List String)) : List (List String) :=
  if (rows.drop 4).getLast? = some [] then (rows.drop 4).dropLast else rows.drop 4

/-- The checks of the four rows before the data: the total and the count of the control record. -/
def checkMtoFront (session : CalendarDay) (front : List (List String)) : Except String (ℕ × ℕ) := do
  match front with
  | [titleRow, controlRow, settlementRow, headerRow] =>
    raiseIf (titleRow ≠ [mtoTitleLine]) "MTO title line is not canonical"
    match controlRow with
    | ["10", "MTO", dateText, totalText, countText] =>
      match dateFromDigits dateText with
      | none => .error "MTO control record date is invalid"
      | some controlDate =>
        raiseIf (controlDate ≠ session) "MTO control record date disagrees with its session"
        let total ← zeroPaddedUnsignedInteger totalText "MTO control total deliverable quantity"
        let count ← zeroPaddedUnsignedInteger countText "MTO control record count"
        match settlementDates settlementRow with
        | none => .error "MTO settlement line is not canonical"
        | some (tradeText, settlementText) =>
          match nseTextDate (String.ofList tradeText) with
          | none => .error "MTO settlement line dates are invalid"
          | some tradeDate =>
            raiseIf (settlementText.any fun text => (nseTextDate (String.ofList text)).isNone)
              "MTO settlement line dates are invalid"
            raiseIf (tradeDate ≠ session) "MTO trade date disagrees with its session"
            raiseIf (headerRow ≠ mtoHeaderRecord) "MTO header record is not canonical"
            return (total, count)
    | _ => .error "MTO control record is not canonical"
  | _ => .error "MTO is missing its required structure"

/-- `_parse_legacy_mto` of the rows that the CSV reader gives, or of none where it fails -/
def parseLegacyMto (session : CalendarDay) (rows : Option (List (List String))) :
    Except String (List MtoRow) := do
  match rows with
  | none => .error "MTO is not strict UTF-8 CSV"
  | some rows =>
    let (total, count) ← checkMtoFront session (rows.take 4)
    raiseIf (mtoDataRows rows = []) "MTO contains no data rows"
    let parsed ← parseMtoRows ctx 1 [] (mtoDataRows rows)
    raiseIf (count ≠ parsed.length ∨ total ≠ (parsed.map (·.deliverableQuantity)).sum)
      "MTO control accounting disagrees with its data rows"
    return parsed

end Mto

section Records

structure ZipEntry (β : Type) where
  filename : String
  isDirectory : Bool
  validInfo : Bool
  fileSize : ℕ
  crcValid : Bool
  content : β

/-- The readers of containers and of CSV texts, and the digests of contents. -/
structure PayloadReader (β : Type) where
  zipEntries : β → Option (List (ZipEntry β))
  isEmpty : β → Bool
  csvRows : β → Option (List (List String))
  sha256 : β → ContentId

def maximumEntryBytes : ℕ := 64 * 1024 * 1024

def maximumRecords : ℕ := 20000

def monthAbbreviation (month : ℕ) : String :=
  (monthNames.find? (·.2 = month)).elim "" (·.1)

/-- `_legacy_bhavcopy_stem` -/
def legacyBhavcopyStem (session : CalendarDay) : String :=
  "cm" ++ String.ofList (padded 2 session.day) ++ monthAbbreviation session.month ++
    String.ofList (padded 4 session.year) ++ "bhav"

variable {β : Type} (reader : PayloadReader β) (ctx : DecimalContext)

/-- `_legacy_full_bhavcopy_csv` -/
def legacyFullBhavcopyCsv (session : CalendarDay) (payload : β) : Except String (String × β) := do
  let innerName := legacyBhavcopyStem session ++ ".csv"
  match reader.zipEntries payload with
  | none => .error "legacy Bhavcopy container is invalid"
  | some [info] =>
    raiseIf (info.isDirectory ∨ info.filename ≠ innerName)
      "legacy Bhavcopy container must contain exactly its canonical CSV"
    raiseIf (¬info.validInfo) "daily-bundle entry is invalid"
    raiseIf (maximumEntryBytes < info.fileSize) "legacy Bhavcopy inner CSV exceeds its size limit"
    raiseIf (¬info.crcValid) "legacy Bhavcopy CRC verification failed"
    raiseIf (reader.isEmpty info.content) "legacy Bhavcopy inner CSV is empty"
    return (innerName, info.content)
  | some _ => .error "legacy Bhavcopy container must contain exactly its canonical CSV"

structure EqRecord where
  session : CalendarDay
  listingKey : String
  symbol : String
  series : String
  previousClose : PlainDecimal
  «open» : PlainDecimal
  high : PlainDecimal
  low : PlainDecimal
  last : PlainDecimal
  close : PlainDecimal
  averagePrice : PlainDecimal
  volume : ℕ
  turnoverLacs : PlainDecimal
  tradeCount : ℕ
  deliveryQuantity : ℕ
  deliveryPercent : PlainDecimal
  deriving DecidableEq

structure IdentityIssue where
  session : CalendarDay
  listingKey : String
  series : String
  deriving DecidableEq

structure SourceIdentityClaim where
  session : CalendarDay
  listingKey : String
  symbol : String
  series : String
  claimedIsin : String
  sourceEntryName : String
  sourceEntrySha256 : ContentId
  sourceRowNumber : ℕ
  deriving DecidableEq

def listingKeyText (symbol : String) : String := "NSE:" ++ symbol

/-- The record of an EQ row and its delivery row. -/
def eqRecord (session : CalendarDay) (bhav : BhavcopyEqRow) (mto : MtoRow) : EqRecord where
  session := session
  listingKey := listingKeyText bhav.symbol
  symbol := bhav.symbol
  series := bhav.series
  previousClose := bhav.numbers.previousClose
  «open» := bhav.numbers.open
  high := bhav.numbers.high
  low := bhav.numbers.low
  last := bhav.numbers.last
  close := bhav.numbers.close
  averagePrice := quantizeCents (ctx.div bhav.numbers.totalTradedValue.value bhav.numbers.tradedQuantity)
  volume := bhav.numbers.tradedQuantity
  turnoverLacs := quantizeCents (ctx.div bhav.numbers.totalTradedValue.value 100000)
  tradeCount := bhav.numbers.totalTrades
  deliveryQuantity := mto.deliverableQuantity
  deliveryPercent := mto.percent

def bhavcopyKey (row : ℕ × BhavcopyEqRow) : ListingKey := (row.2.symbol, row.2.series)

def mtoKey (row : MtoRow) : ListingKey := (row.symbol, row.series)

/-- The body of the loop over the keys. -/
def joinKey (session : CalendarDay) (innerName : String) (innerSha256 : ContentId)
    (bhavcopyRows : List (ℕ × BhavcopyEqRow)) (mtoRows : List MtoRow) (key : ListingKey) :
    Except String (EqRecord × IdentityIssue × SourceIdentityClaim) :=
  match lastUnder bhavcopyKey bhavcopyRows key, lastUnder mtoKey mtoRows key with
  | some (rowNumber, bhav), some mto => do
    raiseIf (bhav.numbers.tradedQuantity ≠ mto.tradedQuantity)
      "EQ traded quantity disagrees between legacy Bhavcopy and MTO"
    return (eqRecord ctx session bhav mto, ⟨session, listingKeyText bhav.symbol, bhav.series⟩,
      ⟨session, listingKeyText bhav.symbol, bhav.symbol, bhav.series, bhav.isin, innerName, innerSha256,
        rowNumber⟩)
  | _, _ => .error "KeyError"

/-- `_legacy_unreconciled_eq_records` -/
def legacyUnreconciledEqRecords (session : CalendarDay) (zipPayload mtoPayload : β) :
    Except String (List EqRecord × List IdentityIssue × List SourceIdentityClaim) := do
  let (innerName, innerPayload) ← legacyFullBhavcopyCsv reader session zipPayload
  let bhavcopyRows ← parseLegacyFullBhavcopy session (reader.csvRows innerPayload)
  let allMtoRows ← parseLegacyMto ctx session (reader.csvRows mtoPayload)
  let mtoRows := allMtoRows.filter (·.series = "EQ")
  raiseIf (bhavcopyRows = [] ∨ mtoRows = []) "legacy pair contains no EQ rows"
  raiseIf ((bhavcopyRows.map bhavcopyKey).toFinset ≠ (mtoRows.map mtoKey).toFinset)
    "EQ coverage differs between legacy Bhavcopy and MTO"
  let joined ← (sortOn toLex (bhavcopyRows.map bhavcopyKey).dedup).mapM
    (joinKey ctx session innerName (reader.sha256 innerPayload) bhavcopyRows mtoRows)
  raiseIf (joined = [] ∨ maximumRecords < joined.length)
    "historical archive EQ record count is outside limits"
  return (joined.map (·.1), joined.map (·.2.1), joined.map (·.2.2))

end Records

end LegacyArchive

end IndiaSwing
