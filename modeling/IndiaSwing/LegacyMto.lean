import IndiaSwing.LegacyArchiveRecords
import IndiaSwing.Lib.DecimalPrecision
import IndiaSwing.PaiseRounding

namespace IndiaSwing

open ExceptGuards KeySort Grouping DigitText TextPatterns LegacyArchive

namespace LegacyMto

section Faults

/-- An `NseHistoricalArchiveIntegrityError`, or the `ValueError` of `int` on too many digits. -/
inductive Fault where
  | integrity (message : String)
  | valueError
  deriving DecidableEq, Repr

/-- The digits that `int` converts at most. -/
def maximumDigits : ℕ := 4300

/-- `int` of a text of digits -/
def intOf (text : List Char) : Except Fault ℕ :=
  if maximumDigits < text.length then .error .valueError else .ok (value text)

/-- `_zero_padded_unsigned_integer` -/
def zeroPaddedUnsignedInteger (text field : String) : Except Fault ℕ :=
  if text ≠ "" ∧ text.toList.all Char.isDigit then intOf text.toList
  else .error (.integrity (field ++ " is not an unsigned integer"))

/-- `_unsigned_integer` of a field of a row, with its error as it is caught around the rows -/
def unsignedInteger (minimum : ℕ) (text : String) : Except Fault ℕ :=
  if isCanonicalNatural text.toList then do
    let parsed ← intOf text.toList
    if minimum ≤ parsed ∧ parsed ≤ 10 ^ 18 then return parsed else .error (.integrity "MTO row validation failed")
  else .error (.integrity "MTO row validation failed")

end Faults

section Parsing

/-- The context of the percentages. -/
def percentContext : DecimalContext := .ofPrecision 50

/-- The checks of a row after its quantities. -/
def deliveryLine (symbol series : String) (tradedQuantity deliverableQuantity : ℕ) (percent : String) : Except Fault MtoRow := do
  match decimalAtMost 100 percent with
  | none => .error (.integrity "MTO row validation failed")
  | some percentValue =>
    raiseIf (tradedQuantity < deliverableQuantity) (.integrity "MTO deliverable quantity exceeds traded quantity")
    let expectedPercent := quantizeCents (percentContext.div (100 * deliverableQuantity) tradedQuantity)
    raiseIf (1 / 100 < |percentContext.sub percentValue.value expectedPercent.value|)
      (.integrity "MTO delivery percent disagrees with its traded and deliverable quantities")
    return ⟨symbol, series, tradedQuantity, deliverableQuantity, percentValue⟩

/-- The quantities and the percentage of a row after its key. -/
def rowOutcome (symbol series traded deliverable percent : String) : Except Fault MtoRow := do
  let tradedQuantity ← unsignedInteger 1 traded
  let deliverableQuantity ← unsignedInteger 0 deliverable
  deliveryLine symbol series tradedQuantity deliverableQuantity percent

local instance lawfulListingKey : LawfulBEq ListingKey := inferInstanceAs (LawfulBEq (String × String))

/-- The body of the loop over the rows. -/
def parseRow (index : ℕ) (seenKeys : List ListingKey) (row : List String) : Except Fault (ListingKey × MtoRow) := do
  match row with
  | [recordType, serialText, symbol, series, traded, deliverable, percent] =>
    raiseIf (recordType ≠ "20") (.integrity "MTO record type is not canonical")
    let serial ← unsignedInteger 1 serialText
    raiseIf (serial ≠ index) (.integrity "MTO serial numbers are not sequential")
    raiseIf (¬isSymbol symbol) (.integrity "MTO symbol is invalid")
    raiseIf (¬isSeries series) (.integrity "MTO series is invalid")
    raiseIf ((symbol, series) ∈ seenKeys) (.integrity "MTO contains a duplicate listing key")
    let outcome ← rowOutcome symbol series traded deliverable percent
    return ((symbol, series), outcome)
  | _ => .error (.integrity "MTO row width is inconsistent")

def parseRows : ℕ → List ListingKey → List (List String) → Except Fault (List MtoRow)
  | _, _, [] => .ok []
  | index, seenKeys, row :: rows => do
    let (key, parsed) ← parseRow index seenKeys row
    let rest ← parseRows (index + 1) (key :: seenKeys) rows
    return parsed :: rest

/-- The checks of the settlement line and of the header record. -/
def checkSettlement (session : CalendarDay) (settlementRow headerRow : List String) : Except Fault Unit := do
  match settlementDates settlementRow with
  | none => .error (.integrity "MTO settlement line is not canonical")
  | some (tradeText, settlementText) =>
    match nseTextDate (String.ofList tradeText) with
    | none => .error (.integrity "MTO settlement line dates are invalid")
    | some tradeDate =>
      raiseIf (settlementText.any fun text => (nseTextDate (String.ofList text)).isNone)
        (.integrity "MTO settlement line dates are invalid")
      raiseIf (tradeDate ≠ session) (.integrity "MTO trade date disagrees with its session")
      raiseIf (headerRow ≠ mtoHeaderRecord) (.integrity "MTO header record is not canonical")

/-- The checks of the four rows before the data: the total and the count of the control record. -/
def checkFront (session : CalendarDay) (front : List (List String)) : Except Fault (ℕ × ℕ) := do
  match front with
  | [titleRow, controlRow, settlementRow, headerRow] =>
    raiseIf (titleRow ≠ [mtoTitleLine]) (.integrity "MTO title line is not canonical")
    match controlRow with
    | [recordType, kind, dateText, totalText, countText] =>
      raiseIf (recordType ≠ "10" ∨ kind ≠ "MTO") (.integrity "MTO control record is not canonical")
      match dateFromDigits dateText with
      | none => .error (.integrity "MTO control record date is invalid")
      | some controlDate =>
        raiseIf (controlDate ≠ session) (.integrity "MTO control record date disagrees with its session")
        let total ← zeroPaddedUnsignedInteger totalText "MTO control total deliverable quantity"
        let count ← zeroPaddedUnsignedInteger countText "MTO control record count"
        checkSettlement session settlementRow headerRow
        return (total, count)
    | _ => .error (.integrity "MTO control record is not canonical")
  | _ => .error (.integrity "MTO is missing its required structure")

/-- `_parse_legacy_mto` of the rows that the CSV reader gives -/
def parseLegacyMto (session : CalendarDay) (rows : List (List String)) : Except Fault (List MtoRow) := do
  let (total, count) ← checkFront session (rows.take 4)
  raiseIf (mtoDataRows rows = []) (.integrity "MTO contains no data rows")
  let parsed ← parseRows 1 [] (mtoDataRows rows)
  raiseIf (count ≠ parsed.length ∨ total ≠ (parsed.map (·.deliverableQuantity)).sum)
    (.integrity "MTO control accounting disagrees with its data rows")
  return parsed

end Parsing

section Grammar

/-- How the dates of a file may be written, and how far a percentage may be from the rounded ratio. -/
structure Lexis where
  controlDate : CalendarDay → String → Prop
  textDate : CalendarDay → List Char → Prop
  tolerance : ℚ

/-- Eight digits, `dd-Mon-yyyy` in digits and letters, and one hundredth. -/
def Lexis.strict : Lexis where
  controlDate date text := text.toList = padded 2 date.day ++ padded 2 date.month ++ padded 4 date.year
  textDate date text := ∃ a b c, monthNames.lookup (String.ofList ([a, b, c].map Char.toUpper)) = some date.month ∧
    calendarDay date.year date.month date.day = some date ∧
      text = padded 2 date.day ++ '-' :: a :: b :: c :: '-' :: padded 4 date.year
  tolerance := 1 / 100

/-- What `strptime` and `\d` read as a date, and one hundredth before rounding to fifty digits. -/
def Lexis.asRead : Lexis where
  controlDate date text := dateFromDigits text = some date
  textDate date text := nseTextDate (String.ofList text) = some date
  tolerance := 1 / 100 + 5 / 10 ^ 52

variable (lexis : Lexis) (session : CalendarDay)

/-- A text in angle brackets after a front. -/
def bracketText (front : String) (inner : List Char) : String := String.ofList (front.toList ++ inner ++ ['>'])

/-- The text between the brackets of a field. -/
def Bracketed (inner : List Char) : Prop := inner ≠ [] ∧ '>' ∉ inner

/-- The three shapes of the settlement line. -/
inductive SettlementLine : List String → Prop
  | full {front : String} {trade kind number settlement : List Char} {date : CalendarDay}
      (hfront : front = "Trade Date <" ∨ front = "rade Date <")
      (htrade : Bracketed trade ∧ lexis.textDate session trade)
      (hkind : kind ≠ [] ∧ kind.length ≤ 10 ∧ kind.all isUpperDigit = true)
      (hnumber : number ≠ [] ∧ number.all Char.isDigit = true)
      (hsettlement : Bracketed settlement ∧ lexis.textDate date settlement) :
      SettlementLine [bracketText front trade, bracketText "Settlement Type <" kind, bracketText "Settlement No <" number,
        bracketText "Settlement Date <" settlement]
  | short {trade kind : List Char} (htrade : Bracketed trade ∧ lexis.textDate session trade)
      (hkind : kind ≠ [] ∧ kind.length ≤ 10 ∧ kind.all isUpperDigit = true) :
      SettlementLine [bracketText "Trade Date <" trade, bracketText "Settlement Type <" kind]

/-- An unsigned integer without a leading zero, within its range. -/
structure IntegerText (minimum : ℕ) (text : String) (n : ℕ) : Prop where
  canonical : isCanonicalNatural text.toList = true
  value_eq : value text.toList = n
  low : minimum ≤ n
  high : n ≤ 10 ^ 18

/-- A seven-field row of type 20 with a serial number. -/
structure RowText (row : List String) (serial : ℕ) (line : MtoRow) : Prop where
  fields : ∃ serialText traded deliverable percent : String,
    row = ["20", serialText, line.symbol, line.series, traded, deliverable, percent] ∧ IntegerText 1 serialText serial ∧
      IntegerText 1 traded line.tradedQuantity ∧ IntegerText 0 deliverable line.deliverableQuantity ∧
        readDecimal percent.toList = some line.percent
  symbol : isSymbol line.symbol = true
  series : isSeries line.series = true
  percent_le : line.percent.value ≤ 100
  deliverable_le : line.deliverableQuantity ≤ line.tradedQuantity
  close : |line.percent.value - (quantizeCents (100 * line.deliverableQuantity / line.tradedQuantity)).value| ≤ lexis.tolerance

/-- A text of digits, with leading zeros or without. -/
def PaddedText (text : String) (n : ℕ) : Prop := (text ≠ "" ∧ text.toList.all Char.isDigit = true) ∧ value text.toList = n

/-- The file with these rows, followed by one blank record or by none. -/
structure Grammar (rows : List (List String)) (lines : List MtoRow) : Prop where
  file : ∃ (date total count : String) (settlement : List String) (data trailing : List (List String)),
    rows = [mtoTitleLine] :: ["10", "MTO", date, total, count] :: settlement :: mtoHeaderRecord :: (data ++ trailing) ∧
      (trailing = [] ∨ trailing = [[]]) ∧ lexis.controlDate session date ∧ SettlementLine lexis session settlement ∧
        PaddedText total (lines.map (·.deliverableQuantity)).sum ∧ PaddedText count lines.length ∧
          List.Forall₂ (fun row line => RowText lexis row.1 row.2 line) (data.zipIdx 1) lines
  lines_ne_nil : lines ≠ []
  keys : (lines.map mtoKey).Nodup

end Grammar

section Reaching

/-- A text of digits that `int` does not convert. -/
def Overlong (text : String) : Prop := maximumDigits < text.toList.length

def AllDigits (text : String) : Prop := text ≠ "" ∧ text.toList.all Char.isDigit = true

def Canonical (text : String) : Prop := isCanonicalNatural text.toList = true

variable (session : CalendarDay) (rows : List (List String))

/-- The title line and a control record of the session, with an overlong number as the first one out of order. -/
def OverlongControl : Prop :=
  ∃ date total count settlement header data,
    rows = [mtoTitleLine] :: ["10", "MTO", date, total, count] :: settlement :: header :: data ∧
      Lexis.asRead.controlDate session date ∧ AllDigits total ∧ (Overlong total ∨ AllDigits count ∧ Overlong count)

/-- A row that is in order up to an overlong number. -/
def OverlongRow (seen : List ListingKey) (index : ℕ) (row : List String) : Prop :=
  ∃ serial symbol series traded deliverable percent : String,
    row = ["20", serial, symbol, series, traded, deliverable, percent] ∧
      (Canonical serial ∧ Overlong serial ∨
        IntegerText 1 serial index ∧ isSymbol symbol = true ∧ isSeries series = true ∧ (symbol, series) ∉ seen ∧
          (Canonical traded ∧ Overlong traded ∨
            (∃ n, IntegerText 1 traded n) ∧ Canonical deliverable ∧ Overlong deliverable))

/-- Four rows in order, and after them rows in order up to one with an overlong number. -/
def OverlongData : Prop :=
  (∃ date total count settlement data,
    rows = [mtoTitleLine] :: ["10", "MTO", date, total, count] :: settlement :: mtoHeaderRecord :: data ∧
      Lexis.asRead.controlDate session date ∧ SettlementLine .asRead session settlement ∧
        (AllDigits total ∧ ¬Overlong total) ∧ AllDigits count ∧ ¬Overlong count) ∧
    ∃ before row after lines, mtoDataRows rows = before ++ row :: after ∧
      List.Forall₂ (fun row line => RowText .asRead row.1 row.2 line) (before.zipIdx 1) lines ∧
        (lines.map mtoKey).Nodup ∧ OverlongRow (lines.map mtoKey) (before.length + 1) row

end Reaching

section Fields

variable {text field : String} {chars : List Char} {minimum n : ℕ}

theorem intOf_eq_ok : intOf chars = .ok n ↔ ¬maximumDigits < chars.length ∧ value chars = n := by
  unfold intOf
  split
  next hlong =>
    constructor
    · intro h
      cases h
    · rintro ⟨hshort, -⟩
      exact absurd hlong hshort
  next hshort =>
    rw [Except.ok.injEq]
    exact ⟨fun h => ⟨hshort, h⟩, fun h => h.2⟩

theorem zeroPaddedUnsignedInteger_eq_ok : zeroPaddedUnsignedInteger text field = .ok n ↔
    AllDigits text ∧ ¬Overlong text ∧ value text.toList = n := by
  unfold zeroPaddedUnsignedInteger
  split
  next hdigits => exact ⟨fun h => ⟨hdigits, intOf_eq_ok.mp h⟩, fun h => intOf_eq_ok.mpr h.2⟩
  next hdigits =>
    constructor
    · intro h
      cases h
    · rintro ⟨h, -⟩
      exact absurd h hdigits

theorem zeroPaddedUnsignedInteger_eq_valueError : zeroPaddedUnsignedInteger text field = .error .valueError ↔
    AllDigits text ∧ Overlong text := by
  unfold zeroPaddedUnsignedInteger intOf
  split
  next hdigits =>
    split
    next hlong => exact iff_of_true rfl ⟨hdigits, hlong⟩
    next hshort => exact iff_of_false (fun h => by cases h) fun h => hshort h.2
  next hdigits => exact iff_of_false (fun h => by cases h) fun h => hdigits h.1

/-- A number with a first digit other than zero is as large as its length says. -/
theorem pow_le_value {c : Char} (hdigit : c.isDigit = true) (hzero : c ≠ '0') :
    10 ^ chars.length ≤ value (c :: chars) := by
  have hpositive : 1 ≤ c.toNat - 48 := by
    obtain ⟨hlow, -⟩ := range_of_isDigit hdigit
    have hne : c.toNat ≠ 48 := fun h => hzero (Char.toNat_inj.mp h)
    omega
  unfold value
  rw [Nat.ofDigitChars_cons, Nat.ofDigitChars_eq_ofDigitChars_zero]
  have hstep : 10 ^ chars.length * 1 ≤ 10 ^ chars.length * (10 * 0 + (c.toNat - 48)) :=
    Nat.mul_le_mul_left _ (by omega)
  have hzeroChar : '0'.toNat = 48 := rfl
  rw [hzeroChar]
  omega

/-- A number within the range has few digits. -/
theorem IntegerText.short (h : IntegerText minimum text n) : ¬Overlong text := by
  intro hlong
  unfold Overlong maximumDigits at hlong
  have hcanonical := h.canonical
  cases hchars : text.toList with
  | nil =>
    rw [hchars] at hlong
    cases hlong
  | cons c chars =>
    rw [hchars] at hcanonical hlong
    simp only [isCanonicalNatural, Bool.and_eq_true, Bool.or_eq_true, decide_eq_true_eq, List.all_eq_true] at hcanonical
    have hzero : c ≠ '0' := by
      rintro rfl
      rcases hcanonical.2 with hsingle | hhead
      · rw [hsingle] at hlong
        exact absurd hlong (by decide)
      · exact hhead rfl
    have hle : 10 ^ chars.length ≤ value (c :: chars) := pow_le_value (hcanonical.1.2 c List.mem_cons_self) hzero
    have hvalue := h.value_eq
    rw [hchars] at hvalue
    rw [hvalue] at hle
    have hlength : 19 ≤ chars.length := by
      rw [List.length_cons] at hlong
      omega
    have hpow : 10 ^ 19 ≤ 10 ^ chars.length := Nat.pow_le_pow_right (by decide) hlength
    have hhigh := h.high
    omega

theorem unsignedInteger_eq_ok : unsignedInteger minimum text = .ok n ↔ IntegerText minimum text n := by
  constructor
  · intro h
    unfold unsignedInteger at h
    split at h
    next hcanonical =>
      obtain ⟨parsed, hparsed, h⟩ := bind_eq_ok.mp h
      split at h
      next hrange =>
        obtain rfl := Except.ok.inj h
        exact ⟨hcanonical, (intOf_eq_ok.mp hparsed).2, hrange.1, hrange.2⟩
      next => cases h
    next => cases h
  · intro h
    unfold unsignedInteger
    rw [if_pos h.canonical, intOf_eq_ok.mpr ⟨h.short, h.value_eq⟩, ok_bind, if_pos ⟨h.low, h.high⟩]
    rfl

theorem unsignedInteger_eq_valueError : unsignedInteger minimum text = .error .valueError ↔
    Canonical text ∧ Overlong text := by
  unfold unsignedInteger
  split
  next hcanonical =>
    by_cases hlong : Overlong text
    · have hint : intOf text.toList = .error .valueError := if_pos hlong
      rw [hint]
      exact iff_of_true rfl ⟨hcanonical, hlong⟩
    · refine iff_of_false (fun h => ?_) fun h => hlong h.2
      rw [intOf_eq_ok.mpr ⟨hlong, rfl⟩, ok_bind] at h
      split at h <;> cases h
  next hcanonical => exact iff_of_false (fun h => by cases h) fun h => hcanonical h.1

end Fields

section Percentages

variable {traded deliverable : ℕ} {percent : ℚ}

/-- Enough digits decide on the side of half a paisa of a ratio of quantities. -/
theorem reach_le_ratio {digits m : ℕ} (hdigits : 50 ≤ digits) (hm : m < 10 ^ 22) (hpos : 1 ≤ traded)
    (htraded : traded ≤ 10 ^ 18) : reach digits m ≤ 100 * deliverable / traded ↔ halfPaisa m ≤ 100 * (deliverable : ℚ) / traded := by
  have hcast : (0 : ℚ) < traded := by exact_mod_cast hpos
  have hbound : (traded : ℚ) ≤ 10 ^ 18 := by exact_mod_cast htraded
  unfold reach
  constructor
  · intro h
    by_contra hbelow
    rw [not_le, div_lt_iff₀ hcast] at hbelow
    have hlog : Int.log 10 (halfPaisa m) < 21 := by
      refine (Int.lt_zpow_iff_log_lt (by norm_num) (halfPaisa_pos m)).mp ?_
      have hlarge : (m : ℚ) < 10 ^ 22 := by exact_mod_cast hm
      unfold halfPaisa
      norm_num
      linarith
    have hplace : (10 : ℚ) ^ (Int.log 10 (halfPaisa m) - digits) ≤ 1 / 10 ^ 30 := by
      have hpower : (10 : ℚ) ^ (-30 : ℤ) = 1 / 10 ^ 30 := by norm_num
      rw [← hpower]
      exact zpow_le_zpow_right₀ (by norm_num) (by omega)
    -- a ratio below half a paisa is below it by more than rounding reaches
    have hgap : (20000 * deliverable + 1 : ℚ) ≤ (2 * m + 1) * traded := by
      have hlt : ((20000 * deliverable : ℕ) : ℚ) < ((2 * m + 1) * traded : ℕ) := by
        unfold halfPaisa at hbelow
        push_cast
        linarith
      exact_mod_cast hlt
    have hclose : (halfPaisa m - 5 * (1 / 10 ^ 30)) * traded ≤ 100 * deliverable := by
      rw [← le_div_iff₀ hcast]
      linarith
    have hsmall : 5 * (1 / 10 ^ 30) * (traded : ℚ) < 1 / 200 := by
      norm_num
      linarith
    unfold halfPaisa at hclose
    linarith
  · intro h
    have hplace : (0 : ℚ) < 10 ^ (Int.log 10 (halfPaisa m) - digits) := by positivity
    linarith

/-- The ratio of the quantities in fifty digits, to the hundredth, is that of the exact ratio. -/
theorem quantizeCents_ratio (hpos : 1 ≤ traded) (htraded : traded ≤ 10 ^ 18) (hle : deliverable ≤ traded) :
    quantizeCents (percentContext.div (100 * deliverable) traded) = quantizeCents (100 * deliverable / traded) := by
  have hcast : (0 : ℚ) < traded := by exact_mod_cast hpos
  have hratio : 100 * (deliverable : ℚ) / traded ≤ maximumDecimal := by
    have hcastLe : (deliverable : ℚ) ≤ traded := by exact_mod_cast hle
    rw [div_le_iff₀ hcast]
    unfold maximumDecimal
    linarith
  have hnonneg : 0 ≤ 100 * (deliverable : ℚ) / traded := by positivity
  rcases eq_or_lt_of_le hnonneg with hzero | hratioPos
  · unfold DecimalContext.div percentContext
    rw [← hzero, DecimalContext.ofPrecision_zero]
  have hsame : (quantizeCents (percentContext.div (100 * deliverable) traded)).digits =
      (quantizeCents (100 * deliverable / traded)).digits := by
    refine eq_of_forall_lt_iff fun m => ?_
    by_cases hm : m < 10 ^ 22
    · have hround := lt_digits_round (by decide : 28 ≤ 50) hm hratioPos
      rw [reach_le_ratio le_rfl hm hpos htraded, ← lt_digits_quantizeCents] at hround
      exact hround
    · have hrounded := digits_quantizeCents_le (round_le_maximum (by decide : 23 ≤ 50) hnonneg hratio)
      have hexact := digits_quantizeCents_le hratio
      have hdiv : percentContext.div (100 * deliverable) traded =
          (DecimalContext.ofPrecision 50).round (100 * deliverable / traded) := rfl
      rw [hdiv]
      omega
  unfold quantizeCents at hsame ⊢
  rw [PlainDecimal.mk.injEq]
  exact ⟨hsame, rfl⟩

/-- The check of the percentage, as a bound on the exact difference. -/
theorem close_iff {expected : ℚ} : ¬1 / 100 < |percentContext.sub percent expected| ↔
    |percent - expected| ≤ Lexis.asRead.tolerance := by
  have hreach := @DecimalContext.ofPrecision_le_pow_iff 50 _ (by decide) (-2) (abs_nonneg (percent - expected))
  have hpower : ((10 : ℚ) ^ (-2 : ℤ)) = 1 / 100 := by norm_num
  have hplace : (5 : ℚ) * 10 ^ (-2 - ((50 : ℕ) : ℤ)) = 5 / 10 ^ 52 := by norm_num
  rw [hpower, hplace, ← DecimalContext.abs_ofPrecision] at hreach
  exact not_lt.trans hreach

end Percentages

section Rows

variable {symbol series traded deliverable percent : String} {line : MtoRow} {lines : List MtoRow} {n : ℕ}
variable {row : List String} {rows : List (List String)} {seen seen' : List ListingKey} {read : ListingKey × MtoRow}

theorem decimalAtMost_eq_some {maximum : ℚ} {text : String} {d : PlainDecimal} : decimalAtMost maximum text = some d ↔
    readDecimal text.toList = some d ∧ d.value ≤ maximum := by
  unfold decimalAtMost
  rw [Option.filter_eq_some_iff, decide_eq_true_eq]

/-- The texts of a row after its key are those of a line. -/
structure OutcomeText (symbol series traded deliverable percent : String) (line : MtoRow) : Prop where
  names : line.symbol = symbol ∧ line.series = series
  tradedQuantity : IntegerText 1 traded line.tradedQuantity
  deliverableQuantity : IntegerText 0 deliverable line.deliverableQuantity
  percent : readDecimal percent.toList = some line.percent ∧ line.percent.value ≤ 100
  deliverable_le : line.deliverableQuantity ≤ line.tradedQuantity
  close : |line.percent.value - (quantizeCents (100 * line.deliverableQuantity / line.tradedQuantity)).value| ≤
    Lexis.asRead.tolerance

theorem rowOutcome_eq_ok : rowOutcome symbol series traded deliverable percent = .ok line ↔
    OutcomeText symbol series traded deliverable percent line := by
  unfold rowOutcome deliveryLine
  constructor
  · intro h
    obtain ⟨tradedQuantity, htraded, h⟩ := bind_eq_ok.mp h
    obtain ⟨deliverableQuantity, hdeliverable, h⟩ := bind_eq_ok.mp h
    rw [unsignedInteger_eq_ok] at htraded hdeliverable
    cases hpercent : decimalAtMost 100 percent with
    | none =>
      rw [hpercent] at h
      cases h
    | some value =>
      rw [hpercent] at h
      dsimp only at h
      obtain ⟨hle, h⟩ := raiseIf_bind_eq_ok.mp h
      obtain ⟨hclose, h⟩ := raiseIf_bind_eq_ok.mp h
      obtain rfl := Except.ok.inj h
      rw [close_iff, quantizeCents_ratio htraded.low htraded.high (not_lt.mp hle)] at hclose
      exact ⟨⟨rfl, rfl⟩, htraded, hdeliverable, decimalAtMost_eq_some.mp hpercent, not_lt.mp hle, hclose⟩
  · intro h
    obtain ⟨⟨rfl, rfl⟩, htraded, hdeliverable, hpercent, hle, hclose⟩ := h
    have hclose' := close_iff.mpr hclose
    rw [← quantizeCents_ratio htraded.low htraded.high hle] at hclose'
    rw [unsignedInteger_eq_ok.mpr htraded, ok_bind, unsignedInteger_eq_ok.mpr hdeliverable, ok_bind,
      decimalAtMost_eq_some.mpr hpercent]
    dsimp only
    rw [raiseIf_neg (not_lt.mpr hle), ok_bind, raiseIf_neg hclose', ok_bind]
    rfl

/-- The quantities are in order up to an overlong one. -/
def OverlongQuantity (traded deliverable : String) : Prop :=
  Canonical traded ∧ Overlong traded ∨ (∃ n, IntegerText 1 traded n) ∧ Canonical deliverable ∧ Overlong deliverable

theorem deliveryLine_ne_valueError {q d : ℕ} : deliveryLine symbol series q d percent ≠ .error .valueError := by
  intro h
  unfold deliveryLine at h
  split at h
  next => cases h
  next =>
    rcases raiseIf_bind_eq_error.mp h with ⟨-, h⟩ | ⟨-, h⟩
    · cases h
    · rcases raiseIf_bind_eq_error.mp h with ⟨-, h⟩ | ⟨-, h⟩
      · cases h
      · cases h

theorem rowOutcome_eq_valueError : rowOutcome symbol series traded deliverable percent = .error .valueError ↔
    OverlongQuantity traded deliverable := by
  unfold rowOutcome OverlongQuantity
  rw [bind_eq_error, unsignedInteger_eq_valueError]
  refine or_congr Iff.rfl ?_
  constructor
  · rintro ⟨q, hq, h⟩
    rcases bind_eq_error.mp h with hd | ⟨d, -, h⟩
    · exact ⟨⟨q, unsignedInteger_eq_ok.mp hq⟩, unsignedInteger_eq_valueError.mp hd⟩
    · exact absurd h deliveryLine_ne_valueError
  · rintro ⟨⟨q, hq⟩, hd⟩
    exact ⟨q, unsignedInteger_eq_ok.mpr hq, bind_eq_error.mpr (.inl (unsignedInteger_eq_valueError.mpr hd))⟩

theorem parseRow_eq_ok : parseRow n seen row = .ok read ↔
    RowText .asRead row n read.2 ∧ read.1 = mtoKey read.2 ∧ read.1 ∉ seen := by
  constructor
  · intro h
    unfold parseRow at h
    split at h
    next recordType serialText symbol series traded deliverable percent =>
      obtain ⟨hkind, h⟩ := raiseIf_bind_eq_ok.mp h
      obtain ⟨serial, hserial, h⟩ := bind_eq_ok.mp h
      obtain ⟨hindex, h⟩ := raiseIf_bind_eq_ok.mp h
      obtain ⟨hsymbol, h⟩ := raiseIf_bind_eq_ok.mp h
      obtain ⟨hseries, h⟩ := raiseIf_bind_eq_ok.mp h
      obtain ⟨hseen, h⟩ := raiseIf_bind_eq_ok.mp h
      obtain ⟨line, hline, h⟩ := bind_eq_ok.mp h
      obtain rfl := Except.ok.inj h
      obtain rfl := not_not.mp hkind
      obtain rfl := not_not.mp hindex
      obtain ⟨⟨rfl, rfl⟩, htraded, hdeliverable, hpercent, hle, hclose⟩ := rowOutcome_eq_ok.mp hline
      exact ⟨⟨⟨serialText, traded, deliverable, percent, rfl, unsignedInteger_eq_ok.mp hserial, htraded, hdeliverable,
        hpercent.1⟩, not_not.mp hsymbol, not_not.mp hseries, hpercent.2, hle, hclose⟩, rfl, hseen⟩
    next => cases h
  · rintro ⟨⟨⟨serialText, traded, deliverable, percent, rfl, hserial, htraded, hdeliverable, hpercent⟩, hsymbol, hseries,
      hpercentLe, hle, hclose⟩, hkey, hseen⟩
    have hline : rowOutcome read.2.symbol read.2.series traded deliverable percent = .ok read.2 :=
      rowOutcome_eq_ok.mpr ⟨⟨rfl, rfl⟩, htraded, hdeliverable, ⟨hpercent, hpercentLe⟩, hle, hclose⟩
    unfold parseRow
    dsimp only
    rw [raiseIf_neg (not_not.mpr rfl), ok_bind, unsignedInteger_eq_ok.mpr hserial, ok_bind, raiseIf_neg (not_not.mpr rfl),
      ok_bind, raiseIf_neg (not_not.mpr hsymbol), ok_bind, raiseIf_neg (not_not.mpr hseries), ok_bind]
    have hkeyEq : (read.2.symbol, read.2.series) = read.1 := hkey.symm
    rw [hkeyEq, raiseIf_neg hseen, ok_bind, hline]
    rfl

theorem parseRow_eq_valueError : parseRow n seen row = .error .valueError ↔ OverlongRow seen n row := by
  constructor
  · intro h
    unfold parseRow at h
    split at h
    next recordType serialText symbol series traded deliverable percent =>
      rcases raiseIf_bind_eq_error.mp h with ⟨-, hfault⟩ | ⟨hkind, hrest⟩
      · cases hfault
      have hrow : [recordType, serialText, symbol, series, traded, deliverable, percent] =
          ["20", serialText, symbol, series, traded, deliverable, percent] := by
        rw [not_not.mp hkind]
      refine ⟨serialText, symbol, series, traded, deliverable, percent, hrow, ?_⟩
      rcases bind_eq_error.mp hrest with hlong | ⟨serial, hserial, hrest⟩
      · exact .inl (unsignedInteger_eq_valueError.mp hlong)
      rcases raiseIf_bind_eq_error.mp hrest with ⟨-, hfault⟩ | ⟨hindex, hrest⟩
      · cases hfault
      rcases raiseIf_bind_eq_error.mp hrest with ⟨-, hfault⟩ | ⟨hsymbol, hrest⟩
      · cases hfault
      rcases raiseIf_bind_eq_error.mp hrest with ⟨-, hfault⟩ | ⟨hseries, hrest⟩
      · cases hfault
      rcases raiseIf_bind_eq_error.mp hrest with ⟨-, hfault⟩ | ⟨hseen, hrest⟩
      · cases hfault
      rcases bind_eq_error.mp hrest with hline | ⟨_, -, hfault⟩
      · rw [not_not.mp hindex] at hserial
        exact .inr ⟨unsignedInteger_eq_ok.mp hserial, not_not.mp hsymbol, not_not.mp hseries, hseen,
          rowOutcome_eq_valueError.mp hline⟩
      · cases hfault
    next => cases h
  · rintro ⟨serial, symbol, series, traded, deliverable, percent, rfl, h⟩
    unfold parseRow
    dsimp only
    rw [raiseIf_neg (not_not.mpr rfl), ok_bind]
    rcases h with hserial | ⟨hserial, hsymbol, hseries, hseen, hline⟩
    · rw [unsignedInteger_eq_valueError.mpr hserial]
      rfl
    · rw [unsignedInteger_eq_ok.mpr hserial, ok_bind, raiseIf_neg (not_not.mpr rfl), ok_bind,
        raiseIf_neg (not_not.mpr hsymbol), ok_bind, raiseIf_neg (not_not.mpr hseries), ok_bind, raiseIf_neg hseen, ok_bind,
        rowOutcome_eq_valueError.mpr hline]
      rfl

/-- Rows that are read from a first serial number on. -/
def RowsText (n : ℕ) (rows : List (List String)) (lines : List MtoRow) : Prop :=
  List.Forall₂ (fun row line => RowText .asRead row.1 row.2 line) (rows.zipIdx n) lines

/-- The keys of a line and of those after it are new exactly when each is new after the ones before it. -/
theorem fresh_cons : ((line :: lines).map mtoKey).Nodup ∧ (∀ other ∈ line :: lines, mtoKey other ∉ seen) ↔
    mtoKey line ∉ seen ∧ (lines.map mtoKey).Nodup ∧ ∀ other ∈ lines, mtoKey other ∉ mtoKey line :: seen := by
  rw [List.forall_mem_cons, List.map_cons, List.nodup_cons]
  simp only [List.mem_map, List.mem_cons, not_or, not_exists, not_and]
  constructor
  · rintro ⟨⟨hfirst, hnodup⟩, hline, hnew⟩
    exact ⟨hline, hnodup, fun other hother => ⟨hfirst other hother, hnew other hother⟩⟩
  · rintro ⟨hline, hnodup, hnew⟩
    exact ⟨⟨fun other hother => (hnew other hother).1, hnodup⟩, hline, fun other hother => (hnew other hother).2⟩

theorem rowsText_cons : RowsText n (row :: rows) (line :: lines) ↔
    RowText .asRead row n line ∧ RowsText (n + 1) rows lines := by
  unfold RowsText
  rw [List.zipIdx_cons, List.forall₂_cons]

theorem parseRows_eq_ok : parseRows n seen rows = .ok lines ↔
    RowsText n rows lines ∧ (lines.map mtoKey).Nodup ∧ ∀ line ∈ lines, mtoKey line ∉ seen := by
  induction rows generalizing n seen lines with
  | nil =>
    constructor
    · intro h
      obtain rfl := Except.ok.inj h
      exact ⟨.nil, .nil, fun _ hline => absurd hline List.not_mem_nil⟩
    · rintro ⟨hrows, -, -⟩
      cases hrows
      rfl
  | cons row rows ih =>
    rw [parseRows, bind_eq_ok]
    constructor
    · rintro ⟨read, hread, h⟩
      obtain ⟨rest, hrest, h⟩ := bind_eq_ok.mp h
      obtain rfl := Except.ok.inj h
      obtain ⟨hrow, hkey, hseen⟩ := parseRow_eq_ok.mp hread
      obtain ⟨hrows, hfresh⟩ := ih.mp hrest
      rw [hkey] at hseen hfresh
      exact ⟨rowsText_cons.mpr ⟨hrow, hrows⟩, fresh_cons.mpr ⟨hseen, hfresh⟩⟩
    · rintro ⟨hrows, hfresh⟩
      cases lines with
      | nil => cases hrows
      | cons line lines =>
        obtain ⟨hrow, hrows⟩ := rowsText_cons.mp hrows
        obtain ⟨hline, hfresh⟩ := fresh_cons.mp hfresh
        exact ⟨(mtoKey line, line), parseRow_eq_ok.mpr ⟨hrow, rfl, hline⟩,
          bind_eq_ok.mpr ⟨lines, ih.mpr ⟨hrows, hfresh⟩, rfl⟩⟩

theorem OverlongRow.congr (h : OverlongRow seen n row) (hseen : ∀ key, key ∈ seen' ↔ key ∈ seen) : OverlongRow seen' n row := by
  obtain ⟨serial, symbol, series, traded, deliverable, percent, rfl, h⟩ := h
  refine ⟨serial, symbol, series, traded, deliverable, percent, rfl, ?_⟩
  rcases h with hserial | ⟨hserial, hsymbol, hseries, hnew, hquantity⟩
  · exact .inl hserial
  · exact .inr ⟨hserial, hsymbol, hseries, fun hmem => hnew ((hseen _).mp hmem), hquantity⟩

/-- A row that is overlong after a first line and others is overlong after the first line has been seen. -/
theorem overlongRow_shift {k : ℕ} : OverlongRow ((line :: lines).map mtoKey ++ seen) (n + (k + 1)) row ↔
    OverlongRow (lines.map mtoKey ++ mtoKey line :: seen) (n + 1 + k) row := by
  rw [Nat.add_comm k, ← Nat.add_assoc]
  have hsame : ∀ key, key ∈ (line :: lines).map mtoKey ++ seen ↔ key ∈ lines.map mtoKey ++ mtoKey line :: seen := by
    intro key
    rw [List.map_cons, List.cons_append, List.mem_cons, List.mem_append, List.mem_append, List.mem_cons]
    tauto
  exact ⟨fun h => h.congr fun key => (hsame key).symm, fun h => h.congr hsame⟩

/-- The rows are in order up to one with an overlong number. -/
theorem parseRows_eq_valueError : parseRows n seen rows = .error .valueError ↔
    ∃ before row after lines, rows = before ++ row :: after ∧ RowsText n before lines ∧ (lines.map mtoKey).Nodup ∧
      (∀ line ∈ lines, mtoKey line ∉ seen) ∧ OverlongRow (lines.map mtoKey ++ seen) (n + before.length) row := by
  induction rows generalizing n seen with
  | nil =>
    constructor
    · intro h
      cases h
    · rintro ⟨before, row, after, lines, h, -⟩
      cases before <;> cases h
  | cons row rows ih =>
    rw [parseRows, bind_eq_error]
    constructor
    · rintro (hrow | ⟨read, hread, h⟩)
      · exact ⟨[], row, rows, [], rfl, .nil, .nil, fun _ hline => absurd hline List.not_mem_nil,
          parseRow_eq_valueError.mp hrow⟩
      · obtain ⟨hrow, hkey, hseen⟩ := parseRow_eq_ok.mp hread
        rcases bind_eq_error.mp h with hrest | ⟨_, -, h⟩
        · obtain ⟨before, other, after, lines, rfl, hrows, hnodup, hnew, hlong⟩ := ih.mp hrest
          rw [hkey] at hseen hnew hlong
          obtain ⟨hnodup, hnew⟩ := fresh_cons.mpr ⟨hseen, hnodup, hnew⟩
          exact ⟨row :: before, other, after, read.2 :: lines, rfl, rowsText_cons.mpr ⟨hrow, hrows⟩, hnodup, hnew,
            overlongRow_shift.mpr hlong⟩
        · cases h
    · rintro ⟨before, other, after, lines, hsplit, hrows, hnodup, hnew, hlong⟩
      cases before with
      | nil =>
        cases hrows
        obtain ⟨rfl, rfl⟩ := List.cons.inj hsplit
        exact .inl (parseRow_eq_valueError.mpr hlong)
      | cons first before =>
        obtain ⟨rfl, rfl⟩ := List.cons.inj hsplit
        cases lines with
        | nil => cases hrows
        | cons line lines =>
          obtain ⟨hrow, hrows⟩ := rowsText_cons.mp hrows
          obtain ⟨hline, hnodup, hnew⟩ := fresh_cons.mp ⟨hnodup, hnew⟩
          refine .inr ⟨(mtoKey line, line), parseRow_eq_ok.mpr ⟨hrow, rfl, hline⟩, bind_eq_error.mpr (.inl (ih.mpr ?_))⟩
          exact ⟨before, other, after, lines, rfl, hrows, hnodup, hnew, overlongRow_shift.mp hlong⟩

end Rows

end LegacyMto

end IndiaSwing
