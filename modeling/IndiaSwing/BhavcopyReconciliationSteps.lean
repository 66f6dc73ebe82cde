import Mathlib.Tactic.IntervalCases
import IndiaSwing.BhavcopyReconciliation
import IndiaSwing.LegacyArchiveRows
import IndiaSwing.PaiseRounding

namespace IndiaSwing

open ExceptGuards KeySort Grouping DigitText TextPatterns

namespace LegacyArchive

section Fields

variable {text field : String} {chars : List Char} {d : PlainDecimal} {maximum : ℚ} {minimum n : ℕ}

theorem decimalField_eq_ok : decimalField maximum field text = .ok d ↔
    readDecimal text.toList = some d ∧ d.value ≤ maximum := by
  unfold decimalField
  cases hread : readDecimal text.toList with
  | none =>
    constructor
    · intro h
      cases h
    · rintro ⟨h, -⟩
      cases h
  | some e =>
    by_cases hle : e.value ≤ maximum
    · dsimp only
      rw [if_pos hle]
      constructor
      · intro h
        obtain rfl := Except.ok.inj h
        exact ⟨rfl, hle⟩
      · rintro ⟨h, -⟩
        rw [Option.some.inj h]
    · dsimp only
      rw [if_neg hle]
      constructor
      · intro h
        cases h
      · rintro ⟨h, hbound⟩
        obtain rfl := Option.some.inj h
        exact absurd hbound hle

theorem integerField_eq_ok : integerField minimum field text = .ok n ↔
    isCanonicalNatural text.toList = true ∧ value text.toList = n ∧ minimum ≤ n ∧ n ≤ 10 ^ 18 := by
  unfold integerField
  by_cases hcanonical : isCanonicalNatural text.toList = true
  · rw [if_pos hcanonical]
    dsimp only
    by_cases hrange : minimum ≤ value text.toList ∧ value text.toList ≤ 10 ^ 18
    · rw [if_pos hrange]
      constructor
      · intro h
        obtain rfl := Except.ok.inj h
        exact ⟨hcanonical, rfl, hrange⟩
      · rintro ⟨-, rfl, -⟩
        rfl
    · rw [if_neg hrange]
      constructor
      · intro h
        cases h
      · rintro ⟨-, rfl, hbounds⟩
        exact absurd hbounds hrange
  · rw [if_neg hcanonical]
    constructor
    · intro h
      cases h
    · rintro ⟨h, -⟩
      exact absurd h hcanonical

theorem isDigit_of_canonical (h : isCanonicalNatural chars = true) : ∀ c ∈ chars, c.isDigit = true := by
  simp only [isCanonicalNatural, Bool.and_eq_true, List.all_eq_true] at h
  exact h.1.2

theorem readDecimal_of_canonical (h : isCanonicalNatural chars = true) : readDecimal chars = some ⟨value chars, 0⟩ := by
  have hdigits := isDigit_of_canonical h
  have htake : chars.takeWhile Char.isDigit = chars := List.takeWhile_eq_self_iff.mpr hdigits
  have hdrop : chars.dropWhile Char.isDigit = [] := List.dropWhile_eq_nil_iff.mpr hdigits
  unfold readDecimal
  dsimp only
  rw [htake, hdrop, if_pos h]

/-- A number is written with digits and a point. -/
theorem characters_of_readDecimal (h : readDecimal chars = some d) : ∀ c ∈ chars, c.isDigit = true ∨ c = '.' := by
  intro c hc
  rw [← List.takeWhile_append_dropWhile (p := Char.isDigit) (l := chars)] at hc
  rcases List.mem_append.mp hc with hwhole | hrest
  · exact .inl (List.mem_takeWhile_imp hwhole)
  · unfold readDecimal at h
    dsimp only at h
    split at h
    next =>
      cases hdrop : chars.dropWhile Char.isDigit with
      | nil =>
        rw [hdrop] at hrest
        cases hrest
      | cons point fraction =>
        rw [hdrop] at h hrest
        dsimp only at h
        split at h
        next hshape =>
          rcases List.mem_cons.mp hrest with rfl | hmem
          · exact .inr hshape.1
          · exact .inl (List.all_eq_true.mp hshape.2.2 c hmem)
        next => cases h
    next => cases h

theorem strip_of_characters (h : ∀ c ∈ text.toList, isSpace c = false) : strip text = text := by
  rw [strip, stripText_eq h, String.ofList_toList]

theorem strip_of_readDecimal (h : readDecimal text.toList = some d) : strip text = text := by
  refine strip_of_characters fun c hc => ?_
  rcases characters_of_readDecimal h c hc with hdigit | rfl
  · exact isSpace_of_isDigit hdigit
  · decide

theorem strip_of_canonical (h : isCanonicalNatural text.toList = true) : strip text = text :=
  strip_of_readDecimal (readDecimal_of_canonical h)

theorem decimalOf_eq (h : readDecimal text.toList = some d) : decimalOf text = .ok d.value := by
  unfold decimalOf
  rw [h]

theorem decimalOf_of_canonical (h : isCanonicalNatural text.toList = true) : decimalOf text = .ok (value text.toList : ℚ) := by
  rw [decimalOf_eq (readDecimal_of_canonical h)]
  simp [PlainDecimal.value]

theorem isSpace_of_upperDigit {c : Char} (h : isUpperDigit c = true) : isSpace c = false := by
  rcases Bool.or_eq_true_iff.mp h with hupper | hdigit
  · obtain ⟨hlow, hhigh⟩ := range_of_isUpper hupper
    simp only [isSpace]
    simp
    omega
  · exact isSpace_of_isDigit hdigit

theorem strip_of_isSymbol (h : isSymbol text = true) : strip text = text := by
  refine strip_of_characters fun c hc => ?_
  simp only [isSymbol, inClass, Bool.and_eq_true, List.all_eq_true] at h
  have hclass := h.2 c hc
  simp only [Bool.or_eq_true, decide_eq_true_eq] at hclass
  rcases hclass with (hupper | rfl) | rfl
  · exact isSpace_of_upperDigit hupper
  · decide
  · decide

theorem strip_of_isSeries (h : isSeries text = true) : strip text = text := by
  refine strip_of_characters fun c hc => ?_
  simp only [isSeries, inClass, Bool.and_eq_true, List.all_eq_true] at h
  exact isSpace_of_upperDigit (h.2 c hc)

end Fields

section Dates

variable {chars : List Char} {date : CalendarDay}

theorem decimalNumber_of_digits (hne : chars ≠ []) (h : ∀ c ∈ chars, c.isDigit = true) :
    decimalNumber chars = some (value chars) := by
  have hfold : ∀ (rest : List Char) (n : ℕ), (∀ c ∈ rest, c.isDigit = true) →
      rest.foldlM (fun n c => (decimalDigit c).map fun d => n * 10 + d) n = some (Nat.ofDigitChars 10 rest n) := by
    intro rest
    induction rest with
    | nil => exact fun n _ => rfl
    | cons c rest ih =>
      intro n hrest
      obtain ⟨hc, hrest⟩ := List.forall_mem_cons.mp hrest
      rw [List.foldlM_cons, decimalDigit_of_isDigit hc, Nat.ofDigitChars_cons, Nat.mul_comm 10 n]
      exact ih _ hrest
  unfold decimalNumber
  rw [if_neg hne]
  exact hfold chars 0 h

theorem decimalNumber_padded {width n : ℕ} : decimalNumber (padded width n) = some n := by
  have hne : padded width n ≠ [] := by
    intro hnil
    exact digits_ne_nil (List.append_eq_nil_iff.mp hnil).2
  rw [decimalNumber_of_digits hne fun c hc => isDigit_of_mem_padded hc, value_padded]

/-- A date as `dd-MON-yyyy`. -/
def nseDateText (date : CalendarDay) : String :=
  String.ofList (padded 2 date.day ++ '-' :: ((monthAbbreviation date.month).toList ++ '-' :: padded 4 date.year))

theorem monthAbbreviation_facts {month : ℕ} (hlow : 1 ≤ month) (hhigh : month ≤ 12) :
    ∃ a b c, (monthAbbreviation month).toList = [a, b, c] ∧ (a.isUpper = true ∧ b.isUpper = true ∧ c.isUpper = true) ∧
      monthNames.lookup (String.ofList ([a, b, c].map Char.toUpper)) = some month := by
  interval_cases month <;> exact ⟨_, _, _, rfl, by decide, by decide⟩

theorem nseTextDate_nseDateText (h : calendarDay date.year date.month date.day = some date) :
    nseTextDate (nseDateText date) = some date := by
  have hrange := h
  unfold calendarDay at hrange
  split at hrange
  case isFalse => cases hrange
  case isTrue hbounds =>
    obtain ⟨⟨-, hyear⟩, ⟨hmonth, hmonth'⟩, -, hday⟩ := hbounds
    have hday31 : date.day < 10 ^ 2 := by
      have hdays := CivilTime.daysInMonth_le date.year date.month
      omega
    have hyear4 : date.year < 10 ^ 4 := by omega
    obtain ⟨d₁, d₂, hd⟩ := List.length_eq_two.mp (length_padded (by decide) hday31)
    have hlength := length_padded (by decide) hyear4
    obtain ⟨a, b, c, habbreviation, -, hlookup⟩ := monthAbbreviation_facts hmonth hmonth'
    obtain ⟨y₁, rest, hy⟩ := List.exists_cons_of_length_eq_add_one hlength
    rw [hy, List.length_cons, Nat.add_right_cancel_iff] at hlength
    obtain ⟨y₂, y₃, y₄, rfl⟩ := List.length_eq_three.mp hlength
    have htext : (nseDateText date).toList = [d₁, d₂, '-', a, b, c, '-', y₁, y₂, y₃, y₄] := by
      rw [nseDateText, String.toList_ofList, hd, habbreviation, hy]
      rfl
    unfold nseTextDate
    rw [htext]
    show (decimalNumber [d₁, d₂] >>= fun day => decimalNumber [y₁, y₂, y₃, y₄] >>= fun year =>
      monthNames.lookup (String.ofList ([a, b, c].map Char.toUpper)) >>= fun month => calendarDay year month day) = _
    rw [← hd, ← hy, decimalNumber_padded, decimalNumber_padded, hlookup]
    exact h

theorem strip_nseDateText (h : calendarDay date.year date.month date.day = some date) :
    strip (nseDateText date) = nseDateText date := by
  unfold calendarDay at h
  split at h
  case isFalse => cases h
  case isTrue hbounds =>
    obtain ⟨a, b, c, habbreviation, ⟨ha, hb, hc⟩, -⟩ := monthAbbreviation_facts hbounds.2.1.1 hbounds.2.1.2
    refine strip_of_characters fun x hx => ?_
    rw [nseDateText, String.toList_ofList, habbreviation] at hx
    have hupper : ∀ y : Char, y.isUpper = true → isSpace y = false := fun y hy =>
      isSpace_of_upperDigit (Bool.or_eq_true_iff.mpr (.inl hy))
    simp only [List.mem_append, List.mem_cons, List.not_mem_nil, or_false] at hx
    rcases hx with hx | rfl | (rfl | rfl | rfl) | rfl | hx
    · exact isSpace_of_isDigit (isDigit_of_mem_padded hx)
    · decide
    · exact hupper _ ha
    · exact hupper _ hb
    · exact hupper _ hc
    · decide
    · exact isSpace_of_isDigit (isDigit_of_mem_padded hx)

end Dates

section Paise

variable {d : PlainDecimal}

/-- An amount in paise as rupees with two decimals. -/
def paiseText (d : PlainDecimal) : String := String.ofList (digits (d.digits / 100) ++ '.' :: padded 2 (d.digits % 100))

theorem readDecimal_paiseText (h : d.places = 2) : readDecimal (paiseText d).toList = some d := by
  have hdigits : ∀ c ∈ digits (d.digits / 100), c.isDigit = true := fun c hc => isDigit_of_mem_digits hc
  have hlength : (padded 2 (d.digits % 100)).length = 2 := length_padded (by decide) (Nat.mod_lt _ (by decide))
  have hne : padded 2 (d.digits % 100) ≠ [] := by
    intro hnil
    rw [hnil] at hlength
    cases hlength
  have htake : (digits (d.digits / 100) ++ '.' :: padded 2 (d.digits % 100)).takeWhile Char.isDigit =
      digits (d.digits / 100) := by
    rw [List.takeWhile_append_of_pos hdigits, List.takeWhile_cons_of_neg (by decide), List.append_nil]
  have hdrop : (digits (d.digits / 100) ++ '.' :: padded 2 (d.digits % 100)).dropWhile Char.isDigit =
      '.' :: padded 2 (d.digits % 100) := by
    rw [List.dropWhile_append_of_pos hdigits, List.dropWhile_cons_of_neg (by decide)]
  have hvalue : value (digits (d.digits / 100) ++ padded 2 (d.digits % 100)) = d.digits := by
    have hwhole : Nat.ofDigitChars 10 (digits (d.digits / 100)) 0 = d.digits / 100 := value_digits
    have hfraction : Nat.ofDigitChars 10 (padded 2 (d.digits % 100)) 0 = d.digits % 100 := value_padded
    rw [value, Nat.ofDigitChars_append, hwhole, Nat.ofDigitChars_eq_ofDigitChars_zero, hlength, hfraction]
    omega
  have hall : (padded 2 (d.digits % 100)).all Char.isDigit = true :=
    List.all_eq_true.mpr fun c hc => isDigit_of_mem_padded hc
  unfold readDecimal
  dsimp only
  rw [paiseText, String.toList_ofList, htake, hdrop, if_pos (isCanonicalNatural_digits _)]
  dsimp only
  rw [if_pos ⟨rfl, hne, hall⟩, hvalue, hlength, ← h]

end Paise

section UdiffRows

variable {fromisoformat : String → Option CalendarDay} {claimedDate : CalendarDay} {texts udiff : UdiffTexts}
variable {rows : List UdiffTexts} {seen : List UdiffKeys} {keys : UdiffKeys} {digits : ℕ}

/-- A text is a decimal within the supported range. -/
def ReadsDecimal (text : String) (d : PlainDecimal) : Prop := readDecimal text.toList = some d ∧ d.value ≤ maximumDecimal

/-- A text is a positive integer within the supported range. -/
def ReadsInteger (text : String) (n : ℕ) : Prop :=
  isCanonicalNatural text.toList = true ∧ value text.toList = n ∧ 1 ≤ n ∧ n ≤ 10 ^ 18

/-- The numbers of a row that both reports state, and the traded value. -/
structure UdiffNumbers where
  openPrice : PlainDecimal
  high : PlainDecimal
  low : PlainDecimal
  close : PlainDecimal
  last : PlainDecimal
  previousClose : PlainDecimal
  volume : ℕ
  traded : PlainDecimal
  trades : ℕ

/-- The texts of a row that is let through give these numbers. -/
structure UdiffNumbersOf (texts : UdiffTexts) (n : UdiffNumbers) : Prop where
  openPrice : ReadsDecimal texts.opnPric n.openPrice
  high : ReadsDecimal texts.hghPric n.high
  low : ReadsDecimal texts.lwPric n.low
  close : ReadsDecimal texts.clsPric n.close
  last : ReadsDecimal texts.lastPric n.last
  previousClose : ReadsDecimal texts.prvsClsgPric n.previousClose
  positive : ¬(n.openPrice.value ≤ 0 ∨ n.high.value ≤ 0 ∨ n.low.value ≤ 0 ∨ n.close.value ≤ 0 ∨ n.last.value ≤ 0 ∨
    n.previousClose.value ≤ 0)
  ordered : ¬(n.high.value < max (max n.openPrice.value n.low.value) (max n.close.value n.last.value) ∨
    min (min n.openPrice.value n.high.value) (min n.close.value n.last.value) < n.low.value)
  volume : ReadsInteger texts.ttlTradgVol n.volume
  traded : ReadsDecimal texts.ttlTrfVal n.traded
  traded_pos : 0 < n.traded.value
  trades : ReadsInteger texts.ttlNbOfTxsExctd n.trades

theorem numbers_of_check (h : checkUdiffNumbers texts = .ok ()) : ∃ n, UdiffNumbersOf texts n := by
  unfold checkUdiffNumbers at h
  obtain ⟨openPrice, hopen, h⟩ := bind_eq_ok.mp h
  obtain ⟨high, hhigh, h⟩ := bind_eq_ok.mp h
  obtain ⟨low, hlow, h⟩ := bind_eq_ok.mp h
  obtain ⟨close, hclose, h⟩ := bind_eq_ok.mp h
  obtain ⟨last, hlast, h⟩ := bind_eq_ok.mp h
  obtain ⟨previousClose, hprevious, h⟩ := bind_eq_ok.mp h
  obtain ⟨hpositive, h⟩ := raiseIf_bind_eq_ok.mp h
  obtain ⟨hordered, h⟩ := raiseIf_bind_eq_ok.mp h
  obtain ⟨volume, hvolume, h⟩ := bind_eq_ok.mp h
  obtain ⟨traded, htraded, h⟩ := bind_eq_ok.mp h
  obtain ⟨htraded0, h⟩ := raiseIf_bind_eq_ok.mp h
  obtain ⟨-, h⟩ := raiseIf_bind_eq_ok.mp h
  obtain ⟨trades, htrades, -⟩ := bind_eq_ok.mp h
  exact ⟨⟨openPrice, high, low, close, last, previousClose, volume, traded, trades⟩,
    decimalField_eq_ok.mp hopen, decimalField_eq_ok.mp hhigh, decimalField_eq_ok.mp hlow, decimalField_eq_ok.mp hclose,
    decimalField_eq_ok.mp hlast, decimalField_eq_ok.mp hprevious, hpositive, hordered, integerField_eq_ok.mp hvolume,
    decimalField_eq_ok.mp htraded, not_le.mp htraded0, integerField_eq_ok.mp htrades⟩

/-- What is known of a row that is let through. -/
structure UdiffRowOk (texts : UdiffTexts) : Prop where
  symbol : isSymbol texts.tckrSymb = true
  series : isSeries texts.sctySrs = true
  numbers : ∃ n, UdiffNumbersOf texts n

theorem scope_of_check (h : checkUdiffScope fromisoformat claimedDate texts = .ok keys) :
    isSymbol texts.tckrSymb = true ∧ isSeries texts.sctySrs = true ∧
      keys.2 = (texts.tckrSymb, texts.sctySrs, "F1") := by
  unfold checkUdiffScope at h
  split at h
  next =>
    obtain ⟨-, h⟩ := raiseIf_bind_eq_ok.mp h
    obtain ⟨-, h⟩ := raiseIf_bind_eq_ok.mp h
    obtain ⟨-, h⟩ := raiseIf_bind_eq_ok.mp h
    obtain ⟨-, h⟩ := raiseIf_bind_eq_ok.mp h
    obtain ⟨hsession, h⟩ := raiseIf_bind_eq_ok.mp h
    obtain ⟨instrumentId, -, h⟩ := bind_eq_ok.mp h
    obtain ⟨hsymbol, h⟩ := raiseIf_bind_eq_ok.mp h
    obtain ⟨hseries, h⟩ := raiseIf_bind_eq_ok.mp h
    obtain ⟨-, h⟩ := raiseIf_bind_eq_ok.mp h
    obtain ⟨-, h⟩ := raiseIf_bind_eq_ok.mp h
    obtain rfl := Except.ok.inj h
    exact ⟨not_not.mp hsymbol, not_not.mp hseries, by rw [not_not.mp hsession]⟩
  next => cases h

/-- The rows of an accepted report are let through one by one, each under a key of its own. -/
theorem rows_of_check (h : checkUdiffRows fromisoformat claimedDate seen rows = .ok ()) :
    (∀ texts ∈ rows, UdiffRowOk texts) ∧ (rows.map UdiffTexts.key).Nodup ∧
      ∀ texts ∈ rows, (texts.tckrSymb, texts.sctySrs, "F1") ∉ seen.map (·.2) := by
  induction rows generalizing seen with
  | nil => exact ⟨fun _ h => absurd h List.not_mem_nil, .nil, fun _ h => absurd h List.not_mem_nil⟩
  | cons texts rows ih =>
    unfold checkUdiffRows at h
    obtain ⟨keys, hscope, h⟩ := bind_eq_ok.mp h
    obtain ⟨-, h⟩ := raiseIf_bind_eq_ok.mp h
    obtain ⟨hseen, h⟩ := raiseIf_bind_eq_ok.mp h
    obtain ⟨_, hnumbers, h⟩ := bind_eq_ok.mp h
    obtain ⟨hsymbol, hseries, hkey⟩ := scope_of_check hscope
    obtain ⟨hrows, hnodup, hnew⟩ := ih h
    rw [hkey] at hseen
    refine ⟨List.forall_mem_cons.mpr ⟨⟨hsymbol, hseries, numbers_of_check hnumbers⟩, hrows⟩, ?_, ?_⟩
    · refine List.nodup_cons.mpr ⟨fun hmem => ?_, hnodup⟩
      obtain ⟨other, hother, hsame⟩ := List.mem_map.mp hmem
      have hlisting := hnew other hother
      rw [List.map_cons, hkey] at hlisting
      obtain ⟨hsym, hser⟩ := Prod.mk.inj hsame
      exact hlisting (by rw [hsym, hser]; exact List.mem_cons_self)
    · refine List.forall_mem_cons.mpr ⟨hseen, fun other hother hmem => ?_⟩
      exact hnew other hother (List.mem_cons_of_mem _ hmem)

theorem UdiffReport.rows_ok (report : UdiffReport fromisoformat) :
    (∀ texts ∈ report.rows, UdiffRowOk texts) ∧ (report.rows.map UdiffTexts.key).Nodup := by
  have h := report.accepted
  unfold parseUdiff at h
  obtain ⟨-, h⟩ := raiseIf_bind_eq_ok.mp h
  obtain ⟨hrows, hnodup, -⟩ := rows_of_check h
  exact ⟨hrows, hnodup⟩

theorem UdiffReport.rows_ne_nil (report : UdiffReport fromisoformat) : report.rows ≠ [] := by
  have h := report.accepted
  unfold parseUdiff at h
  exact (raiseIf_bind_eq_ok.mp h).1

namespace UdiffTexts

def transferValue (texts : UdiffTexts) : ℚ := ((readDecimal texts.ttlTrfVal.toList).map PlainDecimal.value).getD 0

def tradedVolume (texts : UdiffTexts) : ℕ := value texts.ttlTradgVol.toList

/-- The turnover in lacs, to the paisa, of a quotient of so many digits. -/
def turnoverLacs (digits : ℕ) (texts : UdiffTexts) : PlainDecimal :=
  quantizeCents ((DecimalContext.ofPrecision digits).div texts.transferValue 100000)

/-- The average price, to the paisa, of a quotient of so many digits. -/
def averagePrice (digits : ℕ) (texts : UdiffTexts) : PlainDecimal :=
  quantizeCents ((DecimalContext.ofPrecision digits).div texts.transferValue texts.tradedVolume)

end UdiffTexts

theorem quotient_le {a b : ℚ} (ha : 0 < a) (hle : a ≤ maximumDecimal) (hb : 1 ≤ b) : a / b ≤ maximumDecimal :=
  (div_le_self ha.le hb).trans hle

theorem quantizeWithin_eq {amount : ℚ} (hdigits : 23 ≤ digits) (h : amount ≤ maximumDecimal) :
    quantizeWithin digits amount = .ok (quantizeCents amount) := by
  have hpow : (10 : ℕ) ^ 23 ≤ 10 ^ digits := Nat.pow_le_pow_right (by decide) hdigits
  have hle := digits_quantizeCents_le h
  unfold quantizeWithin
  rw [raiseIf_neg (by omega)]
  rfl

theorem UdiffRowOk.transferValue_eq {n : UdiffNumbers} (h : UdiffNumbersOf texts n) : texts.transferValue = n.traded.value := by
  unfold UdiffTexts.transferValue
  rw [h.traded.1]
  rfl

/-- The quotients of a row are positive and within the supported range. -/
theorem UdiffRowOk.quotients (h : UdiffRowOk texts) :
    (0 < texts.transferValue / 100000 ∧ texts.transferValue / 100000 ≤ maximumDecimal) ∧
      0 < texts.transferValue / texts.tradedVolume ∧ texts.transferValue / texts.tradedVolume ≤ maximumDecimal := by
  obtain ⟨n, hn⟩ := h.numbers
  have hcount : texts.tradedVolume = n.volume := hn.volume.2.1
  have hone : (1 : ℚ) ≤ n.volume := by exact_mod_cast hn.volume.2.2.1
  rw [UdiffRowOk.transferValue_eq hn, hcount]
  exact ⟨⟨div_pos hn.traded_pos (by norm_num), quotient_le hn.traded_pos hn.traded.2 (by norm_num)⟩,
    div_pos hn.traded_pos (zero_lt_one.trans_le hone), quotient_le hn.traded_pos hn.traded.2 hone⟩

/-- The derived values of a row are within every context of enough digits. -/
theorem UdiffRowOk.derivedValues_eq (h : UdiffRowOk texts) (hdigits : 23 ≤ digits) :
    derivedValues digits texts = .ok (texts.turnoverLacs digits, texts.averagePrice digits) := by
  obtain ⟨⟨hlacs, hlacs'⟩, haverage, haverage'⟩ := h.quotients
  obtain ⟨n, hn⟩ := h.numbers
  have hvolume : decimalOf texts.ttlTradgVol = .ok (texts.tradedVolume : ℚ) := decimalOf_of_canonical hn.volume.1
  have htraded : decimalOf texts.ttlTrfVal = .ok texts.transferValue := by
    rw [decimalOf_eq hn.traded.1, UdiffRowOk.transferValue_eq hn]
  have hturnover : (DecimalContext.ofPrecision digits).div texts.transferValue 100000 ≤ maximumDecimal :=
    round_le_maximum hdigits hlacs.le hlacs'
  have hprice : (DecimalContext.ofPrecision digits).div texts.transferValue texts.tradedVolume ≤ maximumDecimal :=
    round_le_maximum hdigits haverage.le haverage'
  unfold derivedValues UdiffTexts.turnoverLacs UdiffTexts.averagePrice
  rw [hvolume, ok_bind, htraded, ok_bind, quantizeWithin_eq hdigits hturnover, ok_bind, quantizeWithin_eq hdigits hprice]
  rfl

end UdiffRows

section FullRows

variable {claimedDate : CalendarDay} {texts : FullTexts} {rows : List FullTexts} {seen : List ListingKey}

/-- The rows of an accepted report have positive average prices, each row under a key of its own. -/
structure FullRowOk (texts : FullTexts) : Prop where
  average : ∃ d : PlainDecimal, readDecimal texts.avgPrice.toList = some d ∧ 0 < d.value

theorem average_of_check (h : checkFullNumbers texts = .ok ()) : FullRowOk texts := by
  unfold checkFullNumbers at h
  obtain ⟨previousClose, -, h⟩ := bind_eq_ok.mp h
  obtain ⟨openPrice, -, h⟩ := bind_eq_ok.mp h
  obtain ⟨high, -, h⟩ := bind_eq_ok.mp h
  obtain ⟨low, -, h⟩ := bind_eq_ok.mp h
  obtain ⟨last, -, h⟩ := bind_eq_ok.mp h
  obtain ⟨close, -, h⟩ := bind_eq_ok.mp h
  obtain ⟨average, haverage, h⟩ := bind_eq_ok.mp h
  obtain ⟨hpositive, -⟩ := raiseIf_bind_eq_ok.mp h
  simp only [not_or, not_le] at hpositive
  exact ⟨average, (decimalField_eq_ok.mp haverage).1, hpositive.2.2.2.2.2.2⟩

theorem fullRows_of_check (h : checkFullRows claimedDate seen rows = .ok ()) :
    (∀ texts ∈ rows.map FullTexts.stripped, FullRowOk texts) ∧ ((rows.map FullTexts.stripped).map FullTexts.key).Nodup ∧
      ∀ texts ∈ rows.map FullTexts.stripped, texts.key ∉ seen := by
  induction rows generalizing seen with
  | nil => exact ⟨fun _ h => absurd h List.not_mem_nil, .nil, fun _ h => absurd h List.not_mem_nil⟩
  | cons row rows ih =>
    unfold checkFullRows at h
    dsimp only at h
    obtain ⟨_, -, h⟩ := bind_eq_ok.mp h
    obtain ⟨hseen, h⟩ := raiseIf_bind_eq_ok.mp h
    obtain ⟨_, hnumbers, h⟩ := bind_eq_ok.mp h
    obtain ⟨hrows, hnodup, hnew⟩ := ih h
    refine ⟨List.forall_mem_cons.mpr ⟨average_of_check hnumbers, hrows⟩, ?_, ?_⟩
    · refine List.nodup_cons.mpr ⟨fun hmem => ?_, hnodup⟩
      obtain ⟨other, hother, hsame⟩ := List.mem_map.mp hmem
      exact hnew other hother (hsame ▸ List.mem_cons_self)
    · exact List.forall_mem_cons.mpr ⟨hseen, fun other hother hmem =>
        hnew other hother (List.mem_cons_of_mem _ hmem)⟩

/-- Rows are let through that pass one by one and have no key in common. -/
theorem checkFullRows_ok (hscope : ∀ row ∈ rows, checkFullScope claimedDate row.stripped = .ok ())
    (hnumbers : ∀ row ∈ rows, checkFullNumbers row.stripped = .ok ())
    (hnodup : ((rows.map FullTexts.stripped).map FullTexts.key).Nodup)
    (hnew : ∀ row ∈ rows, row.stripped.key ∉ seen) : checkFullRows claimedDate seen rows = .ok () := by
  induction rows generalizing seen with
  | nil => rfl
  | cons row rows ih =>
    obtain ⟨hscope₁, hscope⟩ := List.forall_mem_cons.mp hscope
    obtain ⟨hnumbers₁, hnumbers⟩ := List.forall_mem_cons.mp hnumbers
    obtain ⟨hnew₁, hnew⟩ := List.forall_mem_cons.mp hnew
    obtain ⟨hfirst, hnodup⟩ := List.nodup_cons.mp hnodup
    unfold checkFullRows
    dsimp only
    rw [hscope₁, ok_bind, raiseIf_neg hnew₁, ok_bind, hnumbers₁, ok_bind]
    refine ih hscope hnumbers hnodup fun other hother hmem => ?_
    rcases List.mem_cons.mp hmem with hsame | hmem
    · exact hfirst (List.mem_map.mpr ⟨other.stripped, List.mem_map_of_mem hother, hsame⟩)
    · exact hnew other hother hmem

theorem FullReport.rows_ok (report : FullReport) :
    (∀ texts ∈ report.rows.map FullTexts.stripped, FullRowOk texts) ∧
      ((report.rows.map FullTexts.stripped).map FullTexts.key).Nodup := by
  have h := report.accepted
  unfold parseFullDelivery at h
  obtain ⟨-, h⟩ := raiseIf_bind_eq_ok.mp h
  obtain ⟨hrows, hnodup, -⟩ := fullRows_of_check h
  exact ⟨hrows, hnodup⟩

theorem FullReport.rows_ne_nil (report : FullReport) : report.rows ≠ [] := by
  have h := report.accepted
  unfold parseFullDelivery at h
  exact (raiseIf_bind_eq_ok.mp h).1

end FullRows

end LegacyArchive

end IndiaSwing
