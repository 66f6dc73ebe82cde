import IndiaSwing.BhavcopyReconciliationSteps

namespace IndiaSwing

open ExceptGuards KeySort Grouping DigitText TextPatterns

namespace LegacyArchive

section Agreement

variable {full : FullTexts} {udiff : UdiffTexts} {rows : List FullTexts} {udiffRows : List UdiffTexts}
variable {digits : ℕ} {message : String}

theorem checkExactFields_eq_ok : checkExactFields message full udiff = .ok () ↔
    ∀ names ∈ exactFields, ∃ v, decimalOf (names.1 full) = .ok v ∧ decimalOf (names.2 udiff) = .ok v := by
  unfold checkExactFields
  rw [forM_eq_ok]
  refine forall₂_congr fun names _ => ?_
  constructor
  · intro h
    obtain ⟨a, ha, h⟩ := bind_eq_ok.mp h
    obtain ⟨b, hb, h⟩ := bind_eq_ok.mp h
    have hsame : a = b := not_not.mp (raiseIf_eq_ok.mp h)
    exact ⟨a, ha, hsame ▸ hb⟩
  · rintro ⟨v, ha, hb⟩
    rw [ha, ok_bind, hb, ok_bind, raiseIf_neg (not_not.mpr rfl)]

/-- A row of a full report states what its UDiFF row does, and what follows from it with quotients of so many digits. -/
structure Matches (digits : ℕ) (full : FullTexts) (udiff : UdiffTexts) : Prop where
  key : full.key = udiff.key
  fields : ∀ names ∈ exactFields, ∃ v, decimalOf (names.1 full) = .ok v ∧ decimalOf (names.2 udiff) = .ok v
  turnover : decimalOf full.turnoverLacs = .ok (udiff.turnoverLacs digits).value
  average : decimalOf full.avgPrice = .ok (udiff.averagePrice digits).value

theorem checkDerivedValues_eq_ok (hudiff : UdiffRowOk udiff) (hdigits : 23 ≤ digits) :
    checkDerivedValues digits message full udiff = .ok () ↔
      decimalOf full.turnoverLacs = .ok (udiff.turnoverLacs digits).value ∧
        decimalOf full.avgPrice = .ok (udiff.averagePrice digits).value := by
  unfold checkDerivedValues
  rw [hudiff.derivedValues_eq hdigits, ok_bind]
  constructor
  · intro h
    obtain ⟨turnover, hturnover, h⟩ := bind_eq_ok.mp h
    obtain ⟨average, haverage, h⟩ := bind_eq_ok.mp h
    have hsame := raiseIf_eq_ok.mp h
    rw [not_or, not_not, not_not] at hsame
    rw [← hsame.1, ← hsame.2]
    exact ⟨hturnover, haverage⟩
  · rintro ⟨hturnover, haverage⟩
    rw [hturnover, ok_bind, haverage, ok_bind, raiseIf_neg (by rw [not_or, not_not, not_not]; exact ⟨rfl, rfl⟩)]

/-- The rows of two reports correspond. -/
structure Covers (digits : ℕ) (fullRows : List FullTexts) (udiffRows : List UdiffTexts) : Prop where
  matched : ∀ full ∈ fullRows, ∃ udiff ∈ udiffRows, Matches digits full udiff
  covered : ∀ udiff ∈ udiffRows, ∃ full ∈ fullRows, full.key = udiff.key

/-- The keys of the rows are the same. -/
theorem sameKeys_iff : (rows.map FullTexts.key).toFinset = (udiffRows.map UdiffTexts.key).toFinset ↔
    (∀ full ∈ rows, ∃ udiff ∈ udiffRows, full.key = udiff.key) ∧
      ∀ udiff ∈ udiffRows, ∃ full ∈ rows, full.key = udiff.key := by
  rw [Finset.Subset.antisymm_iff, Finset.subset_iff, Finset.subset_iff]
  simp only [List.mem_toFinset, List.mem_map]
  constructor
  · rintro ⟨hfull, hudiff⟩
    refine ⟨fun full hmem => ?_, fun udiff hmem => hudiff ⟨udiff, hmem, rfl⟩⟩
    obtain ⟨udiff, hudiffMem, hkey⟩ := hfull ⟨full, hmem, rfl⟩
    exact ⟨udiff, hudiffMem, hkey.symm⟩
  · rintro ⟨hfull, hudiff⟩
    constructor
    · rintro key ⟨full, hmem, rfl⟩
      obtain ⟨udiff, hudiffMem, hkey⟩ := hfull full hmem
      exact ⟨udiff, hudiffMem, hkey.symm⟩
    · rintro key ⟨udiff, hmem, rfl⟩
      exact hudiff udiff hmem

theorem crossCheckRow_eq_ok (hnodup : (udiffRows.map UdiffTexts.key).Nodup) (hok : ∀ udiff ∈ udiffRows, UdiffRowOk udiff) :
    crossCheckRow udiffRows full = .ok () ↔ ∃ udiff ∈ udiffRows, Matches 28 full udiff := by
  unfold crossCheckRow
  constructor
  · intro h
    split at h
    next => cases h
    next udiff hfound =>
      obtain ⟨hmem, hkey⟩ := lastUnder_some hfound
      obtain ⟨_, hexact, h⟩ := bind_eq_ok.mp h
      obtain ⟨hturnover, haverage⟩ := (checkDerivedValues_eq_ok (hok udiff hmem) (by decide)).mp h
      exact ⟨udiff, hmem, hkey.symm, checkExactFields_eq_ok.mp hexact, hturnover, haverage⟩
  · rintro ⟨udiff, hmem, hkey, hexact, hturnover, haverage⟩
    rw [hkey, lastUnder_name hnodup hmem]
    dsimp only
    rw [checkExactFields_eq_ok.mpr hexact, ok_bind]
    exact (checkDerivedValues_eq_ok (hok udiff hmem) (by decide)).mpr ⟨hturnover, haverage⟩

/-- The check of the daily bundle of two EQ reports. -/
theorem crossCheckBundle_iff (hnodup : (udiffRows.map UdiffTexts.key).Nodup)
    (hok : ∀ udiff ∈ udiffRows, UdiffRowOk udiff) (hne : rows ≠ [])
    (hfull : ∀ full ∈ rows.map FullTexts.stripped, full.series = "EQ") (hudiff : ∀ udiff ∈ udiffRows, udiff.sctySrs = "EQ") :
    crossCheckBundle rows udiffRows = .ok () ↔ Covers 28 (rows.map FullTexts.stripped) udiffRows := by
  have hcovered : "EQ" ∈ (rows.map FullTexts.stripped).map (·.series) := by
    obtain ⟨row, hrow⟩ := List.exists_mem_of_ne_nil rows hne
    exact List.mem_map.mpr ⟨row.stripped, List.mem_map_of_mem hrow, hfull _ (List.mem_map_of_mem hrow)⟩
  have hexpected : (udiffRows.map UdiffTexts.key).filter (·.2 ∈ (rows.map FullTexts.stripped).map (·.series)) =
      udiffRows.map UdiffTexts.key := by
    refine List.filter_eq_self.mpr fun key hkey => ?_
    obtain ⟨udiff, hmem, rfl⟩ := List.mem_map.mp hkey
    have hseries : udiff.key.2 = "EQ" := hudiff udiff hmem
    rw [hseries]
    exact decide_eq_true hcovered
  have hcore : ¬∃ series ∈ udiffRows.map UdiffTexts.sctySrs,
      series ∈ coreFullBhavcopySeries ∧ series ∉ (rows.map FullTexts.stripped).map (·.series) := by
    rintro ⟨series, -, hseries, hmissing⟩
    rw [List.mem_singleton.mp hseries] at hmissing
    exact hmissing hcovered
  unfold crossCheckBundle
  dsimp only
  rw [hexpected]
  constructor
  · intro h
    obtain ⟨_, hrows, h⟩ := bind_eq_ok.mp h
    obtain ⟨hsame, -⟩ := raiseIf_bind_eq_ok.mp h
    exact ⟨fun full hmem => (crossCheckRow_eq_ok hnodup hok).mp (forM_eq_ok.mp hrows full hmem),
      (sameKeys_iff.mp (not_not.mp hsame)).2⟩
  · rintro ⟨hmatched, hcover⟩
    have hsame := sameKeys_iff.mpr ⟨fun full hmem => by
      obtain ⟨udiff, hudiffMem, hmatch⟩ := hmatched full hmem
      exact ⟨udiff, hudiffMem, hmatch.key⟩, hcover⟩
    refine bind_eq_ok.mpr ⟨(), forM_eq_ok.mpr fun full hmem => (crossCheckRow_eq_ok hnodup hok).mpr (hmatched full hmem), ?_⟩
    exact raiseIf_bind_eq_ok.mpr ⟨not_not.mpr hsame, raiseIf_eq_ok.mpr hcore⟩

theorem reconcileKey_eq_ok (hfullKeys : (rows.map FullTexts.key).Nodup) (hnodup : (udiffRows.map UdiffTexts.key).Nodup)
    (hok : ∀ udiff ∈ udiffRows, UdiffRowOk udiff) (hfull : full ∈ rows) :
    (∃ result, reconcileKey rows udiffRows full.key = .ok result) ↔ ∃ udiff ∈ udiffRows, Matches 50 full udiff := by
  unfold reconcileKey
  rw [lastUnder_name hfullKeys hfull]
  constructor
  · rintro ⟨result, h⟩
    split at h
    next found udiff hsome hfound =>
      obtain rfl := Option.some.inj hsome
      obtain ⟨hmem, hkey⟩ := lastUnder_some hfound
      obtain ⟨_, hexact, h⟩ := bind_eq_ok.mp h
      obtain ⟨_, hderived, -⟩ := bind_eq_ok.mp h
      obtain ⟨hturnover, haverage⟩ := (checkDerivedValues_eq_ok (hok udiff hmem) (by decide)).mp hderived
      exact ⟨udiff, hmem, hkey.symm, checkExactFields_eq_ok.mp hexact, hturnover, haverage⟩
    next => cases h
  · rintro ⟨udiff, hmem, hkey, hexact, hturnover, haverage⟩
    rw [hkey, lastUnder_name hnodup hmem]
    dsimp only
    rw [checkExactFields_eq_ok.mpr hexact, ok_bind,
      (checkDerivedValues_eq_ok (hok udiff hmem) (by decide)).mpr ⟨hturnover, haverage⟩, ok_bind]
    exact ⟨_, rfl⟩

/-- The check of the historical archive. -/
theorem reconcileEqRows_iff (hfullKeys : ((rows.map FullTexts.stripped).map FullTexts.key).Nodup)
    (hnodup : (udiffRows.map UdiffTexts.key).Nodup) (hok : ∀ udiff ∈ udiffRows, UdiffRowOk udiff) :
    (∃ result, reconcileEqRows rows udiffRows = .ok result) ↔ Covers 50 (rows.map FullTexts.stripped) udiffRows := by
  have hmem : ∀ key, key ∈ sortOn toLex ((rows.map FullTexts.stripped).map FullTexts.key).dedup ↔
      ∃ full ∈ rows.map FullTexts.stripped, full.key = key := by
    intro key
    rw [(perm_sortOn toLex _).mem_iff, List.mem_dedup, List.mem_map]
  unfold reconcileEqRows
  dsimp only
  constructor
  · rintro ⟨results, h⟩
    obtain ⟨hsame, h⟩ := raiseIf_bind_eq_ok.mp h
    refine ⟨fun full hfull => ?_, (sameKeys_iff.mp (not_not.mp hsame)).2⟩
    obtain ⟨result, -, hresult⟩ := mem_of_forall₂_left (mapM_eq_ok.mp h) ((hmem _).mpr ⟨full, hfull, rfl⟩)
    exact (reconcileKey_eq_ok hfullKeys hnodup hok hfull).mp ⟨result, hresult⟩
  · rintro ⟨hmatched, hcover⟩
    have hsame := sameKeys_iff.mpr ⟨fun full hfull => by
      obtain ⟨udiff, hudiff, hmatch⟩ := hmatched full hfull
      exact ⟨udiff, hudiff, hmatch.key⟩, hcover⟩
    have hkeys : ∀ key ∈ sortOn toLex ((rows.map FullTexts.stripped).map FullTexts.key).dedup,
        ∃ result, reconcileKey (rows.map FullTexts.stripped) udiffRows key = .ok result ∧ True := by
      intro key hkey
      obtain ⟨full, hfull, rfl⟩ := (hmem key).mp hkey
      obtain ⟨result, hresult⟩ := (reconcileKey_eq_ok hfullKeys hnodup hok hfull).mpr (hmatched full hfull)
      exact ⟨result, hresult, trivial⟩
    obtain ⟨results, hresults, -⟩ := mapM_exists hkeys
    exact ⟨results, raiseIf_bind_eq_ok.mpr ⟨not_not.mpr hsame, hresults⟩⟩

end Agreement

section Answers

variable {fromisoformat : String → Option CalendarDay} {digits : ℕ} {date : CalendarDay} {texts udiff : UdiffTexts}
variable {udiffRows : List UdiffTexts} {n : UdiffNumbers}

/-- The full-delivery row that states what a UDiFF row does and what follows from it. -/
def UdiffTexts.fullRow (digits : ℕ) (date : CalendarDay) (texts : UdiffTexts) : FullTexts where
  symbol := texts.tckrSymb
  series := texts.sctySrs
  date1 := nseDateText date
  prevClose := texts.prvsClsgPric
  openPrice := texts.opnPric
  highPrice := texts.hghPric
  lowPrice := texts.lwPric
  lastPrice := texts.lastPric
  closePrice := texts.clsPric
  avgPrice := paiseText (texts.averagePrice digits)
  ttlTrdQnty := texts.ttlTradgVol
  turnoverLacs := paiseText (texts.turnoverLacs digits)
  noOfTrades := texts.ttlNbOfTxsExctd
  delivQty := "-"
  delivPer := "-"

theorem places_quantizeCents {amount : ℚ} : (quantizeCents amount).places = 2 := rfl

theorem value_quantizeCents_le {amount : ℚ} (h : amount ≤ maximumDecimal) : (quantizeCents amount).value ≤ maximumDecimal := by
  have hcast : ((quantizeCents amount).digits : ℚ) ≤ 10 ^ 22 := by exact_mod_cast digits_quantizeCents_le h
  show ((quantizeCents amount).digits : ℚ) / 10 ^ 2 ≤ 100000000000000000000
  linarith

theorem readsDecimal_paiseText {amount : ℚ} (h : amount ≤ maximumDecimal) :
    ReadsDecimal (paiseText (quantizeCents amount)) (quantizeCents amount) :=
  ⟨readDecimal_paiseText places_quantizeCents, value_quantizeCents_le h⟩

theorem UdiffRowOk.turnover_reads (h : UdiffRowOk texts) (hdigits : 23 ≤ digits) :
    ReadsDecimal (paiseText (texts.turnoverLacs digits)) (texts.turnoverLacs digits) :=
  readsDecimal_paiseText (round_le_maximum hdigits h.quotients.1.1.le h.quotients.1.2)

theorem UdiffRowOk.average_reads (h : UdiffRowOk texts) (hdigits : 23 ≤ digits) :
    ReadsDecimal (paiseText (texts.averagePrice digits)) (texts.averagePrice digits) :=
  readsDecimal_paiseText (round_le_maximum hdigits h.quotients.2.1.le h.quotients.2.2)

/-- No field of the row is padded. -/
theorem UdiffRowOk.stripped_fullRow (h : UdiffRowOk texts) (hdigits : 23 ≤ digits)
    (hdate : calendarDay date.year date.month date.day = some date) :
    (texts.fullRow digits date).stripped = texts.fullRow digits date := by
  obtain ⟨n, hn⟩ := h.numbers
  unfold FullTexts.stripped UdiffTexts.fullRow
  dsimp only
  rw [strip_of_isSymbol h.symbol, strip_of_isSeries h.series, strip_nseDateText hdate,
    strip_of_readDecimal hn.previousClose.1, strip_of_readDecimal hn.openPrice.1, strip_of_readDecimal hn.high.1,
    strip_of_readDecimal hn.low.1, strip_of_readDecimal hn.last.1, strip_of_readDecimal hn.close.1,
    strip_of_readDecimal (h.average_reads hdigits).1, strip_of_canonical hn.volume.1,
    strip_of_readDecimal (h.turnover_reads hdigits).1, strip_of_canonical hn.trades.1]
  rfl

theorem UdiffRowOk.scope_fullRow (h : UdiffRowOk texts) (hdate : calendarDay date.year date.month date.day = some date) :
    checkFullScope date (texts.fullRow digits date) = .ok () := by
  unfold checkFullScope UdiffTexts.fullRow
  dsimp only
  rw [nseTextDate_nseDateText hdate]
  dsimp only
  rw [raiseIf_neg (not_not.mpr rfl), ok_bind, raiseIf_neg (not_not.mpr h.symbol), ok_bind,
    raiseIf_neg (not_not.mpr h.series)]

theorem UdiffRowOk.numbers_fullRow (h : UdiffRowOk texts) (hdigits : 23 ≤ digits)
    (hpositive : (texts.averagePrice digits).digits ≠ 0) : checkFullNumbers (texts.fullRow digits date) = .ok () := by
  obtain ⟨n, hn⟩ := h.numbers
  have haverage : 0 < (texts.averagePrice digits).value :=
    div_pos (by exact_mod_cast Nat.pos_of_ne_zero hpositive) (by positivity)
  obtain ⟨hopen, hhigh, hlow, hclose, hlast, hprevious⟩ : 0 < n.openPrice.value ∧ 0 < n.high.value ∧ 0 < n.low.value ∧
      0 < n.close.value ∧ 0 < n.last.value ∧ 0 < n.previousClose.value := by
    simpa only [not_or, not_le] using hn.positive
  have hordered := hn.ordered
  rw [max_comm n.close.value, min_comm n.close.value] at hordered
  unfold checkFullNumbers UdiffTexts.fullRow
  dsimp only
  rw [decimalField_eq_ok.mpr hn.previousClose, ok_bind, decimalField_eq_ok.mpr hn.openPrice, ok_bind,
    decimalField_eq_ok.mpr hn.high, ok_bind, decimalField_eq_ok.mpr hn.low, ok_bind, decimalField_eq_ok.mpr hn.last,
    ok_bind, decimalField_eq_ok.mpr hn.close, ok_bind, decimalField_eq_ok.mpr (h.average_reads hdigits), ok_bind,
    raiseIf_neg (by simp only [not_or, not_le]; exact ⟨hprevious, hopen, hhigh, hlow, hlast, hclose, haverage⟩), ok_bind,
    raiseIf_neg hordered, ok_bind, integerField_eq_ok.mpr hn.volume, ok_bind,
    decimalField_eq_ok.mpr (h.turnover_reads hdigits), ok_bind, integerField_eq_ok.mpr hn.trades, ok_bind]
  unfold checkDelivery
  rw [if_pos ⟨rfl, rfl⟩]
  rfl

theorem UdiffRowOk.matches_fullRow (h : UdiffRowOk texts) (hdigits : 23 ≤ digits) :
    Matches digits (texts.fullRow digits date) texts := by
  obtain ⟨n, hn⟩ := h.numbers
  refine ⟨rfl, ?_, decimalOf_eq (h.turnover_reads hdigits).1, decimalOf_eq (h.average_reads hdigits).1⟩
  intro names hnames
  simp only [exactFields, List.mem_cons, List.not_mem_nil, or_false] at hnames
  rcases hnames with rfl | rfl | rfl | rfl | rfl | rfl | rfl | rfl
  · exact ⟨_, decimalOf_eq hn.previousClose.1, decimalOf_eq hn.previousClose.1⟩
  · exact ⟨_, decimalOf_eq hn.openPrice.1, decimalOf_eq hn.openPrice.1⟩
  · exact ⟨_, decimalOf_eq hn.high.1, decimalOf_eq hn.high.1⟩
  · exact ⟨_, decimalOf_eq hn.low.1, decimalOf_eq hn.low.1⟩
  · exact ⟨_, decimalOf_eq hn.last.1, decimalOf_eq hn.last.1⟩
  · exact ⟨_, decimalOf_eq hn.close.1, decimalOf_eq hn.close.1⟩
  · exact ⟨_, decimalOf_of_canonical hn.volume.1, decimalOf_of_canonical hn.volume.1⟩
  · exact ⟨_, decimalOf_of_canonical hn.trades.1, decimalOf_of_canonical hn.trades.1⟩

/-- The full-delivery report of a UDiFF report whose average prices are positive. -/
theorem UdiffReport.exists_answer (report : UdiffReport fromisoformat) (hdigits : 23 ≤ digits)
    (hpositive : ∀ texts ∈ report.rows, (texts.averagePrice digits).digits ≠ 0) :
    ∃ full : FullReport, full.claimedDate = report.claimedDate ∧
      full.rows.map FullTexts.stripped = report.rows.map (UdiffTexts.fullRow digits report.claimedDate) := by
  obtain ⟨hok, hnodup⟩ := report.rows_ok
  have hstripped : ∀ texts ∈ report.rows, (texts.fullRow digits report.claimedDate).stripped =
      texts.fullRow digits report.claimedDate := fun texts hmem => (hok texts hmem).stripped_fullRow hdigits report.date
  have hmap : (report.rows.map (UdiffTexts.fullRow digits report.claimedDate)).map FullTexts.stripped =
      report.rows.map (UdiffTexts.fullRow digits report.claimedDate) := by
    rw [List.map_map]
    exact List.map_congr_left hstripped
  have haccepted : parseFullDelivery report.claimedDate (report.rows.map (UdiffTexts.fullRow digits report.claimedDate)) =
      .ok () := by
    unfold parseFullDelivery
    refine raiseIf_bind_eq_ok.mpr ⟨fun hnil => report.rows_ne_nil (List.map_eq_nil_iff.mp hnil), ?_⟩
    refine checkFullRows_ok ?_ ?_ ?_ fun _ _ => List.not_mem_nil
    · intro row hrow
      obtain ⟨texts, hmem, rfl⟩ := List.mem_map.mp hrow
      rw [hstripped texts hmem]
      exact (hok texts hmem).scope_fullRow report.date
    · intro row hrow
      obtain ⟨texts, hmem, rfl⟩ := List.mem_map.mp hrow
      rw [hstripped texts hmem]
      exact (hok texts hmem).numbers_fullRow hdigits (hpositive texts hmem)
    · rw [hmap, List.map_map]
      exact hnodup
  exact ⟨⟨report.claimedDate, _, haccepted⟩, rfl, hmap⟩

end Answers

section Reconcilers

variable {fromisoformat : String → Option CalendarDay} {fullRows : List FullTexts} {udiffRows : List UdiffTexts}
variable {texts : UdiffTexts} {digits digits' : ℕ} {date : CalendarDay}

theorem PlainDecimal.eq_of_value_eq {d d' : PlainDecimal} (hplaces : d.places = d'.places) (h : d.value = d'.value) : d = d' := by
  obtain ⟨digits, places⟩ := d
  obtain ⟨digits', places'⟩ := d'
  obtain rfl : places = places' := hplaces
  have hpower : (0 : ℚ) < 10 ^ places := by positivity
  have hsame : (digits : ℚ) = digits' := (div_left_inj' hpower.ne').mp h
  rw [PlainDecimal.mk.injEq]
  exact ⟨by exact_mod_cast hsame, rfl⟩

theorem UdiffRowOk.average_eq_zero_iff (h : UdiffRowOk texts) (hdigits : 28 ≤ digits) :
    (texts.averagePrice digits).digits = 0 ↔ texts.transferValue / texts.tradedVolume < reach digits 0 := by
  have hreach := lt_digits_round hdigits (by decide : 0 < 10 ^ 22) h.quotients.2.1
  rw [← not_le, ← hreach]
  exact Nat.pos_iff_ne_zero.not_left.symm

theorem UdiffRowOk.derived_eq_iff (h : UdiffRowOk texts) :
    (texts.turnoverLacs 28 = texts.turnoverLacs 50 ∧ texts.averagePrice 28 = texts.averagePrice 50) ↔
      ¬ReachesEarly (texts.transferValue / 100000) ∧ ¬ReachesEarly (texts.transferValue / texts.tradedVolume) :=
  and_congr (quantizeCents_eq_iff h.quotients.1.1 h.quotients.1.2) (quantizeCents_eq_iff h.quotients.2.1 h.quotients.2.2)

theorem Covers.of_derived_eq (h : Covers digits fullRows udiffRows)
    (hsame : ∀ texts ∈ udiffRows, texts.turnoverLacs digits = texts.turnoverLacs digits' ∧
      texts.averagePrice digits = texts.averagePrice digits') : Covers digits' fullRows udiffRows := by
  refine ⟨fun full hfull => ?_, h.covered⟩
  obtain ⟨udiff, hudiff, hmatch⟩ := h.matched full hfull
  obtain ⟨hturnover, haverage⟩ := hsame udiff hudiff
  exact ⟨udiff, hudiff, hmatch.key, hmatch.fields, hturnover ▸ hmatch.turnover, haverage ▸ hmatch.average⟩

/-- A row that is covered has the values of the full row under its key. -/
theorem Covers.of_row (h : Covers digits fullRows udiffRows) (hnodup : (udiffRows.map UdiffTexts.key).Nodup)
    (htexts : texts ∈ udiffRows) {full : FullTexts} (hfull : full ∈ fullRows) (hkey : full.key = texts.key) :
    Matches digits full texts := by
  obtain ⟨udiff, hudiff, hmatch⟩ := h.matched full hfull
  have hsame := List.inj_on_of_nodup_map hnodup hudiff htexts (hmatch.key.symm.trans hkey)
  rw [hsame] at hmatch
  exact hmatch

theorem Covers.average_ne_zero (h : Covers digits fullRows udiffRows) (hnodup : (udiffRows.map UdiffTexts.key).Nodup)
    (hfull : ∀ full ∈ fullRows, FullRowOk full) (htexts : texts ∈ udiffRows) : (texts.averagePrice digits).digits ≠ 0 := by
  obtain ⟨full, hmem, hkey⟩ := h.covered texts htexts
  obtain ⟨d, hread, hpositive⟩ := (hfull full hmem).average
  have haverage := (h.of_row hnodup htexts hmem hkey).average
  rw [decimalOf_eq hread] at haverage
  intro hzero
  have hvalue : (texts.averagePrice digits).value = 0 := by
    unfold PlainDecimal.value
    rw [hzero, Nat.cast_zero, zero_div]
  rw [Except.ok.inj haverage, hvalue] at hpositive
  exact lt_irrefl 0 hpositive

theorem covers_fullRows (hok : ∀ texts ∈ udiffRows, UdiffRowOk texts) (hdigits : 23 ≤ digits) :
    Covers digits (udiffRows.map (UdiffTexts.fullRow digits date)) udiffRows := by
  constructor
  · intro full hfull
    obtain ⟨texts, hmem, rfl⟩ := List.mem_map.mp hfull
    exact ⟨texts, hmem, (hok texts hmem).matches_fullRow hdigits⟩
  · exact fun texts hmem => ⟨_, List.mem_map_of_mem hmem, rfl⟩

/-- Rows that answer in one precision and are accepted in another have the same derived values in both. -/
theorem Covers.derived_eq (h : Covers digits' (udiffRows.map (UdiffTexts.fullRow digits date)) udiffRows)
    (hok : ∀ texts ∈ udiffRows, UdiffRowOk texts) (hnodup : (udiffRows.map UdiffTexts.key).Nodup) (hdigits : 23 ≤ digits)
    (htexts : texts ∈ udiffRows) :
    texts.turnoverLacs digits = texts.turnoverLacs digits' ∧ texts.averagePrice digits = texts.averagePrice digits' := by
  have hmatch := h.of_row hnodup htexts (List.mem_map_of_mem htexts) rfl
  have hturnover := hmatch.turnover
  have haverage := hmatch.average
  have hself : Matches digits (texts.fullRow digits date) texts := (hok texts htexts).matches_fullRow hdigits
  have hturnover' := hself.turnover
  have haverage' := hself.average
  rw [hturnover'] at hturnover
  rw [haverage'] at haverage
  exact ⟨PlainDecimal.eq_of_value_eq rfl (Except.ok.inj hturnover), PlainDecimal.eq_of_value_eq rfl (Except.ok.inj haverage)⟩

/-- The historical archive accepts two reports exactly when the daily bundle does. -/
def ReconcilersAgree (full : List FullTexts) (udiff : List UdiffTexts) : Prop :=
  (∃ result, reconcileEqRows full udiff = .ok result) ↔ crossCheckBundle full udiff = .ok ()

def UdiffReport.EqOnly (report : UdiffReport fromisoformat) : Prop := ∀ texts ∈ report.rows, texts.sctySrs = "EQ"

def FullReport.EqOnly (report : FullReport) : Prop := ∀ texts ∈ report.rows.map FullTexts.stripped, texts.series = "EQ"

/-- No quotient of a row reaches half a paisa early, or the average price of some row rounds to nothing. -/
def RoundsAlike (rows : List UdiffTexts) : Prop :=
  (∀ texts ∈ rows, ¬ReachesEarly (texts.transferValue / 100000) ∧
    ¬ReachesEarly (texts.transferValue / texts.tradedVolume)) ∨
      ∃ texts ∈ rows, texts.transferValue / texts.tradedVolume < reach 28 0

theorem UdiffReport.agree_iff (report : UdiffReport fromisoformat) (full : FullReport) (heq : report.EqOnly)
    (hfull : full.EqOnly) : ReconcilersAgree full.rows report.rows ↔
      (Covers 50 (full.rows.map FullTexts.stripped) report.rows ↔ Covers 28 (full.rows.map FullTexts.stripped) report.rows) := by
  obtain ⟨hok, hnodup⟩ := report.rows_ok
  unfold ReconcilersAgree
  rw [reconcileEqRows_iff full.rows_ok.2 hnodup hok, crossCheckBundle_iff hnodup hok full.rows_ne_nil hfull heq]

/-- The two checks agree on every full report of the date of a UDiFF report exactly when its quotients round alike. -/
theorem reconcilers_agree_iff (report : UdiffReport fromisoformat) :
    (∀ full : FullReport, full.claimedDate = report.claimedDate → full.EqOnly → report.EqOnly →
      ReconcilersAgree full.rows report.rows) ↔ (report.EqOnly → RoundsAlike report.rows) := by
  obtain ⟨hok, hnodup⟩ := report.rows_ok
  constructor
  · intro hagree heq
    by_cases hzero : ∃ texts ∈ report.rows, texts.transferValue / texts.tradedVolume < reach 28 0
    · exact .inr hzero
    · have hpositive : ∀ texts ∈ report.rows, (texts.averagePrice 28).digits ≠ 0 := fun texts hmem hdigits =>
        hzero ⟨texts, hmem, ((hok texts hmem).average_eq_zero_iff le_rfl).mp hdigits⟩
      obtain ⟨full, hdate, hrows⟩ := report.exists_answer (by decide) hpositive
      have hfull : full.EqOnly := by
        intro texts hmem
        rw [hrows] at hmem
        obtain ⟨udiff, hudiff, rfl⟩ := List.mem_map.mp hmem
        exact heq udiff hudiff
      have hboth := (report.agree_iff full heq hfull).mp (hagree full hdate hfull heq)
      rw [hrows] at hboth
      have hcovers := hboth.mpr (covers_fullRows hok (by decide))
      exact .inl fun texts hmem => (hok texts hmem).derived_eq_iff.mp (hcovers.derived_eq hok hnodup (by decide) hmem)
  · intro halike full _ hfull heq
    rw [report.agree_iff full heq hfull]
    rcases halike heq with hsame | ⟨texts, hmem, hsmall⟩
    · have hderived := fun texts hmem => (hok texts hmem).derived_eq_iff.mpr (hsame texts hmem)
      constructor
      · exact fun h => h.of_derived_eq fun texts hmem => ⟨(hderived texts hmem).1.symm, (hderived texts hmem).2.symm⟩
      · exact fun h => h.of_derived_eq hderived
    · have hrejected : ∀ digits, 28 ≤ digits → ¬Covers digits (full.rows.map FullTexts.stripped) report.rows :=
        fun digits hdigits h => h.average_ne_zero hnodup full.rows_ok.1 hmem
          (((hok texts hmem).average_eq_zero_iff hdigits).mpr (hsmall.trans_le (reach_le_reach hdigits)))
      exact iff_of_false (hrejected 50 (by decide)) (hrejected 28 le_rfl)

/-- A traded value just below five rupees a share. -/
def earlyUdiffRow : UdiffTexts where
  tradDt := "2024-01-02"
  bizDt := "2024-01-02"
  sgmt := "CM"
  src := "NSE"
  finInstrmTp := "STK"
  finInstrmId := "2885"
  isin := "INE002A01018"
  tckrSymb := "RELIANCE"
  sctySrs := "EQ"
  finInstrmNm := "RELIANCE INDUSTRIES LTD"
  opnPric := "5"
  hghPric := "5"
  lwPric := "5"
  clsPric := "5"
  lastPric := "5"
  prvsClsgPric := "5"
  ttlTradgVol := "100"
  ttlTrfVal := "499.999999999999999999999999999999"
  ttlNbOfTxsExctd := "1"
  ssnId := "F1"
  newBrdLotQty := "1"

/-- The full-delivery row with a turnover of 0.01 lacs. -/
def earlyFullRow : FullTexts where
  symbol := "RELIANCE"
  series := "EQ"
  date1 := "02-JAN-2024"
  prevClose := "5"
  openPrice := "5"
  highPrice := "5"
  lowPrice := "5"
  lastPrice := "5"
  closePrice := "5"
  avgPrice := "5.00"
  ttlTrdQnty := "100"
  turnoverLacs := "0.01"
  noOfTrades := "1"
  delivQty := "-"
  delivPer := "-"

def isoDate (text : String) : Option CalendarDay := if text = "2024-01-02" then some ⟨2024, 1, 2⟩ else none

theorem earlyUdiffRow_accepted : parseUdiff isoDate ⟨2024, 1, 2⟩ [earlyUdiffRow] = .ok () :=
  ok_of_toOption (by decide +kernel)

theorem earlyFullRow_accepted : parseFullDelivery ⟨2024, 1, 2⟩ [earlyFullRow] = .ok () := ok_of_toOption (by decide +kernel)

theorem earlyDate_valid : calendarDay 2024 1 2 = some ⟨2024, 1, 2⟩ := by decide

/-- A turnover that 28 digits round to 0.005 lacs and 50 digits do not. -/
theorem reconcilers_disagree : ¬∀ (fromisoformat : String → Option CalendarDay) (report : UdiffReport fromisoformat)
    (full : FullReport), full.claimedDate = report.claimedDate → full.EqOnly → report.EqOnly →
      ReconcilersAgree full.rows report.rows := by
  intro h
  have hagree := h isoDate ⟨⟨2024, 1, 2⟩, [earlyUdiffRow], earlyDate_valid, earlyUdiffRow_accepted⟩
    ⟨⟨2024, 1, 2⟩, [earlyFullRow], earlyFullRow_accepted⟩ rfl (List.forall_mem_singleton.mpr (by decide +kernel))
    (List.forall_mem_singleton.mpr rfl)
  have hbundle : crossCheckBundle [earlyFullRow] [earlyUdiffRow] = .ok () := ok_of_toOption (by decide +kernel)
  obtain ⟨result, hresult⟩ := hagree.mpr hbundle
  have harchive : (reconcileEqRows [earlyFullRow] [earlyUdiffRow]).toOption.isNone = true := by decide +kernel
  rw [hresult] at harchive
  cases harchive

end Reconcilers

end LegacyArchive

end IndiaSwing
