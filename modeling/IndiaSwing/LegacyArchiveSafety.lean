import Mathlib.Data.List.Perm.Subperm
import IndiaSwing.LegacyArchiveRecords

namespace IndiaSwing

open ExceptGuards KeySort Grouping

namespace LegacyArchive

variable {ctx : DecimalContext} {session : CalendarDay}

section Rows

variable {rows rows' data data' : List (List String)} {header row : List String}
variable {eqRows : List (ℕ × BhavcopyEqRow)} {parsed parsed' : List MtoRow}

/-- An EQ row holds the key and the numbers of a row. -/
structure EqRowOf (row : List String) (eqRow : BhavcopyEqRow) : Prop where
  symbol : row[0]? = some eqRow.symbol
  series : row[1]? = some eqRow.series
  numbers : NumbersOf row eqRow.numbers

theorem forall₂_eqRows {reads : List (ListingKey × Option BhavcopyEqRow)}
    (h : List.Forall₂ BhavcopyRowReads rows reads) :
    List.Forall₂ EqRowOf (rows.filter isEqBhavcopyRow) (reads.filterMap (·.2)) := by
  induction h with
  | nil => exact .nil
  | @cons row read rows reads hread _ ih =>
    cases hkept : read.2 with
    | none =>
      have hrow : ¬isEqBhavcopyRow row = true := by rw [← hread.kept, hkept]; exact Bool.false_ne_true
      rw [List.filter_cons, if_neg hrow, List.filterMap_cons_none hkept]
      exact ih
    | some eqRow =>
      have hrow : isEqBhavcopyRow row = true := by rw [← hread.kept, hkept]; rfl
      obtain ⟨hkey, hnumbers⟩ := hread.eqRow eqRow hkept
      rw [List.filter_cons, if_pos hrow, List.filterMap_cons_some hkept]
      refine .cons ⟨?_, ?_, hnumbers⟩ ih
      · rw [hread.symbol, ← hkey]
      · rw [hread.series, ← hkey]

/-- The EQ rows of an accepted Bhavcopy are those that are kept. -/
theorem BhavcopyFile.forall₂_eqRows (h : BhavcopyFile session rows eqRows) :
    List.Forall₂ EqRowOf (rows.tail.filter isEqBhavcopyRow) (eqRows.map (·.2)) := by
  obtain ⟨header, reads, -, -, hreads, rfl⟩ := h.shape
  rw [map_keptRows]
  exact LegacyArchive.forall₂_eqRows (hreads.each.imp fun _ _ hread => parseBhavcopyRow_reads hread)

theorem eqRowKey_nodup (h : (eqRows.map bhavcopyKey).Nodup) :
    ((eqRows.map (·.2)).map fun eqRow => (eqRow.symbol, eqRow.series)).Nodup := by
  rw [List.map_map]
  exact h

/-- Rows of the EQ lane with one key are one row. -/
theorem BhavcopyFile.row_ext (h : BhavcopyFile session rows eqRows) {row row' : List String}
    (hrow : row ∈ rows.tail.filter isEqBhavcopyRow) (hrow' : row' ∈ rows.tail.filter isEqBhavcopyRow)
    (hsymbol : row[0]? = row'[0]?) (hseries : row[1]? = row'[1]?) : row = row' := by
  have hmap := forall₂_map_eq (f := fun row : List String => (row[0]?, row[1]?))
    (g := fun eqRow : BhavcopyEqRow => (some eqRow.symbol, some eqRow.series)) h.forall₂_eqRows
    fun row eqRow hof => Prod.ext hof.symbol hof.series
  have hnodup : ((rows.tail.filter isEqBhavcopyRow).map fun row : List String => (row[0]?, row[1]?)).Nodup := by
    rw [hmap]
    refine nodup_map_of (eqRowKey_nodup h.keys_nodup) fun a _ b _ heq => ?_
    have hpair := Prod.mk.inj heq
    exact Prod.ext (Option.some.inj hpair.1) (Option.some.inj hpair.2)
  exact List.inj_on_of_nodup_map hnodup hrow hrow' (Prod.ext hsymbol hseries)

/-- A delivery row holds the key and the numbers of a row. -/
structure MtoRowOf (row : List String) (parsed : MtoRow) : Prop where
  symbol : row[2]? = some parsed.symbol
  series : row[3]? = some parsed.series
  delivery : DeliveryOf row parsed

theorem MtoFile.forall₂_rows (h : MtoFile ctx session rows parsed) :
    List.Forall₂ MtoRowOf (mtoDataRows rows) parsed := by
  obtain ⟨reads, hreads, rfl⟩ := h.reads
  refine List.forall₂_map_right_iff.mpr ((forall₂_zipIdx_forget hreads.each).imp ?_)
  rintro row read ⟨serial, hread⟩
  obtain ⟨hkey, hdelivery⟩ := hread.delivery
  refine ⟨?_, ?_, hdelivery⟩
  · rw [hread.symbol, ← hkey]
  · rw [hread.series, ← hkey]

theorem MtoFile.forall₂_eqRows (h : MtoFile ctx session rows parsed) :
    List.Forall₂ MtoRowOf ((mtoDataRows rows).filter isEqMtoRow) (eqMtoRows parsed) := by
  refine List.rel_filter ?_ h.forall₂_rows
  intro row found hrow
  show isEqMtoRow row = true ↔ decide (found.series = "EQ") = true
  rw [isEqMtoRow, hrow.series, decide_eq_true_eq, decide_eq_true_eq, Option.some_inj]

theorem MtoFile.length_eq (h : MtoFile ctx session rows parsed) : (mtoDataRows rows).length = parsed.length :=
  h.forall₂_rows.length_eq

theorem BhavcopyFile.perm (h : BhavcopyFile session (header :: data) eqRows) (hperm : data'.Perm data) :
    ∃ eqRows', BhavcopyFile session (header :: data') eqRows' ∧
      (eqRows'.map (·.2)).Perm (eqRows.map (·.2)) := by
  obtain ⟨header', reads, hrows, hheader, hreads, heqRows⟩ := h.shape
  obtain rfl := (List.cons.inj hrows).1
  obtain ⟨reads', hreads', hread'⟩ := hreads.perm hperm
  have hkept : ((keptRows 2 reads').map (·.2)).Perm (eqRows.map (·.2)) := by
    rw [heqRows, map_keptRows, map_keptRows]
    exact hreads'.filterMap _
  refine ⟨keptRows 2 reads', ⟨⟨header, reads', rfl, hheader, hread', rfl⟩, ?_, ?_⟩, hkept⟩
  · intro hnil
    exact h.rows_ne_nil (List.nil_perm.mp (hnil ▸ hperm))
  · intro hnil
    rw [hnil] at hkept
    exact h.eqRows_ne_nil (List.map_eq_nil_iff.mp (List.nil_perm.mp hkept))

/-- Only the four rows at the front and the data rows matter. -/
theorem MtoFile.congr (h : MtoFile ctx session rows parsed) (hfront : rows'.take 4 = rows.take 4)
    (hdata : mtoDataRows rows' = mtoDataRows rows) : MtoFile ctx session rows' parsed where
  front := by rw [hfront, h.front]
  rows_ne_nil := by rw [hdata]; exact h.rows_ne_nil
  reads := by rw [hdata]; exact h.reads

theorem MtoFile.perm (h : MtoFile ctx session rows parsed) (hfront : rows'.take 4 = rows.take 4)
    (hperm : data'.Perm (mtoDataRows rows)) (hdata : mtoDataRows rows' = renumbered 1 data') :
    ∃ parsed', MtoFile ctx session rows' parsed' ∧ parsed'.Perm parsed := by
  obtain ⟨reads, hreads, rfl⟩ := h.reads
  obtain ⟨reads', hreads', hread'⟩ := hreads.perm hperm h.rows_ne_nil
  have hparsed := hreads'.map (·.2)
  refine ⟨reads'.map (·.2), ⟨?_, ?_, reads', hdata ▸ hread', rfl⟩, hparsed⟩
  · rw [hfront, h.front, hparsed.length_eq, (hparsed.map (·.deliverableQuantity)).sum_nat]
  · intro hnil
    have hlength := congrArg List.length (hdata.symm.trans hnil)
    rw [length_renumbered, hperm.length_eq] at hlength
    exact h.rows_ne_nil (List.eq_nil_of_length_eq_zero hlength)

/-- One front counts one number of rows. -/
theorem MtoFile.same_length (h : MtoFile ctx session rows parsed) (h' : MtoFile ctx session rows' parsed')
    (hfront : rows'.take 4 = rows.take 4) : (mtoDataRows rows').length = (mtoDataRows rows).length := by
  have hcounts := h.front
  rw [← hfront, h'.front] at hcounts
  have hpair := Prod.mk.inj (Except.ok.inj hcounts)
  rw [h.length_eq, h'.length_eq, hpair.2]

theorem MtoFile.unique (h : MtoFile ctx session rows parsed) (h' : MtoFile ctx session rows parsed') :
    parsed = parsed' :=
  Except.ok.inj ((parseLegacyMto_iff.mpr h).symm.trans (parseLegacyMto_iff.mpr h'))

end Rows

section Joins

variable {innerName innerName' : String} {innerSha256 innerSha256' : ContentId}
variable {eqRows eqRows' : List (ℕ × BhavcopyEqRow)} {mtoRows mtoRows' : List MtoRow}
variable {joined : List (EqRecord × IdentityIssue × SourceIdentityClaim)}

theorem perm_of_names {α κ : Type*} (name : α → κ) {values others : List α} (hsub : ∀ a ∈ values, a ∈ others)
    (hnames : (values.map name).Perm (others.map name)) (hothers : (others.map name).Nodup) :
    values.Perm others := by
  have hvalues : values.Nodup := .of_map name (hnames.nodup_iff.mpr hothers)
  have hlength : others.length = values.length := by
    have := hnames.length_eq
    rw [List.length_map, List.length_map] at this
    exact this.symm
  exact (hvalues.subperm hsub).perm_of_length_le hlength.le

/-- What is recorded comes from pairs of rows, in which each row of each file has its place. -/
theorem Joins.pairs (h : Joins ctx session innerName innerSha256 eqRows mtoRows joined)
    (heqRows : (eqRows.map bhavcopyKey).Nodup) (hmtoRows : (mtoRows.map mtoKey).Nodup) :
    ∃ pairs : List (BhavcopyEqRow × MtoRow), (pairs.map (·.1)).Perm (eqRows.map (·.2)) ∧
      (pairs.map (·.2)).Perm mtoRows ∧
        List.Forall₂ (fun pair out => mtoKey pair.2 = (pair.1.symbol, pair.1.series) ∧
          JoinOf ctx session pair.1 pair.2 out) pairs joined := by
  have hkeys : (sortOn toLex (eqRows.map bhavcopyKey).dedup).Perm (eqRows.map bhavcopyKey) :=
    (perm_sortOn _ _).trans (by rw [heqRows.dedup])
  have hmtoKeys : (eqRows.map bhavcopyKey).Perm (mtoRows.map mtoKey) :=
    List.perm_of_nodup_nodup_toFinset_eq heqRows hmtoRows h.coverage
  have heach : List.Forall₂ (fun key out => ∃ pair : BhavcopyEqRow × MtoRow,
      (pair.1 ∈ eqRows.map (·.2) ∧ pair.2 ∈ mtoRows ∧ (pair.1.symbol, pair.1.series) = key ∧
        mtoKey pair.2 = key) ∧ mtoKey pair.2 = (pair.1.symbol, pair.1.series) ∧
          JoinOf ctx session pair.1 pair.2 out)
      (sortOn toLex (eqRows.map bhavcopyKey).dedup) joined := by
    refine h.each.imp fun key out hout => ?_
    obtain ⟨row, hrow, mto, hmto, hkey, hkey', hjoin⟩ := joinKey_ok hout
    exact ⟨(row.2, mto), ⟨List.mem_map.mpr ⟨row, hrow, rfl⟩, hmto, hkey, hkey'⟩,
      hkey'.trans hkey.symm, hjoin⟩
  obtain ⟨pairs, hfrom, hto⟩ := forall₂_split heach
  have hmem : ∀ pair ∈ pairs, ∃ key, pair.1 ∈ eqRows.map (·.2) ∧ pair.2 ∈ mtoRows ∧
      (pair.1.symbol, pair.1.series) = key ∧ mtoKey pair.2 = key := by
    intro pair hpair
    obtain ⟨key, -, hkey⟩ := mem_of_forall₂_left hfrom.flip hpair
    exact ⟨key, hkey⟩
  have hnames : pairs.map (fun pair => (pair.1.symbol, pair.1.series)) =
      sortOn toLex (eqRows.map bhavcopyKey).dedup := by
    have := forall₂_map_eq (f := id) (g := fun pair : BhavcopyEqRow × MtoRow => (pair.1.symbol, pair.1.series))
      hfrom fun key pair hpair => hpair.2.2.1.symm
    rw [List.map_id] at this
    exact this.symm
  have hmtoNames : pairs.map (fun pair => mtoKey pair.2) = sortOn toLex (eqRows.map bhavcopyKey).dedup := by
    rw [← hnames]
    refine List.map_congr_left fun pair hpair => ?_
    obtain ⟨key, -, -, hkey, hkey'⟩ := hmem pair hpair
    rw [hkey, hkey']
  refine ⟨pairs, ?_, ?_, hto⟩
  · refine perm_of_names (fun eqRow => (eqRow.symbol, eqRow.series)) ?_ ?_ (eqRowKey_nodup heqRows)
    · intro eqRow heqRow
      obtain ⟨pair, hpair, rfl⟩ := List.mem_map.mp heqRow
      exact (hmem pair hpair).choose_spec.1
    · rw [List.map_map, List.map_map]
      exact hnames ▸ hkeys
  · refine perm_of_names mtoKey ?_ ?_ hmtoRows
    · intro mto hmto
      obtain ⟨pair, hpair, rfl⟩ := List.mem_map.mp hmto
      exact (hmem pair hpair).choose_spec.2.1
    · rw [List.map_map]
      exact hmtoNames ▸ hkeys.trans hmtoKeys

/-- The records and the issues of the keys do not depend on the order in which the rows are found. -/
theorem Joins.perm (h : Joins ctx session innerName innerSha256 eqRows mtoRows joined)
    (heqRows : (eqRows.map bhavcopyKey).Nodup) (hmtoRows : (mtoRows.map mtoKey).Nodup)
    (hperm : (eqRows'.map (·.2)).Perm (eqRows.map (·.2))) (hmto : mtoRows'.Perm mtoRows)
    (innerName' : String) (innerSha256' : ContentId) :
    ∃ joined', Joins ctx session innerName' innerSha256' eqRows' mtoRows' joined' ∧
      joined'.map (·.1) = joined.map (·.1) ∧ joined'.map (·.2.1) = joined.map (·.2.1) := by
  have hkeys : (eqRows'.map bhavcopyKey).Perm (eqRows.map bhavcopyKey) := by
    have := hperm.map fun eqRow => (eqRow.symbol, eqRow.series)
    rw [List.map_map, List.map_map] at this
    exact this
  have hmtoKeys : (mtoRows'.map mtoKey).Perm (mtoRows.map mtoKey) := hmto.map _
  have heqRows' := hkeys.nodup_iff.mpr heqRows
  have hmtoRows' := hmtoKeys.nodup_iff.mpr hmtoRows
  have hsorted : sortOn toLex (eqRows'.map bhavcopyKey).dedup = sortOn toLex (eqRows.map bhavcopyKey).dedup := by
    rw [heqRows.dedup, heqRows'.dedup]
    exact sortOn_eq_of_perm toLex hkeys fun _ _ _ _ heq => toLex_inj.mp heq
  have heach : List.Forall₂ (fun key out => ∃ out',
      joinKey ctx session innerName' innerSha256' eqRows' mtoRows' key = .ok out' ∧
        out'.1 = out.1 ∧ out'.2.1 = out.2.1) (sortOn toLex (eqRows.map bhavcopyKey).dedup) joined := by
    refine h.each.imp fun key out hout => ?_
    obtain ⟨row, hrow, mto, hmem, hkey, hkey', hjoin⟩ := joinKey_ok hout
    have hrow' : row.2 ∈ eqRows'.map (·.2) := hperm.mem_iff.mpr (List.mem_map.mpr ⟨row, hrow, rfl⟩)
    obtain ⟨row', hrow', hsame⟩ := List.mem_map.mp hrow'
    have hkeyRow : bhavcopyKey row' = key := by rw [bhavcopyKey, hsame]; exact hkey
    obtain ⟨out', hok, hjoin'⟩ := joinKey_exists heqRows' hmtoRows' hrow' (hmto.mem_iff.mpr hmem) hkeyRow hkey'
      (hsame ▸ hjoin.quantity)
    refine ⟨out', hok, ?_, ?_⟩
    · rw [hjoin'.record, hjoin.record, hsame]
    · rw [hjoin'.issue, hjoin.issue, hsame]
  obtain ⟨joined', hjoined, hsame⟩ := forall₂_split heach
  refine ⟨joined', ⟨⟨?_, ?_⟩, ?_, hsorted ▸ hjoined, ?_, ?_⟩, ?_, ?_⟩
  · intro hnil
    rw [hnil] at hperm
    exact h.ne_nil.1 (List.map_eq_nil_iff.mp (List.nil_perm.mp hperm))
  · intro hnil
    exact h.ne_nil.2 (List.nil_perm.mp (hnil ▸ hmto))
  · rw [List.toFinset_eq_of_perm _ _ hkeys, List.toFinset_eq_of_perm _ _ hmtoKeys, h.coverage]
  · intro hnil
    rw [hnil] at hsame
    cases hsame
    exact h.length_le.1 rfl
  · rw [hsame.length_eq]
    exact h.length_le.2
  · exact forall₂_map_eq hsame fun _ _ hout => hout.1
  · exact forall₂_map_eq hsame fun _ _ hout => hout.2

end Joins

section Payloads

variable {β : Type} {reader : PayloadReader β} {zip zip' mto mto' : β} {header header' : List String}
variable {data data' front mtoData mtoData' : List (List String)}
variable {records : List EqRecord} {issues : List IdentityIssue} {claims : List SourceIdentityClaim}

/-- A payload is the container of a Bhavcopy with a header and some data rows. -/
def IsBhavcopy (reader : PayloadReader β) (session : CalendarDay) (zip : β) (header : List String)
    (data : List (List String)) : Prop :=
  ∃ innerName inner, legacyFullBhavcopyCsv reader session zip = .ok (innerName, inner) ∧
    reader.csvRows inner = some (header :: data)

/-- A payload is an MTO with four rows at the front and some data rows. -/
def IsMto (reader : PayloadReader β) (mto : β) (front data : List (List String)) : Prop :=
  ∃ rows, reader.csvRows mto = some rows ∧ rows.take 4 = front ∧ mtoDataRows rows = data

/-- A record carries what a row of the Bhavcopy holds. -/
structure RecordOfBhavcopyRow (ctx : DecimalContext) (session : CalendarDay) (record : EqRecord)
    (row : List String) : Prop where
  session : record.session = session
  symbol : row[0]? = some record.symbol
  series : row[1]? = some record.series
  openPrice : priceAt row 2 = some record.open
  high : priceAt row 3 = some record.high
  low : priceAt row 4 = some record.low
  close : priceAt row 5 = some record.close
  last : priceAt row 6 = some record.last
  previousClose : priceAt row 7 = some record.previousClose
  volume : quantityAt 0 row 8 = some record.volume
  turnover : ∃ value, priceAt row 9 = some value ∧
    record.averagePrice = quantizeCents (ctx.div value.value record.volume) ∧
      record.turnoverLacs = quantizeCents (ctx.div value.value 100000)
  tradeCount : quantityAt 0 row 11 = some record.tradeCount

/-- A record carries what a row of the MTO holds. -/
structure RecordOfMtoRow (record : EqRecord) (row : List String) : Prop where
  symbol : row[2]? = some record.symbol
  series : row[3]? = some record.series
  volume : quantityAt 1 row 4 = some record.volume
  deliveryQuantity : quantityAt 0 row 5 = some record.deliveryQuantity
  deliveryPercent : (row[6]?).bind (decimalAtMost 100) = some record.deliveryPercent

/-- The records stand one to one for the EQ rows of either file. -/
structure OneToOne (ctx : DecimalContext) (session : CalendarDay) (records : List EqRecord)
    (data mtoData : List (List String)) : Prop where
  bhavcopy : ∃ order, order.Perm (data.filter isEqBhavcopyRow) ∧
    List.Forall₂ (RecordOfBhavcopyRow ctx session) records order
  mto : ∃ order, order.Perm (mtoData.filter isEqMtoRow) ∧ List.Forall₂ RecordOfMtoRow records order
  distinct : (records.map fun record => (record.symbol, record.series)).Nodup
  delivered : ∀ record ∈ records, record.deliveryQuantity ≤ record.volume

theorem RecordOfBhavcopyRow.of_join {row : List String} {eqRow : BhavcopyEqRow} {found : MtoRow}
    {out : EqRecord × IdentityIssue × SourceIdentityClaim} (hrow : EqRowOf row eqRow)
    (h : JoinOf ctx session eqRow found out) : RecordOfBhavcopyRow ctx session out.1 row := by
  rw [h.record]
  exact ⟨rfl, hrow.symbol, hrow.series, hrow.numbers.openPrice, hrow.numbers.high, hrow.numbers.low,
    hrow.numbers.close, hrow.numbers.last, hrow.numbers.previousClose, hrow.numbers.tradedQuantity,
    ⟨_, hrow.numbers.totalTradedValue, rfl, rfl⟩, hrow.numbers.totalTrades⟩

theorem RecordOfMtoRow.of_join {row : List String} {eqRow : BhavcopyEqRow} {found : MtoRow}
    {out : EqRecord × IdentityIssue × SourceIdentityClaim} (hrow : MtoRowOf row found)
    (hkey : mtoKey found = (eqRow.symbol, eqRow.series)) (h : JoinOf ctx session eqRow found out) :
    RecordOfMtoRow out.1 row := by
  have hpair := Prod.mk.inj hkey
  rw [h.record]
  refine ⟨?_, ?_, ?_, hrow.delivery.deliverableQuantity, hrow.delivery.percent⟩
  · rw [hrow.symbol, hpair.1]
    rfl
  · rw [hrow.series, hpair.2]
    rfl
  · rw [hrow.delivery.tradedQuantity, ← h.quantity]
    rfl

theorem Joins.oneToOne {innerName : String} {innerSha256 : ContentId} {eqRows : List (ℕ × BhavcopyEqRow)}
    {parsed : List MtoRow} {rows mtoRows : List (List String)}
    {joined : List (EqRecord × IdentityIssue × SourceIdentityClaim)}
    (h : Joins ctx session innerName innerSha256 eqRows (eqMtoRows parsed) joined)
    (hfile : BhavcopyFile session rows eqRows) (hmtoFile : MtoFile ctx session mtoRows parsed) :
    OneToOne ctx session (joined.map (·.1)) rows.tail (mtoDataRows mtoRows) := by
  obtain ⟨pairs, heqRows, hmtoRows, hjoins⟩ :=
    h.pairs hfile.keys_nodup (eqMtoRows_keys_nodup hmtoFile.keys_nodup)
  constructor
  · obtain ⟨order, horder, hperm⟩ := List.perm_comp_forall₂ heqRows hfile.forall₂_eqRows.flip
    refine ⟨order, hperm, List.forall₂_map_left_iff.mpr ?_⟩
    refine forall₂_trans hjoins.flip (List.forall₂_map_left_iff.mp horder) ?_
    intro out pair row hjoin hrow
    exact .of_join hrow hjoin.2
  · obtain ⟨order, horder, hperm⟩ := List.perm_comp_forall₂ hmtoRows hmtoFile.forall₂_eqRows.flip
    refine ⟨order, hperm, List.forall₂_map_left_iff.mpr ?_⟩
    refine forall₂_trans hjoins.flip (List.forall₂_map_left_iff.mp horder) ?_
    intro out pair row hjoin hrow
    exact .of_join hrow hjoin.1 hjoin.2
  · have hnames := forall₂_map_eq (f := fun pair : BhavcopyEqRow × MtoRow => (pair.1.symbol, pair.1.series))
      (g := fun out : EqRecord × IdentityIssue × SourceIdentityClaim => (out.1.symbol, out.1.series)) hjoins
      fun pair out hjoin => by rw [hjoin.2.record]; rfl
    have hkeys := heqRows.map fun eqRow : BhavcopyEqRow => (eqRow.symbol, eqRow.series)
    rw [List.map_map] at hkeys ⊢
    have hnodup := hkeys.nodup_iff.mpr (eqRowKey_nodup hfile.keys_nodup)
    exact hnames ▸ hnodup
  · intro record hrecord
    obtain ⟨out, hout, rfl⟩ := List.mem_map.mp hrecord
    obtain ⟨pair, hpair, -, hjoin⟩ := mem_of_forall₂_left hjoins.flip hout
    have hmem : pair.2 ∈ eqMtoRows parsed := hmtoRows.mem_iff.mp (List.mem_map.mpr ⟨pair, hpair, rfl⟩)
    obtain ⟨row, -, hrow⟩ := mem_of_forall₂_left hmtoFile.forall₂_eqRows.flip hmem
    rw [hjoin.record]
    show pair.2.deliverableQuantity ≤ pair.1.numbers.tradedQuantity
    rw [hjoin.quantity]
    exact hrow.delivery.le

/-- The data rows of an MTO in another order, with the serial numbers of that order. -/
def ReorderedMto (mtoData mtoData' : List (List String)) : Prop :=
  mtoData' = mtoData ∨ ∃ order, order.Perm mtoData ∧ mtoData' = renumbered 1 order

theorem MtoFile.reordered {rows rows' : List (List String)} {parsed : List MtoRow}
    (h : MtoFile ctx session rows parsed) (hfront : rows'.take 4 = rows.take 4)
    (hdata : ReorderedMto (mtoDataRows rows) (mtoDataRows rows')) :
    ∃ parsed', MtoFile ctx session rows' parsed' ∧ parsed'.Perm parsed := by
  rcases hdata with hsame | ⟨order, hperm, hdata⟩
  · exact ⟨parsed, h.congr hfront hsame, .refl _⟩
  · exact h.perm hfront hperm hdata

/-- A Bhavcopy without some EQ rows does not fit the MTO it fitted with them. -/
theorem Joins.rejects_deletion {innerName innerName' : String} {innerSha256 innerSha256' : ContentId}
    {eqRows eqRows' : List (ℕ × BhavcopyEqRow)} {mtoRows : List MtoRow} {row : List String}
    {joined joined' : List (EqRecord × IdentityIssue × SourceIdentityClaim)} {keep : List String → Bool}
    (h : Joins ctx session innerName innerSha256 eqRows mtoRows joined)
    (h' : Joins ctx session innerName' innerSha256' eqRows' mtoRows joined')
    (hfile : BhavcopyFile session (header :: data) eqRows)
    (hfile' : BhavcopyFile session (header' :: data.filter keep) eqRows')
    (hrow : row ∈ data) (heq : isEqBhavcopyRow row = true) (hkeep : keep row = false) : False := by
  have hmem : row ∈ data.filter isEqBhavcopyRow := List.mem_filter.mpr ⟨hrow, heq⟩
  obtain ⟨eqRow, heqRow, hof⟩ := mem_of_forall₂_left hfile.forall₂_eqRows hmem
  obtain ⟨found, hfound, rfl⟩ := List.mem_map.mp heqRow
  have hkey : bhavcopyKey found ∈ (eqRows'.map bhavcopyKey).toFinset := by
    rw [h'.coverage, ← h.coverage]
    exact List.mem_toFinset.mpr (List.mem_map.mpr ⟨found, hfound, rfl⟩)
  obtain ⟨other, hother, hsame⟩ := List.mem_map.mp (List.mem_toFinset.mp hkey)
  obtain ⟨row', hrow', hof'⟩ := mem_of_forall₂_left hfile'.forall₂_eqRows.flip
    (List.mem_map.mpr ⟨other, hother, rfl⟩)
  obtain ⟨hkept, heq'⟩ := List.mem_filter.mp hrow'
  obtain ⟨hdata', hkeep'⟩ := List.mem_filter.mp hkept
  have hpair := Prod.mk.inj hsame
  have hrows : row = row' := by
    refine hfile.row_ext hmem (List.mem_filter.mpr ⟨hdata', heq'⟩) ?_ ?_
    · rw [hof.symbol, hof'.symbol, hpair.1]
    · rw [hof.series, hof'.series, hpair.2]
  rw [hrows, hkeep'] at hkeep
  cases hkeep

/-- An accepted pair gives one record for each EQ row of either file, with its numbers, whatever the order
of the rows; without some of its rows it is not accepted. -/
theorem legacyUnreconciledEqRecords_exact (reader : PayloadReader β) (ctx : DecimalContext)
    (session : CalendarDay) (zip mto : β) (records : List EqRecord) (issues : List IdentityIssue)
    (claims : List SourceIdentityClaim)
    (haccepted : legacyUnreconciledEqRecords reader ctx session zip mto = .ok (records, issues, claims)) :
    ∃ header data front mtoData, IsBhavcopy reader session zip header data ∧ IsMto reader mto front mtoData ∧
      OneToOne ctx session records data mtoData ∧
      (∀ zip' data', IsBhavcopy reader session zip' header data' → data'.Perm data →
        ∀ mto' mtoData', IsMto reader mto' front mtoData' → ReorderedMto mtoData mtoData' →
          ∃ claims', legacyUnreconciledEqRecords reader ctx session zip' mto' = .ok (records, issues, claims')) ∧
      (∀ keep : List String → Bool, (∀ row ∈ data, keep row = false → isEqBhavcopyRow row = true) →
        (∃ row ∈ data, keep row = false) →
          ∀ zip' mto', IsBhavcopy reader session zip' header (data.filter keep) →
            IsMto reader mto' front mtoData →
              ∀ result, legacyUnreconciledEqRecords reader ctx session zip' mto' ≠ .ok result) ∧
      (∀ keep : List String → Bool, (∃ row ∈ mtoData, keep row = false) →
        ∀ zip' mto', IsMto reader mto' front (renumbered 1 (mtoData.filter keep)) →
          ∀ result, legacyUnreconciledEqRecords reader ctx session zip' mto' ≠ .ok result) := by
  obtain ⟨bhavcopy, mtoRows, innerName, inner, eqRows, parsed, joined, hfiles, hjoins, hresult⟩ :=
    legacyUnreconciledEqRecords_iff.mp haccepted
  obtain ⟨hcontainer, hbhavcopy, hmtoRows, hfile, hmtoFile⟩ := hfiles
  obtain ⟨rfl, rfl, rfl⟩ : records = joined.map (·.1) ∧ issues = joined.map (·.2.1) ∧
      claims = joined.map (·.2.2) := by
    have hpair := Prod.mk.inj hresult
    exact ⟨hpair.1, Prod.mk.inj hpair.2⟩
  obtain ⟨header, -, hshape, -⟩ := hfile.shape
  have hwhole := hfile
  rw [hshape] at hbhavcopy hwhole
  have heqMto := eqMtoRows_keys_nodup hmtoFile.keys_nodup
  refine ⟨header, bhavcopy.tail, mtoRows.take 4, mtoDataRows mtoRows, ⟨innerName, inner, hcontainer, hbhavcopy⟩,
    ⟨mtoRows, hmtoRows, rfl, rfl⟩, hjoins.oneToOne hfile hmtoFile, ?_, ?_, ?_⟩
  · rintro zip' data' ⟨innerName', inner', hcontainer', hrows'⟩ hperm mto' mtoData'
      ⟨rows', hmto', hfront, rfl⟩ hreordered
    obtain ⟨eqRows', hfile', heqRows'⟩ := hwhole.perm hperm
    obtain ⟨parsed', hmtoFile', hparsed'⟩ := hmtoFile.reordered hfront hreordered
    obtain ⟨joined', hjoins', hrecords, hissues⟩ := hjoins.perm hfile.keys_nodup heqMto heqRows'
      (hparsed'.filter _) innerName' (reader.sha256 inner')
    refine ⟨joined'.map (·.2.2), legacyUnreconciledEqRecords_iff.mpr ⟨_, rows', innerName', inner', eqRows',
      parsed', joined', ⟨hcontainer', hrows', hmto', hfile', hmtoFile'⟩, hjoins', ?_⟩⟩
    rw [hrecords, hissues]
  · rintro keep honly ⟨row, hrow, hkeep⟩ zip' mto' ⟨_, _, hcontainer', hrows'⟩ ⟨rows', hmto', hfront, hdata⟩
      result hok
    obtain ⟨found, mtoRows', _, _, eqRows', parsed', joined', hfiles', hjoins', -⟩ :=
      legacyUnreconciledEqRecords_iff.mp hok
    have hinner := Prod.mk.inj (Except.ok.inj (hcontainer'.symm.trans hfiles'.container))
    have hfound := Option.some.inj (hrows'.symm.trans (hinner.2 ▸ hfiles'.bhavcopyRows))
    have hsame := Option.some.inj (hmto'.symm.trans hfiles'.mtoRows)
    have hfile' := hfiles'.bhavcopyFile
    have hparsed : parsed' = parsed := (hmtoFile.congr hfront hdata).unique (hsame ▸ hfiles'.mtoFile) |>.symm
    rw [← hfound] at hfile'
    rw [hparsed] at hjoins'
    exact hjoins.rejects_deletion hjoins' hwhole hfile' hrow (honly row hrow hkeep) hkeep
  · rintro keep ⟨row, hrow, hkeep⟩ zip' mto' ⟨rows', hmto', hfront, hdata⟩ result hok
    obtain ⟨_, mtoRows', _, _, _, parsed', _, hfiles', -, -⟩ := legacyUnreconciledEqRecords_iff.mp hok
    have hsame := Option.some.inj (hmto'.symm.trans hfiles'.mtoRows)
    have hlength := hmtoFile.same_length (hsame ▸ hfiles'.mtoFile) hfront
    rw [hdata, length_renumbered] at hlength
    exact absurd (List.length_filter_eq_length_iff.mp hlength row hrow) (by rw [hkeep]; exact Bool.false_ne_true)

inductive SamplePayload where
  | container
  | inner
  | delivery
  deriving DecidableEq

def sampleReader : PayloadReader SamplePayload where
  zipEntries
    | .container => some [⟨"cm01JAN2020bhav.csv", false, true, 300, true, .inner⟩]
    | _ => none
  isEmpty _ := false
  csvRows
    | .container => none
    | .inner => some [legacyFullBhavcopyHeaderNames,
        ["ABC", "EQ", "10.00", "11", "9.50", "10.50", "10.50", "10", "100", "1050", "01-JAN-2020", "5", "INE000A"],
        ["XYZ", "BE", "7", "7", "7", "7", "7", "7", "3", "21", "01-JAN-2020", "1", "INE000B"]]
    | .delivery => some [[mtoTitleLine], ["10", "MTO", "01012020", "0063", "2"],
        ["Trade Date <01-JAN-2020>", "Settlement Type <N>"], mtoHeaderRecord,
        ["20", "1", "ABC", "EQ", "100", "60", "60.00"], ["20", "2", "XYZ", "BE", "3", "3", "100"]]
  sha256 _ := .digest 7

def sampleRecord : EqRecord where
  session := ⟨2020, 1, 1⟩
  listingKey := "NSE:ABC"
  symbol := "ABC"
  series := "EQ"
  previousClose := ⟨10, 0⟩
  «open» := ⟨1000, 2⟩
  high := ⟨11, 0⟩
  low := ⟨950, 2⟩
  last := ⟨1050, 2⟩
  close := ⟨1050, 2⟩
  averagePrice := ⟨1050, 2⟩
  volume := 100
  turnoverLacs := ⟨1, 2⟩
  tradeCount := 5
  deliveryQuantity := 60
  deliveryPercent := ⟨6000, 2⟩

theorem sample_accepted : legacyUnreconciledEqRecords sampleReader .exact ⟨2020, 1, 1⟩ .container .delivery =
    .ok ([sampleRecord], [⟨⟨2020, 1, 1⟩, "NSE:ABC", "EQ"⟩],
      [⟨⟨2020, 1, 1⟩, "NSE:ABC", "ABC", "EQ", "INE000A", "cm01JAN2020bhav.csv", .digest 7, 2⟩]) := by
  decide +kernel

theorem legacyUnreconciledEqRecords_exact_sample :
    ∃ header data front mtoData, IsBhavcopy sampleReader ⟨2020, 1, 1⟩ .container header data ∧
      IsMto sampleReader .delivery front mtoData ∧
        OneToOne .exact ⟨2020, 1, 1⟩ [sampleRecord] data mtoData := by
  obtain ⟨header, data, front, mtoData, hbhavcopy, hmto, hrecords, -⟩ :=
    legacyUnreconciledEqRecords_exact sampleReader .exact ⟨2020, 1, 1⟩ .container .delivery _ _ _ sample_accepted
  exact ⟨header, data, front, mtoData, hbhavcopy, hmto, hrecords⟩

end Payloads

end LegacyArchive

end IndiaSwing
