import IndiaSwing.LegacyArchiveRows

namespace IndiaSwing

open ExceptGuards KeySort Grouping

namespace LegacyArchive

variable {ctx : DecimalContext} {session : CalendarDay}

section Files

variable {rows data : List (List String)} {eqRows : List (ℕ × BhavcopyEqRow)} {parsed : List MtoRow}

/-- An accepted Bhavcopy: a header of one of the two shapes, and rows that read as their EQ rows. -/
structure BhavcopyFile (session : CalendarDay) (rows : List (List String)) (eqRows : List (ℕ × BhavcopyEqRow)) :
    Prop where
  shape : ∃ header reads, rows = header :: rows.tail ∧
    (header = legacyFullBhavcopyHeaderNames ++ [""] ∨ header = legacyFullBhavcopyHeaderNames) ∧
      BhavcopyReads (header = legacyFullBhavcopyHeaderNames ++ [""]) session rows.tail reads ∧
        eqRows = keptRows 2 reads
  rows_ne_nil : rows.tail ≠ []
  eqRows_ne_nil : eqRows ≠ []

theorem parseLegacyFullBhavcopy_iff : parseLegacyFullBhavcopy session (some rows) = .ok eqRows ↔
    BhavcopyFile session rows eqRows := by
  cases rows with
  | nil =>
    constructor
    · intro h
      cases h
    · intro h
      exact absurd rfl h.rows_ne_nil
  | cons header data =>
    unfold parseLegacyFullBhavcopy
    dsimp only
    rw [raiseIf_bind_eq_ok, raiseIf_bind_eq_ok, bind_eq_ok]
    constructor
    · rintro ⟨hheader, hdata, kept, hkept, h⟩
      obtain ⟨hne, h⟩ := raiseIf_bind_eq_ok.mp h
      obtain rfl := Except.ok.inj h
      obtain ⟨reads, hreads, -, rfl⟩ := parseBhavcopyRows_iff.mp hkept
      refine ⟨⟨header, reads, rfl, ?_, hreads, rfl⟩, hdata, hne⟩
      rw [not_and_or, not_not, not_not] at hheader
      exact hheader
    · rintro ⟨⟨header', reads, hrows, hheader, hreads, rfl⟩, hdata, hne⟩
      obtain rfl := (List.cons.inj hrows).1
      refine ⟨?_, hdata, keptRows 2 reads, ?_, raiseIf_bind_eq_ok.mpr ⟨hne, rfl⟩⟩
      · rw [not_and_or, not_not, not_not]
        exact hheader
      · exact parseBhavcopyRows_iff.mpr ⟨reads, hreads, fun _ _ => List.not_mem_nil, rfl⟩

/-- An accepted MTO: its data rows read as what the control record counts. -/
structure MtoFile (ctx : DecimalContext) (session : CalendarDay) (rows : List (List String))
    (parsed : List MtoRow) : Prop where
  front : checkMtoFront session (rows.take 4) =
    .ok ((parsed.map (·.deliverableQuantity)).sum, parsed.length)
  rows_ne_nil : mtoDataRows rows ≠ []
  reads : ∃ reads, MtoReads ctx 1 (mtoDataRows rows) reads ∧ parsed = reads.map (·.2)

theorem parseLegacyMto_iff : parseLegacyMto ctx session (some rows) = .ok parsed ↔
    MtoFile ctx session rows parsed := by
  unfold parseLegacyMto
  dsimp only
  rw [bind_eq_ok]
  constructor
  · rintro ⟨⟨total, count⟩, hfront, h⟩
    obtain ⟨hdata, h⟩ := raiseIf_bind_eq_ok.mp h
    obtain ⟨found, hfound, h⟩ := bind_eq_ok.mp h
    obtain ⟨hcontrol, h⟩ := raiseIf_bind_eq_ok.mp h
    obtain rfl := Except.ok.inj h
    rw [not_or, not_not, not_not] at hcontrol
    obtain ⟨reads, hreads, -, rfl⟩ := parseMtoRows_iff.mp hfound
    have hcount : count = (reads.map (·.2)).length := hcontrol.1
    have htotal : total = ((reads.map (·.2)).map (·.deliverableQuantity)).sum := hcontrol.2
    refine ⟨?_, hdata, reads, hreads, rfl⟩
    rw [hfront, hcount, htotal]
  · rintro ⟨hfront, hdata, reads, hreads, rfl⟩
    refine ⟨_, hfront, raiseIf_bind_eq_ok.mpr ⟨hdata, bind_eq_ok.mpr ⟨reads.map (·.2), ?_, ?_⟩⟩⟩
    · exact parseMtoRows_iff.mpr ⟨reads, hreads, fun _ _ => List.not_mem_nil, rfl⟩
    · refine raiseIf_bind_eq_ok.mpr ⟨?_, rfl⟩
      rw [not_or, not_not, not_not]
      exact ⟨rfl, rfl⟩

theorem BhavcopyFile.keys_nodup (h : BhavcopyFile session rows eqRows) : (eqRows.map bhavcopyKey).Nodup := by
  obtain ⟨header, reads, -, -, hreads, rfl⟩ := h.shape
  have hkeys : (keptRows 2 reads).map bhavcopyKey =
      (reads.filterMap (·.2)).map fun eqRow => (eqRow.symbol, eqRow.series) := by
    rw [← map_keptRows 2, List.map_map]
    rfl
  have hsublist : ((reads.filterMap (·.2)).map fun eqRow => (eqRow.symbol, eqRow.series)).Sublist
      (reads.map (·.1)) := by
    have hread : ∀ read ∈ reads, ∀ eqRow ∈ read.2, (eqRow.symbol, eqRow.series) = read.1 := by
      intro read hmem eqRow heqRow
      obtain ⟨row, -, hrow⟩ := mem_of_forall₂_left hreads.each.flip hmem
      exact ((parseBhavcopyRow_reads hrow).eqRow eqRow heqRow).1
    clear hkeys hreads h
    induction reads with
    | nil => exact .slnil
    | cons read reads ih =>
      have hrest := ih fun other hother => hread other (List.mem_cons_of_mem _ hother)
      rw [List.map_cons]
      cases hkept : read.2 with
      | none =>
        rw [List.filterMap_cons_none hkept]
        exact hrest.cons _
      | some eqRow =>
        rw [List.filterMap_cons_some hkept, List.map_cons, hread read List.mem_cons_self eqRow hkept]
        exact hrest.cons_cons _
  rw [hkeys]
  exact hreads.distinct.sublist hsublist

theorem MtoFile.keys_nodup (h : MtoFile ctx session rows parsed) : (parsed.map mtoKey).Nodup := by
  obtain ⟨reads, hreads, rfl⟩ := h.reads
  have hkeys : (reads.map (·.2)).map mtoKey = reads.map (·.1) := by
    rw [List.map_map]
    refine List.map_congr_left fun read hread => ?_
    obtain ⟨row, -, hrow⟩ := mem_of_forall₂_left hreads.each.flip hread
    exact hrow.delivery.1
  rw [hkeys]
  exact hreads.distinct

end Files

section Joins

variable {innerName : String} {innerSha256 : ContentId} {eqRows eqRows' : List (ℕ × BhavcopyEqRow)}
variable {mtoRows mtoRows' : List MtoRow} {key : ListingKey}
variable {joined joined' : List (EqRecord × IdentityIssue × SourceIdentityClaim)}
variable {out : EqRecord × IdentityIssue × SourceIdentityClaim}

/-- What the two rows of a key give. -/
structure JoinOf (ctx : DecimalContext) (session : CalendarDay) (eqRow : BhavcopyEqRow) (mto : MtoRow)
    (out : EqRecord × IdentityIssue × SourceIdentityClaim) : Prop where
  quantity : eqRow.numbers.tradedQuantity = mto.tradedQuantity
  record : out.1 = eqRecord ctx session eqRow mto
  issue : out.2.1 = ⟨session, listingKeyText eqRow.symbol, eqRow.series⟩

theorem joinKey_ok (h : joinKey ctx session innerName innerSha256 eqRows mtoRows key = .ok out) :
    ∃ row ∈ eqRows, ∃ mto ∈ mtoRows, bhavcopyKey row = key ∧ mtoKey mto = key ∧
      JoinOf ctx session row.2 mto out := by
  unfold joinKey at h
  split at h
  next rowNumber eqRow mto hrow hmto =>
    obtain ⟨hquantity, h⟩ := raiseIf_bind_eq_ok.mp h
    obtain rfl := Except.ok.inj h
    obtain ⟨hmem, hkey⟩ := lastUnder_some hrow
    obtain ⟨hmem', hkey'⟩ := lastUnder_some hmto
    exact ⟨_, hmem, mto, hmem', hkey, hkey', not_not.mp hquantity, rfl, rfl⟩
  next => cases h

theorem joinKey_exists (heqRows : (eqRows.map bhavcopyKey).Nodup) (hmtoRows : (mtoRows.map mtoKey).Nodup)
    {row : ℕ × BhavcopyEqRow} {mto : MtoRow} (hrow : row ∈ eqRows) (hmto : mto ∈ mtoRows)
    (hkey : bhavcopyKey row = key) (hkey' : mtoKey mto = key)
    (hquantity : row.2.numbers.tradedQuantity = mto.tradedQuantity) :
    ∃ out, joinKey ctx session innerName innerSha256 eqRows mtoRows key = .ok out ∧
      JoinOf ctx session row.2 mto out := by
  have hfound : lastUnder bhavcopyKey eqRows key = some row := hkey ▸ lastUnder_name heqRows hrow
  have hfound' : lastUnder mtoKey mtoRows key = some mto := hkey' ▸ lastUnder_name hmtoRows hmto
  unfold joinKey
  rw [hfound, hfound']
  dsimp only
  rw [raiseIf_neg (not_not.mpr hquantity), ok_bind]
  exact ⟨_, rfl, hquantity, rfl, rfl⟩

/-- The two files cover the same keys, and each key joins. -/
structure Joins (ctx : DecimalContext) (session : CalendarDay) (innerName : String) (innerSha256 : ContentId)
    (eqRows : List (ℕ × BhavcopyEqRow)) (mtoRows : List MtoRow)
    (joined : List (EqRecord × IdentityIssue × SourceIdentityClaim)) : Prop where
  ne_nil : eqRows ≠ [] ∧ mtoRows ≠ []
  coverage : (eqRows.map bhavcopyKey).toFinset = (mtoRows.map mtoKey).toFinset
  each : List.Forall₂ (fun key out => joinKey ctx session innerName innerSha256 eqRows mtoRows key = .ok out)
    (sortOn toLex (eqRows.map bhavcopyKey).dedup) joined
  length_le : joined ≠ [] ∧ joined.length ≤ maximumRecords

/-- What an accepted pair is read as. -/
structure PairFiles {β : Type} (reader : PayloadReader β) (ctx : DecimalContext) (session : CalendarDay)
    (zipPayload mtoPayload : β) (bhavcopy mto : List (List String)) (innerName : String) (inner : β)
    (eqRows : List (ℕ × BhavcopyEqRow)) (parsed : List MtoRow) : Prop where
  container : legacyFullBhavcopyCsv reader session zipPayload = .ok (innerName, inner)
  bhavcopyRows : reader.csvRows inner = some bhavcopy
  mtoRows : reader.csvRows mtoPayload = some mto
  bhavcopyFile : BhavcopyFile session bhavcopy eqRows
  mtoFile : MtoFile ctx session mto parsed

def eqMtoRows (parsed : List MtoRow) : List MtoRow := parsed.filter (·.series = "EQ")

theorem legacyUnreconciledEqRecords_iff {β : Type} {reader : PayloadReader β} {zipPayload mtoPayload : β}
    {result : List EqRecord × List IdentityIssue × List SourceIdentityClaim} :
    legacyUnreconciledEqRecords reader ctx session zipPayload mtoPayload = .ok result ↔
      ∃ bhavcopy mto innerName inner eqRows parsed joined,
        PairFiles reader ctx session zipPayload mtoPayload bhavcopy mto innerName inner eqRows parsed ∧
          Joins ctx session innerName (reader.sha256 inner) eqRows (eqMtoRows parsed) joined ∧
            result = (joined.map (·.1), joined.map (·.2.1), joined.map (·.2.2)) := by
  have hrows : ∀ {rows eqRows}, parseLegacyFullBhavcopy session rows = .ok eqRows →
      ∃ found, rows = some found ∧ BhavcopyFile session found eqRows := by
    intro rows eqRows h
    cases rows with
    | none => cases h
    | some found => exact ⟨found, rfl, parseLegacyFullBhavcopy_iff.mp h⟩
  have hmto : ∀ {rows parsed}, parseLegacyMto ctx session rows = .ok parsed →
      ∃ found, rows = some found ∧ MtoFile ctx session found parsed := by
    intro rows parsed h
    cases rows with
    | none => cases h
    | some found => exact ⟨found, rfl, parseLegacyMto_iff.mp h⟩
  unfold legacyUnreconciledEqRecords
  rw [bind_eq_ok]
  constructor
  · rintro ⟨⟨innerName, inner⟩, hcontainer, h⟩
    obtain ⟨eqRows, heqRows, h⟩ := bind_eq_ok.mp h
    obtain ⟨parsed, hparsed, h⟩ := bind_eq_ok.mp h
    obtain ⟨hne, h⟩ := raiseIf_bind_eq_ok.mp h
    obtain ⟨hcoverage, h⟩ := raiseIf_bind_eq_ok.mp h
    obtain ⟨joined, hjoined, h⟩ := bind_eq_ok.mp h
    obtain ⟨hlength, h⟩ := raiseIf_bind_eq_ok.mp h
    obtain rfl := Except.ok.inj h
    obtain ⟨bhavcopy, hbhavcopy, hfile⟩ := hrows heqRows
    obtain ⟨mto, hmtoRows, hmtoFile⟩ := hmto hparsed
    rw [not_or] at hne hlength
    exact ⟨bhavcopy, mto, innerName, inner, eqRows, parsed, joined,
      ⟨hcontainer, hbhavcopy, hmtoRows, hfile, hmtoFile⟩,
      ⟨hne, not_not.mp hcoverage, mapM_eq_ok.mp hjoined, hlength.1, not_lt.mp hlength.2⟩, rfl⟩
  · rintro ⟨bhavcopy, mto, innerName, inner, eqRows, parsed, joined, hfiles, hjoins, rfl⟩
    refine ⟨(innerName, inner), hfiles.container, bind_eq_ok.mpr ⟨eqRows, ?_, bind_eq_ok.mpr ⟨parsed, ?_, ?_⟩⟩⟩
    · rw [hfiles.bhavcopyRows]
      exact parseLegacyFullBhavcopy_iff.mpr hfiles.bhavcopyFile
    · rw [hfiles.mtoRows]
      exact parseLegacyMto_iff.mpr hfiles.mtoFile
    · refine raiseIf_bind_eq_ok.mpr ⟨not_or.mpr hjoins.ne_nil, ?_⟩
      refine raiseIf_bind_eq_ok.mpr ⟨not_not.mpr hjoins.coverage, bind_eq_ok.mpr ⟨joined, ?_, ?_⟩⟩
      · exact mapM_eq_ok.mpr hjoins.each
      · exact raiseIf_bind_eq_ok.mpr ⟨not_or.mpr ⟨hjoins.length_le.1, not_lt.mpr hjoins.length_le.2⟩, rfl⟩

theorem eqMtoRows_keys_nodup (h : (mtoRows.map mtoKey).Nodup) : ((eqMtoRows mtoRows).map mtoKey).Nodup :=
  h.sublist (List.filter_sublist.map _)

end Joins

end LegacyArchive

end IndiaSwing
