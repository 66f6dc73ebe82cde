import Mathlib.Data.List.Perm.Basic
import IndiaSwing.LegacyArchive

namespace IndiaSwing

open ExceptGuards KeySort DigitText TextPatterns

namespace LegacyArchive

section Bhavcopy

variable {terminal : Bool} {session : CalendarDay} {seen : List ListingKey} {row : List String}
variable {rows others : List (List String)} {n m : ℕ}
variable {read : ListingKey × Option BhavcopyEqRow} {reads : List (ListingKey × Option BhavcopyEqRow)}

/-- The keys that were seen only matter for the key of the row. -/
theorem parseBhavcopyRow_iff : parseBhavcopyRow terminal session seen row = .ok read ↔
    parseBhavcopyRow terminal session [] row = .ok read ∧ read.1 ∉ seen := by
  unfold parseBhavcopyRow
  cases htexts : bhavcopyTexts terminal row with
  | error e => simp
  | ok texts =>
    rw [ok_bind, ok_bind]
    cases hidentity : checkBhavcopyIdentity session texts with
    | error e => simp
    | ok u =>
      rw [ok_bind, ok_bind, raiseIf_bind_eq_ok, raiseIf_bind_eq_ok]
      cases houtcome : bhavcopyRowOutcome texts with
      | error e => simp
      | ok outcome =>
        constructor
        · rintro ⟨hseen, h⟩
          obtain rfl := Except.ok.inj h
          exact ⟨⟨List.not_mem_nil, h⟩, hseen⟩
        · rintro ⟨⟨-, h⟩, hseen⟩
          obtain rfl := Except.ok.inj h
          exact ⟨hseen, h⟩

/-- The rows that are kept, with their numbers. -/
def keptRows : ℕ → List (ListingKey × Option BhavcopyEqRow) → List (ℕ × BhavcopyEqRow)
  | _, [] => []
  | n, read :: reads => (read.2.map fun eqRow => (n, eqRow)).toList ++ keptRows (n + 1) reads

theorem map_keptRows (n : ℕ) (reads : List (ListingKey × Option BhavcopyEqRow)) :
    (keptRows n reads).map (·.2) = reads.filterMap (·.2) := by
  induction reads generalizing n with
  | nil => rfl
  | cons read reads ih =>
    rw [keptRows, List.map_append, ih, List.filterMap_cons]
    cases read.2 <;> rfl

/-- What some rows read as, each under a key of its own. -/
structure BhavcopyReads (terminal : Bool) (session : CalendarDay) (rows : List (List String))
    (reads : List (ListingKey × Option BhavcopyEqRow)) : Prop where
  each : List.Forall₂ (fun row read => parseBhavcopyRow terminal session [] row = .ok read) rows reads
  distinct : (reads.map (·.1)).Nodup

theorem parseBhavcopyRows_iff {eqRows : List (ℕ × BhavcopyEqRow)} :
    parseBhavcopyRows terminal session n seen rows = .ok eqRows ↔
      ∃ reads, BhavcopyReads terminal session rows reads ∧ (∀ read ∈ reads, read.1 ∉ seen) ∧
        eqRows = keptRows n reads := by
  induction rows generalizing n seen eqRows with
  | nil =>
    rw [parseBhavcopyRows]
    constructor
    · intro h
      obtain rfl := Except.ok.inj h
      exact ⟨[], ⟨.nil, .nil⟩, fun read hread => absurd hread List.not_mem_nil, rfl⟩
    · rintro ⟨reads, hreads, -, rfl⟩
      cases hreads.each
      rfl
  | cons row rows ih =>
    rw [parseBhavcopyRows, bind_eq_ok]
    constructor
    · rintro ⟨read, hread, h⟩
      obtain ⟨rest, hrest, h⟩ := bind_eq_ok.mp h
      obtain rfl := Except.ok.inj h
      obtain ⟨hrow, hseen⟩ := parseBhavcopyRow_iff.mp hread
      obtain ⟨reads, hreads, hnew, rfl⟩ := ih.mp hrest
      refine ⟨read :: reads, ⟨.cons hrow hreads.each, List.nodup_cons.mpr ⟨?_, hreads.distinct⟩⟩, ?_, rfl⟩
      · intro hmem
        obtain ⟨other, hother, hkey⟩ := List.mem_map.mp hmem
        exact hnew other hother (hkey ▸ List.mem_cons_self)
      · intro other hother
        rcases List.mem_cons.mp hother with rfl | hother
        · exact hseen
        · exact fun hmem => hnew other hother (List.mem_cons_of_mem _ hmem)
    · rintro ⟨reads, hreads, hnew, rfl⟩
      obtain ⟨heach, hdistinct⟩ := hreads
      cases heach with
      | @cons _ read _ reads hrow heach =>
        obtain ⟨hfirst, hdistinct⟩ := List.nodup_cons.mp hdistinct
        have hlater : ∀ other ∈ reads, other.1 ∉ read.1 :: seen := by
          intro other hother hmem
          rcases List.mem_cons.mp hmem with hkey | hmem
          · exact hfirst (List.mem_map.mpr ⟨other, hother, hkey⟩)
          · exact hnew other (List.mem_cons_of_mem _ hother) hmem
        have hrest : parseBhavcopyRows terminal session (n + 1) (read.1 :: seen) rows =
            .ok (keptRows (n + 1) reads) := ih.mpr ⟨reads, ⟨heach, hdistinct⟩, hlater, rfl⟩
        exact ⟨read, parseBhavcopyRow_iff.mpr ⟨hrow, hnew read List.mem_cons_self⟩,
          bind_eq_ok.mpr ⟨_, hrest, rfl⟩⟩

/-- Rows in another order read as the same, in another order. -/
theorem BhavcopyReads.perm (h : BhavcopyReads terminal session rows reads) (hperm : others.Perm rows) :
    ∃ reads', reads'.Perm reads ∧ BhavcopyReads terminal session others reads' := by
  obtain ⟨reads', heach, hreads⟩ := List.perm_comp_forall₂ hperm h.each
  exact ⟨reads', hreads, heach, (hreads.map _).nodup_iff.mpr h.distinct⟩

/-- A row is of the EQ lane. -/
def isEqBhavcopyRow (row : List String) : Bool := row[1]? = some "EQ"

def priceAt (row : List String) (i : ℕ) : Option PlainDecimal :=
  (row[i]?).bind (decimalAtMost maximumDecimal)

def quantityAt (minimum : ℕ) (row : List String) (i : ℕ) : Option ℕ := (row[i]?).bind (unsignedInteger minimum)

/-- The numbers of a row, where they stand. -/
structure NumbersOf (row : List String) (numbers : BhavcopyNumbers) : Prop where
  openPrice : priceAt row 2 = some numbers.open
  high : priceAt row 3 = some numbers.high
  low : priceAt row 4 = some numbers.low
  close : priceAt row 5 = some numbers.close
  last : priceAt row 6 = some numbers.last
  previousClose : priceAt row 7 = some numbers.previousClose
  tradedQuantity : quantityAt 0 row 8 = some numbers.tradedQuantity
  totalTradedValue : priceAt row 9 = some numbers.totalTradedValue
  totalTrades : quantityAt 0 row 11 = some numbers.totalTrades

/-- What a row reads as: its key, and an EQ row with the numbers of the row when it is of that lane. -/
structure BhavcopyRowReads (row : List String) (read : ListingKey × Option BhavcopyEqRow) : Prop where
  symbol : row[0]? = some read.1.1
  series : row[1]? = some read.1.2
  kept : read.2.isSome = isEqBhavcopyRow row
  eqRow : ∀ eqRow ∈ read.2, (eqRow.symbol, eqRow.series) = read.1 ∧ NumbersOf row eqRow.numbers

theorem bhavcopyNumbers_eq_some {texts : BhavcopyTexts} {numbers : BhavcopyNumbers}
    (h : bhavcopyNumbers texts = some numbers) :
    decimalAtMost maximumDecimal texts.open = some numbers.open ∧
      decimalAtMost maximumDecimal texts.high = some numbers.high ∧
      decimalAtMost maximumDecimal texts.low = some numbers.low ∧
      decimalAtMost maximumDecimal texts.close = some numbers.close ∧
      decimalAtMost maximumDecimal texts.last = some numbers.last ∧
      decimalAtMost maximumDecimal texts.previousClose = some numbers.previousClose ∧
      unsignedInteger 0 texts.tradedQuantity = some numbers.tradedQuantity ∧
      decimalAtMost maximumDecimal texts.tradedValue = some numbers.totalTradedValue ∧
      unsignedInteger 0 texts.totalTrades = some numbers.totalTrades := by
  unfold bhavcopyNumbers at h
  simp only [Option.bind_eq_bind, Option.bind_eq_some_iff, Option.pure_def, Option.some.injEq] at h
  obtain ⟨openPrice, h₁, high, h₂, low, h₃, close, h₄, last, h₅, previousClose, h₆, quantity, h₇, total, h₈,
    trades, h₉, rfl⟩ := h
  exact ⟨h₁, h₂, h₃, h₄, h₅, h₆, h₇, h₈, h₉⟩

theorem bhavcopyTexts_eq_ok {texts : BhavcopyTexts} (h : bhavcopyTexts terminal row = .ok texts) :
    ∃ rest, row = [texts.symbol, texts.series, texts.open, texts.high, texts.low, texts.close, texts.last,
      texts.previousClose, texts.tradedQuantity, texts.tradedValue, texts.timestamp, texts.totalTrades,
      texts.isin] ++ rest := by
  unfold bhavcopyTexts at h
  split at h
  next rest =>
    split at h
    · cases h
    · split at h
      · cases h
      · obtain rfl := Except.ok.inj h
        exact ⟨rest, rfl⟩
  next => cases h

theorem parseBhavcopyRow_reads (h : parseBhavcopyRow terminal session [] row = .ok read) :
    BhavcopyRowReads row read := by
  unfold parseBhavcopyRow at h
  obtain ⟨texts, htexts, h⟩ := bind_eq_ok.mp h
  obtain ⟨_, -, h⟩ := bind_eq_ok.mp h
  obtain ⟨-, h⟩ := raiseIf_bind_eq_ok.mp h
  obtain ⟨outcome, houtcome, h⟩ := bind_eq_ok.mp h
  obtain rfl := Except.ok.inj h
  obtain ⟨rest, hrow⟩ := bhavcopyTexts_eq_ok htexts
  unfold bhavcopyRowOutcome at houtcome
  obtain ⟨-, houtcome⟩ := raiseIf_bind_eq_ok.mp houtcome
  cases hnumbers : bhavcopyNumbers texts with
  | none =>
    rw [hnumbers] at houtcome
    cases houtcome
  | some numbers =>
    rw [hnumbers] at houtcome
    dsimp only at houtcome
    obtain ⟨h₁, h₂, h₃, h₄, h₅, h₆, h₇, h₈, h₉⟩ := bhavcopyNumbers_eq_some hnumbers
    by_cases hseries : texts.series ≠ "EQ"
    · rw [if_pos hseries] at houtcome
      obtain rfl := Except.ok.inj houtcome
      refine ⟨by rw [hrow]; rfl, by rw [hrow]; rfl, ?_, fun eqRow heqRow => by cases heqRow⟩
      rw [isEqBhavcopyRow, hrow]
      simpa using hseries
    · rw [if_neg hseries] at houtcome
      obtain ⟨_, -, houtcome⟩ := bind_eq_ok.mp houtcome
      obtain rfl := Except.ok.inj houtcome
      refine ⟨by rw [hrow]; rfl, by rw [hrow]; rfl, ?_, fun eqRow heqRow => ?_⟩
      · rw [isEqBhavcopyRow, hrow]
        simpa using hseries
      · obtain rfl := Option.some.inj heqRow
        rw [hrow]
        exact ⟨rfl, h₁, h₂, h₃, h₄, h₅, h₆, h₇, h₈, h₉⟩

end Bhavcopy

section Mto

variable {ctx : DecimalContext} {seen : List ListingKey} {row : List String} {i n : ℕ}
variable {rows others : List (List String)} {read : ListingKey × MtoRow} {reads : List (ListingKey × MtoRow)}

/-- A row of the right width and kind whose serial number is the given one. -/
structure MtoRowReads (ctx : DecimalContext) (row : List String) (serial : ℕ) (read : ListingKey × MtoRow) :
    Prop where
  width : row.length = 7
  kind : row[0]? = some "20"
  serialAt : quantityAt 1 row 1 = some serial
  symbol : row[2]? = some read.1.1
  series : row[3]? = some read.1.2
  valid : isSymbol read.1.1 = true ∧ isSeries read.1.2 = true
  outcome : ∃ traded deliverable percent, row[4]? = some traded ∧ row[5]? = some deliverable ∧
    row[6]? = some percent ∧ mtoRowOutcome ctx read.1.1 read.1.2 traded deliverable percent = .ok read.2

theorem parseMtoRow_iff : parseMtoRow ctx i seen row = .ok read ↔ MtoRowReads ctx row i read ∧ read.1 ∉ seen := by
  unfold parseMtoRow
  split
  next recordType serialText symbol series traded deliverable percent =>
    rw [raiseIf_bind_eq_ok]
    cases hserial : unsignedInteger 1 serialText with
    | none =>
      constructor
      · rintro ⟨-, h⟩
        cases h
      · rintro ⟨h, -⟩
        have hat : (some serialText).bind (unsignedInteger 1) = some i := h.serialAt
        rw [Option.bind_some, hserial] at hat
        cases hat
    | some serial =>
      constructor
      · rintro ⟨hkind, h⟩
        obtain ⟨hindex, h⟩ := raiseIf_bind_eq_ok.mp h
        obtain ⟨hsymbol, h⟩ := raiseIf_bind_eq_ok.mp h
        obtain ⟨hseries, h⟩ := raiseIf_bind_eq_ok.mp h
        obtain ⟨hseen, h⟩ := raiseIf_bind_eq_ok.mp h
        obtain ⟨outcome, houtcome, h⟩ := bind_eq_ok.mp h
        obtain rfl := Except.ok.inj h
        refine ⟨⟨rfl, congrArg some (not_not.mp hkind), ?_, rfl, rfl, ⟨not_not.mp hsymbol, not_not.mp hseries⟩,
          traded, deliverable, percent, rfl, rfl, rfl, houtcome⟩, hseen⟩
        show (some serialText).bind (unsignedInteger 1) = some i
        rw [Option.bind_some, hserial, not_not.mp hindex]
      · rintro ⟨h, hseen⟩
        have hat : (some serialText).bind (unsignedInteger 1) = some i := h.serialAt
        rw [Option.bind_some, hserial] at hat
        obtain rfl := Option.some.inj hat
        obtain ⟨traded', deliverable', percent', ht, hd, hp, houtcome⟩ := h.outcome
        obtain rfl : traded = traded' := Option.some.inj ht
        obtain rfl : deliverable = deliverable' := Option.some.inj hd
        obtain rfl : percent = percent' := Option.some.inj hp
        have hsymbol : symbol = read.1.1 := Option.some.inj h.symbol
        have hseries : series = read.1.2 := Option.some.inj h.series
        have hkind : recordType = "20" := Option.some.inj h.kind
        refine ⟨not_not.mpr hkind, ?_⟩
        dsimp only
        rw [raiseIf_neg (not_not.mpr rfl), ok_bind, hsymbol, hseries, raiseIf_neg (not_not.mpr h.valid.1),
          ok_bind, raiseIf_neg (not_not.mpr h.valid.2), ok_bind, raiseIf_neg hseen, ok_bind, houtcome]
        rfl
  next hshape =>
    constructor
    · intro h
      cases h
    · rintro ⟨h, -⟩
      obtain ⟨a, b, c, d, e, f, g, hrow⟩ : ∃ a b c d e f g, row = [a, b, c, d, e, f, g] := by
        have hwidth := h.width
        match row, hwidth with
        | [a, b, c, d, e, f, g], _ => exact ⟨a, b, c, d, e, f, g, rfl⟩
      exact absurd hrow (hshape a b c d e f g)

/-- What some rows read as, in the order of their serial numbers, each under a key of its own. -/
structure MtoReads (ctx : DecimalContext) (first : ℕ) (rows : List (List String))
    (reads : List (ListingKey × MtoRow)) : Prop where
  each : List.Forall₂ (fun row read => MtoRowReads ctx row.1 row.2 read) (rows.zipIdx first) reads
  distinct : (reads.map (·.1)).Nodup

theorem parseMtoRows_iff {parsed : List MtoRow} : parseMtoRows ctx n seen rows = .ok parsed ↔
    ∃ reads, MtoReads ctx n rows reads ∧ (∀ read ∈ reads, read.1 ∉ seen) ∧ parsed = reads.map (·.2) := by
  induction rows generalizing n seen parsed with
  | nil =>
    rw [parseMtoRows]
    constructor
    · intro h
      obtain rfl := Except.ok.inj h
      exact ⟨[], ⟨.nil, .nil⟩, fun read hread => absurd hread List.not_mem_nil, rfl⟩
    · rintro ⟨reads, hreads, -, rfl⟩
      cases hreads.each
      rfl
  | cons row rows ih =>
    rw [parseMtoRows, bind_eq_ok]
    constructor
    · rintro ⟨read, hread, h⟩
      obtain ⟨rest, hrest, h⟩ := bind_eq_ok.mp h
      obtain rfl := Except.ok.inj h
      obtain ⟨hrow, hseen⟩ := parseMtoRow_iff.mp hread
      obtain ⟨reads, hreads, hnew, rfl⟩ := ih.mp hrest
      refine ⟨read :: reads, ⟨.cons hrow hreads.each, List.nodup_cons.mpr ⟨?_, hreads.distinct⟩⟩, ?_, rfl⟩
      · intro hmem
        obtain ⟨other, hother, hkey⟩ := List.mem_map.mp hmem
        exact hnew other hother (hkey ▸ List.mem_cons_self)
      · intro other hother
        rcases List.mem_cons.mp hother with rfl | hother
        · exact hseen
        · exact fun hmem => hnew other hother (List.mem_cons_of_mem _ hmem)
    · rintro ⟨reads, hreads, hnew, rfl⟩
      obtain ⟨heach, hdistinct⟩ := hreads
      rw [List.zipIdx_cons] at heach
      cases heach with
      | @cons _ read _ reads hrow heach =>
        obtain ⟨hfirst, hdistinct⟩ := List.nodup_cons.mp hdistinct
        have hlater : ∀ other ∈ reads, other.1 ∉ read.1 :: seen := by
          intro other hother hmem
          rcases List.mem_cons.mp hmem with hkey | hmem
          · exact hfirst (List.mem_map.mpr ⟨other, hother, hkey⟩)
          · exact hnew other (List.mem_cons_of_mem _ hother) hmem
        have hrest : parseMtoRows ctx (n + 1) (read.1 :: seen) rows = .ok (reads.map (·.2)) :=
          ih.mpr ⟨reads, ⟨heach, hdistinct⟩, hlater, rfl⟩
        exact ⟨read, parseMtoRow_iff.mpr ⟨hrow, hnew read List.mem_cons_self⟩,
          bind_eq_ok.mpr ⟨_, hrest, rfl⟩⟩

theorem isCanonicalNatural_digits (n : ℕ) : isCanonicalNatural (digits n) = true := by
  have hhead : digits n = ['0'] ∨ (digits n).head? ≠ some '0' := by
    by_cases hzero : n = 0
    · exact .inl (hzero ▸ digits_zero)
    refine .inr fun h => hzero ?_
    cases hd : digits n with
    | nil => exact absurd hd digits_ne_nil
    | cons c rest =>
      rw [hd, List.head?_cons, Option.some.injEq] at h
      rw [h] at hd
      exact head_digits hd
  simp only [isCanonicalNatural, Bool.and_eq_true, Bool.or_eq_true, decide_eq_true_eq, List.all_eq_true]
  exact ⟨⟨digits_ne_nil, fun c hc => isDigit_of_mem_digits hc⟩, hhead⟩

theorem unsignedInteger_digits (hlow : 1 ≤ n) (hhigh : n ≤ 10 ^ 18) :
    unsignedInteger 1 (String.ofList (digits n)) = some n := by
  unfold unsignedInteger
  rw [String.toList_ofList, if_pos (isCanonicalNatural_digits n), value_digits]
  exact if_pos ⟨hlow, hhigh⟩

/-- Rows with serial numbers from a first one on. -/
def renumbered : ℕ → List (List String) → List (List String)
  | _, [] => []
  | n, row :: rows => row.set 1 (String.ofList (digits n)) :: renumbered (n + 1) rows

theorem length_renumbered (n : ℕ) (rows : List (List String)) : (renumbered n rows).length = rows.length := by
  induction rows generalizing n with
  | nil => rfl
  | cons row rows ih => rw [renumbered, List.length_cons, List.length_cons, ih]

theorem MtoRowReads.renumber (h : MtoRowReads ctx row i read) (hlow : 1 ≤ n) (hhigh : n ≤ 10 ^ 18) :
    MtoRowReads ctx (row.set 1 (String.ofList (digits n))) n read := by
  have hother : ∀ j, j ≠ 1 → (row.set 1 (String.ofList (digits n)))[j]? = row[j]? := by
    intro j hj
    exact List.getElem?_set_ne hj.symm
  have hserial : (row.set 1 (String.ofList (digits n)))[1]? = some (String.ofList (digits n)) :=
    List.getElem?_set_self (by rw [h.width]; decide)
  refine ⟨by rw [List.length_set, h.width], ?_, ?_, ?_, ?_, h.valid, ?_⟩
  · rw [hother 0 (by decide), h.kind]
  · rw [quantityAt, hserial, Option.bind_some, unsignedInteger_digits hlow hhigh]
  · rw [hother 2 (by decide), h.symbol]
  · rw [hother 3 (by decide), h.series]
  · obtain ⟨traded, deliverable, percent, ht, hd, hp, houtcome⟩ := h.outcome
    refine ⟨traded, deliverable, percent, ?_, ?_, ?_, houtcome⟩
    · rw [hother 4 (by decide), ht]
    · rw [hother 5 (by decide), hd]
    · rw [hother 6 (by decide), hp]

theorem MtoRowReads.serial_le (h : MtoRowReads ctx row i read) : i ≤ 10 ^ 18 := by
  have hat := h.serialAt
  obtain ⟨text, -, htext⟩ := Option.bind_eq_some_iff.mp hat
  unfold unsignedInteger at htext
  split at htext
  · dsimp only at htext
    split at htext
    next hrange =>
      obtain rfl := Option.some.inj htext
      exact hrange.2
    next => cases htext
  · cases htext

/-- The last serial number is within the range of serial numbers. -/
theorem MtoReads.last_le (h : List.Forall₂ (fun row read => MtoRowReads ctx row.1 row.2 read)
    (rows.zipIdx n) reads) (hrows : rows ≠ []) : n + rows.length ≤ 10 ^ 18 + 1 := by
  induction rows generalizing n reads with
  | nil => exact absurd rfl hrows
  | cons row rows ih =>
    rw [List.zipIdx_cons] at h
    cases h with
    | cons hrow hrest =>
      rw [List.length_cons]
      cases rows with
      | nil =>
        have := hrow.serial_le
        rw [List.length_nil]
        omega
      | cons next rows =>
        have := ih hrest (List.cons_ne_nil _ _)
        omega

theorem forall₂_zipIdx_forget {reads : List (ListingKey × MtoRow)}
    (h : List.Forall₂ (fun row read => MtoRowReads ctx row.1 row.2 read) (rows.zipIdx n) reads) :
    List.Forall₂ (fun row read => ∃ serial, MtoRowReads ctx row serial read) rows reads := by
  induction rows generalizing n reads with
  | nil =>
    cases h
    exact .nil
  | cons row rows ih =>
    rw [List.zipIdx_cons] at h
    cases h with
    | cons hrow hrest => exact .cons ⟨_, hrow⟩ (ih hrest)

theorem forall₂_renumbered
    (h : List.Forall₂ (fun row read => ∃ serial, MtoRowReads ctx row serial read) rows reads)
    (hlow : 1 ≤ n) (hhigh : n + rows.length ≤ 10 ^ 18 + 1) :
    List.Forall₂ (fun row read => MtoRowReads ctx row.1 row.2 read) ((renumbered n rows).zipIdx n) reads := by
  induction h generalizing n with
  | nil => exact .nil
  | @cons row read rows reads hrow _ ih =>
    obtain ⟨serial, hrow⟩ := hrow
    rw [List.length_cons] at hhigh
    rw [renumbered, List.zipIdx_cons]
    exact .cons (hrow.renumber hlow (by omega)) (ih (by omega) (by omega))

/-- Rows in another order, renumbered, read as the same in another order. -/
theorem MtoReads.perm (h : MtoReads ctx 1 rows reads) (hperm : others.Perm rows) (hrows : rows ≠ []) :
    ∃ reads', reads'.Perm reads ∧ MtoReads ctx 1 (renumbered 1 others) reads' := by
  obtain ⟨reads', heach, hreads⟩ := List.perm_comp_forall₂ hperm (forall₂_zipIdx_forget h.each)
  have hlast := MtoReads.last_le h.each hrows
  rw [← hperm.length_eq] at hlast
  exact ⟨reads', hreads, forall₂_renumbered heach (le_refl 1) hlast,
    (hreads.map _).nodup_iff.mpr h.distinct⟩

/-- A row is of the EQ lane. -/
def isEqMtoRow (row : List String) : Bool := row[3]? = some "EQ"

theorem mtoRowOutcome_eq_ok {symbol series traded deliverable percent : String} {parsed : MtoRow}
    (h : mtoRowOutcome ctx symbol series traded deliverable percent = .ok parsed) :
    (parsed.symbol = symbol ∧ parsed.series = series) ∧
      unsignedInteger 1 traded = some parsed.tradedQuantity ∧
      unsignedInteger 0 deliverable = some parsed.deliverableQuantity ∧
      decimalAtMost 100 percent = some parsed.percent ∧
      parsed.deliverableQuantity ≤ parsed.tradedQuantity := by
  unfold mtoRowOutcome at h
  cases hnumbers : mtoNumbers symbol series traded deliverable percent with
  | none =>
    rw [hnumbers] at h
    cases h
  | some row =>
    rw [hnumbers] at h
    dsimp only at h
    obtain ⟨hle, h⟩ := raiseIf_bind_eq_ok.mp h
    obtain ⟨-, h⟩ := raiseIf_bind_eq_ok.mp h
    obtain rfl := Except.ok.inj h
    unfold mtoNumbers at hnumbers
    simp only [Option.bind_eq_bind, Option.bind_eq_some_iff, Option.pure_def, Option.some.injEq] at hnumbers
    obtain ⟨quantity, hquantity, delivered, hdelivered, rate, hrate, rfl⟩ := hnumbers
    exact ⟨⟨rfl, rfl⟩, hquantity, hdelivered, hrate, not_lt.mp hle⟩

/-- The numbers of a row, where they stand. -/
structure DeliveryOf (row : List String) (parsed : MtoRow) : Prop where
  tradedQuantity : quantityAt 1 row 4 = some parsed.tradedQuantity
  deliverableQuantity : quantityAt 0 row 5 = some parsed.deliverableQuantity
  percent : (row[6]?).bind (decimalAtMost 100) = some parsed.percent
  le : parsed.deliverableQuantity ≤ parsed.tradedQuantity

theorem MtoRowReads.delivery (h : MtoRowReads ctx row i read) :
    (read.2.symbol, read.2.series) = read.1 ∧ DeliveryOf row read.2 := by
  obtain ⟨traded, deliverable, percent, ht, hd, hp, houtcome⟩ := h.outcome
  obtain ⟨hkey, hquantity, hdelivered, hrate, hle⟩ := mtoRowOutcome_eq_ok houtcome
  refine ⟨Prod.ext hkey.1 hkey.2, ?_, ?_, ?_, hle⟩
  · rw [quantityAt, ht, Option.bind_some, hquantity]
  · rw [quantityAt, hd, Option.bind_some, hdelivered]
  · rw [hp, Option.bind_some, hrate]

end Mto

end LegacyArchive

end IndiaSwing
