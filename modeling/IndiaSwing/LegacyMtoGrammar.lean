import Mathlib.Tactic.IntervalCases
import IndiaSwing.BhavcopyReconciliationSteps
import IndiaSwing.LegacyMto

namespace IndiaSwing

open ExceptGuards KeySort Grouping DigitText TextPatterns LegacyArchive

namespace LegacyMto

section Settlement

variable {front text : String} {inner trade kind number : List Char} {session : CalendarDay} {row headerRow : List String}
variable {settlement : Option (List Char)}

theorem bracketed_eq_some : bracketed front text = some inner ↔ text = bracketText front inner ∧ Bracketed inner := by
  unfold bracketed bracketText Bracketed
  constructor
  · intro h
    split at h
    next hfront =>
      dsimp only at h
      split at h
      next hshape =>
        obtain rfl := Option.some.inj h
        refine ⟨?_, hshape.2⟩
        have hlast := List.dropLast_append_getLast? '>' hshape.1
        have hwhole := List.take_append_drop front.toList.length text.toList
        rw [hfront] at hwhole
        rw [List.append_assoc, hlast, hwhole, String.ofList_toList]
      next => cases h
    next => cases h
  · rintro ⟨rfl, hne, hmem⟩
    rw [String.toList_ofList, List.append_assoc, List.take_left, if_pos rfl, List.drop_left]
    dsimp only
    rw [List.dropLast_concat, List.getLast?_concat, if_pos ⟨rfl, hne, hmem⟩]

/-- The kind of a settlement, and its number. -/
def IsKind (kind : List Char) : Prop := kind ≠ [] ∧ kind.length ≤ 10 ∧ kind.all isUpperDigit = true

def IsNumber (number : List Char) : Prop := number ≠ [] ∧ number.all Char.isDigit = true

theorem IsKind.bracketed (h : IsKind kind) : Bracketed kind := by
  refine ⟨h.1, fun hmem => ?_⟩
  have hclass := List.all_eq_true.mp h.2.2 _ hmem
  exact absurd hclass (by decide)

theorem IsNumber.bracketed (h : IsNumber number) : Bracketed number := by
  refine ⟨h.1, fun hmem => ?_⟩
  have hclass := List.all_eq_true.mp h.2 _ hmem
  exact absurd hclass (by decide)

/-- A front without its first letter is another one. -/
theorem bracketed_typo_eq_none : bracketed "Trade Date <" (bracketText "rade Date <" inner) = none := by
  cases hfound : bracketed "Trade Date <" (bracketText "rade Date <" inner) with
  | none => rfl
  | some found =>
    have htext := (bracketed_eq_some.mp hfound).1
    have hlist := String.ofList_injective htext
    have hhead : some 'r' = some 'T' := congrArg List.head? hlist
    cases hhead

theorem tradeField_eq_some : ((bracketed "Trade Date <" text).orElse fun _ => bracketed "rade Date <" text) = some trade ↔
    ∃ front, (front = "Trade Date <" ∨ front = "rade Date <") ∧ text = bracketText front trade ∧ Bracketed trade := by
  constructor
  · intro h
    cases hfound : bracketed "Trade Date <" text with
    | some found =>
      rw [hfound] at h
      obtain rfl := Option.some.inj h
      exact ⟨_, .inl rfl, bracketed_eq_some.mp hfound⟩
    | none =>
      rw [hfound] at h
      exact ⟨_, .inr rfl, bracketed_eq_some.mp h⟩
  · rintro ⟨front, rfl | rfl, htext, htrade⟩
    · rw [bracketed_eq_some.mpr ⟨htext, htrade⟩]
      rfl
    · rw [htext, bracketed_typo_eq_none]
      exact bracketed_eq_some.mpr ⟨rfl, htrade⟩

/-- The fields of a settlement line, with the texts of its dates. -/
inductive SettlementFields : List String → List Char → Option (List Char) → Prop
  | full {front : String} {trade kind number settlement : List Char} (hfront : front = "Trade Date <" ∨ front = "rade Date <")
      (htrade : Bracketed trade) (hkind : IsKind kind) (hnumber : IsNumber number) (hsettlement : Bracketed settlement) :
      SettlementFields [bracketText front trade, bracketText "Settlement Type <" kind,
        bracketText "Settlement No <" number, bracketText "Settlement Date <" settlement] trade (some settlement)
  | short {trade kind : List Char} (htrade : Bracketed trade) (hkind : IsKind kind) :
      SettlementFields [bracketText "Trade Date <" trade, bracketText "Settlement Type <" kind] trade none

theorem settlementDates_eq_some : settlementDates row = some (trade, settlement) ↔ SettlementFields row trade settlement := by
  constructor
  · intro h
    unfold settlementDates at h
    split at h
    next tradeField typeField noField dateField =>
      obtain ⟨found, hfound, h⟩ := Option.bind_eq_some_iff.mp h
      obtain ⟨kind, hkind, h⟩ := Option.bind_eq_some_iff.mp h
      obtain ⟨number, hnumber, h⟩ := Option.bind_eq_some_iff.mp h
      obtain ⟨date, hdate, h⟩ := Option.bind_eq_some_iff.mp h
      split at h
      next hclasses =>
        obtain ⟨rfl, rfl⟩ := Prod.mk.inj (Option.some.inj h)
        obtain ⟨front, hfront, rfl, htrade⟩ := tradeField_eq_some.mp hfound
        obtain ⟨rfl, hkindText⟩ := bracketed_eq_some.mp hkind
        obtain ⟨rfl, hnumberText⟩ := bracketed_eq_some.mp hnumber
        obtain ⟨rfl, hdateText⟩ := bracketed_eq_some.mp hdate
        exact .full hfront htrade ⟨hkindText.1, hclasses.1, hclasses.2.1⟩ ⟨hnumberText.1, hclasses.2.2⟩ hdateText
      next => cases h
    next tradeField typeField =>
      obtain ⟨found, hfound, h⟩ := Option.bind_eq_some_iff.mp h
      obtain ⟨kind, hkind, h⟩ := Option.bind_eq_some_iff.mp h
      split at h
      next hclasses =>
        obtain ⟨rfl, rfl⟩ := Prod.mk.inj (Option.some.inj h)
        obtain ⟨rfl, htrade⟩ := bracketed_eq_some.mp hfound
        obtain ⟨rfl, hkindText⟩ := bracketed_eq_some.mp hkind
        exact .short htrade ⟨hkindText.1, hclasses⟩
      next => cases h
    next => cases h
  · rintro (@⟨front, _, kind, number, date, hfront, htrade, hkind, hnumber, hsettlement⟩ | @⟨_, kind, htrade, hkind⟩)
    · unfold settlementDates
      dsimp only
      rw [tradeField_eq_some.mpr ⟨front, hfront, rfl, htrade⟩, bracketed_eq_some.mpr ⟨rfl, hkind.bracketed⟩,
        bracketed_eq_some.mpr ⟨rfl, hnumber.bracketed⟩, bracketed_eq_some.mpr ⟨rfl, hsettlement⟩]
      exact if_pos ⟨hkind.2.1, hkind.2.2, hnumber.2⟩
    · unfold settlementDates
      dsimp only
      rw [bracketed_eq_some.mpr ⟨rfl, htrade⟩, bracketed_eq_some.mpr ⟨rfl, hkind.bracketed⟩]
      exact if_pos ⟨hkind.2.1, hkind.2.2⟩

theorem checkSettlement_eq_ok : checkSettlement session row headerRow = .ok () ↔
    SettlementLine .asRead session row ∧ headerRow = mtoHeaderRecord := by
  constructor
  · intro h
    unfold checkSettlement at h
    split at h
    next => cases h
    next trade settlement hdates =>
      split at h
      next => cases h
      next date hdate =>
        obtain ⟨hsettlement, h⟩ := raiseIf_bind_eq_ok.mp h
        obtain ⟨hsession, hheader⟩ := raiseIf_bind_eq_ok.mp h
        obtain rfl := not_not.mp hsession
        refine ⟨?_, not_not.mp (raiseIf_eq_ok.mp hheader)⟩
        cases settlementDates_eq_some.mp hdates with
        | full hfront htrade hkind hnumber hbracketed =>
          rename_i settlementText
          cases hread : nseTextDate (String.ofList settlementText) with
          | none =>
            refine absurd ?_ hsettlement
            rw [Option.any_some, hread]
            rfl
          | some other => exact .full hfront ⟨htrade, hdate⟩ hkind hnumber ⟨hbracketed, hread⟩
        | short htrade hkind => exact .short ⟨htrade, hdate⟩ hkind
  · rintro ⟨hline, rfl⟩
    unfold checkSettlement
    cases hline with
    | full hfront htrade hkind hnumber hsettlement =>
      have hread : nseTextDate (String.ofList _) = some _ := hsettlement.2
      have htradeRead : nseTextDate (String.ofList _) = some session := htrade.2
      rw [settlementDates_eq_some.mpr (.full hfront htrade.1 hkind hnumber hsettlement.1)]
      dsimp only
      rw [htradeRead]
      dsimp only
      rw [raiseIf_neg (by rw [Option.any_some, hread]; exact Bool.false_ne_true), ok_bind, raiseIf_neg (not_not.mpr rfl), ok_bind,
        raiseIf_neg (not_not.mpr rfl)]
    | short htrade hkind =>
      have htradeRead : nseTextDate (String.ofList _) = some session := htrade.2
      rw [settlementDates_eq_some.mpr (.short htrade.1 hkind)]
      dsimp only
      rw [htradeRead]
      dsimp only
      rw [raiseIf_neg (by decide), ok_bind, raiseIf_neg (not_not.mpr rfl), ok_bind, raiseIf_neg (not_not.mpr rfl)]

theorem checkSettlement_ne_valueError : checkSettlement session row headerRow ≠ .error .valueError := by
  intro h
  unfold checkSettlement at h
  split at h
  next => cases h
  next =>
    split at h
    next => cases h
    next =>
      rcases raiseIf_bind_eq_error.mp h with ⟨-, hfault⟩ | ⟨-, hrest⟩
      · cases hfault
      rcases raiseIf_bind_eq_error.mp hrest with ⟨-, hfault⟩ | ⟨-, hrest⟩
      · cases hfault
      exact absurd (raiseIf_eq_error.mp hrest).2 (by simp)

end Settlement

section Front

variable {session : CalendarDay} {front : List (List String)} {total count : ℕ}

/-- The four rows before the data. -/
def FrontText (session : CalendarDay) (front : List (List String)) (totalText countText : String) : Prop :=
  ∃ date settlement, front = [[mtoTitleLine], ["10", "MTO", date, totalText, countText], settlement, mtoHeaderRecord] ∧
    Lexis.asRead.controlDate session date ∧ SettlementLine .asRead session settlement

theorem checkFront_eq_ok : checkFront session front = .ok (total, count) ↔ ∃ totalText countText,
    FrontText session front totalText countText ∧ (AllDigits totalText ∧ ¬Overlong totalText ∧ value totalText.toList = total) ∧
      AllDigits countText ∧ ¬Overlong countText ∧ value countText.toList = count := by
  constructor
  · intro h
    unfold checkFront at h
    split at h
    next titleRow controlRow settlementRow headerRow =>
      obtain ⟨htitle, hrest⟩ := raiseIf_bind_eq_ok.mp h
      clear h
      split at hrest
      next recordType kind dateText totalText countText =>
        obtain ⟨hkind, hrest⟩ := raiseIf_bind_eq_ok.mp hrest
        rw [not_or, not_not, not_not] at hkind
        split at hrest
        next => cases hrest
        next controlDate hdate =>
          obtain ⟨hsession, hrest⟩ := raiseIf_bind_eq_ok.mp hrest
          obtain ⟨total', htotal, hrest⟩ := bind_eq_ok.mp hrest
          obtain ⟨count', hcount, hrest⟩ := bind_eq_ok.mp hrest
          obtain ⟨_, hsettlement, hrest⟩ := bind_eq_ok.mp hrest
          obtain ⟨rfl, rfl⟩ := Prod.mk.inj (Except.ok.inj hrest)
          obtain ⟨hline, rfl⟩ := checkSettlement_eq_ok.mp hsettlement
          rw [not_not.mp hsession] at hdate
          rw [not_not.mp htitle, hkind.1, hkind.2]
          exact ⟨totalText, countText, ⟨dateText, settlementRow, rfl, hdate, hline⟩,
            zeroPaddedUnsignedInteger_eq_ok.mp htotal, zeroPaddedUnsignedInteger_eq_ok.mp hcount⟩
      next => cases hrest
    next => cases h
  · rintro ⟨totalText, countText, ⟨date, settlement, rfl, hdate, hline⟩, htotal, hcount⟩
    have hread : dateFromDigits date = some session := hdate
    unfold checkFront
    dsimp only
    rw [raiseIf_neg (not_not.mpr rfl), ok_bind, raiseIf_neg (by rw [not_or]; exact ⟨not_not.mpr rfl, not_not.mpr rfl⟩),
      ok_bind, hread]
    dsimp only
    rw [raiseIf_neg (not_not.mpr rfl), ok_bind, zeroPaddedUnsignedInteger_eq_ok.mpr htotal, ok_bind,
      zeroPaddedUnsignedInteger_eq_ok.mpr hcount, ok_bind, checkSettlement_eq_ok.mpr ⟨hline, rfl⟩]
    rfl

theorem checkFront_eq_valueError : checkFront session front = .error .valueError ↔
    ∃ date totalText countText settlement header,
      front = [[mtoTitleLine], ["10", "MTO", date, totalText, countText], settlement, header] ∧
        Lexis.asRead.controlDate session date ∧ AllDigits totalText ∧
          (Overlong totalText ∨ AllDigits countText ∧ Overlong countText) := by
  constructor
  · intro h
    unfold checkFront at h
    split at h
    next titleRow controlRow settlementRow headerRow =>
      rcases raiseIf_bind_eq_error.mp h with ⟨-, hfault⟩ | ⟨htitle, hrest⟩
      · cases hfault
      split at hrest
      next recordType kind dateText totalText countText =>
        rcases raiseIf_bind_eq_error.mp hrest with ⟨-, hfault⟩ | ⟨hkind, hrest⟩
        · cases hfault
        rw [not_or, not_not, not_not] at hkind
        split at hrest
        next => cases hrest
        next controlDate hdate =>
          rcases raiseIf_bind_eq_error.mp hrest with ⟨-, hfault⟩ | ⟨hsession, hrest⟩
          · cases hfault
          rw [not_not.mp hsession] at hdate
          rw [not_not.mp htitle, hkind.1, hkind.2]
          refine ⟨dateText, totalText, countText, settlementRow, headerRow, rfl, hdate, ?_⟩
          rcases bind_eq_error.mp hrest with htotal | ⟨total, htotal, hrest⟩
          · obtain ⟨hdigits, hlong⟩ := zeroPaddedUnsignedInteger_eq_valueError.mp htotal
            exact ⟨hdigits, .inl hlong⟩
          refine ⟨(zeroPaddedUnsignedInteger_eq_ok.mp htotal).1, .inr ?_⟩
          rcases bind_eq_error.mp hrest with hcount | ⟨count, -, hrest⟩
          · exact zeroPaddedUnsignedInteger_eq_valueError.mp hcount
          rcases bind_eq_error.mp hrest with hsettlement | ⟨_, -, hfault⟩
          · exact absurd hsettlement checkSettlement_ne_valueError
          · cases hfault
      next => cases hrest
    next => cases h
  · rintro ⟨date, totalText, countText, settlement, header, rfl, hdate, hdigits, hlong⟩
    have hread : dateFromDigits date = some session := hdate
    unfold checkFront
    dsimp only
    rw [raiseIf_neg (not_not.mpr rfl), ok_bind, raiseIf_neg (by rw [not_or]; exact ⟨not_not.mpr rfl, not_not.mpr rfl⟩),
      ok_bind, hread]
    dsimp only
    rw [raiseIf_neg (not_not.mpr rfl), ok_bind]
    by_cases htotal : Overlong totalText
    · rw [zeroPaddedUnsignedInteger_eq_valueError.mpr ⟨hdigits, htotal⟩]
      rfl
    · have hcount := hlong.resolve_left htotal
      rw [zeroPaddedUnsignedInteger_eq_ok.mpr ⟨hdigits, htotal, rfl⟩, ok_bind,
        zeroPaddedUnsignedInteger_eq_valueError.mpr hcount]
      rfl

end Front

section Files

variable {session : CalendarDay} {rows data : List (List String)} {lines : List MtoRow}

theorem mtoDataRows_cons {a b c d : List String} : mtoDataRows (a :: b :: c :: d :: data) =
    if data.getLast? = some [] then data.dropLast else data := rfl

/-- Rows that are read end in no blank record. -/
theorem RowsText.getLast_ne {n : ℕ} (h : RowsText n data lines) : data.getLast? ≠ some [] := by
  intro hlast
  have hmem := List.mem_of_getLast? hlast
  obtain ⟨i, hi, hget⟩ := List.mem_iff_getElem.mp hmem
  have hentry : ([], n + i) ∈ data.zipIdx n := by
    rw [← hget]
    exact List.mk_add_mem_zipIdx_iff_getElem?.mpr (List.getElem?_eq_getElem hi)
  obtain ⟨line, -, hrow⟩ := mem_of_forall₂_left h hentry
  obtain ⟨_, _, _, _, hfields, -⟩ := hrow.fields
  cases hfields

/-- The data rows of a file are those before one blank record at its end. -/
theorem mtoDataRows_eq_iff {a b c d : List String} {n : ℕ} {rest : List (List String)} (h : RowsText n data lines) :
    mtoDataRows (a :: b :: c :: d :: rest) = data ↔ ∃ trailing, rest = data ++ trailing ∧ (trailing = [] ∨ trailing = [[]]) := by
  rw [mtoDataRows_cons]
  constructor
  · intro hdata
    split at hdata
    next hlast =>
      refine ⟨[[]], ?_, .inr rfl⟩
      rw [← hdata, List.dropLast_append_getLast? [] hlast]
    next => exact ⟨[], by rw [hdata, List.append_nil], .inl rfl⟩
  · rintro ⟨trailing, rfl, rfl | rfl⟩
    · rw [List.append_nil, if_neg h.getLast_ne]
    · rw [List.getLast?_concat, if_pos rfl, List.dropLast_concat]

/-- A file is read exactly when it is one of the grammar whose control numbers are converted, as its lines. -/
theorem parseLegacyMto_eq_ok : parseLegacyMto session rows = .ok lines ↔
    Grammar .asRead session rows lines ∧ ¬OverlongControl session rows := by
  constructor
  · intro h
    unfold parseLegacyMto at h
    obtain ⟨⟨total, count⟩, hfront, h⟩ := bind_eq_ok.mp h
    obtain ⟨hdata, h⟩ := raiseIf_bind_eq_ok.mp h
    obtain ⟨parsed, hparsed, h⟩ := bind_eq_ok.mp h
    obtain ⟨hcontrol, h⟩ := raiseIf_bind_eq_ok.mp h
    obtain rfl := Except.ok.inj h
    rw [not_or, not_not, not_not] at hcontrol
    obtain ⟨rfl, rfl⟩ := hcontrol
    obtain ⟨totalText, countText, ⟨date, settlement, hrows, hdate, hline⟩, htotal, hcount⟩ := checkFront_eq_ok.mp hfront
    obtain ⟨htext, hnodup, -⟩ := parseRows_eq_ok.mp hparsed
    have hwhole := List.take_append_drop 4 rows
    rw [hrows] at hwhole
    have hshape : rows = [mtoTitleLine] :: ["10", "MTO", date, totalText, countText] :: settlement :: mtoHeaderRecord ::
        rows.drop 4 := hwhole.symm
    have hsplit := (mtoDataRows_eq_iff htext).mp (congrArg mtoDataRows hshape).symm
    obtain ⟨trailing, hrest, htrailing⟩ := hsplit
    refine ⟨⟨⟨date, totalText, countText, settlement, mtoDataRows rows, trailing, ?_, htrailing, hdate, hline,
      ⟨htotal.1, htotal.2.2⟩, ⟨hcount.1, hcount.2.2⟩, htext⟩, ?_, hnodup⟩, ?_⟩
    · rw [← hrest]
      exact hshape
    · rintro rfl
      refine hdata (List.eq_nil_of_length_eq_zero ?_)
      have hlength := htext.length_eq
      rw [List.length_zipIdx] at hlength
      exact hlength
    · rintro ⟨date', total', count', settlement', header', data', hrows', -, -, hlong⟩
      rw [hshape] at hrows'
      simp only [List.cons.injEq, true_and, and_true] at hrows'
      obtain ⟨⟨-, rfl, rfl⟩, -⟩ := hrows'
      rcases hlong with hlong | ⟨-, hlong⟩
      · exact htotal.2.1 hlong
      · exact hcount.2.1 hlong
  · rintro ⟨⟨⟨date, totalText, countText, settlement, data, trailing, hrows, htrailing, hdate, hline, htotal, hcount, htext⟩,
      hne, hnodup⟩, hshort⟩
    have hdata : mtoDataRows rows = data := by
      rw [hrows]
      exact (mtoDataRows_eq_iff htext).mpr ⟨trailing, rfl, htrailing⟩
    have htotalShort : ¬Overlong totalText := fun hlong =>
      hshort ⟨date, totalText, countText, settlement, mtoHeaderRecord, _, hrows, hdate, htotal.1, .inl hlong⟩
    have hcountShort : ¬Overlong countText := fun hlong =>
      hshort ⟨date, totalText, countText, settlement, mtoHeaderRecord, _, hrows, hdate, htotal.1, .inr ⟨hcount.1, hlong⟩⟩
    have hfront : checkFront session (rows.take 4) = .ok ((lines.map (·.deliverableQuantity)).sum, lines.length) := by
      refine checkFront_eq_ok.mpr ⟨totalText, countText, ⟨date, settlement, ?_, hdate, hline⟩,
        ⟨htotal.1, htotalShort, htotal.2⟩, hcount.1, hcountShort, hcount.2⟩
      rw [hrows]
      rfl
    have hdataNe : data ≠ [] := by
      rintro rfl
      refine hne (List.eq_nil_of_length_eq_zero ?_)
      exact htext.length_eq.symm
    have hparsed : parseRows 1 [] data = .ok lines := parseRows_eq_ok.mpr ⟨htext, hnodup, fun _ _ => List.not_mem_nil⟩
    unfold parseLegacyMto
    rw [hfront, ok_bind, hdata]
    dsimp only
    rw [raiseIf_neg hdataNe, ok_bind, hparsed, ok_bind, raiseIf_neg (by rw [not_or, not_not, not_not]; exact ⟨rfl, rfl⟩)]
    rfl

/-- Apart from the error of the archive there is one fault: that of a number too long to convert, reached with all in order
before it. -/
theorem legacy_mto_valueError (session : CalendarDay) (rows : List (List String)) :
    parseLegacyMto session rows = .error .valueError ↔ OverlongControl session rows ∨ OverlongData session rows := by
  constructor
  · intro h
    unfold parseLegacyMto at h
    rcases bind_eq_error.mp h with hfront | ⟨⟨total, count⟩, hfront, hrest⟩
    · obtain ⟨date, totalText, countText, settlement, header, hrows, hdate, hdigits, hlong⟩ := checkFront_eq_valueError.mp hfront
      refine .inl ⟨date, totalText, countText, settlement, header, rows.drop 4, ?_, hdate, hdigits, hlong⟩
      have hwhole := List.take_append_drop 4 rows
      rw [hrows] at hwhole
      exact hwhole.symm
    · obtain ⟨totalText, countText, ⟨date, settlement, hrows, hdate, hline⟩, htotal, hcount⟩ := checkFront_eq_ok.mp hfront
      have hwhole := List.take_append_drop 4 rows
      rw [hrows] at hwhole
      rcases raiseIf_bind_eq_error.mp hrest with ⟨-, hfault⟩ | ⟨-, hrest⟩
      · cases hfault
      rcases bind_eq_error.mp hrest with hparsed | ⟨parsed, -, hrest⟩
      · obtain ⟨before, row, after, lines, hsplit, htext, hnodup, -, hlong⟩ := parseRows_eq_valueError.mp hparsed
        rw [List.append_nil, Nat.add_comm] at hlong
        exact .inr ⟨⟨date, totalText, countText, settlement, rows.drop 4, hwhole.symm, hdate, hline, ⟨htotal.1, htotal.2.1⟩,
          hcount.1, hcount.2.1⟩, before, row, after, lines, hsplit, htext, hnodup, hlong⟩
      · rcases raiseIf_bind_eq_error.mp hrest with ⟨-, hfault⟩ | ⟨-, hfault⟩
        · cases hfault
        · cases hfault
  · rintro (⟨date, totalText, countText, settlement, header, data, rfl, hdate, hdigits, hlong⟩ |
      ⟨⟨date, totalText, countText, settlement, rest, hrows, hdate, hline, htotal, hcount⟩, before, row, after, lines, hsplit,
        htext, hnodup, hlong⟩)
    · have hfront := checkFront_eq_valueError.mpr ⟨date, totalText, countText, settlement, header, rfl, hdate, hdigits, hlong⟩
      unfold parseLegacyMto
      exact bind_eq_error.mpr (.inl hfront)
    · have hfront : checkFront session (rows.take 4) = .ok (value totalText.toList, value countText.toList) := by
        rw [hrows]
        exact checkFront_eq_ok.mpr ⟨totalText, countText, ⟨date, settlement, rfl, hdate, hline⟩, ⟨htotal.1, htotal.2, rfl⟩,
          hcount.1, hcount.2, rfl⟩
      have hne : mtoDataRows rows ≠ [] := by
        rw [hsplit]
        exact List.append_ne_nil_of_right_ne_nil _ (List.cons_ne_nil _ _)
      have hparsed : parseRows 1 [] (mtoDataRows rows) = .error .valueError := by
        refine parseRows_eq_valueError.mpr ⟨before, row, after, lines, hsplit, htext, hnodup, fun _ _ => List.not_mem_nil, ?_⟩
        rw [List.append_nil, Nat.add_comm]
        exact hlong
      unfold parseLegacyMto
      rw [hfront, ok_bind]
      dsimp only
      rw [raiseIf_neg hne, ok_bind, hparsed]
      rfl

end Files

section Strict

variable {session date : CalendarDay} {rows : List (List String)} {lines : List MtoRow} {row : List String}
variable {text : List Char} {line : MtoRow} {serial : ℕ}

theorem dayChoices_padded {day : ℕ} (rest : List Char) (hlow : 1 ≤ day) (hhigh : day ≤ 31) :
    ∃ more, dayChoices (padded 2 day ++ rest) = (day, rest) :: more := by
  interval_cases day <;> exact ⟨_, rfl⟩

theorem monthChoices_padded {month : ℕ} (rest : List Char) (hlow : 1 ≤ month) (hhigh : month ≤ 12) :
    ∃ more, monthChoices (padded 2 month ++ rest) = (month, rest) :: more := by
  interval_cases month <;> exact ⟨_, rfl⟩

theorem year_padded {year : ℕ} (h : year ≤ 9999) : ∃ a b c d, padded 4 year = [a, b, c, d] := by
  have hlength : (padded 4 year).length = 4 := length_padded (by decide) (by omega)
  obtain ⟨a, rest, hrest⟩ := List.exists_cons_of_length_eq_add_one hlength
  rw [hrest, List.length_cons, Nat.add_right_cancel_iff] at hlength
  obtain ⟨b, c, d, rfl⟩ := List.length_eq_three.mp hlength
  exact ⟨a, b, c, d, hrest⟩

theorem bounds_of_calendarDay (h : calendarDay date.year date.month date.day = some date) :
    date.year ≤ 9999 ∧ (1 ≤ date.month ∧ date.month ≤ 12) ∧ 1 ≤ date.day ∧ date.day ≤ 31 := by
  unfold calendarDay at h
  split at h
  case isFalse => cases h
  case isTrue hbounds =>
    obtain ⟨⟨-, hyear⟩, hmonth, hday, hdays⟩ := hbounds
    exact ⟨hyear, hmonth, hday, hdays.trans (CivilTime.daysInMonth_le _ _)⟩

/-- `strptime` reads the eight digits of a day as that day. -/
theorem dateFromDigits_padded {digitText : String} (h : calendarDay date.year date.month date.day = some date)
    (htext : digitText.toList = padded 2 date.day ++ padded 2 date.month ++ padded 4 date.year) :
    dateFromDigits digitText = some date := by
  obtain ⟨hyear, ⟨hmonth, hmonth'⟩, hday, hday'⟩ := bounds_of_calendarDay h
  obtain ⟨days, hdays⟩ := dayChoices_padded (padded 2 date.month ++ padded 4 date.year) hday hday'
  obtain ⟨months, hmonths⟩ := monthChoices_padded (padded 4 date.year) hmonth hmonth'
  obtain ⟨a, b, c, d, hdigits⟩ := year_padded hyear
  have hnumber : decimalNumber [a, b, c, d] = some date.year := by
    rw [← hdigits, decimalNumber_padded]
  unfold dateFromDigits
  rw [htext, List.append_assoc, hdays, List.flatMap_cons]
  dsimp only
  rw [hmonths, List.filterMap_cons, hdigits]
  dsimp only
  rw [hnumber]
  exact h

theorem nseTextDate_spelled {a b c : Char} (h : calendarDay date.year date.month date.day = some date)
    (hmonth : monthNames.lookup (String.ofList ([a, b, c].map Char.toUpper)) = some date.month) :
    nseTextDate (String.ofList (padded 2 date.day ++ '-' :: a :: b :: c :: '-' :: padded 4 date.year)) = some date := by
  obtain ⟨hyear, -, -, hday⟩ := bounds_of_calendarDay h
  obtain ⟨d₁, d₂, hd⟩ := List.length_eq_two.mp (length_padded (by decide : 0 < 2) (show date.day < 10 ^ 2 by omega))
  obtain ⟨y₁, y₂, y₃, y₄, hy⟩ := year_padded hyear
  have hdayNumber : decimalNumber [d₁, d₂] = some date.day := by
    rw [← hd, decimalNumber_padded]
  have hyearNumber : decimalNumber [y₁, y₂, y₃, y₄] = some date.year := by
    rw [← hy, decimalNumber_padded]
  unfold nseTextDate
  rw [String.toList_ofList, hd, hy]
  show (decimalNumber [d₁, d₂] >>= fun day => decimalNumber [y₁, y₂, y₃, y₄] >>= fun year =>
    monthNames.lookup (String.ofList ([a, b, c].map Char.toUpper)) >>= fun month => calendarDay year month day) = _
  rw [hdayNumber, hyearNumber, hmonth]
  exact h

theorem asRead_textDate (h : Lexis.strict.textDate date text) : Lexis.asRead.textDate date text := by
  obtain ⟨a, b, c, hmonth, hdate, rfl⟩ := h
  exact nseTextDate_spelled hdate hmonth

theorem SettlementLine.asRead (h : SettlementLine .strict session row) : SettlementLine .asRead session row := by
  cases h with
  | full hfront htrade hkind hnumber hsettlement =>
    exact .full hfront ⟨htrade.1, asRead_textDate htrade.2⟩ hkind hnumber ⟨hsettlement.1, asRead_textDate hsettlement.2⟩
  | short htrade hkind => exact .short ⟨htrade.1, asRead_textDate htrade.2⟩ hkind

/-- The trade date is a day of the calendar. -/
theorem SettlementLine.session_valid (h : SettlementLine .strict session row) :
    calendarDay session.year session.month session.day = some session := by
  cases h with
  | full _ htrade _ _ _ =>
    obtain ⟨_, _, _, -, hdate, -⟩ := htrade.2
    exact hdate
  | short htrade _ =>
    obtain ⟨_, _, _, -, hdate, -⟩ := htrade.2
    exact hdate

theorem RowText.asRead (h : RowText .strict row serial line) : RowText .asRead row serial line := by
  have hle : Lexis.strict.tolerance ≤ Lexis.asRead.tolerance := by
    show (1 / 100 : ℚ) ≤ 1 / 100 + 5 / 10 ^ 52
    norm_num
  exact ⟨h.fields, h.symbol, h.series, h.percent_le, h.deliverable_le, h.close.trans hle⟩

theorem Grammar.asRead (h : Grammar .strict session rows lines) : Grammar .asRead session rows lines := by
  obtain ⟨⟨date, total, count, settlement, data, trailing, hrows, htrailing, hdate, hline, htotal, hcount, htext⟩, hne, hkeys⟩ := h
  exact ⟨⟨date, total, count, settlement, data, trailing, hrows, htrailing, dateFromDigits_padded hline.session_valid hdate,
    hline.asRead, htotal, hcount, htext.imp fun _ _ => RowText.asRead⟩, hne, hkeys⟩

/-- The files that are read are those of the grammar with the dates as they are read, each as its lines; among them are the
files with the dates as they are documented. -/
theorem legacy_mto_language (session : CalendarDay) (rows : List (List String)) (lines : List MtoRow) :
    (parseLegacyMto session rows = .ok lines ↔ Grammar .asRead session rows lines ∧ ¬OverlongControl session rows) ∧
      (Grammar .strict session rows lines ∧ ¬OverlongControl session rows → parseLegacyMto session rows = .ok lines) :=
  ⟨parseLegacyMto_eq_ok, fun h => parseLegacyMto_eq_ok.mpr ⟨h.1.asRead, h.2⟩⟩

end Strict

end LegacyMto

end IndiaSwing
