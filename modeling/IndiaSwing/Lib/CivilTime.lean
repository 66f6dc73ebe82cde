import Mathlib.Data.Nat.Find
import Mathlib.Data.List.Basic
import Mathlib.Order.Monotone.Basic
import IndiaSwing.Lib.DigitText

namespace CivilTime

open DigitText

section Calendar

def isLeap (year : ℕ) : Bool := year % 4 = 0 && (year % 100 ≠ 0 || year % 400 = 0)

def daysInMonth (year : ℕ) : ℕ → ℕ
  | 2 => if isLeap year then 29 else 28
  | 4 | 6 | 9 | 11 => 30
  | _ => 31

/-- The days before the first of January of a year, from year 1 on. -/
def daysBeforeYear (year : ℕ) : ℕ :=
  (year - 1) * 365 + (year - 1) / 4 - (year - 1) / 100 + (year - 1) / 400

/-- The days of a year before the first of a month. -/
def daysBeforeMonth (year : ℕ) : ℕ → ℕ
  | 0 => 0
  | 1 => 0
  | month + 2 => daysBeforeMonth year (month + 1) + daysInMonth year (month + 1)

theorem le_daysBeforeYear (year : ℕ) : (year - 1) * 365 ≤ daysBeforeYear year := by
  have hle : (year - 1) / 100 ≤ (year - 1) / 4 := Nat.div_le_div_left (by decide) (by decide)
  unfold daysBeforeYear
  omega

theorem daysInMonth_le (year month : ℕ) : daysInMonth year month ≤ 31 := by
  unfold daysInMonth
  split
  · split <;> omega
  all_goals omega

theorem daysBeforeYear_succ {year : ℕ} (h : 1 ≤ year) :
    daysBeforeYear (year + 1) = daysBeforeYear year + if isLeap year then 366 else 365 := by
  obtain ⟨n, rfl⟩ : ∃ n, year = n + 1 := ⟨year - 1, by omega⟩
  have hfour : (n + 1) / 4 = n / 4 + if (n + 1) % 4 = 0 then 1 else 0 := by
    split <;> omega
  have hhundred : (n + 1) / 100 = n / 100 + if (n + 1) % 100 = 0 then 1 else 0 := by
    split <;> omega
  have hcycle : (n + 1) / 400 = n / 400 + if (n + 1) % 400 = 0 then 1 else 0 := by
    split <;> omega
  have hle : n / 100 ≤ n / 4 := Nat.div_le_div_left (by decide) (by decide)
  unfold daysBeforeYear isLeap
  rw [Nat.add_sub_cancel, Nat.add_sub_cancel, hfour, hhundred, hcycle]
  by_cases h4 : (n + 1) % 4 = 0
  · by_cases h100 : (n + 1) % 100 = 0
    · by_cases h400 : (n + 1) % 400 = 0
      · simp only [h4, h100, h400, decide_true, ne_eq, not_true_eq_false, decide_false, Bool.or_true,
          Bool.and_self, if_true]
        omega
      · simp only [h4, h100, h400, decide_true, ne_eq, not_true_eq_false, decide_false, Bool.or_self,
          Bool.and_false, Bool.false_eq_true, if_false, if_true]
        omega
    · have h400 : ¬(n + 1) % 400 = 0 := by omega
      simp only [h4, h100, h400, decide_true, ne_eq, not_false_eq_true, Bool.true_or, Bool.and_self, if_true,
        if_false]
      omega
  · have h100 : ¬(n + 1) % 100 = 0 := by omega
    have h400 : ¬(n + 1) % 400 = 0 := by omega
    simp only [h4, h100, h400, decide_false, Bool.false_and, Bool.false_eq_true, if_false]
    omega

theorem daysBeforeYear_mono : Monotone daysBeforeYear := by
  refine monotone_nat_of_le_succ fun year => ?_
  by_cases hyear : 1 ≤ year
  · rw [daysBeforeYear_succ hyear]
    exact Nat.le_add_right _ _
  · have hzero : year = 0 := by omega
    subst hzero
    exact le_rfl

/-- The months of a year make up the year. -/
theorem daysBeforeMonth_end (year : ℕ) :
    daysBeforeMonth year 12 + daysInMonth year 12 = if isLeap year then 366 else 365 := by
  cases hleap : isLeap year <;> simp [daysBeforeMonth, daysInMonth, hleap]

end Calendar

section Dates

/-- A day from the first of January of year 1 to the last of December of year 9999. -/
structure CivilDate where
  ordinal : ℕ
  first : 1 ≤ ordinal
  last : ordinal ≤ 3652059
  deriving DecidableEq

variable {d e : CivilDate}

namespace CivilDate

def year (d : CivilDate) : ℕ :=
  Nat.findGreatest (fun year => daysBeforeYear year < d.ordinal) (d.ordinal / 365 + 1)

def dayOfYear (d : CivilDate) : ℕ := d.ordinal - daysBeforeYear d.year

def month (d : CivilDate) : ℕ :=
  Nat.findGreatest (fun month => daysBeforeMonth d.year month < d.dayOfYear) 12

def day (d : CivilDate) : ℕ := d.dayOfYear - daysBeforeMonth d.year d.month

theorem daysBeforeYear_year (d : CivilDate) : daysBeforeYear d.year < d.ordinal := by
  have hstart : daysBeforeYear 1 < d.ordinal := d.first
  exact Nat.findGreatest_spec (P := fun year => daysBeforeYear year < d.ordinal)
    (Nat.succ_le_succ (Nat.zero_le _)) hstart

theorem one_le_year (d : CivilDate) : 1 ≤ d.year := by
  have hstart : daysBeforeYear 1 < d.ordinal := d.first
  exact Nat.le_findGreatest (Nat.succ_le_succ (Nat.zero_le _)) hstart

theorem year_le (d : CivilDate) : d.year ≤ 9999 := by
  have hbefore := d.daysBeforeYear_year
  have hlast := d.last
  by_contra hlt
  have hle : daysBeforeYear 10000 ≤ daysBeforeYear d.year := daysBeforeYear_mono (by omega)
  have hend : daysBeforeYear 10000 = 3652059 := rfl
  omega

theorem ordinal_le (d : CivilDate) : d.ordinal ≤ daysBeforeYear (d.year + 1) := by
  by_contra hlt
  rw [not_le] at hlt
  have hbound : d.year + 1 ≤ d.ordinal / 365 + 1 := by
    have hle := le_daysBeforeYear (d.year + 1)
    rw [Nat.add_sub_cancel] at hle
    exact Nat.succ_le_succ ((Nat.le_div_iff_mul_le (by decide)).mpr (hle.trans hlt.le))
  have hle : d.year + 1 ≤ d.year :=
    Nat.le_findGreatest (P := fun year => daysBeforeYear year < d.ordinal) hbound hlt
  omega

theorem one_le_dayOfYear (d : CivilDate) : 1 ≤ d.dayOfYear := by
  have hbefore := d.daysBeforeYear_year
  unfold dayOfYear
  omega

theorem daysBeforeMonth_month (d : CivilDate) : daysBeforeMonth d.year d.month < d.dayOfYear :=
  Nat.findGreatest_spec (P := fun month => daysBeforeMonth d.year month < d.dayOfYear)
    (show 1 ≤ 12 by omega) d.one_le_dayOfYear

theorem one_le_month (d : CivilDate) : 1 ≤ d.month :=
  Nat.le_findGreatest (show 1 ≤ 12 by omega) d.one_le_dayOfYear

theorem month_le (d : CivilDate) : d.month ≤ 12 := Nat.findGreatest_le 12

theorem day_le (d : CivilDate) : d.day ≤ daysInMonth d.year d.month := by
  have hmonth := d.one_le_month
  have hsum : d.dayOfYear ≤ daysBeforeMonth d.year d.month + daysInMonth d.year d.month := by
    by_cases hlast : d.month = 12
    · have hend := d.ordinal_le
      rw [daysBeforeYear_succ d.one_le_year, ← daysBeforeMonth_end] at hend
      rw [hlast]
      unfold dayOfYear
      omega
    · have hle := d.month_le
      by_contra hlt
      rw [not_le] at hlt
      have hnext : daysBeforeMonth d.year (d.month + 1) < d.dayOfYear := by
        obtain ⟨month, hm⟩ : ∃ month, d.month = month + 1 := ⟨d.month - 1, by omega⟩
        rw [hm] at hlt ⊢
        exact hlt
      have hgreatest : d.month + 1 ≤ d.month :=
        Nat.le_findGreatest (P := fun month => daysBeforeMonth d.year month < d.dayOfYear)
          (show d.month + 1 ≤ 12 by omega) hnext
      omega
  unfold day
  omega

theorem ordinal_eq (d : CivilDate) :
    d.ordinal = daysBeforeYear d.year + daysBeforeMonth d.year d.month + d.day := by
  have hyear := d.daysBeforeYear_year
  have hmonth := d.daysBeforeMonth_month
  unfold day
  unfold dayOfYear at hmonth ⊢
  omega

theorem eq_of_fields (hyear : d.year = e.year) (hmonth : d.month = e.month) (hday : d.day = e.day) : d = e := by
  have heq := d.ordinal_eq
  rw [hyear, hmonth, hday, ← e.ordinal_eq] at heq
  cases d
  cases e
  cases heq
  rfl

/-- Year, month and day with hyphens between them. -/
def isoformat (d : CivilDate) : List Char :=
  padded 4 d.year ++ '-' :: (padded 2 d.month ++ '-' :: padded 2 d.day)

theorem length_year (d : CivilDate) : (padded 4 d.year).length = 4 :=
  length_padded (by decide) (by have := d.year_le; omega)

theorem length_month (d : CivilDate) : (padded 2 d.month).length = 2 :=
  length_padded (by decide) (by have := d.month_le; omega)

theorem length_day (d : CivilDate) : (padded 2 d.day).length = 2 := by
  have hday := d.day_le.trans (daysInMonth_le _ _)
  exact length_padded (by decide) (by omega)

theorem length_isoformat (d : CivilDate) : d.isoformat.length = 10 := by
  simp [isoformat, d.length_year, d.length_month, d.length_day]

theorem isoformat_injective : Function.Injective isoformat := by
  intro d e h
  obtain ⟨hyear, hrest⟩ := List.append_inj h (by rw [d.length_year, e.length_year])
  obtain ⟨hmonth, hrest'⟩ := List.append_inj (List.cons.inj hrest).2 (by rw [d.length_month, e.length_month])
  have hday := (List.cons.inj hrest').2
  exact eq_of_fields (padded_injective hyear) (padded_injective hmonth) (padded_injective hday)

end CivilDate

end Dates

section Instants

def microsecondsPerDay : ℕ := 86400000000

/-- A moment, in microseconds from the start of year 1 in UTC. -/
structure Instant where
  microseconds : ℕ
  inRange : microseconds < 3652059 * microsecondsPerDay
  deriving DecidableEq

namespace Instant

variable {t u : Instant}

def date (t : Instant) : CivilDate where
  ordinal := t.microseconds / microsecondsPerDay + 1
  first := Nat.succ_le_succ (Nat.zero_le _)
  last := by
    have hrange := t.inRange
    exact (Nat.div_lt_iff_lt_mul (by decide)).mpr hrange

def hour (t : Instant) : ℕ := t.microseconds / 3600000000 % 24

def minute (t : Instant) : ℕ := t.microseconds / 60000000 % 60

def second (t : Instant) : ℕ := t.microseconds / 1000000 % 60

def microsecond (t : Instant) : ℕ := t.microseconds % 1000000

/-- The time of day to six decimals of a second. -/
def clock (t : Instant) : List Char :=
  padded 2 t.hour ++ ':' :: (padded 2 t.minute ++ ':' :: (padded 2 t.second ++ '.' :: padded 6 t.microsecond))

/-- The date and the time of day in UTC. -/
def isoformat (t : Instant) : List Char := t.date.isoformat ++ 'T' :: t.clock

/-- The same clock reading moved by an offset, if it stays in range. -/
def shift (t : Instant) (offset : ℤ) : Option Instant :=
  if h : 0 ≤ t.microseconds + offset ∧ t.microseconds + offset < 3652059 * microsecondsPerDay then
    some ⟨(t.microseconds + offset).toNat, by omega⟩
  else none

def timeOfDay (t : Instant) : ℕ := t.microseconds % microsecondsPerDay

/-- The day with another time of day. -/
def withTime (t : Instant) (time : ℕ) (h : time < microsecondsPerDay) : Instant where
  microseconds := t.microseconds / microsecondsPerDay * microsecondsPerDay + time
  inRange := by
    have hrange := t.inRange
    have hday : t.microseconds / microsecondsPerDay < 3652059 :=
      (Nat.div_lt_iff_lt_mul (by decide)).mpr hrange
    unfold microsecondsPerDay at *
    omega

theorem length_hour (t : Instant) : (padded 2 t.hour).length = 2 :=
  length_padded (by decide) (by unfold hour; omega)

theorem length_minute (t : Instant) : (padded 2 t.minute).length = 2 :=
  length_padded (by decide) (by unfold minute; omega)

theorem length_second (t : Instant) : (padded 2 t.second).length = 2 :=
  length_padded (by decide) (by unfold second; omega)

theorem length_microsecond (t : Instant) : (padded 6 t.microsecond).length = 6 :=
  length_padded (by decide) (by unfold microsecond; omega)

theorem length_isoformat (t : Instant) : t.isoformat.length = 26 := by
  simp [isoformat, clock, t.date.length_isoformat, t.length_hour, t.length_minute, t.length_second,
    t.length_microsecond]

theorem eq_of_div_mod {n m k : ℕ} (hdiv : n / k = m / k) (hmod : n % k = m % k) : n = m := by
  rw [← Nat.div_add_mod n k, hdiv, hmod, Nat.div_add_mod]

theorem eq_of_fields (hdate : t.date = u.date) (hhour : t.hour = u.hour) (hminute : t.minute = u.minute)
    (hsecond : t.second = u.second) (hmicro : t.microsecond = u.microsecond) : t = u := by
  have hday : t.microseconds / 86400000000 = u.microseconds / 86400000000 :=
    Nat.succ.inj (congrArg CivilDate.ordinal hdate)
  have hhours : t.microseconds / 3600000000 = u.microseconds / 3600000000 :=
    eq_of_div_mod (k := 24) (by rwa [Nat.div_div_eq_div_mul, Nat.div_div_eq_div_mul]) hhour
  have hminutes : t.microseconds / 60000000 = u.microseconds / 60000000 :=
    eq_of_div_mod (k := 60) (by rwa [Nat.div_div_eq_div_mul, Nat.div_div_eq_div_mul]) hminute
  have hseconds : t.microseconds / 1000000 = u.microseconds / 1000000 :=
    eq_of_div_mod (k := 60) (by rwa [Nat.div_div_eq_div_mul, Nat.div_div_eq_div_mul]) hsecond
  have heq : t.microseconds = u.microseconds := eq_of_div_mod hseconds hmicro
  cases t
  cases u
  cases heq
  rfl

theorem isoformat_injective : Function.Injective isoformat := by
  intro t u h
  obtain ⟨hdate, hclock⟩ := List.append_inj h (by rw [t.date.length_isoformat, u.date.length_isoformat])
  obtain ⟨hhour, h⟩ := List.append_inj (List.cons.inj hclock).2 (by rw [t.length_hour, u.length_hour])
  obtain ⟨hminute, h⟩ := List.append_inj (List.cons.inj h).2 (by rw [t.length_minute, u.length_minute])
  obtain ⟨hsecond, h⟩ := List.append_inj (List.cons.inj h).2 (by rw [t.length_second, u.length_second])
  exact eq_of_fields (CivilDate.isoformat_injective hdate) (padded_injective hhour) (padded_injective hminute)
    (padded_injective hsecond) (padded_injective (List.cons.inj h).2)

end Instant

end Instants

section Reading

/-- The number that stands in a text between two positions. -/
def numberAt (text : List Char) (start count : ℕ) : ℕ := value ((text.drop start).take count)

theorem numberAt_append {text : List Char} {start count n : ℕ} (front rest : List Char)
    (htext : text = front ++ (padded count n ++ rest)) (hfront : front.length = start)
    (hcount : (padded count n).length = count) : numberAt text start count = n := by
  rw [htext, numberAt, List.drop_left' hfront, List.take_left' hcount, value_padded]

theorem numberAt_take {text : List Char} {start count width : ℕ} (h : start + count ≤ width) :
    numberAt (text.take width) start count = numberAt text start count := by
  rw [numberAt, numberAt, List.drop_take, List.take_take, min_eq_left (by omega)]

/-- The day with a year, a month and a day of the month, if there is one. -/
def CivilDate.ofFields (year month day : ℕ) : Option CivilDate :=
  let ordinal := daysBeforeYear year + daysBeforeMonth year month + day
  if h : 1 ≤ ordinal ∧ ordinal ≤ 3652059 then
    let d : CivilDate := ⟨ordinal, h.1, h.2⟩
    if d.year = year ∧ d.month = month ∧ d.day = day then some d else none
  else none

theorem CivilDate.ofFields_fields (d : CivilDate) : ofFields d.year d.month d.day = some d := by
  have hrange : 1 ≤ daysBeforeYear d.year + daysBeforeMonth d.year d.month + d.day ∧
      daysBeforeYear d.year + daysBeforeMonth d.year d.month + d.day ≤ 3652059 := by
    rw [← d.ordinal_eq]
    exact ⟨d.first, d.last⟩
  have hdate : (⟨daysBeforeYear d.year + daysBeforeMonth d.year d.month + d.day, hrange.1, hrange.2⟩ : CivilDate) = d := by
    cases d
    exact (CivilDate.mk.injEq ..).mpr (CivilDate.ordinal_eq _).symm
  unfold ofFields
  simp only [hrange, and_self, ↓reduceDIte, hdate, ↓reduceIte]

/-- The day at the start of a text. -/
def readDate (text : List Char) : Option CivilDate :=
  CivilDate.ofFields (numberAt text 0 4) (numberAt text 5 2) (numberAt text 8 2)

theorem readDate_isoformat (d : CivilDate) (rest : List Char) : readDate (d.isoformat ++ rest) = some d := by
  have hyear : numberAt (d.isoformat ++ rest) 0 4 = d.year :=
    numberAt_append [] ('-' :: (padded 2 d.month ++ '-' :: padded 2 d.day) ++ rest)
      (by simp [CivilDate.isoformat]) rfl d.length_year
  have hmonth : numberAt (d.isoformat ++ rest) 5 2 = d.month :=
    numberAt_append (padded 4 d.year ++ ['-']) ('-' :: padded 2 d.day ++ rest)
      (by simp [CivilDate.isoformat]) (by simp [d.length_year]) d.length_month
  have hday : numberAt (d.isoformat ++ rest) 8 2 = d.day :=
    numberAt_append (padded 4 d.year ++ '-' :: padded 2 d.month ++ ['-']) rest
      (by simp [CivilDate.isoformat]) (by simp [d.length_year, d.length_month]) d.length_day
  rw [readDate, hyear, hmonth, hday, d.ofFields_fields]

/-- The moment of a day at a time of day, if there is one. -/
def Instant.ofFields (d : CivilDate) (hour minute second microsecond : ℕ) : Option Instant :=
  if h : hour < 24 ∧ minute < 60 ∧ second < 60 ∧ microsecond < 1000000 then
    some {
      microseconds := (d.ordinal - 1) * microsecondsPerDay + hour * 3600000000 + minute * 60000000 +
        second * 1000000 + microsecond
      inRange := by
        have hfirst := d.first
        have hlast := d.last
        unfold microsecondsPerDay
        omega }
  else none

theorem Instant.ofFields_fields (t : Instant) :
    ofFields t.date t.hour t.minute t.second t.microsecond = some t := by
  have hrange : t.hour < 24 ∧ t.minute < 60 ∧ t.second < 60 ∧ t.microsecond < 1000000 := by
    unfold hour minute second microsecond
    omega
  have hmicros : (t.date.ordinal - 1) * microsecondsPerDay + t.hour * 3600000000 + t.minute * 60000000 +
      t.second * 1000000 + t.microsecond = t.microseconds := by
    unfold date hour minute second microsecond microsecondsPerDay
    dsimp only
    omega
  unfold ofFields
  rw [dif_pos hrange]
  simp only [hmicros]

/-- The moment that a text in UTC gives. A whole second may leave the decimals out. -/
def readInstant (text : List Char) : Option Instant :=
  (readDate text).bind fun d =>
    Instant.ofFields d (numberAt text 11 2) (numberAt text 14 2) (numberAt text 17 2) (numberAt text 20 6)

theorem numberAt_microsecond (t : Instant) : numberAt t.isoformat 20 6 = t.microsecond := by
  have hdate := t.date.length_isoformat
  exact numberAt_append
    (t.date.isoformat ++ 'T' :: padded 2 t.hour ++ ':' :: padded 2 t.minute ++ ':' :: padded 2 t.second ++ ['.']) []
    (by simp [Instant.isoformat, Instant.clock]) (by simp [hdate, t.length_hour, t.length_minute, t.length_second])
    t.length_microsecond

theorem readInstant_isoformat (t : Instant) : readInstant t.isoformat = some t := by
  have hdate := t.date.length_isoformat
  have hhour : numberAt t.isoformat 11 2 = t.hour :=
    numberAt_append (t.date.isoformat ++ ['T'])
      (':' :: (padded 2 t.minute ++ ':' :: (padded 2 t.second ++ '.' :: padded 6 t.microsecond)))
      (by simp [Instant.isoformat, Instant.clock]) (by simp [hdate]) t.length_hour
  have hminute : numberAt t.isoformat 14 2 = t.minute :=
    numberAt_append (t.date.isoformat ++ 'T' :: padded 2 t.hour ++ [':'])
      (':' :: (padded 2 t.second ++ '.' :: padded 6 t.microsecond))
      (by simp [Instant.isoformat, Instant.clock]) (by simp [hdate, t.length_hour]) t.length_minute
  have hsecond : numberAt t.isoformat 17 2 = t.second :=
    numberAt_append (t.date.isoformat ++ 'T' :: padded 2 t.hour ++ ':' :: padded 2 t.minute ++ [':'])
      ('.' :: padded 6 t.microsecond)
      (by simp [Instant.isoformat, Instant.clock]) (by simp [hdate, t.length_hour, t.length_minute]) t.length_second
  rw [readInstant, Instant.isoformat, readDate_isoformat, Option.bind_some, ← Instant.isoformat, hhour, hminute,
    hsecond, numberAt_microsecond, t.ofFields_fields]

theorem readInstant_whole (t : Instant) (h : t.microsecond = 0) : readInstant (t.isoformat.take 19) = some t := by
  have hread := readInstant_isoformat t
  have hmicro : numberAt (t.isoformat.take 19) 20 6 = 0 := by
    rw [numberAt, List.drop_take]
    rfl
  unfold readInstant readDate at hread ⊢
  rw [numberAt_microsecond, h] at hread
  rw [hmicro, numberAt_take (by decide), numberAt_take (by decide), numberAt_take (by decide), numberAt_take (by decide),
    numberAt_take (by decide), numberAt_take (by decide), hread]

end Reading

end CivilTime
