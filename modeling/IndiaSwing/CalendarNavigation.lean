import IndiaSwing.CalendarAcceptance

namespace IndiaSwing.CalendarMaterialization

open ExceptGuards

section Positions

variable {α : Type} {p : α → Bool} {items front back : List α} {a b : α} {i n : ℕ}

/-- Where a member that is kept stands among the kept ones. -/
theorem filter_split (ha : p a) : (front ++ a :: back).filter p = front.filter p ++ a :: back.filter p := by
  rw [List.filter_append, List.filter_cons_of_pos ha]

theorem index_of_split (hnodup : (front ++ a :: back).Nodup) (h : (front ++ a :: back)[i]? = some a) : i = front.length := by
  obtain ⟨hi, hget⟩ := List.getElem?_eq_some_iff.mp h
  have hlt : front.length < (front ++ a :: back).length := by simp
  have hmiddle : (front ++ a :: back)[front.length] = a := by simp
  exact (List.Nodup.getElem_inj_iff hnodup).mp (hget.trans hmiddle.symm)

/-- The next kept member after one that is kept. -/
theorem find?_after (hnodup : (front ++ a :: back).Nodup) (ha : p a)
    (h : ((front ++ a :: back).filter p)[i]? = some a) : back.find? p = ((front ++ a :: back).filter p)[i + 1]? := by
  have hkept := hnodup.filter p
  rw [filter_split ha] at h hkept ⊢
  rw [index_of_split hkept h, List.getElem?_append_right (by omega), Nat.add_sub_cancel_left, List.getElem?_cons_succ,
    ← List.head?_eq_getElem?, List.head?_filter]

/-- The kept member before one that is kept. -/
theorem find?_before (hnodup : (front ++ a :: back).Nodup) (ha : p a)
    (h : ((front ++ a :: back).filter p)[i + 1]? = some a) :
    front.reverse.find? p = ((front ++ a :: back).filter p)[i]? := by
  have hkept := hnodup.filter p
  rw [filter_split ha] at h hkept ⊢
  have hlength := index_of_split hkept h
  rw [List.getElem?_append_left (by omega), ← List.head?_filter, List.filter_reverse, List.head?_reverse,
    List.getLast?_eq_getElem?, ← hlength, Nat.add_sub_cancel]

end Positions

namespace CalendarSnapshot

variable {snapshot : CalendarSnapshot} {date : SessionDate} {value other : CheckedDay} {i n : ℕ}

/-- The trading sessions of a snapshot, in order. -/
def sessions (snapshot : CalendarSnapshot) : List CheckedDay := snapshot.days.filter (·.1.isSession)

variable (hcheck : snapshot.check = .ok ())
include hcheck

theorem days_eq : snapshot.days.map (·.1.day) = coveredDates snapshot.coverageStart snapshot.coverageEnd := by
  unfold check at hcheck
  obtain ⟨-, h⟩ := raiseIf_bind_eq_ok.mp hcheck
  obtain ⟨hlength, h⟩ := raiseIf_bind_eq_ok.mp h
  rw [not_not] at hlength
  have hsame : snapshot.days.length = (coveredDates snapshot.coverageStart snapshot.coverageEnd).length := by
    rw [hlength, length_coveredDates]
  rw [← List.forall₂_eq_eq_eq, List.forall₂_map_left_iff]
  refine List.forall₂_iff_zip.mpr ⟨hsame, fun {value expected} hmem => ?_⟩
  obtain ⟨heq, -⟩ := raiseIf_bind_eq_ok.mp (forM_eq_ok.mp h (value, expected) hmem)
  exact not_not.mp heq

theorem nodup_days : snapshot.days.Nodup := by
  refine List.Nodup.of_map (fun value : CheckedDay => value.1.day) ?_
  rw [days_eq hcheck]
  exact nodup_coveredDates

/-- The entry of a day of the snapshot, and the lists on either side of it. -/
theorem split_at (h : value ∈ snapshot.days) : ∃ front back, snapshot.days = front ++ value :: back ∧
    snapshot.day value.1.day = .ok value ∧ (value.1.day - snapshot.coverageStart).toNat = front.length := by
  obtain ⟨front, back, heq⟩ := List.append_of_mem h
  have hdays := days_eq hcheck
  have hcovered : value.1.day ∈ coveredDates snapshot.coverageStart snapshot.coverageEnd := by
    rw [← hdays]
    exact List.mem_map_of_mem h
  obtain ⟨hfirst, hlast⟩ := mem_coveredDates.mp hcovered
  have hindex : (value.1.day - snapshot.coverageStart).toNat = front.length := by
    have hentry := getElem?_coveredDates hfirst hlast
    rw [← hdays, heq, List.map_append, List.map_cons] at hentry
    have hnodup : (front.map (·.1.day) ++ value.1.day :: back.map (·.1.day)).Nodup := by
      have hall := hdays ▸ @nodup_coveredDates snapshot.coverageStart snapshot.coverageEnd
      rwa [heq, List.map_append, List.map_cons] at hall
    rw [index_of_split hnodup hentry, List.length_map]
  refine ⟨front, back, heq, ?_, hindex⟩
  unfold day
  refine raiseIf_bind_eq_ok.mpr ⟨?_, ?_⟩
  · rw [not_or, not_lt, not_lt]
    exact ⟨hfirst, hlast⟩
  · rw [hindex, heq, List.getElem?_append_right le_rfl, Nat.sub_self]
    rfl

theorem mem_of_day (h : snapshot.day date = .ok value) : value ∈ snapshot.days ∧ value.1.day = date := by
  unfold day at h
  obtain ⟨hcovered, h⟩ := raiseIf_bind_eq_ok.mp h
  rw [not_or, not_lt, not_lt] at hcovered
  cases hentry : snapshot.days[(date - snapshot.coverageStart).toNat]? with
  | none =>
    rw [hentry] at h
    cases h
  | some found =>
    rw [hentry] at h
    obtain rfl := Except.ok.inj h
    refine ⟨List.mem_of_getElem? hentry, ?_⟩
    have hdate := congrArg (·[(date - snapshot.coverageStart).toNat]?) (days_eq hcheck)
    rw [List.getElem?_map, hentry, getElem?_coveredDates hcovered.1 hcovered.2] at hdate
    exact Option.some.inj hdate

omit hcheck in
theorem mem_sessions : value ∈ snapshot.sessions ↔ value ∈ snapshot.days ∧ value.1.isSession := by
  unfold sessions
  rw [List.mem_filter]

/-- The next session after a session is the one that follows it in the list of sessions. -/
theorem nextSession_eq_ok (h : snapshot.sessions[i]? = some value) :
    snapshot.nextSession value.1.day = .ok other ↔ snapshot.sessions[i + 1]? = some other := by
  obtain ⟨hmem, hsession⟩ := mem_sessions.mp (List.mem_of_getElem? h)
  obtain ⟨front, back, heq, hday, hindex⟩ := split_at hcheck hmem
  have hnodup := nodup_days hcheck
  unfold sessions at h ⊢
  rw [heq] at h hnodup ⊢
  rw [← find?_after hnodup hsession h]
  have hdrop : snapshot.days.drop (front.length + 1) = back := by
    rw [heq]
    simp
  unfold nextSession
  rw [hday, hindex, hdrop]
  cases hfind : back.find? fun value => value.1.isSession with
  | none =>
    constructor
    · intro h'
      cases h'
    · intro h'
      cases h'
  | some found =>
    constructor
    · intro h'
      exact congrArg some (Except.ok.inj h')
    · intro h'
      exact congrArg Except.ok (Option.some.inj h')

theorem previousSession_eq_ok (h : snapshot.sessions[i + 1]? = some value) :
    snapshot.previousSession value.1.day = .ok other ↔ snapshot.sessions[i]? = some other := by
  obtain ⟨hmem, hsession⟩ := mem_sessions.mp (List.mem_of_getElem? h)
  obtain ⟨front, back, heq, hday, hindex⟩ := split_at hcheck hmem
  have hnodup := nodup_days hcheck
  unfold sessions at h ⊢
  rw [heq] at h hnodup ⊢
  rw [← find?_before hnodup hsession h]
  have htake : snapshot.days.take front.length = front := by
    rw [heq]
    simp
  unfold previousSession
  rw [hday, hindex, htake]
  cases hfind : front.reverse.find? fun value => value.1.isSession with
  | none =>
    constructor
    · intro h'
      cases h'
    · intro h'
      cases h'
  | some found =>
    constructor
    · intro h'
      exact congrArg some (Except.ok.inj h')
    · intro h'
      exact congrArg Except.ok (Option.some.inj h')

/-- The first session has none before it. -/
theorem previousSession_ne_ok (h : snapshot.sessions[0]? = some value) : snapshot.previousSession value.1.day ≠ .ok other := by
  obtain ⟨hmem, hsession⟩ := mem_sessions.mp (List.mem_of_getElem? h)
  obtain ⟨front, back, heq, hday, hindex⟩ := split_at hcheck hmem
  have hnodup : (front ++ value :: back).Nodup := heq ▸ nodup_days hcheck
  have htake : snapshot.days.take front.length = front := by
    rw [heq]
    simp
  have hsplit := @filter_split _ (fun value : CheckedDay => value.1.isSession) front back value hsession
  have hfirst : front.filter (·.1.isSession) = [] := by
    have hkept := hnodup.filter fun value : CheckedDay => value.1.isSession
    unfold sessions at h
    rw [heq, hsplit] at h
    rw [hsplit] at hkept
    exact List.length_eq_zero_iff.mp (index_of_split hkept h).symm
  have hnone : front.reverse.find? (fun value : CheckedDay => value.1.isSession) = none := by
    rw [← List.head?_filter, List.filter_reverse, hfirst]
    rfl
  unfold previousSession
  rw [hday, hindex, htake, hnone]
  intro h'
  cases h'

theorem advanceFrom_eq_ok (h : snapshot.sessions[i]? = some value) :
    snapshot.advanceFrom value n = .ok other ↔ snapshot.sessions[i + n]? = some other := by
  induction n generalizing i value with
  | zero =>
    rw [Nat.add_zero, h]
    constructor
    · intro h'
      exact congrArg some (Except.ok.inj h')
    · intro h'
      exact congrArg Except.ok (Option.some.inj h')
  | succ n ih =>
    unfold advanceFrom
    rw [bind_eq_ok]
    constructor
    · rintro ⟨next, hnext, hrest⟩
      have hat := (nextSession_eq_ok hcheck h).mp hnext
      have hlast := (ih hat).mp hrest
      rwa [Nat.add_assoc, Nat.add_comm 1 n] at hlast
    · intro hlast
      have hlt : i + 1 < snapshot.sessions.length := by
        have hbound := (List.getElem?_eq_some_iff.mp hlast).1
        omega
      have hat : snapshot.sessions[i + 1]? = some snapshot.sessions[i + 1] := List.getElem?_eq_getElem hlt
      refine ⟨_, (nextSession_eq_ok hcheck h).mpr hat, (ih hat).mpr ?_⟩
      rwa [Nat.add_assoc, Nat.add_comm 1 n]

omit hcheck in
/-- The sessions of a snapshot are counted: advancing by a number goes that many places on in their list and fails past its
end or off a session, and the next session of one is another exactly when that one's previous session is the first. -/
theorem session_navigation (snapshot : CheckedSnapshot) :
    (∀ start n value, snapshot.1.advanceSessions start n = .ok value ↔ ∃ i first,
        snapshot.1.sessions[i]? = some first ∧ first.1.day = start ∧ snapshot.1.sessions[i + n]? = some value) ∧
      ∀ value ∈ snapshot.1.sessions, ∀ other ∈ snapshot.1.sessions,
        snapshot.1.nextSession value.1.day = .ok other ↔ snapshot.1.previousSession other.1.day = .ok value := by
  obtain ⟨snapshot, hcheck⟩ := snapshot
  have hnodup : snapshot.sessions.Nodup := (nodup_days hcheck).filter _
  constructor
  · intro start n value
    unfold advanceSessions requireSession
    constructor
    · intro h
      obtain ⟨current, hcurrent, h⟩ := bind_eq_ok.mp h
      obtain ⟨found, hday, hcurrent⟩ := bind_eq_ok.mp hcurrent
      obtain ⟨hsession, hcurrent⟩ := raiseIf_bind_eq_ok.mp hcurrent
      obtain rfl := Except.ok.inj hcurrent
      obtain ⟨hmem, hdate⟩ := mem_of_day hcheck hday
      obtain ⟨i, hi⟩ := List.mem_iff_getElem?.mp (mem_sessions.mpr ⟨hmem, not_not.mp hsession⟩)
      exact ⟨i, found, hi, hdate, (advanceFrom_eq_ok hcheck hi).mp h⟩
    · rintro ⟨i, first, hi, rfl, hlast⟩
      obtain ⟨hmem, hsession⟩ := mem_sessions.mp (List.mem_of_getElem? hi)
      obtain ⟨-, -, -, hday, -⟩ := split_at hcheck hmem
      refine bind_eq_ok.mpr ⟨first, ?_, (advanceFrom_eq_ok hcheck hi).mpr hlast⟩
      exact bind_eq_ok.mpr ⟨first, hday, raiseIf_bind_eq_ok.mpr ⟨not_not.mpr hsession, rfl⟩⟩
  · intro value hvalue other hother
    obtain ⟨i, hi⟩ := List.mem_iff_getElem?.mp hvalue
    obtain ⟨j, hj⟩ := List.mem_iff_getElem?.mp hother
    rw [nextSession_eq_ok hcheck hi]
    constructor
    · intro hnext
      exact (previousSession_eq_ok hcheck hnext).mpr hi
    · intro hprevious
      cases j with
      | zero =>
        exact absurd hprevious (previousSession_ne_ok hcheck hj)
      | succ j =>
        have hat := (previousSession_eq_ok hcheck hj).mp hprevious
        obtain ⟨hlt, hget⟩ := List.getElem?_eq_some_iff.mp hat
        obtain ⟨hlt', hget'⟩ := List.getElem?_eq_some_iff.mp hi
        obtain rfl : j = i := (List.Nodup.getElem_inj_iff hnodup).mp (hget.trans hget'.symm)
        exact hj

end CalendarSnapshot

end IndiaSwing.CalendarMaterialization
