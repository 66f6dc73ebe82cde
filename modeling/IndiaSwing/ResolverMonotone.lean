import IndiaSwing.ResolverSteps

namespace IndiaSwing

open FirstHit (firstHit)
open OrderedPrefixes

variable {ctx : DecimalContext} {registration : PaperTradeRegistration}
variable {binding : PaperInstrumentBinding} {calendar : CalendarSnapshot}
variable {policy : PaperOutcomePolicy} {observations extended : List PaperOutcomeObservation}
variable {t1 t2 : Instant} {r1 r2 : PaperOutcomeReplay}

/-- How a replay at a later cutoff may differ from an earlier one. -/
structure ReplayContinues (earlier later : PaperOutcomeReplay) : Prop where
  closed : earlier.status = .closed →
    later.status = .closed ∧ later.entry = earlier.entry ∧ later.exit = earlier.exit
  expired : earlier.status = .expired → later.status = .expired
  opened : earlier.status = .open_ →
    (later.status = .open_ ∨ later.status = .closed ∨ later.status = .blocked) ∧
      later.entry = earlier.entry
  blocked : earlier.status = .blocked → later.status = .blocked ∧ later.entry = earlier.entry

theorem availableAt_sublist (hobs : observations.Sublist extended) (hle : t1 ≤ t2) :
    (availableAt t1 observations).Sublist (availableAt t2 extended) := by
  have hsub : availableAt t1 extended = (availableAt t2 extended).filter (·.knowledgeTime ≤ t1) := by
    simp only [availableAt, List.filter_filter]
    refine List.filter_congr fun value _ => ?_
    by_cases hvalue : value.knowledgeTime ≤ t1
    · simp [hvalue, hvalue.trans hle]
    · simp [hvalue]
  have hearlier : (availableAt t1 observations).Sublist (availableAt t1 extended) := hobs.filter _
  rw [hsub] at hearlier
  exact hearlier.trans List.filter_sublist

theorem relevantAt_sublist (hobs : observations.Sublist extended) (hle : t1 ≤ t2) :
    (relevantAt registration observations t1).Sublist (relevantAt registration extended t2) :=
  (availableAt_sublist hobs hle).filter _

theorem relevantAt_subset {asOf : Instant} :
    relevantAt registration observations asOf ⊆ observations := fun _ h =>
  (mem_availableAt.mp (mem_relevantAt.mp h).1).1

/-- An observation tuple whose sessions are distinct is determined by them. -/
theorem eq_of_session (hnodup : (observations.map (·.marketSession)).Nodup)
    {a b : PaperOutcomeObservation} (ha : a ∈ observations) (hb : b ∈ observations)
    (h : a.marketSession = b.marketSession) : a = b :=
  List.inj_on_of_nodup_map hnodup ha hb h

/-- The facts about one cutoff that the comparison of two of them uses. -/
structure CalendarPrefix (registration : PaperTradeRegistration) (calendar : CalendarSnapshot)
    (observations : List PaperOutcomeObservation) (asOf : Instant) : Prop where
  nodup : (observations.map (·.marketSession)).Nodup
  sessions : (relevantAt registration observations asOf).map (·.marketSession) =
    (calendarSessions registration calendar).take (relevantAt registration observations asOf).length

section TwoCutoffs

variable (hobs : observations.Sublist extended) (hle : t1 ≤ t2)
  (h1 : CalendarPrefix registration calendar observations t1)
  (h2 : CalendarPrefix registration calendar extended t2)

include hobs hle h1 h2

/-- What is relevant at the earlier cutoff is the first part of what is relevant later. -/
theorem relevantAt_grows :
    relevantAt registration observations t1 <+: relevantAt registration extended t2 := by
  refine prefix_of_map_prefix
    (fun a ha b hb => eq_of_session h2.nodup ha hb)
    (fun value hvalue => hobs.subset (relevantAt_subset hvalue)) relevantAt_subset ?_
  rw [h1.sessions, h2.sessions]
  have hlength : (relevantAt registration observations t1).length ≤
      (relevantAt registration extended t2).length := (relevantAt_sublist hobs hle).length_le
  exact List.take_prefix_take_left hlength

theorem eligibleAt_grows :
    eligibleAt registration observations t1 <+: eligibleAt registration extended t2 := by
  rw [eligibleAt_eq, eligibleAt_eq]
  exact (relevantAt_grows hobs hle h1 h2).filter _

/-- Once every entry session is available, no later evidence becomes eligible. -/
theorem eligibleAt_eq_of_covered (hcovered : ∀ session ∈ entrySessions registration calendar,
      session ∈ (availableAt t1 observations).map (·.marketSession)) :
    eligibleAt registration observations t1 = eligibleAt registration extended t2 := by
  have hnodup : (eligibleAt registration extended t2).Nodup := by
    refine List.Nodup.sublist ?_ (List.Nodup.of_map _ h2.nodup)
    exact List.filter_sublist.trans List.filter_sublist
  refine eq_of_prefix_of_subset (eligibleAt_grows hobs hle h1 h2) hnodup fun value hvalue => ?_
  obtain ⟨hrelevant, hexpiry⟩ := mem_eligibleAt.mp hvalue
  have hsession : value.marketSession ∈ entrySessions registration calendar := by
    refine List.mem_filter.mpr ⟨?_, by simpa using hexpiry⟩
    have hmem := List.mem_map_of_mem (f := fun value : PaperOutcomeObservation => value.marketSession)
      hrelevant
    rw [h2.sessions] at hmem
    exact List.mem_of_mem_take hmem
  obtain ⟨other, hother, hsame⟩ := List.mem_map.mp (hcovered _ hsession)
  have heq : other = value := eq_of_session h2.nodup (hobs.subset (mem_availableAt.mp hother).1)
    (relevantAt_subset hrelevant) hsame
  rw [heq] at hother
  exact mem_eligibleAt.mpr ⟨mem_relevantAt.mpr ⟨hother, (mem_relevantAt.mp hrelevant).2⟩, hexpiry⟩

/-- The horizon of an entry grows at its end only. -/
theorem horizonAt_grows {entrySession : SessionDate}
    (hfirst : registration.firstSession ≤ entrySession) :
    horizonAt registration calendar observations t1 entrySession <+:
      horizonAt registration calendar extended t2 entrySession := by
  have hinc : (calendarSessions registration calendar).Pairwise (· < ·) :=
    calendar.sessionsFrom_increasing _
  refine filterMap_prefix_filterMap (fun session value hfound => ?_) ?_
  · have hvalue := List.mem_of_find?_eq_some hfound
    have hsession : value.marketSession = session := by simpa using List.find?_some hfound
    obtain ⟨havailable, hentry⟩ := List.mem_filter.mp hvalue
    have hlater : value ∈ (availableAt t2 extended).filter (entrySession ≤ ·.marketSession) :=
      List.mem_filter.mpr ⟨(availableAt_sublist hobs hle).subset havailable, hentry⟩
    cases hother : bySession ((availableAt t2 extended).filter (entrySession ≤ ·.marketSession))
        session with
    | none => exact absurd hsession (by simpa using List.find?_eq_none.mp hother value hlater)
    | some other =>
      have hmem := (List.mem_filter.mp (List.mem_of_find?_eq_some hother)).1
      have hsame : other.marketSession = session := by simpa using List.find?_some hother
      rw [eq_of_session h2.nodup (mem_availableAt.mp hmem).1
        (hobs.subset (mem_availableAt.mp havailable).1) (hsame.trans hsession.symm)]
  · have hhorizon : (horizonSessions registration calendar entrySession).Pairwise (· < ·) :=
      hinc.sublist ((List.take_sublist _ _).trans (List.drop_sublist _ _))
    refine hhorizon.imp_of_mem fun {a b} ha hb hab hfound => ?_
    have hmemDrop : a ∈ (calendarSessions registration calendar).drop
        ((calendarSessions registration calendar).idxOf entrySession) := List.mem_of_mem_take ha
    have haCalendar := List.mem_of_mem_drop hmemDrop
    have haEntry : entrySession ≤ a := le_of_mem_drop_idxOf hinc hmemDrop
    obtain ⟨value, hvalue⟩ := Option.ne_none_iff_exists'.mp hfound
    have hmem := List.mem_filter.mp (List.mem_of_find?_eq_some hvalue)
    have hsession : value.marketSession = b := by simpa using List.find?_some hvalue
    have hbRelevant : b ∈ (relevantAt registration observations t1).map (·.marketSession) := by
      refine List.mem_map.mpr ⟨value, mem_relevantAt.mpr ⟨hmem.1, ?_⟩, hsession⟩
      rw [hsession]
      exact hfirst.trans (haEntry.trans hab.le)
    rw [h1.sessions] at hbRelevant
    have haRelevant := mem_take_of_increasing hinc haCalendar hab hbRelevant
    rw [← h1.sessions] at haRelevant
    obtain ⟨other, hother, hsame⟩ := List.mem_map.mp haRelevant
    intro hnone
    refine List.find?_eq_none.mp hnone other (List.mem_filter.mpr
      ⟨(mem_relevantAt.mp hother).1, ?_⟩) (by simpa using hsame)
    simpa [hsame] using haEntry

end TwoCutoffs

theorem calendarPrefix_of_replay
    (h : replayPaperOutcome ctx registration binding calendar policy observations t1 = .ok r1) :
    CalendarPrefix registration calendar observations t1 := by
  obtain ⟨hvalid, hsessions, -⟩ := replayPaperOutcome_ok h
  exact ⟨hvalid.sessions_nodup, hsessions⟩

theorem ExitResolution.entry_status {asOf : Instant} {entryFill : SimulatedFill}
    {entry : PaperOutcomeFill} {replay : PaperOutcomeReplay}
    (h : ExitResolution ctx registration binding calendar policy observations asOf entryFill entry
      replay) :
    replay.entry = some entry ∧
      (replay.status = .open_ ∨ replay.status = .closed ∨ replay.status = .blocked) := by
  cases h with
  | uncovered coverage status entry_eq => exact ⟨entry_eq, .inr (.inr status)⟩
  | protective _ _ _ _ _ _ status entry_eq => exact ⟨entry_eq, .inr (.inl status)⟩
  | immature _ _ _ _ _ status entry_eq => exact ⟨entry_eq, .inl status⟩
  | matured _ _ _ _ _ _ _ resolved =>
    obtain ⟨hentry, hblocked | ⟨fill, -, -, -, hclosed, -⟩⟩ := resolveTimeExit_ok resolved
    · exact ⟨hentry, .inr (.inr hblocked)⟩
    · exact ⟨hentry, .inr (.inl hclosed)⟩

theorem resolveTimeExit_same {order : ProtectiveExitOrder} {entry : PaperOutcomeFill}
    {last : PaperOutcomeObservation}
    (h1 : resolveTimeExit ctx registration binding calendar policy observations t1 order entry last =
      .ok r1)
    (h2 : resolveTimeExit ctx registration binding calendar policy extended t2 order entry last =
      .ok r2) :
    r2.status = r1.status ∧ r2.entry = r1.entry ∧ r2.exit = r1.exit := by
  unfold resolveTimeExit at h1 h2
  split at h1
  next hbar =>
    rw [hbar] at h2
    obtain ⟨hs1, he1, hx1, -⟩ := replayResult_ok h1
    obtain ⟨hs2, he2, hx2, -⟩ := replayResult_ok h2
    exact ⟨hs2.trans hs1.symm, he2.trans he1.symm, hx2.trans hx1.symm⟩
  next bar hbar =>
    rw [hbar] at h2
    obtain ⟨fill, hfill, h1⟩ := ExceptGuards.bind_eq_ok.mp h1
    obtain ⟨fill', hfill', h2⟩ := ExceptGuards.bind_eq_ok.mp h2
    obtain rfl := Except.ok.inj (hfill.symm.trans hfill')
    cases fill <;>
    · obtain ⟨hs1, he1, hx1, -⟩ := replayResult_ok h1
      obtain ⟨hs2, he2, hx2, -⟩ := replayResult_ok h2
      exact ⟨hs2.trans hs1.symm, he2.trans he1.symm, hx2.trans hx1.symm⟩

/-- The same entry is resolved later to what it was, unless its horizon was still open. -/
theorem ExitResolution.continues (hobs : observations.Sublist extended) (hle : t1 ≤ t2)
    (hcovers1 : CalendarPrefix registration calendar observations t1)
    (hcovers2 : CalendarPrefix registration calendar extended t2) {entryFill : SimulatedFill}
    {entry : PaperOutcomeFill} (hfirst : registration.firstSession ≤ entryFill.session)
    (h1 : ExitResolution ctx registration binding calendar policy observations t1 entryFill entry r1)
    (h2 : ExitResolution ctx registration binding calendar policy extended t2 entryFill entry r2) :
    r1.status = .open_ ∨ (r2.status = r1.status ∧ r2.entry = r1.entry ∧
      (r1.status = .closed → r2.exit = r1.exit)) := by
  have hgrow := horizonAt_grows hobs hle hcovers1 hcovers2 hfirst
  have hbound : (horizonAt registration calendar extended t2 entryFill.session).length ≤
      (horizonSessions registration calendar entryFill.session).length := List.length_filterMap_le _ _
  cases h1 with
  | uncovered coverage status entry_eq =>
    cases h2 with
    | uncovered _ status' entry_eq' =>
      exact .inr ⟨status'.trans status.symm, entry_eq'.trans entry_eq.symm, by simp [status]⟩
    | protective coverage' => exact absurd coverage coverage'
    | immature coverage' => exact absurd coverage coverage'
    | matured coverage' => exact absurd coverage coverage'
  | protective coverage order order_ok observation fill hit status entry_eq exit_eq =>
    have hlater := FirstHit.firstHit_prefix_some hgrow hit
    cases h2 with
    | uncovered coverage' => exact absurd coverage' coverage
    | protective _ order' order_ok' observation' fill' hit' status' entry_eq' exit_eq' =>
      obtain rfl := Except.ok.inj (order_ok.symm.trans order_ok')
      obtain ⟨rfl, rfl⟩ := Prod.mk.inj (Option.some.inj (Except.ok.inj (hlater.symm.trans hit')))
      exact .inr ⟨status'.trans status.symm, entry_eq'.trans entry_eq.symm,
        fun _ => exit_eq'.trans exit_eq.symm⟩
    | immature _ order' order_ok' miss =>
      obtain rfl := Except.ok.inj (order_ok.symm.trans order_ok')
      cases hlater.symm.trans miss
    | matured _ order' order_ok' miss =>
      obtain rfl := Except.ok.inj (order_ok.symm.trans order_ok')
      cases hlater.symm.trans miss
  | immature coverage order order_ok miss short status entry_eq => exact .inl status
  | matured coverage order order_ok miss full last last_eq resolved =>
    -- the earlier horizon is already complete, so the later one has nothing to add
    have hsame : horizonAt registration calendar observations t1 entryFill.session =
        horizonAt registration calendar extended t2 entryFill.session :=
      hgrow.eq_of_length (le_antisymm hgrow.length_le (hbound.trans (not_lt.mp full)))
    cases h2 with
    | uncovered coverage' => exact absurd coverage' coverage
    | protective _ order' order_ok' observation' fill' hit' =>
      obtain rfl := Except.ok.inj (order_ok.symm.trans order_ok')
      rw [hsame] at miss
      cases miss.symm.trans hit'
    | immature _ order' order_ok' miss' short' =>
      rw [← hsame] at short'
      exact absurd short' full
    | matured _ order' order_ok' miss' full' last' last_eq' resolved' =>
      obtain rfl := Except.ok.inj (order_ok.symm.trans order_ok')
      rw [hsame] at last_eq
      obtain rfl := Option.some.inj (last_eq.symm.trans last_eq')
      obtain ⟨hstatus, hentry, hexit⟩ := resolveTimeExit_same resolved resolved'
      exact .inr ⟨hstatus, hentry, fun _ => hexit⟩

/-- Neither a later cutoff nor more observations revise what a replay has settled. -/
theorem replayPaperOutcome_extended (hobs : observations.Sublist extended) (hle : t1 ≤ t2)
    (h1 : replayPaperOutcome ctx registration binding calendar policy observations t1 = .ok r1)
    (h2 : replayPaperOutcome ctx registration binding calendar policy extended t2 = .ok r2) :
    ReplayContinues r1 r2 := by
  have hcovers1 := calendarPrefix_of_replay h1
  have hcovers2 := calendarPrefix_of_replay h2
  obtain ⟨-, -, order, horder, hcase1⟩ := replayPaperOutcome_ok h1
  obtain ⟨-, -, order', horder', hcase2⟩ := replayPaperOutcome_ok h2
  obtain rfl := Except.ok.inj (horder.symm.trans horder')
  rcases hcase1 with ⟨hmiss, hunfilled⟩ | ⟨observation, fill, hhit, hexit⟩
  · rcases resolveUnfilled_ok hunfilled with ⟨hexpired, hcovered⟩ | hwaiting
    · have hsame := eligibleAt_eq_of_covered hobs hle hcovers1 hcovers2 hcovered
      rcases hcase2 with ⟨hmiss2, hunfilled2⟩ | ⟨observation, fill, hhit, -⟩
      · have hlater : r2.status = .expired := by
          rcases resolveUnfilled_ok hunfilled2 with ⟨hexpired2, -⟩ | hwaiting2
          · exact hexpired2
          · unfold resolveUnfilled at hunfilled2
            rw [if_pos fun session hs => ?_] at hunfilled2
            · exact (replayResult_ok hunfilled2).1
            · exact ((availableAt_sublist hobs hle).map _).subset (hcovered session hs)
        constructor <;> simp [hexpired, hlater]
      · rw [hsame] at hmiss
        cases hmiss.symm.trans hhit
    · constructor <;> simp [hwaiting]
  · obtain ⟨hrelevant, -, hsession⟩ := entryHit_session hhit
    have hfirst : registration.firstSession ≤ fill.session :=
      hsession.symm ▸ (mem_relevantAt.mp hrelevant).2
    have hlater := FirstHit.firstHit_prefix_some (eligibleAt_grows hobs hle hcovers1 hcovers2) hhit
    rcases hcase2 with ⟨hmiss2, -⟩ | ⟨observation2, fill2, hhit2, hexit2⟩
    · cases hlater.symm.trans hmiss2
    · obtain ⟨rfl, rfl⟩ := Prod.mk.inj (Option.some.inj (Except.ok.inj (hlater.symm.trans hhit2)))
      have hresolved1 := resolveExit_ok hexit
      have hresolved2 := resolveExit_ok hexit2
      obtain ⟨hentry1, hstatus1⟩ := hresolved1.entry_status
      obtain ⟨hentry2, hstatus2⟩ := hresolved2.entry_status
      have hentry := hentry2.trans hentry1.symm
      rcases hresolved1.continues hobs hle hcovers1 hcovers2 hfirst hresolved2 with
        hopen | ⟨hstatus, -, hclosed⟩
      · constructor <;> simp [hopen, hstatus2, hentry]
      · refine ⟨fun h => ⟨hstatus.trans h, hentry, hclosed h⟩, fun h => hstatus.trans h,
          fun h => ⟨hstatus2, hentry⟩, fun h => ⟨hstatus.trans h, hentry⟩⟩

/-- Evidence that becomes known later never revises a terminal outcome, nor a recorded entry. -/
theorem replayPaperOutcome_continues (hle : t1 ≤ t2)
    (h1 : replayPaperOutcome ctx registration binding calendar policy observations t1 = .ok r1)
    (h2 : replayPaperOutcome ctx registration binding calendar policy observations t2 = .ok r2) :
    ReplayContinues r1 r2 :=
  replayPaperOutcome_extended (List.Sublist.refl observations) hle h1 h2

/-- An instant by its date and minute in Indian Standard Time. -/
def istInstant (day : SessionDate) (minute : ℤ) : Instant :=
  day * 86400000000 + minute * 60000000 - 19800000000

/-- Ten shares, to be bought on day 101 between 100 and 102, with a stop at 95 and a target at 110. -/
def sampleRegistration (registrationId : Digest) (maxHoldingSessions : ℕ)
    (holding_pos : 0 < maxHoldingSessions) : PaperTradeRegistration where
  registrationId := registrationId
  alertId := 2
  symbol := "INFY"
  quantity := 10
  decisionTime := istInstant 100 960
  earliestEntryAt := istInstant 101 555
  entryExpiresAt := istInstant 101 930
  entryLow := 100
  entryHigh := 102
  stop := 95
  target := 110
  maxHoldingSessions := maxHoldingSessions
  estimatedRoundTripCost := 5
  quantity_pos := by decide
  window := by decide
  decision_lt := by decide
  stop_pos := by decide +kernel
  stop_lt := by decide +kernel
  low_le_high := by decide +kernel
  high_lt := by decide +kernel
  holding_pos := holding_pos
  cost_nonneg := by decide +kernel

def sampleBinding (registrationId : Digest) : PaperInstrumentBinding :=
  ⟨registrationId, "INFY", "EQ", "INE009A01021", 1594, 1 / 20, 3, 4, 99, istInstant 99 1000,
    by decide, by decide +kernel⟩

def sampleCalendar : CalendarSnapshot where
  snapshotId := 5
  cutoff := istInstant 99 0
  coverageStart := 100
  days := [⟨100, true⟩, ⟨101, true⟩, ⟨102, true⟩, ⟨103, true⟩]
  contiguous := by decide

theorem entryOpen_pos : (0 : ℚ) < 101 := by decide +kernel

theorem entryHigh_pos : (0 : ℚ) < 103 := by decide +kernel

theorem entryLow_pos : (0 : ℚ) < 100 := by decide +kernel

theorem entryClose_pos : (0 : ℚ) < 102 := by decide +kernel

theorem observedVolume_pos : 0 < 100000 := by decide

theorem entry_known : istInstant 101 930 < istInstant 101 1080 := by decide

/-- Day 101, known by 18:00, on which the entry fills. -/
def entryObservation : PaperOutcomeObservation :=
  ⟨6, 5, 101, istInstant 101 930, istInstant 101 1080, "INFY", "EQ", "INE009A01021",
    some ⟨7, 101, 103, 100, 102, 100000, entryOpen_pos, entryHigh_pos, entryLow_pos, entryClose_pos,
      by decide +kernel, by decide +kernel, observedVolume_pos⟩, entry_known⟩

theorem targetOpen_pos : (0 : ℚ) < 104 := by decide +kernel

theorem targetHigh_pos : (0 : ℚ) < 111 := by decide +kernel

theorem targetClose_pos : (0 : ℚ) < 105 := by decide +kernel

theorem target_known : istInstant 102 930 < istInstant 102 1080 := by decide

theorem sampleHolding_pos : 0 < 2 := by decide

/-- Day 102, on which the target is touched, as known at a given instant. -/
def targetObservation (knowledgeTime : Instant) (known : istInstant 102 930 < knowledgeTime) :
    PaperOutcomeObservation :=
  ⟨8, 5, 102, istInstant 102 930, knowledgeTime, "INFY", "EQ", "INE009A01021",
    some ⟨9, 104, 111, 103, 105, 100000, targetOpen_pos, targetHigh_pos, entryHigh_pos, targetClose_pos,
      by decide +kernel, by decide +kernel, observedVolume_pos⟩, known⟩

/-- The replay of the sample trade over days 101 and 102. -/
def sampleReplay (registration : PaperTradeRegistration) (asOf : Instant) :
    Except PaperError PaperOutcomeReplay :=
  replayPaperOutcome .exact registration (sampleBinding registration.registrationId) sampleCalendar
    .default [entryObservation, targetObservation (istInstant 102 1080) (by decide)] asOf

/-- An open replay on the evening of day 101 is closed at its target a day later. -/
theorem replayPaperOutcome_continues_sample :
    ∃ r1 r2, sampleReplay (sampleRegistration 1 2 (by decide)) (istInstant 101 1100) = .ok r1 ∧
      sampleReplay (sampleRegistration 1 2 (by decide)) (istInstant 102 1100) = .ok r2 ∧
      r1.status = .open_ ∧ r2.status = .closed ∧ ReplayContinues r1 r2 := by
  obtain ⟨r1, h1, hopen⟩ := ExceptGuards.exists_ok_of_any
    (x := sampleReplay (sampleRegistration 1 2 (by decide)) (istInstant 101 1100))
    (p := fun replay => replay.status = .open_) (by decide +kernel)
  obtain ⟨r2, h2, hclosed⟩ := ExceptGuards.exists_ok_of_any
    (x := sampleReplay (sampleRegistration 1 2 (by decide)) (istInstant 102 1100))
    (p := fun replay => replay.status = .closed) (by decide +kernel)
  exact ⟨r1, r2, h1, h2, of_decide_eq_true hopen, of_decide_eq_true hclosed,
    replayPaperOutcome_continues (by decide) h1 h2⟩

end IndiaSwing
