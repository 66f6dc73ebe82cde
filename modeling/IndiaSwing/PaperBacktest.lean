import IndiaSwing.ResolverLedger
import IndiaSwing.IntentEvaluability

namespace IndiaSwing

open ExceptGuards
open FirstHit (firstHit)

section Terms

variable (registration : PaperTradeRegistration) (binding : PaperInstrumentBinding)
  (calendar : CalendarSnapshot) (policy : PaperOutcomePolicy) (observations : List PaperOutcomeObservation)
  (asOf : Instant) (intent : EvaluationTradeIntent) (execution : DailyExecutionPolicy)

/-- The simulation bars that the resolver derives from its observations. -/
def replayBars : List SimulationBar :=
  observations.filterMap fun observation => observation.bar.map (simulationBar observation)

/-- The sessions of a calendar. -/
def CalendarSnapshot.sessions : List SessionDate := (calendar.days.filter (·.isSession)).map (·.day)

/-- The intent that a backtest of the registered trade evaluates. -/
structure SameTerms : Prop where
  symbol : intent.entryOrder.symbol = registration.symbol
  signalSession : intent.entryOrder.signalSession = registration.decisionTime.istDate
  firstEligibleSession : intent.entryOrder.firstEligibleSession = registration.firstSession
  expirySession : intent.entryOrder.expirySession = registration.expirySession
  quantity : intent.entryOrder.quantity = registration.quantity
  limitPrice : intent.entryOrder.limitPrice = registration.entryHigh
  tickSize : intent.entryOrder.tickSize = binding.tickSize
  maximumParticipation : intent.entryOrder.maximumParticipation = policy.maximumParticipation
  stopPrice : intent.stopPrice = registration.stop
  targetPrice : intent.targetPrice = registration.target
  maxHoldingSessions : intent.maxHoldingSessions = registration.maxHoldingSessions
  exitParticipation : execution.maximumParticipation = policy.maximumParticipation

/-- The last session of the horizon: of the holding, or of the entry window when nothing fills. -/
def horizonEnd : Option SimulatedFill → SessionDate
  | none => registration.expirySession
  | some fill => (horizonSessions registration calendar fill.session).getLastD fill.session

/-- Every calendar session from the first entry session to the end of the horizon has an observation that is
traded and known by the replay, and none of the entry window opens below `entry_low`. -/
structure CoversHorizon (entry : Option SimulatedFill) : Prop where
  scanned : entryScan .exact intent.entryOrder (replayBars observations) policy.slippageBps calendar.sessions =
    .ok entry
  covers : ∀ session ∈ calendarSessions registration calendar, session ≤ horizonEnd registration calendar entry →
    ∃ observation ∈ observations, observation.marketSession = session ∧ observation.knowledgeTime ≤ asOf ∧
      ∃ bar ∈ observation.bar, session ≤ registration.expirySession → registration.entryLow ≤ bar.open_
  matures : ∀ fill ∈ entry,
    (horizonSessions registration calendar fill.session).length = registration.maxHoldingSessions

end Terms

section Bars

variable {observations : List PaperOutcomeObservation} {calendar : CalendarSnapshot}

theorem barOn_replayBars (hnodup : (observations.map (·.marketSession)).Nodup)
    {observation : PaperOutcomeObservation} (hmem : observation ∈ observations) {bar : ObservedBar}
    (hbar : observation.bar = some bar) :
    barOn (replayBars observations) observation.marketSession = some (simulationBar observation bar) := by
  have hone : ∀ b ∈ replayBars observations, b.session = observation.marketSession →
      b = simulationBar observation bar := by
    intro b hb hsession
    obtain ⟨other, hother, hmap⟩ := List.mem_filterMap.mp hb
    obtain ⟨bar', hbar', rfl⟩ := Option.map_eq_some_iff.mp hmap
    obtain rfl := eq_of_session hnodup hother hmem hsession
    rw [Option.some.inj (hbar'.symm.trans hbar)]
  have hin : simulationBar observation bar ∈ replayBars observations :=
    List.mem_filterMap.mpr ⟨observation, hmem, by rw [hbar]; rfl⟩
  cases hfound : barOn (replayBars observations) observation.marketSession with
  | none =>
    have hnone := List.find?_eq_none.mp hfound _ (List.mem_reverse.mpr hin)
    exact absurd (decide_eq_true rfl) hnone
  | some b =>
    have hb := List.mem_reverse.mp (List.mem_of_find?_eq_some hfound)
    rw [hone b hb (barOn_session hfound)]

theorem sessionsFrom_eq (first : SessionDate) :
    calendar.sessionsFrom first = calendar.sessions.filter (first ≤ ·) := by
  unfold CalendarSnapshot.sessionsFrom CalendarSnapshot.sessions
  rw [List.filter_map, List.filter_filter]
  congr 1
  exact List.filter_congr fun value _ => Bool.and_comm _ _

theorem sessions_increasing : calendar.sessions.Pairwise (· < ·) :=
  calendar.days_increasing.sublist (List.Sublist.map _ List.filter_sublist)

/-- From one of its entries on, a sorted list is what is not below it. -/
theorem drop_idxOf_eq_filter {sessions : List SessionDate} (hsorted : sessions.Pairwise (· < ·))
    {session : SessionDate} (hmem : session ∈ sessions) :
    sessions.drop (sessions.idxOf session) = sessions.filter (session ≤ ·) := by
  induction sessions with
  | nil => cases hmem
  | cons first rest ih =>
    by_cases hfirst : first = session
    · subst hfirst
      rw [List.idxOf_cons_self, List.drop_zero, List.filter_eq_self.mpr]
      intro later hlater
      rcases List.mem_cons.mp hlater with rfl | hlater
      · exact decide_eq_true le_rfl
      · exact decide_eq_true (List.rel_of_pairwise_cons hsorted hlater).le
    · have hrest : session ∈ rest := (List.mem_cons.mp hmem).resolve_left (Ne.symm hfirst)
      have hbefore : ¬session ≤ first := not_le.mpr (List.rel_of_pairwise_cons hsorted hrest)
      rw [List.idxOf_cons_ne _ hfirst, List.drop_succ_cons, ih hsorted.of_cons hrest,
        List.filter_cons_of_neg (by simpa using hbefore)]

/-- The holding sessions of the backtest are those of the replay's horizon. -/
theorem drop_idxOf_sessionsFrom {first session : SessionDate} (hmem : session ∈ calendar.sessionsFrom first) :
    (calendar.sessionsFrom first).drop ((calendar.sessionsFrom first).idxOf session) =
      calendar.sessions.drop (calendar.sessions.idxOf session) := by
  have hfirst := calendar.first_le_of_mem_sessionsFrom hmem
  have hall : session ∈ calendar.sessions := by
    rw [sessionsFrom_eq] at hmem
    exact List.mem_of_mem_filter hmem
  rw [drop_idxOf_eq_filter (calendar.sessionsFrom_increasing first) hmem,
    drop_idxOf_eq_filter sessions_increasing hall, sessionsFrom_eq, List.filter_filter]
  refine List.filter_congr fun later _ => ?_
  by_cases hlater : session ≤ later
  · rw [decide_eq_true hlater, decide_eq_true (hfirst.trans hlater), Bool.and_self]
  · rw [decide_eq_false hlater, Bool.false_and]

/-- The sessions before the first eligible one do not count. -/
theorem entryScan_sessionsFrom {ctx : DecimalContext} {order : LimitEntryOrder} {bars : List SimulationBar} {s : ℚ}
    (sessions : List SessionDate) :
    entryScan ctx order bars s sessions =
      entryScan ctx order bars s (sessions.filter (order.firstEligibleSession ≤ ·)) := by
  induction sessions with
  | nil => rfl
  | cons session rest ih =>
    by_cases hearly : session < order.firstEligibleSession
    · rw [List.filter_cons_of_neg (by simpa using hearly), ← ih, entryScan, if_pos hearly]
    · rw [List.filter_cons_of_pos (by simpa using hearly)]
      unfold entryScan
      rw [if_neg hearly, if_neg hearly, ih]

end Bars

section Entry

variable {registration : PaperTradeRegistration} {policy : PaperOutcomePolicy} {order : LimitEntryOrder}
  {bars : List SimulationBar} {expiry : SessionDate}

/-- A fill of a bar that opens at or above `entry_low` passes the resolver's second price test. -/
theorem entryLow_le_fill {bar : SimulationBar} {fill : SimulatedFill} {low s : ℚ} (hlow : low ≤ bar.open_)
    (hlimit : low ≤ order.limitPrice) (h : simulateLimitEntry .exact order bar s = .ok (some fill)) :
    low ≤ fill.fillPrice := by
  refine le_trans ?_ (simulateLimitEntry_priced h).trigger_le
  unfold simulateLimitEntry at h
  obtain ⟨-, h⟩ := raiseIf_bind_eq_ok.mp h
  obtain ⟨-, h⟩ := raiseIf_bind_eq_ok.mp h
  split at h
  next => cases h
  next =>
    split at h
    next => cases h
    next =>
      split at h
      next => cases h
      next trigger htrigger =>
        obtain ⟨value, hvalue, h⟩ := bind_eq_ok.mp h
        obtain rfl := Option.some.inj (Except.ok.inj h)
        rw [(simulatedFill_create_ok hvalue).2.1]
        unfold limitTrigger at htrigger
        split at htrigger
        next => exact Option.some.inj htrigger ▸ hlow
        next =>
          split at htrigger
          next => exact Option.some.inj htrigger ▸ hlimit
          next => cases htrigger

/-- On a traded session that opens inside the range the resolver's entry test is the simulator's. -/
theorem entryTest_traded {observation : PaperOutcomeObservation} {bar : ObservedBar}
    {result : Option SimulatedFill} (hbar : observation.bar = some bar) (hlow : registration.entryLow ≤ bar.open_)
    (hlimit : registration.entryLow ≤ order.limitPrice)
    (h : simulateLimitEntry .exact order (simulationBar observation bar) policy.slippageBps = .ok result) :
    entryTest .exact registration policy order observation = .ok result := by
  unfold entryTest
  rw [hbar]
  dsimp only
  rw [if_neg (not_lt.mpr hlow), h]
  cases result with
  | none => rfl
  | some fill =>
    have hopen : registration.entryLow ≤ (simulationBar observation bar).open_ := hlow
    have hprice := entryLow_le_fill hopen hlimit h
    show Except.ok (Option.filter _ (some fill)) = _
    rw [Option.filter_some, if_pos (decide_eq_true hprice)]

/-- The entry that a scan of the backtest finds is the one the resolver finds in its observations. -/
theorem entryScan_hit (registration : PaperTradeRegistration) (policy : PaperOutcomePolicy)
    {entry : Option SimulatedFill} (hlimit : registration.entryLow ≤ order.limitPrice)
    (observations : List PaperOutcomeObservation) (rest : List SessionDate)
    (hsorted : (observations.map (·.marketSession) ++ rest).Pairwise (· < ·))
    (hfirst : ∀ session ∈ observations.map (·.marketSession) ++ rest, order.firstEligibleSession ≤ session)
    (hbars : ∀ observation ∈ observations, ∀ bar ∈ observation.bar,
      barOn bars observation.marketSession = some (simulationBar observation bar))
    (hcovered : ∀ session ∈ observations.map (·.marketSession) ++ rest, session ≤ scanEnd order entry →
      ∃ observation ∈ observations, observation.marketSession = session ∧
        ∃ bar ∈ observation.bar, session ≤ order.expirySession → registration.entryLow ≤ bar.open_)
    (h : entryScan .exact order bars policy.slippageBps (observations.map (·.marketSession) ++ rest) = .ok entry) :
    match entry with
    | none => firstHit (entryTest .exact registration policy order)
        (observations.filter (·.marketSession ≤ order.expirySession)) = .ok none
    | some fill => ∃ observation ∈ observations, observation.marketSession = fill.session ∧
        firstHit (entryTest .exact registration policy order)
          (observations.filter (·.marketSession ≤ order.expirySession)) = .ok (some (observation, fill)) := by
  induction observations with
  | nil =>
    cases entry with
    | none => rfl
    | some fill =>
      obtain ⟨observation, hmem, -⟩ := hcovered fill.session (entryScan_session h).1 le_rfl
      cases hmem
  | cons observation observations ih =>
    rw [List.map_cons, List.cons_append] at hsorted hfirst hcovered h
    have hlater : ∀ session ∈ observations.map (·.marketSession) ++ rest, observation.marketSession < session :=
      fun session hsession => List.rel_of_pairwise_cons hsorted hsession
    have hrest := ih hsorted.of_cons (fun session hsession => hfirst session (List.mem_cons_of_mem _ hsession))
      (fun later hmem => hbars later (List.mem_cons_of_mem _ hmem)) (by
        intro session hsession hend
        obtain ⟨found, hfound, hat, hbar⟩ := hcovered session (List.mem_cons_of_mem _ hsession) hend
        rcases List.mem_cons.mp hfound with rfl | hfound
        · exact absurd (hlater session hsession) (by rw [hat]; exact lt_irrefl _)
        · exact ⟨found, hfound, hat, hbar⟩)
    have hnow : ¬observation.marketSession < order.firstEligibleSession :=
      not_lt.mpr (hfirst _ List.mem_cons_self)
    unfold entryScan at h
    rw [if_neg hnow] at h
    split at h
    next hlate =>
      obtain rfl := Except.ok.inj h
      have hnone : (observation :: observations).filter (·.marketSession ≤ order.expirySession) = [] := by
        refine List.filter_eq_nil_iff.mpr fun later hmem hin => ?_
        have hle := of_decide_eq_true hin
        rcases List.mem_cons.mp hmem with rfl | hmem
        · exact absurd hlate (not_lt.mpr hle)
        · have hafter := hlater _ (List.mem_append_left _ (List.mem_map_of_mem hmem))
          exact absurd (hlate.trans hafter) (not_lt.mpr hle)
      rw [hnone]
      rfl
    next hlate =>
      have hread : observation.marketSession ≤ scanEnd order entry := by
        cases entry with
        | none => exact not_lt.mp hlate
        | some fill =>
          have hscan : entryScan .exact order bars policy.slippageBps
              (observation.marketSession :: (observations.map (·.marketSession) ++ rest)) = .ok (some fill) := by
            unfold entryScan
            rw [if_neg hnow, if_neg hlate]
            exact h
          rcases List.mem_cons.mp (entryScan_session hscan).1 with heq | hmem
          · exact heq.ge
          · exact (hlater _ hmem).le
      obtain ⟨found, hfound, hat, bar, hbar, hlow⟩ := hcovered _ List.mem_cons_self hread
      have hself : found = observation := by
        rcases List.mem_cons.mp hfound with rfl | hfound
        · rfl
        · have hafter := hlater _ (List.mem_append_left _ (List.mem_map_of_mem hfound))
          exact absurd hafter (by rw [hat]; exact lt_irrefl _)
      subst hself
      have hon := hbars found List.mem_cons_self bar hbar
      simp only [hon] at h
      obtain ⟨result, hresult, h⟩ := bind_eq_ok.mp h
      have htest := entryTest_traded hbar (hlow (not_lt.mp hlate)) hlimit hresult
      have hkept : (found :: observations).filter (·.marketSession ≤ order.expirySession) =
          found :: observations.filter (·.marketSession ≤ order.expirySession) :=
        List.filter_cons_of_pos (decide_eq_true (not_lt.mp hlate))
      rw [hkept]
      cases result with
      | some fill =>
        obtain rfl := Except.ok.inj h
        obtain ⟨-, -, -, hfrom⟩ := simulateLimitEntry_some hresult
        refine ⟨found, List.mem_cons_self, hfrom.session.symm, ?_⟩
        unfold firstHit
        rw [htest]
      | none =>
        have hgoal := hrest h
        rw [FirstHit.firstHit_cons_none htest]
        cases entry with
        | none => exact hgoal
        | some fill =>
          obtain ⟨later, hmem, hsession, hhit⟩ := hgoal
          exact ⟨later, List.mem_cons_of_mem _ hmem, hsession, hhit⟩

end Entry

section Exit

variable {policy : PaperOutcomePolicy} {order : ProtectiveExitOrder} {bars : List SimulationBar}
  {lookup : SessionDate → Option PaperOutcomeObservation} {ctx : DecimalContext}

/-- How the exit of the backtest lies to the resolver's scan of the horizon. -/
inductive ExitAgrees (ctx : DecimalContext) (policy : PaperOutcomePolicy) (order : ProtectiveExitOrder)
    (horizon : List PaperOutcomeObservation) : Except ValueError (Option SimulatedFill) → Prop
  | raised {e : ValueError} : firstHit (exitTest ctx policy order) horizon = .error ⟨.valueError, e.message⟩ →
      (∃ bar, simulateProtectiveExit ctx order bar policy.slippageBps = .error e) →
      ExitAgrees ctx policy order horizon (.error e)
  | protected_ {observation : PaperOutcomeObservation} {fill : SimulatedFill} :
      firstHit (exitTest ctx policy order) horizon = .ok (some (observation, fill)) →
      ExitAgrees ctx policy order horizon (.ok (some fill))
  | matured {last : PaperOutcomeObservation} {bar : ObservedBar} :
      firstHit (exitTest ctx policy order) horizon = .ok none → horizon.getLast? = some last →
      last.bar = some bar →
      ExitAgrees ctx policy order horizon (simulateTimeExit ctx order (simulationBar last bar) policy.slippageBps)

/-- Over covered sessions the exit scan of the backtest and the resolver's horizon agree. -/
theorem exitScan_agrees (sessions : List SessionDate) (hne : sessions ≠ [])
    (hcovered : ∀ session ∈ sessions, ∃ observation, lookup session = some observation ∧
      observation.marketSession = session ∧ ∃ bar, observation.bar = some bar ∧
        barOn bars session = some (simulationBar observation bar)) :
    ExitAgrees ctx policy order (sessions.filterMap lookup)
      (exitScan ctx order bars policy.slippageBps sessions) := by
  induction sessions with
  | nil => exact absurd rfl hne
  | cons session rest ih =>
    obtain ⟨observation, hlookup, hat, bar, hbar, hon⟩ := hcovered session List.mem_cons_self
    have htest : exitTest ctx policy order observation =
        liftValueError (simulateProtectiveExit ctx order (simulationBar observation bar) policy.slippageBps) := by
      unfold exitTest
      rw [hbar]
    rw [List.filterMap_cons_some hlookup]
    unfold exitScan
    simp only [hon]
    cases hexit : simulateProtectiveExit ctx order (simulationBar observation bar) policy.slippageBps with
    | error e =>
      refine .raised ?_ ⟨_, hexit⟩
      unfold firstHit
      rw [htest, hexit]
      rfl
    | ok result =>
      rw [hexit] at htest
      cases result with
      | some fill =>
        have hhit : firstHit (exitTest ctx policy order) (observation :: rest.filterMap lookup) =
            .ok (some (observation, fill)) := by
          unfold firstHit
          rw [htest]
          rfl
        exact .protected_ hhit
      | none =>
        have hmiss : firstHit (exitTest ctx policy order) (observation :: rest.filterMap lookup) =
            firstHit (exitTest ctx policy order) (rest.filterMap lookup) := FirstHit.firstHit_cons_none htest
        rw [ok_bind]
        dsimp only
        by_cases hlast : rest = []
        · subst hlast
          rw [if_pos rfl]
          exact .matured hmiss rfl hbar
        · rw [if_neg hlast]
          have hrest := ih hlast fun later hmem => hcovered later (List.mem_cons_of_mem _ hmem)
          generalize exitScan ctx order bars policy.slippageBps rest = result at hrest ⊢
          cases hrest with
          | raised herror hbar' => exact .raised (hmiss.trans herror) hbar'
          | protected_ hhit => exact .protected_ (hmiss.trans hhit)
          | matured hnone hlast' hbar' =>
            refine .matured (hmiss.trans hnone) ?_ hbar'
            rw [List.getLast?_cons, hlast']
            rfl

/-- The backtest's error for a position that its horizon cannot sell. -/
def unliquidated : ValueError := ⟨"position could not be liquidated by its horizon"⟩

theorem create_error_ne {orderId barId : ContentId} {session : SessionDate} {symbol : String} {side : FillSide}
    {quantity : ℕ} {triggerPrice fillPrice slippageBps : ℚ} {exitReason : Option ExitReason} {e : ValueError}
    (h : SimulatedFill.create orderId barId session symbol side quantity triggerPrice fillPrice slippageBps
      exitReason = .error e) : e ≠ unliquidated := by
  unfold SimulatedFill.create at h
  split_ifs at h
  all_goals
    obtain rfl := Except.error.inj h
    decide

theorem simulateProtectiveExit_error_ne {bar : SimulationBar} {s : ℚ} {e : ValueError}
    (h : simulateProtectiveExit ctx order bar s = .error e) : e ≠ unliquidated := by
  unfold simulateProtectiveExit at h
  rcases raiseIf_bind_eq_error.mp h with ⟨-, rfl⟩ | ⟨-, h⟩
  · decide
  rcases raiseIf_bind_eq_error.mp h with ⟨-, rfl⟩ | ⟨-, h⟩
  · decide
  split at h
  next => cases h
  next =>
    split at h
    next => cases h
    next =>
      split at h
      next => cases h
      next =>
        rcases bind_eq_error.mp h with hcreate | ⟨fill, -, h⟩
        · exact create_error_ne hcreate
        · cases h

theorem simulateTimeExit_error_ne {bar : SimulationBar} {s : ℚ} {e : ValueError}
    (h : simulateTimeExit ctx order bar s = .error e) : e ≠ unliquidated := by
  unfold simulateTimeExit at h
  rcases raiseIf_bind_eq_error.mp h with ⟨-, rfl⟩ | ⟨-, h⟩
  · decide
  rcases raiseIf_bind_eq_error.mp h with ⟨-, rfl⟩ | ⟨-, h⟩
  · decide
  split at h
  next => cases h
  next =>
    split at h
    next => cases h
    next =>
      rcases bind_eq_error.mp h with hcreate | ⟨fill, -, h⟩
      · exact create_error_ne hcreate
      · cases h

theorem protectiveExitOrder_error_ne {intent : EvaluationTradeIntent} {execution : DailyExecutionPolicy}
    {fill : SimulatedFill} {e : ValueError} (h : protectiveExitOrder intent fill execution = .error e) :
    e ≠ unliquidated := by
  unfold protectiveExitOrder ProtectiveExitOrder.create at h
  split_ifs at h
  all_goals
    obtain rfl := Except.error.inj h
    decide

end Exit

section Horizon

variable {registration : PaperTradeRegistration} {calendar : CalendarSnapshot}
  {observations : List PaperOutcomeObservation} {asOf : Instant} {entrySession session : SessionDate}

theorem horizonSessions_sorted : (horizonSessions registration calendar entrySession).Pairwise (· < ·) :=
  (calendar.sessionsFrom_increasing registration.firstSession).sublist
    ((List.take_sublist _ _).trans (List.drop_sublist _ _))

/-- The horizon of an entry starts on its session and has no session after its end. -/
theorem horizonSessions_bounds (hentry : entrySession ∈ calendarSessions registration calendar)
    (hsession : session ∈ horizonSessions registration calendar entrySession) :
    entrySession ≤ session ∧
      session ≤ (horizonSessions registration calendar entrySession).getLastD entrySession := by
  constructor
  · exact sorted_idxOf_le (calendar.sessionsFrom_increasing registration.firstSession)
      (List.mem_of_mem_take hsession) hentry
  · have hsorted : (horizonSessions registration calendar entrySession).Pairwise (· < ·) := horizonSessions_sorted
    rw [List.getLastD_eq_getLast?]
    generalize horizonSessions registration calendar entrySession = sessions at hsession hsorted
    obtain ⟨last, hlast⟩ := Option.isSome_iff_exists.mp
      (List.getLast?_isSome.mpr (List.ne_nil_of_mem hsession))
    rw [hlast]
    obtain ⟨front, rfl⟩ := List.getLast?_eq_some_iff.mp hlast
    rcases List.mem_append.mp hsession with hfront | hsame
    · exact ((List.pairwise_append.mp hsorted).2.2 session hfront last List.mem_cons_self).le
    · exact (List.mem_singleton.mp hsame).le

theorem entry_mem_horizon (hentry : entrySession ∈ calendarSessions registration calendar) :
    entrySession ∈ horizonSessions registration calendar entrySession := by
  have hlt := List.idxOf_lt_length_of_mem hentry
  obtain ⟨k, hk⟩ := Nat.exists_eq_succ_of_ne_zero registration.holding_pos.ne'
  unfold horizonSessions
  dsimp only
  rw [List.drop_eq_getElem_cons hlt, hk, List.take_succ_cons, List.getElem_idxOf hlt]
  exact List.mem_cons_self

theorem bySession_of_mem (hnodup : (observations.map (·.marketSession)).Nodup) {list : List PaperOutcomeObservation}
    (hsub : list ⊆ observations) {observation : PaperOutcomeObservation} (hmem : observation ∈ list) :
    bySession list observation.marketSession = some observation := by
  cases hfound : bySession list observation.marketSession with
  | none => exact absurd (decide_eq_true rfl) (List.find?_eq_none.mp hfound _ hmem)
  | some other =>
    have hother := List.mem_of_find?_eq_some hfound
    have hat := of_decide_eq_true
      (List.find?_some (p := fun o : PaperOutcomeObservation => decide (o.marketSession = observation.marketSession))
        hfound)
    rw [eq_of_session hnodup (hsub hother) (hsub hmem) hat]

theorem length_filterMap_of_some {α β : Type} {f : α → Option β} {values : List α}
    (h : ∀ a ∈ values, ∃ b, f a = some b) : (values.filterMap f).length = values.length := by
  induction values with
  | nil => rfl
  | cons a values ih =>
    obtain ⟨b, hb⟩ := h a List.mem_cons_self
    rw [List.filterMap_cons_some hb, List.length_cons, List.length_cons,
      ih fun c hc => h c (List.mem_cons_of_mem _ hc)]

end Horizon

section Equality

variable {registration : PaperTradeRegistration} {binding : PaperInstrumentBinding} {calendar : CalendarSnapshot}
  {policy : PaperOutcomePolicy} {observations : List PaperOutcomeObservation} {asOf : Instant}
  {intent : EvaluationTradeIntent} {execution : DailyExecutionPolicy} {entry : Option SimulatedFill}

/-- A closed replay reports the fills of a trade. -/
structure ReportsTrade (replay : PaperOutcomeReplay) (trade : EvaluatedTrade) : Prop where
  entry : ∃ fill ∈ replay.entry, fill.marketSession = trade.entryFill.session ∧
    fill.price.1 = trade.entryFill.fillPrice ∧ fill.reason = none
  exit : ∃ fill ∈ replay.exit, fill.marketSession = trade.exitFill.session ∧
    fill.price.1 = trade.exitFill.fillPrice ∧ fill.reason = trade.exitFill.exitReason.map .ofExitReason

/-- How a replay and a backtest of one trade end together. -/
inductive EndsAs : Except PaperError PaperOutcomeReplay → Except ValueError (Option EvaluatedTrade) → Prop
  | unfilled {replay : PaperOutcomeReplay} : replay.status = .expired → EndsAs (.ok replay) (.ok none)
  | traded {replay : PaperOutcomeReplay} {trade : EvaluatedTrade} : replay.status = .closed →
      ReportsTrade replay trade → EndsAs (.ok replay) (.ok (some trade))
  | unsold {replay : PaperOutcomeReplay} : replay.status = .blocked →
      replay.reasonCode = "HORIZON_EXIT_NOT_FILLABLE" → EndsAs (.ok replay) (.error unliquidated)
  | raised {e : PaperError} {e' : ValueError} : e' ≠ unliquidated → EndsAs (.error e) (.error e')

variable (registration binding calendar policy asOf) in
theorem replayResult_total (hnodup : (observations.map (·.marketSession)).Nodup) (reason : String)
    {status : PaperOutcomeStatus} {entry exit : Option PaperOutcomeFill} (hfills : ReplayFillsValid status entry exit) :
    ∃ replay, replayResult registration binding calendar policy observations asOf status reason entry exit =
      .ok replay ∧ replay.status = status ∧ replay.reasonCode = reason ∧ replay.entry = entry ∧ replay.exit = exit := by
  have hids : ((availableAt asOf observations).map (·.observationId)).Nodup := by
    have hsessions : ((availableAt asOf observations).map (·.marketSession)).Nodup :=
      hnodup.sublist (List.Sublist.map _ List.filter_sublist)
    rw [List.Nodup, List.pairwise_map] at hsessions ⊢
    exact hsessions.imp fun hne heq => hne (observationId_session heq)
  unfold replayResult PaperOutcomeReplay.create
  rw [dif_neg (not_not.mpr hfills), dif_neg (not_not.mpr hids)]
  exact ⟨_, rfl, rfl, rfl, rfl, rfl⟩

/-- The resolver's entry order is the intent's. -/
theorem entryOrder_sameTerms (hterms : SameTerms registration binding policy intent execution) :
    entryOrder registration binding policy = .ok intent.entryOrder := by
  have hcreate : LimitEntryOrder.create intent.entryOrder.symbol intent.entryOrder.signalSession
      intent.entryOrder.firstEligibleSession intent.entryOrder.expirySession intent.entryOrder.quantity
      intent.entryOrder.limitPrice intent.entryOrder.tickSize intent.entryOrder.maximumParticipation =
        .ok intent.entryOrder := by
    unfold LimitEntryOrder.create
    rw [dif_neg (not_le.mpr intent.entryOrder.signal_lt), dif_neg (not_lt.mpr intent.entryOrder.first_le),
      dif_neg intent.entryOrder.quantity_pos.ne', dif_neg (not_le.mpr intent.entryOrder.limit_pos),
      dif_neg (not_le.mpr intent.entryOrder.tick_pos), dif_neg (not_not.mpr intent.entryOrder.limit_onTick),
      dif_neg (not_not.mpr intent.entryOrder.participation)]
  rw [hterms.symbol, hterms.signalSession, hterms.firstEligibleSession, hterms.expirySession, hterms.quantity,
    hterms.limitPrice, hterms.tickSize, hterms.maximumParticipation] at hcreate
  unfold entryOrder
  rw [hcreate]
  rfl

/-- An entry fill has its order's symbol and quantity. -/
theorem entryScan_order {order : LimitEntryOrder} {bars : List SimulationBar} {sessions : List SessionDate} {s : ℚ}
    {fill : SimulatedFill} (h : entryScan .exact order bars s sessions = .ok (some fill)) :
    fill.symbol = order.symbol ∧ fill.quantity = order.quantity ∧ fill.side = .buy ∧ fill.exitReason = none := by
  refine entryScan_some (P := fun fill => fill.symbol = order.symbol ∧ fill.quantity = order.quantity ∧
    fill.side = .buy ∧ fill.exitReason = none) ?_ h
  intro bar hresult
  obtain ⟨-, -, -, hfrom⟩ := simulateLimitEntry_some hresult
  unfold simulateLimitEntry at hresult
  obtain ⟨-, hresult⟩ := raiseIf_bind_eq_ok.mp hresult
  obtain ⟨hsymbol, -⟩ := raiseIf_bind_eq_ok.mp hresult
  exact ⟨hfrom.symbol.trans (not_not.mp hsymbol).symm, hfrom.quantity, hfrom.side, hfrom.exitReason⟩

/-- Both protect an entry with the same order. -/
theorem exitOrder_sameTerms (hterms : SameTerms registration binding policy intent execution) {fill : SimulatedFill}
    (hsymbol : fill.symbol = intent.entryOrder.symbol) (hquantity : fill.quantity = intent.entryOrder.quantity) :
    exitOrder registration binding policy fill = liftValueError (protectiveExitOrder intent fill execution) := by
  unfold exitOrder protectiveExitOrder
  rw [hsymbol, hquantity, hterms.symbol, hterms.quantity, hterms.stopPrice, hterms.targetPrice, hterms.tickSize,
    hterms.exitParticipation]

theorem evaluatedTrade_create_total (intentId : ContentId) (isin : String) {entryFill exitFill : SimulatedFill}
    {order : ProtectiveExitOrder} (hside : entryFill.side = .buy) (hsymbol : order.symbol = entryFill.symbol)
    (hquantity : order.quantity = entryFill.quantity) (hsession : order.entrySession = entryFill.session)
    (hsells : SellsPosition order exitFill) :
    ∃ trade, EvaluatedTrade.create intentId isin entryFill exitFill = .ok trade ∧ trade.entryFill = entryFill ∧
      trade.exitFill = exitFill := by
  have hfills : entryFill.symbol = exitFill.symbol ∧ entryFill.quantity = exitFill.quantity ∧
      entryFill.session ≤ exitFill.session :=
    ⟨(hsells.symbol.trans hsymbol).symm, (hsells.quantity.trans hquantity).symm, hsession.ge.trans hsells.session⟩
  unfold EvaluatedTrade.create
  rw [dif_neg (not_not.mpr ⟨hside, hsells.side⟩), dif_neg (not_not.mpr hfills)]
  exact ⟨_, rfl, rfl, rfl⟩

/-- A filled entry whose horizon is covered ends alike in the replay and the backtest. -/
theorem holding_endsAs (hnodup : (observations.map (·.marketSession)).Nodup)
    (hterms : SameTerms registration binding policy intent execution) (observation : PaperOutcomeObservation)
    {fill : SimulatedFill} (hsymbol : fill.symbol = intent.entryOrder.symbol)
    (hquantity : fill.quantity = intent.entryOrder.quantity) (hside : fill.side = .buy)
    (hreason : fill.exitReason = none) (hmem : fill.session ∈ calendarSessions registration calendar)
    (hmatures : (horizonSessions registration calendar fill.session).length = registration.maxHoldingSessions)
    (hcovered : ∀ session ∈ horizonSessions registration calendar fill.session, ∃ found ∈ observations,
      found.marketSession = session ∧ found.knowledgeTime ≤ asOf ∧ ∃ bar, found.bar = some bar) :
    EndsAs (resolveExit .exact registration binding calendar policy observations asOf observation fill)
      ((evaluateHolding .exact intent (replayBars observations) calendar.sessions execution policy.slippageBps
        fill).map some) := by
  have hholding := registration.holding_pos
  have hdrop := drop_idxOf_sessionsFrom hmem
  have hheld : (calendar.sessions.drop (calendar.sessions.idxOf fill.session)).take
      (calendar.sessions.idxOf fill.session + intent.maxHoldingSessions - 1 + 1 -
        calendar.sessions.idxOf fill.session) = horizonSessions registration calendar fill.session := by
    rw [← hdrop, hterms.maxHoldingSessions]
    unfold horizonSessions
    congr 1
    omega
  have hmature : ¬calendar.sessions.length ≤
      calendar.sessions.idxOf fill.session + intent.maxHoldingSessions - 1 := by
    have hlength := congrArg List.length hheld
    rw [List.length_take, List.length_drop, hmatures, hterms.maxHoldingSessions] at hlength
    rw [hterms.maxHoldingSessions]
    omega
  have hne : horizonSessions registration calendar fill.session ≠ [] := List.ne_nil_of_mem (entry_mem_horizon hmem)
  have hlookup : ∀ session ∈ horizonSessions registration calendar fill.session, ∃ found,
      bySession ((availableAt asOf observations).filter (fill.session ≤ ·.marketSession)) session = some found ∧
        found.marketSession = session ∧ ∃ bar, found.bar = some bar ∧
          barOn (replayBars observations) session = some (simulationBar found bar) := by
    intro session hsession
    obtain ⟨found, hfound, rfl, hknown, bar, hbar⟩ := hcovered session hsession
    have hlater := (horizonSessions_bounds hmem hsession).1
    have havailable : found ∈ (availableAt asOf observations).filter (fill.session ≤ ·.marketSession) :=
      List.mem_filter.mpr ⟨mem_availableAt.mpr ⟨hfound, hknown⟩, decide_eq_true hlater⟩
    have hsub : (availableAt asOf observations).filter (fill.session ≤ ·.marketSession) ⊆ observations :=
      fun later hmem => (mem_availableAt.mp (List.mem_of_mem_filter hmem)).1
    exact ⟨found, bySession_of_mem hnodup hsub havailable, rfl, bar, hbar, barOn_replayBars hnodup hfound hbar⟩
  have hfull : ¬(horizonAt registration calendar observations asOf fill.session).length <
      (horizonSessions registration calendar fill.session).length := by
    unfold horizonAt
    rw [length_filterMap_of_some fun session hsession => (hlookup session hsession).imp fun found h => h.1]
    exact lt_irrefl _
  unfold resolveExit evaluateHolding
  dsimp only
  rw [if_neg (not_lt.mpr hmatures.ge), raiseIf_neg hmature, ok_bind, hheld,
    exitOrder_sameTerms hterms hsymbol hquantity]
  cases horder : protectiveExitOrder intent fill execution with
  | error e => exact .raised (protectiveExitOrder_error_ne horder)
  | ok order =>
    obtain ⟨ho, hq, hsession⟩ : order.symbol = fill.symbol ∧ order.quantity = fill.quantity ∧
        order.entrySession = fill.session := by
      unfold protectiveExitOrder ProtectiveExitOrder.create at horder
      split_ifs at horder
      obtain rfl := Except.ok.inj horder
      exact ⟨rfl, rfl, rfl⟩
    have hagrees : ExitAgrees .exact policy order (horizonAt registration calendar observations asOf fill.session)
        (exitScan .exact order (replayBars observations) policy.slippageBps
          (horizonSessions registration calendar fill.session)) := exitScan_agrees _ hne hlookup
    have hsells : ∀ exitFill, exitScan .exact order (replayBars observations) policy.slippageBps
        (horizonSessions registration calendar fill.session) = .ok (some exitFill) → SellsPosition order exitFill :=
      fun exitFill h => exitScan_sells h
    have hclosed : ∀ (reason : String) (exitFill : SimulatedFill) (found : PaperOutcomeObservation),
        SellsPosition order exitFill →
        EndsAs (replayResult registration binding calendar policy observations asOf .closed reason
          (some (paperFill fill observation)) (some (paperFill exitFill found)))
          ((EvaluatedTrade.create intent.intentId intent.isin fill exitFill).map some) := by
      intro reason exitFill found hsold
      obtain ⟨replay, hreplay, hstatus, -, hentry, hexit⟩ := replayResult_total registration binding
        calendar policy asOf hnodup reason
        (show ReplayFillsValid .closed (some (paperFill fill observation)) (some (paperFill exitFill found)) from
          ⟨Option.some_ne_none _, Option.some_ne_none _⟩)
      obtain ⟨trade, htrade, rfl, rfl⟩ := evaluatedTrade_create_total intent.intentId intent.isin hside ho hq hsession hsold
      rw [hreplay, htrade]
      refine .traded hstatus ⟨⟨_, hentry, rfl, rfl, ?_⟩, ⟨_, hexit, rfl, rfl, rfl⟩⟩
      exact congrArg (Option.map PaperOutcomeExitReason.ofExitReason) hreason
    have hlift : (liftValueError (.ok order) : Except PaperError ProtectiveExitOrder) = .ok order := rfl
    rw [hlift, ok_bind, ok_bind]
    generalize hscan : exitScan .exact order (replayBars observations) policy.slippageBps
      (horizonSessions registration calendar fill.session) = result at hagrees hsells
    cases hagrees with
    | raised herror hbar =>
      obtain ⟨bar, hbar⟩ := hbar
      rw [herror, error_bind, error_bind]
      exact .raised (simulateProtectiveExit_error_ne hbar)
    | protected_ hhit =>
      rw [hhit, ok_bind, ok_bind]
      exact hclosed _ _ _ (hsells _ rfl)
    | @matured last bar hnone hlast hbar =>
      rw [hnone, ok_bind]
      dsimp only
      rw [if_neg hfull, hlast]
      dsimp only
      unfold resolveTimeExit
      rw [hbar]
      dsimp only
      cases htime : simulateTimeExit .exact order (simulationBar last bar) policy.slippageBps with
      | error e => exact .raised (simulateTimeExit_error_ne htime)
      | ok exit =>
        cases exit with
        | none =>
          obtain ⟨replay, hreplay, hstatus, hcode, -⟩ := replayResult_total registration binding calendar policy
            asOf hnodup "HORIZON_EXIT_NOT_FILLABLE"
            (show ReplayFillsValid .blocked (some (paperFill fill observation)) none from trivial)
          have hlifted : (liftValueError (.ok none) : Except PaperError (Option SimulatedFill)) = .ok none := rfl
          rw [hlifted, ok_bind]
          dsimp only
          rw [hreplay]
          exact .unsold hstatus hcode
        | some exitFill => exact hclosed _ _ _ (hsells _ htime)

/-- What the replay and the backtest of a covered trade come to. -/
theorem replay_endsAs (hvalid : validateReplayInputs registration binding calendar observations asOf = .ok ())
    (hwindow : entrySessions registration calendar ≠ [])
    (hfront : (relevantAt registration observations asOf).map (·.marketSession) =
      (calendarSessions registration calendar).take (relevantAt registration observations asOf).length)
    (hterms : SameTerms registration binding policy intent execution)
    (hcovers : CoversHorizon registration calendar policy observations asOf intent entry) :
    EndsAs (replayPaperOutcome .exact registration binding calendar policy observations asOf)
      (evaluateIntent .exact intent (replayBars observations) calendar.sessions execution policy.slippageBps) := by
  have hnodup := (validateReplayInputs_ok hvalid).sessions_nodup
  obtain ⟨hscanned, hcovered, hmatures⟩ := hcovers
  have hsplit : (relevantAt registration observations asOf).map (·.marketSession) ++
      (calendarSessions registration calendar).drop (relevantAt registration observations asOf).length =
      calendarSessions registration calendar := by
    rw [hfront, List.take_append_drop]
  have hscan : entryScan .exact intent.entryOrder (replayBars observations) policy.slippageBps
      (calendarSessions registration calendar) = .ok entry := by
    rw [entryScan_sessionsFrom, hterms.firstEligibleSession, ← sessionsFrom_eq] at hscanned
    exact hscanned
  have hend : scanEnd intent.entryOrder entry ≤ horizonEnd registration calendar entry := by
    cases entry with
    | none => exact hterms.expirySession.le
    | some fill =>
      have hmem := (entryScan_session hscan).1
      exact (horizonSessions_bounds hmem (entry_mem_horizon hmem)).2
  have hknown : ∀ session ∈ calendarSessions registration calendar, session ≤ horizonEnd registration calendar entry →
      ∃ observation ∈ relevantAt registration observations asOf, observation.marketSession = session ∧
        ∃ bar ∈ observation.bar, session ≤ registration.expirySession → registration.entryLow ≤ bar.open_ := by
    intro session hsession hle
    obtain ⟨observation, hmem, rfl, htime, hbar⟩ := hcovered session hsession hle
    have hfirst := calendar.first_le_of_mem_sessionsFrom hsession
    exact ⟨observation, mem_relevantAt.mpr ⟨mem_availableAt.mpr ⟨hmem, htime⟩, hfirst⟩, rfl, hbar⟩
  have hhit := entryScan_hit registration policy
    (hterms.limitPrice.symm ▸ registration.low_le_high) (relevantAt registration observations asOf)
    ((calendarSessions registration calendar).drop (relevantAt registration observations asOf).length)
    (hsplit.symm ▸ calendar.sessionsFrom_increasing registration.firstSession)
    (by
      rw [hsplit, hterms.firstEligibleSession]
      exact fun session hsession => calendar.first_le_of_mem_sessionsFrom hsession)
    (fun observation hmem bar hbar => barOn_replayBars hnodup (relevantAt_subset hmem) hbar)
    (by
      rw [hsplit, hterms.expirySession]
      exact fun session hsession hle => hknown session hsession (hle.trans hend))
    (hsplit.symm ▸ hscan)
  rw [hterms.expirySession, ← eligibleAt_eq] at hhit
  unfold replayPaperOutcome evaluateIntent
  dsimp only
  rw [hvalid, ok_bind, raiseIf_neg hwindow, ok_bind, List.length_map, raiseIf_neg (not_not.mpr hfront), ok_bind,
    entryOrder_sameTerms hterms, ok_bind, hscanned, ok_bind]
  cases entry with
  | none =>
    have hall : ∀ session ∈ entrySessions registration calendar,
        session ∈ (availableAt asOf observations).map (·.marketSession) := by
      intro session hsession
      obtain ⟨hmem, hexpiry⟩ := List.mem_filter.mp hsession
      obtain ⟨observation, hrelevant, rfl, -⟩ := hknown session hmem (of_decide_eq_true hexpiry)
      exact List.mem_map_of_mem (mem_relevantAt.mp hrelevant).1
    obtain ⟨replay, hreplay, hstatus, -⟩ := replayResult_total registration binding calendar policy asOf hnodup
      "ENTRY_WINDOW_EXPIRED_UNFILLED" (show ReplayFillsValid .expired none none from ⟨rfl, rfl⟩)
    rw [hhit, ok_bind]
    dsimp only
    unfold resolveUnfilled
    rw [if_pos hall, hreplay]
    exact .unfilled hstatus
  | some fill =>
    obtain ⟨observation, -, -, hfound⟩ := hhit
    obtain ⟨hsymbol, hquantity, hside, hreason⟩ := entryScan_order hscan
    have hmem := (entryScan_session hscan).1
    have hheld : ∀ session ∈ horizonSessions registration calendar fill.session, ∃ found ∈ observations,
        found.marketSession = session ∧ found.knowledgeTime ≤ asOf ∧ ∃ bar, found.bar = some bar := by
      intro session hsession
      have hin : session ∈ calendarSessions registration calendar :=
        List.mem_of_mem_drop (List.mem_of_mem_take hsession)
      obtain ⟨found, hfound, hat, htime, bar, hbar, -⟩ :=
        hcovered session hin (horizonSessions_bounds hmem hsession).2
      exact ⟨found, hfound, hat, htime, bar, hbar⟩
    have hholding := holding_endsAs hnodup hterms observation hsymbol hquantity hside hreason hmem
      (hmatures fill rfl) hheld
    rw [hfound, ok_bind]
    dsimp only
    generalize evaluateHolding .exact intent (replayBars observations) calendar.sessions execution policy.slippageBps
      fill = result at hholding ⊢
    cases result with
    | error e => exact hholding
    | ok trade => exact hholding

theorem not_status {replay : PaperOutcomeReplay} {status status' : PaperOutcomeStatus} (h : replay.status = status)
    (hne : status ≠ status') : ¬∃ r, (.ok replay : Except PaperError PaperOutcomeReplay) = .ok r ∧ r.status = status' := by
  rintro ⟨r, hr, hstatus⟩
  obtain rfl := Except.ok.inj hr
  exact hne (h.symm.trans hstatus)

theorem sampleParticipation : (0 : ℚ) < 25 / 10000 ∧ (25 / 10000 : ℚ) ≤ 1 := by decide +kernel

theorem sampleUnstressed : ∀ stressed ∈ (none : Option ℚ), 0 < stressed ∧ 10 < stressed := by decide

theorem sampleVersion_ne : "daily-ohlcv-pessimistic/v1" ≠ "" := by decide

theorem sampleQuantity_pos : 0 < 10 := by decide

theorem sampleTick_pos : (0 : ℚ) < 1 / 20 := by decide +kernel

theorem sampleStop_pos : (0 : ℚ) < 95 := by decide +kernel

/-- The intent of the sample registration. -/
def sampleIntent : EvaluationTradeIntent where
  signalId := .digest 1
  universeSnapshotId := .digest 2
  isin := "INE009A01021"
  entryOrder := ⟨"INFY", 100, 101, 101, 10, 102, 1 / 20, 25 / 10000, by decide, by decide, sampleQuantity_pos,
    entryClose_pos, sampleTick_pos, by decide +kernel, sampleParticipation⟩
  stopPrice := 95
  targetPrice := 110
  maxHoldingSessions := 2
  stop_pos := sampleStop_pos
  target_pos := by decide +kernel
  stop_onTick := by decide +kernel
  target_onTick := by decide +kernel
  stop_lt := by decide +kernel
  lt_target := by decide +kernel
  holding_pos := sampleHolding_pos

def sampleExecution : DailyExecutionPolicy :=
  ⟨10, 25 / 10000, none, "daily-ohlcv-pessimistic/v1", sampleParticipation, sampleUnstressed, sampleVersion_ne⟩

def sampleObservations : List PaperOutcomeObservation :=
  [entryObservation, targetObservation (istInstant 102 1080) target_known]

end Equality

end IndiaSwing
