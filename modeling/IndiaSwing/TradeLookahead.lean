import IndiaSwing.TrialSlippage

namespace IndiaSwing

open ExceptGuards

section Agreement

variable {ctx : DecimalContext} {bars bars' : List SimulationBar} {sessions : List SessionDate}
  {first last session : SessionDate} {s : ℚ}

/-- Two bar tuples have the same bars on the sessions from `first` through `last`. -/
def BarsAgree (bars bars' : List SimulationBar) (first last : SessionDate) : Prop :=
  ∀ session, first ≤ session → session ≤ last → barOn bars session = barOn bars' session

/-- Tuples whose bars of those sessions are the same agree, whatever their other bars are. -/
theorem barsAgree_of_filter (h : bars.filter (fun bar => first ≤ bar.session && bar.session ≤ last) =
    bars'.filter fun bar => first ≤ bar.session && bar.session ≤ last) : BarsAgree bars bars' first last := by
  intro session hfirst hlast
  have hfound : ∀ bars : List SimulationBar, barOn bars session =
      barOn (bars.filter fun bar => first ≤ bar.session && bar.session ≤ last) session := by
    intro bars
    unfold barOn
    rw [← List.filter_reverse, List.find?_filter]
    congr 1
    funext bar
    by_cases hbar : bar.session = session
    · simp [hbar, hfirst, hlast]
    · simp [hbar]
  rw [hfound bars, h, ← hfound bars']

theorem barOn_session {bar : SimulationBar} (h : barOn bars session = some bar) : bar.session = session :=
  of_decide_eq_true (List.find?_some (p := fun bar : SimulationBar => decide (bar.session = session)) h)

/-- A fill of the entry scan is on a session of its window. -/
theorem entryScan_session {order : LimitEntryOrder} {fill : SimulatedFill}
    (h : entryScan ctx order bars s sessions = .ok (some fill)) :
    fill.session ∈ sessions ∧ order.firstEligibleSession ≤ fill.session ∧
      fill.session ≤ order.expirySession := by
  induction sessions with
  | nil => cases h
  | cons session rest ih =>
    have hlater : entryScan ctx order bars s rest = .ok (some fill) → fill.session ∈ session :: rest ∧
        order.firstEligibleSession ≤ fill.session ∧ fill.session ≤ order.expirySession := by
      intro hrest
      obtain ⟨hmem, hwindow⟩ := ih hrest
      exact ⟨List.mem_cons_of_mem _ hmem, hwindow⟩
    unfold entryScan at h
    split at h
    next => exact hlater h
    next =>
      split at h
      next => cases h
      next =>
        split at h
        next => cases h
        next bar hbar =>
          obtain ⟨result, hresult, h⟩ := bind_eq_ok.mp h
          cases result with
          | none => exact hlater h
          | some value =>
            obtain rfl := Option.some.inj (Except.ok.inj h)
            obtain ⟨hfirst, hexpiry, -, hfrom⟩ := simulateLimitEntry_some hresult
            rw [hfrom.session]
            exact ⟨barOn_session hbar ▸ List.mem_cons_self, hfirst, hexpiry⟩

/-- The last session an entry scan reads. -/
def scanEnd (order : LimitEntryOrder) : Option SimulatedFill → SessionDate
  | none => order.expirySession
  | some fill => fill.session

/-- The entry scan reads no bar after its fill, or after the expiry. -/
theorem entryScan_agree {order : LimitEntryOrder} {result : Option SimulatedFill}
    (hsorted : sessions.Pairwise (· < ·))
    (hagree : BarsAgree bars bars' order.firstEligibleSession (scanEnd order result))
    (h : entryScan ctx order bars s sessions = .ok result) : entryScan ctx order bars' s sessions = .ok result := by
  induction sessions with
  | nil => exact h
  | cons session rest ih =>
    have hsame : order.firstEligibleSession ≤ session → session ≤ scanEnd order result →
        barOn bars session = barOn bars' session := fun hfirst hlast => hagree session hfirst hlast
    have hrest := ih hsorted.of_cons
    unfold entryScan at h ⊢
    split at h
    next hearly => rw [if_pos hearly, hrest h]
    next hearly =>
      rw [if_neg hearly]
      split at h
      next hlate =>
        rw [if_pos hlate]
        exact h
      next hlate =>
        rw [if_neg hlate]
        split at h
        next => cases h
        next bar hbar =>
          obtain ⟨found, hfound, h⟩ := bind_eq_ok.mp h
          have hread : session ≤ scanEnd order result := by
            cases result with
            | none => exact not_lt.mp hlate
            | some fill =>
              cases found with
              | none =>
                have hmem := (entryScan_session h).1
                exact (List.rel_of_pairwise_cons hsorted hmem).le
              | some value =>
                obtain rfl := Option.some.inj (Except.ok.inj h)
                obtain ⟨-, -, -, hfrom⟩ := simulateLimitEntry_some hfound
                exact le_of_eq ((barOn_session hbar).symm.trans hfrom.session.symm)
          have hbar' : barOn bars' session = some bar := (hsame (not_lt.mp hearly) hread).symm.trans hbar
          simp only [hbar']
          rw [hfound, ok_bind]
          cases found with
          | none => exact hrest h
          | some value => exact h

/-- A fill of the exit scan is on one of its sessions. -/
theorem exitScan_session {order : ProtectiveExitOrder} {fill : SimulatedFill}
    (h : exitScan ctx order bars s sessions = .ok (some fill)) : fill.session ∈ sessions := by
  induction sessions with
  | nil => cases h
  | cons session rest ih =>
    unfold exitScan at h
    split at h
    next => cases h
    next bar hbar =>
      have hhere : bar.session = session := barOn_session hbar
      obtain ⟨result, hresult, h⟩ := bind_eq_ok.mp h
      cases result with
      | some value =>
        obtain rfl := Option.some.inj (Except.ok.inj h)
        obtain ⟨-, reason, -, hfrom⟩ := simulateProtectiveExit_some hresult
        exact hfrom.session.trans hhere ▸ List.mem_cons_self
      | none =>
        dsimp only at h
        split at h
        next =>
          obtain ⟨-, hfrom⟩ := simulateTimeExit_some h
          exact hfrom.session.trans hhere ▸ List.mem_cons_self
        next => exact List.mem_cons_of_mem _ (ih h)

/-- The exit scan reads no bar after its fill. -/
theorem exitScan_agree {order : ProtectiveExitOrder} {fill : SimulatedFill} (hsorted : sessions.Pairwise (· < ·))
    (hfirst : ∀ session ∈ sessions, first ≤ session) (hagree : BarsAgree bars bars' first fill.session)
    (h : exitScan ctx order bars s sessions = .ok (some fill)) :
    exitScan ctx order bars' s sessions = .ok (some fill) := by
  induction sessions with
  | nil => exact h
  | cons session rest ih =>
    have hread : session ≤ fill.session := by
      rcases List.mem_cons.mp (exitScan_session h) with heq | hmem
      · exact heq.ge
      · exact (List.rel_of_pairwise_cons hsorted hmem).le
    have hsame := hagree session (hfirst session List.mem_cons_self) hread
    have hrest := ih hsorted.of_cons fun session hmem => hfirst session (List.mem_cons_of_mem _ hmem)
    unfold exitScan at h ⊢
    split at h
    next => cases h
    next bar hbar =>
      have hbar' : barOn bars' session = some bar := hsame.symm.trans hbar
      simp only [hbar']
      obtain ⟨found, hfound, h⟩ := bind_eq_ok.mp h
      rw [hfound, ok_bind]
      cases found with
      | some value => exact h
      | none =>
        dsimp only at h ⊢
        split at h
        next hlast =>
          rw [if_pos hlast]
          exact h
        next hlast =>
          rw [if_neg hlast]
          exact hrest h

end Agreement

section Lookahead

variable {ctx : DecimalContext} {intent : EvaluationTradeIntent} {bars bars' : List SimulationBar}
  {sessions : List SessionDate} {policy : DailyExecutionPolicy} {s : ℚ}

/-- The last session whose bar may count: the exit, or the expiry when there is no trade. -/
def lastRead (intent : EvaluationTradeIntent) : Option EvaluatedTrade → SessionDate
  | none => intent.entryOrder.expirySession
  | some trade => trade.exitFill.session

theorem sorted_idxOf_le (hsorted : sessions.Pairwise (· < ·)) {first session : SessionDate}
    (hmem : session ∈ sessions.drop (sessions.idxOf first)) (hfirst : first ∈ sessions) : first ≤ session := by
  have hlt := List.idxOf_lt_length_of_mem hfirst
  rw [List.drop_eq_getElem_cons hlt, List.getElem_idxOf hlt] at hmem
  rcases List.mem_cons.mp hmem with rfl | hmem
  · exact le_rfl
  · have hdrop := hsorted.sublist (List.drop_sublist (sessions.idxOf first) sessions)
    rw [List.drop_eq_getElem_cons hlt, List.getElem_idxOf hlt] at hdrop
    exact (List.rel_of_pairwise_cons hdrop hmem).le

/-- An evaluation that returns is the same on every bar tuple that agrees with its own from the first eligible
session to the exit, or to the expiry when there is no trade. -/
theorem evaluateIntent_no_lookahead (hcalendar : sessions.Pairwise (· < ·)) {result : Option EvaluatedTrade}
    (h : evaluateIntent ctx intent bars sessions policy s = .ok result)
    (hagree : BarsAgree bars bars' intent.entryOrder.firstEligibleSession (lastRead intent result)) :
    evaluateIntent ctx intent bars' sessions policy s = .ok result := by
  cases result with
  | none => exact evaluateIntent_eq_none.mpr (entryScan_agree hcalendar hagree (evaluateIntent_eq_none.mp h))
  | some trade =>
    obtain ⟨entryFill, hentry, hholding⟩ := evaluateIntent_eq_some h
    obtain ⟨order, horder, hhorizon, hexit, rfl, -, -⟩ := evaluateHolding_ok hholding
    obtain ⟨hmem, hfirst, -⟩ := entryScan_session hentry
    have hagreeEntry : BarsAgree bars bars' intent.entryOrder.firstEligibleSession trade.entryFill.session :=
      fun session hsession hlast => hagree session hsession (hlast.trans trade.session_le)
    have hentry' := entryScan_agree hcalendar hagreeEntry hentry
    have hheld := hcalendar.sublist ((List.take_sublist
      (sessions.idxOf trade.entryFill.session + intent.maxHoldingSessions - 1 + 1 -
        sessions.idxOf trade.entryFill.session) _).trans
      (List.drop_sublist (sessions.idxOf trade.entryFill.session) sessions))
    have hexit' := exitScan_agree hheld
      (fun session hsession => hfirst.trans (sorted_idxOf_le hcalendar (List.mem_of_mem_take hsession) hmem))
      hagree hexit
    have hholding' : evaluateHolding ctx intent bars' sessions policy s trade.entryFill = .ok trade := by
      unfold evaluateHolding at hholding ⊢
      dsimp only at hholding ⊢
      rw [raiseIf_neg (not_le.mpr hhorizon), ok_bind, horder, ok_bind, hexit, ok_bind] at hholding
      rw [raiseIf_neg (not_le.mpr hhorizon), ok_bind, horder, ok_bind, hexit', ok_bind]
      exact hholding
    rw [evaluateIntent, hentry', ok_bind]
    dsimp only
    rw [hholding']
    rfl

/-- Bars of the signal session and after the exit change nothing. -/
theorem evaluateIntent_no_lookahead_plain :
    ∃ result, evaluateIntent .exact plainIntent [plainBar 2, plainBar 3] [1, 2, 3, 4] plainPolicy 10 = .ok result ∧
      evaluateIntent .exact plainIntent [plainBar 1, plainBar 2, plainBar 3, plainBar 4] [1, 2, 3, 4] plainPolicy 10 =
        .ok result := by
  have hplain : (evaluateIntent .exact plainIntent [plainBar 2, plainBar 3] [1, 2, 3, 4] plainPolicy
      10).toOption.any (fun result => lastRead plainIntent result = 3) = true := by decide +kernel
  obtain ⟨result, hresult, hlast⟩ := exists_ok_of_any hplain
  have hagree : BarsAgree [plainBar 2, plainBar 3] [plainBar 1, plainBar 2, plainBar 3, plainBar 4] 2
      (lastRead plainIntent result) := by
    rw [of_decide_eq_true hlast]
    exact barsAgree_of_filter (by decide +kernel)
  exact ⟨result, hresult, evaluateIntent_no_lookahead (by decide) hresult hagree⟩

end Lookahead

end IndiaSwing
