import IndiaSwing.Lib.ClosedIntervals
import IndiaSwing.PilotWindows
import Mathlib.Algebra.Order.Ring.Int
import Mathlib.Tactic.Linarith
import Mathlib.Tactic.Ring

namespace IndiaSwing

open CivilTime ExceptGuards ClosedIntervals

section Selection

/-- `QualityPilotDueWindowSelection`: only a due selection carries a session and a kind. -/
inductive DueWindowSelection
  | due (marketSession : CivilDate) (windowKind : ScheduledWindowKind)
  | notScheduled
  deriving DecidableEq

def opensAt (w : ObservationWindowSpec) : ℕ := w.1.opensAt.microseconds

def closesAt (w : ObservationWindowSpec) : ℕ := w.1.closesAt.microseconds

/-- `select_due_quality_pilot_window` -/
def selectDueQualityPilotWindow (r : RunbookFields) (observedAt : Instant) : Except String DueWindowSelection :=
  match r.windows.filter fun w => opensAt w ≤ observedAt.microseconds ∧ observedAt.microseconds ≤ closesAt w with
  | [] => .ok .notScheduled
  | [window] => .ok (.due window.1.marketSession window.1.windowKind)
  | _ => .error "arming due-window selection found an impossible ambiguous window overlap"

/-- `quality_pilot_window_completion_probe_targets` -/
def completionProbeTargets (r : RunbookFields) (observedAt : Instant) : Except String (List ObservationWindowSpec) := do
  match ← selectDueQualityPilotWindow r observedAt with
  | .due marketSession windowKind =>
    match r.windows.findIdx? fun w => w.1.marketSession = marketSession ∧ w.1.windowKind = windowKind with
    | none => .error "StopIteration"
    | some dueIndex => return r.windows.take (dueIndex + 1)
  | .notScheduled =>
    match (indices (fun w => closesAt w ≤ observedAt.microseconds) r.windows).max? with
    | none => return []
    | some last => return r.windows.take (last + 1)

end Selection

section Posture

inductive CompletionProbeResult
  | complete | incomplete
  deriving DecidableEq, Repr

structure CompletionEvidenceFields where
  windowId : String
  result : CompletionProbeResult
  deriving DecidableEq, Repr

/-- `QualityPilotWindowCompletionEvidence.__post_init__` -/
def validateEvidence (e : CompletionEvidenceFields) : Except String Unit :=
  raiseIf (¬isSha256 e.windowId) "completion evidence window id is invalid"

abbrev WindowCompletionEvidence := {e : CompletionEvidenceFields // validateEvidence e = .ok ()}

/-- `QualityPilotOrderedCompletionProof.__post_init__` -/
def validateProof (entries : List WindowCompletionEvidence) : Except String Unit :=
  raiseIf (¬(entries.map (·.1.windowId)).Nodup) "completion proof contains a duplicate window id"

abbrev OrderedCompletionProof := {entries : List WindowCompletionEvidence // validateProof entries = .ok ()}

/-- `QualityPilotWindowPostureAssessment`: every posture but one carries a session and a kind. -/
inductive WindowPostureAssessment
  | due (marketSession : CivilDate) (windowKind : ScheduledWindowKind)
  | notScheduled
  | alreadyComplete (marketSession : CivilDate) (windowKind : ScheduledWindowKind)
  | missedWindowBlocked (marketSession : CivilDate) (windowKind : ScheduledWindowKind)
  | pilotComplete (marketSession : CivilDate) (windowKind : ScheduledWindowKind)
  deriving DecidableEq

variable (ctx : IdentityContext)

/-- The posture of a proof over the targets, the last of which is the boundary. -/
def postureOf (r : RunbookFields) (selection : DueWindowSelection) (boundary : ObservationWindowSpec)
    (entries : List WindowCompletionEvidence) : WindowPostureAssessment :=
  match selection with
  | .due marketSession windowKind =>
    if ∃ e ∈ entries.dropLast, e.1.result = .incomplete then
      .missedWindowBlocked boundary.1.marketSession boundary.1.windowKind
    else if ∃ e ∈ entries.getLast?, e.1.result = .incomplete then .due marketSession windowKind
    else .alreadyComplete boundary.1.marketSession boundary.1.windowKind
  | .notScheduled =>
    if ∃ e ∈ entries, e.1.result = .incomplete then
      .missedWindowBlocked boundary.1.marketSession boundary.1.windowKind
    else if ∃ final ∈ r.windows.getLast?, windowId ctx boundary.1 = windowId ctx final.1 then
      .pilotComplete boundary.1.marketSession boundary.1.windowKind
    else .notScheduled

/-- `assess_quality_pilot_window_posture` -/
def assessWindowPosture (r : RunbookFields) (observedAt : Instant) (proof : Option OrderedCompletionProof) :
    Except String WindowPostureAssessment := do
  let targets ← completionProbeTargets r observedAt
  match targets.getLast? with
  | none => do
    raiseIf (∃ p ∈ proof, p.1 ≠ [])
      "window posture assessment received completion evidence with no probe targets"
    return .notScheduled
  | some boundary =>
    match proof with
    | none => .error "window posture assessment requires an exact ordered completion proof"
    | some proof => do
      raiseIf (proof.1.map (·.1.windowId) ≠ targets.map fun w => windowId ctx w.1)
        "window posture assessment completion proof disagrees with the exact required target windows"
      let selection ← selectDueQualityPilotWindow r observedAt
      return postureOf ctx r selection boundary proof.1

end Posture

end IndiaSwing

namespace IndiaSwing

open CivilTime ExceptGuards ClosedIntervals

section Schedule

variable {ctx : IdentityContext} {c : CampaignFields} {r : RunbookFields} {w w' : WindowFields}

/-- The times of day that the schedule gives to a kind. -/
def gateOpens : ScheduledWindowKind → ℕ
  | .catalogPreopen => clockTime 8 45
  | .quote0920 => clockTime 9 20
  | .quoteClose => clockTime 15 40
  | .ohlcvClose => clockTime 16 15

def gateCloses : ScheduledWindowKind → ℕ
  | .catalogPreopen => clockTime 9 0
  | .quote0920 => clockTime 9 25
  | .quoteClose => clockTime 16 0
  | .ohlcvClose => clockTime 18 0

/-- A window in the schedule, on the Indian clock: the day of its session and the times of its gate. -/
structure InGate (w : WindowFields) : Prop where
  opens : ∃ time, (w.opensAt.microseconds : ℤ) + istOffset = (w.marketSession.ordinal - 1) * microsecondsPerDay + time ∧
    (gateOpens w.windowKind : ℤ) ≤ time
  closes : ∃ time, (w.closesAt.microseconds : ℤ) + istOffset = (w.marketSession.ordinal - 1) * microsecondsPerDay + time ∧
    time ≤ (gateCloses w.windowKind : ℤ)

theorem indiaTime_eq {t u : Instant} (h : indiaTime t = some u) :
    (u.microseconds : ℤ) = t.microseconds + istOffset := by
  unfold indiaTime Instant.shift at h
  split at h
  next hrange =>
    obtain rfl := Option.some.inj h
    exact Int.toNat_of_nonneg hrange.1
  next => cases h

theorem microseconds_eq (u : Instant) :
    (u.microseconds : ℤ) = (u.date.ordinal - 1) * microsecondsPerDay + u.timeOfDay := by
  have hsplit := Nat.div_add_mod u.microseconds microsecondsPerDay
  have hday : ((u.date.ordinal : ℕ) : ℤ) - 1 = (u.microseconds / microsecondsPerDay : ℕ) := by
    unfold Instant.date
    push_cast
    ring
  have htime : u.timeOfDay = u.microseconds % microsecondsPerDay := rfl
  rw [hday, htime]
  have hcast : ((microsecondsPerDay * (u.microseconds / microsecondsPerDay) +
      u.microseconds % microsecondsPerDay : ℕ) : ℤ) = u.microseconds := by rw [hsplit]
  push_cast at hcast ⊢
  linarith

/-- The gate of a kind, over times that are variables: at the times of a window the kernel would compute them. -/
theorem gate_of_check {kind : ScheduledWindowKind} {opens closes : ℕ}
    (h : (decide (opens < closes) &&
      match kind with
      | .catalogPreopen => decide (clockTime 8 45 ≤ opens) && decide (closes ≤ clockTime 9 0)
      | .quote0920 => decide (opens = clockTime 9 20) && decide (closes ≤ clockTime 9 25)
      | .quoteClose => decide (clockTime 15 40 ≤ opens) && decide (closes ≤ clockTime 16 0)
      | .ohlcvClose => decide (clockTime 16 15 ≤ opens) && decide (closes ≤ clockTime 18 0)) = true) :
    gateOpens kind ≤ opens ∧ closes ≤ gateCloses kind := by
  obtain ⟨-, hkind⟩ := Bool.and_eq_true_iff.mp h
  cases kind <;> obtain ⟨hfirst, hlast⟩ := Bool.and_eq_true_iff.mp hkind
  case quote0920 => exact ⟨(of_decide_eq_true hfirst).ge, of_decide_eq_true hlast⟩
  all_goals exact ⟨of_decide_eq_true hfirst, of_decide_eq_true hlast⟩

theorem gate_times {w : WindowFields} {opens closes : Instant} (hopens : indiaTime w.opensAt = some opens)
    (hcloses : indiaTime w.closesAt = some closes) (h : isWindowInsideAuthorizedSchedule w = true) :
    gateOpens w.windowKind ≤ opens.timeOfDay ∧ closes.timeOfDay ≤ gateCloses w.windowKind := by
  have hgate : isWindowInsideAuthorizedSchedule = isWindowInsideAuthorizedSchedule := rfl
  conv_rhs at hgate => delta isWindowInsideAuthorizedSchedule
  rw [hgate] at h
  beta_reduce at h
  rw [hopens, hcloses] at h
  exact gate_of_check h

theorem inGate (w : ObservationWindowSpec) (h : isWindowInsideAuthorizedSchedule w.1 = true) : InGate w.1 := by
  have hvalid := w.2
  unfold validateWindow at hvalid
  simp only [raiseIf_bind_eq_ok, raiseIf_eq_ok, not_not] at hvalid
  obtain ⟨-, -, -, hopenDate, hcloseDate, -⟩ := hvalid
  obtain ⟨opens, hopens, hopenDay⟩ := Option.map_eq_some_iff.mp hopenDate
  obtain ⟨closes, hcloses, hcloseDay⟩ := Option.map_eq_some_iff.mp hcloseDate
  obtain ⟨hafter, hbefore⟩ := gate_times hopens hcloses h
  constructor
  · refine ⟨opens.timeOfDay, ?_, Int.ofNat_le.mpr hafter⟩
    rw [← indiaTime_eq hopens, ← hopenDay]
    exact microseconds_eq opens
  · refine ⟨closes.timeOfDay, ?_, Int.ofNat_le.mpr hbefore⟩
    rw [← indiaTime_eq hcloses, ← hcloseDay]
    exact microseconds_eq closes

/-- Windows in their schedule lie apart when their sessions, or in one session their kinds, are in order. -/
theorem closes_lt_opens (h : InGate w) (h' : InGate w')
    (horder : w.marketSession.ordinal < w'.marketSession.ordinal ∨
      (w.marketSession.ordinal = w'.marketSession.ordinal ∧ gateCloses w.windowKind < gateOpens w'.windowKind)) :
    w.closesAt.microseconds < w'.opensAt.microseconds := by
  obtain ⟨time, hclose, hbefore⟩ := h.closes
  obtain ⟨time', hopen, hafter⟩ := h'.opens
  have hgate : ∀ kind, gateCloses kind < microsecondsPerDay := by
    intro kind
    cases kind <;> decide
  have hday := hgate w.windowKind
  have hone : (0 : ℤ) ≤ gateOpens w'.windowKind := Int.natCast_nonneg _
  rcases horder with hlt | ⟨heq, hkind⟩
  · have hstep : (w.marketSession.ordinal : ℤ) * microsecondsPerDay ≤
        (w'.marketSession.ordinal - 1) * microsecondsPerDay := by
      apply mul_le_mul_of_nonneg_right
      · have hcast : (w.marketSession.ordinal : ℤ) < w'.marketSession.ordinal := by exact_mod_cast hlt
        omega
      · exact Int.natCast_nonneg _
    have hexpand : ((w.marketSession.ordinal : ℤ) - 1) * microsecondsPerDay =
        w.marketSession.ordinal * microsecondsPerDay - microsecondsPerDay := by ring
    omega
  · rw [heq] at hclose
    omega

end Schedule

section Runbook

variable {ctx : IdentityContext} {c : CampaignFields}

/-- What the checks of a runbook's windows found. -/
theorem validateRunbookWindows_ok {index : ℕ} {seen : List String} {windows : List ObservationWindowSpec}
    (h : validateRunbookWindows ctx c index seen windows = .ok ()) :
    (∀ k, ∀ window ∈ windows[k]?, InPlace c (index + k) window.1) ∧
      (windows.map fun window => windowId ctx window.1).Nodup ∧ ∀ window ∈ windows, windowId ctx window.1 ∉ seen := by
  induction windows generalizing index seen with
  | nil => simp
  | cons window rest ih =>
    unfold validateRunbookWindows at h
    simp only [raiseIf_bind_eq_ok, not_not] at h
    obtain ⟨hsession, hkind, hpilot, hprotocol, hscheduled, hnew, hrest⟩ := h
    obtain ⟨hplaces, hnodup, hunseen⟩ := ih hrest
    refine ⟨fun k => ?_, ?_, ?_⟩
    · cases k with
      | zero =>
        intro other hother
        obtain rfl : window = other := by simpa using hother
        exact ⟨hsession, hkind, hpilot, hprotocol, hscheduled⟩
      | succ k =>
        intro other hother
        rw [List.getElem?_cons_succ] at hother
        have hplace := hplaces k other hother
        rwa [show index + 1 + k = index + (k + 1) by omega] at hplace
    · rw [List.map_cons, List.nodup_cons]
      refine ⟨fun hmem => ?_, hnodup⟩
      obtain ⟨other, hother, heq⟩ := List.mem_map.mp hmem
      apply hunseen other hother
      rw [heq]
      exact List.mem_cons_self
    · intro other hother
      rcases List.mem_cons.mp hother with rfl | hother
      · exact hnew
      · exact fun hmem => hunseen other hother (List.mem_cons_of_mem _ hmem)

/-- What a valid runbook's windows are. -/
structure RunbookWindows (ctx : IdentityContext) (r : RunbookFields) : Prop where
  inPlace : ∀ k, ∀ window ∈ r.windows[k]?, InPlace r.campaign.1 k window.1
  ids : (r.windows.map fun window => windowId ctx window.1).Nodup
  count : r.windows.length = 80
  sessions : (r.campaign.1.confirmedSessions.map (·.ordinal)).Pairwise (· < ·)

theorem runbookWindows (r : QualityPilotInvocationRunbook ctx) : RunbookWindows ctx r.1 := by
  have h := r.2
  unfold validateRunbook at h
  simp only [raiseIf_bind_eq_ok, not_not] at h
  obtain ⟨-, -, hcount, hwindows⟩ := h
  obtain ⟨hplaces, hnodup, -⟩ := validateRunbookWindows_ok hwindows
  have hcampaign := r.1.campaign.2
  unfold validateCampaign at hcampaign
  simp only [raiseIf_bind_eq_ok, not_or, not_not] at hcampaign
  refine ⟨fun k window hmem => ?_, hnodup, hcount, hcampaign.2.2.1.2⟩
  have hplace := hplaces k window hmem
  rwa [Nat.zero_add] at hplace

variable {r : RunbookFields}

/-- The place of a window tells its session's ordinal. -/
theorem InPlace.ordinal {w : WindowFields} {k : ℕ} (h : InPlace c k w) :
    (c.confirmedSessions.map (·.ordinal))[k / 4]? = some w.marketSession.ordinal := by
  rw [List.getElem?_map, ← h.session]
  rfl

theorem ordinal_lt {sessions : List ℕ} (h : sessions.Pairwise (· < ·)) {i j a b : ℕ} (hij : i < j)
    (ha : sessions[i]? = some a) (hb : sessions[j]? = some b) : a < b := by
  obtain ⟨hi, rfl⟩ := List.getElem?_eq_some_iff.mp ha
  obtain ⟨hj, rfl⟩ := List.getElem?_eq_some_iff.mp hb
  exact List.pairwise_iff_getElem.mp h i j hi hj hij

/-- A later kind of the order opens after an earlier one has closed. -/
theorem gate_lt {i j : ℕ} (hij : i < j) {kind kind' : ScheduledWindowKind}
    (hkind : some kind = ScheduledWindowKind.order[i]?) (hkind' : some kind' = ScheduledWindowKind.order[j]?) :
    gateCloses kind < gateOpens kind' := by
  have hj : j < 4 := by
    obtain ⟨hj, -⟩ := List.getElem?_eq_some_iff.mp hkind'.symm
    exact hj
  have hall : ∀ i < 4, ∀ j < 4, i < j → ∀ kind ∈ ScheduledWindowKind.order[i]?,
      ∀ kind' ∈ ScheduledWindowKind.order[j]?, gateCloses kind < gateOpens kind' := by decide
  exact hall i (by omega) j hj hij kind hkind.symm kind' hkind'.symm

/-- The windows of a valid runbook lie apart, in their order. -/
theorem RunbookWindows.apart (h : RunbookWindows ctx r) : Apart opensAt closesAt r.windows := by
  have hgate : ∀ k, ∀ window : ObservationWindowSpec, window ∈ r.windows[k]? → InGate window.1 := fun k window hmem =>
    inGate window (h.inPlace k window hmem).scheduled
  constructor
  · intro window hmem
    have hvalid := window.2
    unfold validateWindow at hvalid
    simp only [raiseIf_bind_eq_ok, not_lt] at hvalid
    exact hvalid.2.2.1
  · rw [List.pairwise_iff_getElem]
    intro i j hi hj hij
    have hmem := List.getElem?_eq_getElem hi
    have hmem' := List.getElem?_eq_getElem hj
    have hplace := h.inPlace i _ hmem
    have hplace' := h.inPlace j _ hmem'
    apply closes_lt_opens (hgate i _ hmem) (hgate j _ hmem')
    rcases Nat.lt_or_ge (i / 4) (j / 4) with hlt | hge
    · exact .inl (ordinal_lt h.sessions hlt hplace.ordinal hplace'.ordinal)
    · right
      have hsame : i / 4 = j / 4 := by omega
      have hordinal := hplace.ordinal
      rw [hsame, hplace'.ordinal] at hordinal
      exact ⟨(Option.some.inj hordinal).symm, gate_lt (by omega) hplace.kind hplace'.kind⟩

/-- A session and a kind stand in one place. -/
theorem RunbookWindows.unique (h : RunbookWindows ctx r) {i j : ℕ} {w w' : ObservationWindowSpec}
    (hw : r.windows[i]? = some w) (hw' : r.windows[j]? = some w')
    (hsession : w.1.marketSession = w'.1.marketSession) (hkind : w.1.windowKind = w'.1.windowKind) : i = j := by
  have hplace := h.inPlace i w hw
  have hplace' := h.inPlace j w' hw'
  have hordinal := hplace.ordinal
  have hordinal' := hplace'.ordinal
  rw [hsession] at hordinal
  have hday : i / 4 = j / 4 := by
    by_contra hne
    rcases Nat.lt_or_gt_of_ne hne with hlt | hgt
    · exact lt_irrefl _ (ordinal_lt h.sessions hlt hordinal hordinal')
    · exact lt_irrefl _ (ordinal_lt h.sessions hgt hordinal' hordinal)
  have hlane : i % 4 = j % 4 := by
    have hall : ∀ i < 4, ∀ j < 4, ScheduledWindowKind.order[i]? = ScheduledWindowKind.order[j]? → i = j := by decide
    apply hall _ (Nat.mod_lt _ (by decide)) _ (Nat.mod_lt _ (by decide))
    rw [← hplace.kind, ← hplace'.kind, hkind]
  omega

end Runbook

end IndiaSwing
