import IndiaSwing.BackfillRunner

namespace IndiaSwing

open ExceptGuards KeySort

namespace Backfill

variable {hex : ContentId → String} (runner : Runner) (plan : BackfillPlan hex)

section Invariants

/-- A run of this connector can use the snapshot for the request of an id. -/
def StoredSnapshot.UsableFor (s : StoredSnapshot) (requestId : ContentId) : Prop :=
  s.selectionKey = requestId ∧ s.payload.hasVersion runner.providerVersion = true

/-- One snapshot at most for a request of the plan, and of that request. -/
structure SnapshotsOk (snapshots : List StoredSnapshot) : Prop where
  ids : (snapshots.map (·.snapshotId)).Nodup
  lineage : ∀ r ∈ plan.1.requests, ∀ s ∈ snapshots, s.UsableFor runner r.requestId →
    checkMatching runner r.requestId s runner.providerVersion = .ok ()
  once : ∀ r ∈ plan.1.requests, ∀ s ∈ snapshots, ∀ t ∈ snapshots, s.UsableFor runner r.requestId →
    t.UsableFor runner r.requestId → s = t

/-- One gap at most for a request, in agreement with the plan. -/
structure GapsOk (gaps : List GapEvidence) (clock : Instant) : Prop where
  lineage : ∀ e ∈ gaps, checkGapLineage runner plan e clock = .ok ()
  once : (gaps.map (·.requestId)).Nodup

structure ProgressOk (snapshots : List StoredSnapshot) (clock : Instant) (p : Progress) : Prop where
  planId : p.planId = plan.1.planId
  provider : p.provider = plan.1.provider
  version : p.connectorVersion = runner.providerVersion
  requests : ∀ id ∈ p.requestIds, id ∈ plan.1.requests.map (·.requestId)
  once : p.requestIds.Nodup
  snapshots : ∀ c ∈ p.completions, ∃ s ∈ snapshots, s.snapshotId = c.snapshotId ∧
    s.UsableFor runner c.requestId ∧ s.observedAt ≤ clock
  updated : p.updatedAt ≤ clock

/-- A stored gap says that the provider refused the request. -/
def Rejected (gaps : List GapEvidence) (request : DailyRequest) : Prop :=
  ∃ e ∈ gaps, e.requestId = request.requestId ∧ e.classification = .providerRequestRejection

/-- A run is done with a request: it is complete or, with an option, has a stored gap. -/
def ActiveRun.Passed (a : ActiveRun) (gaps : List GapEvidence) (request : DailyRequest) : Prop :=
  request.requestId ∈ a.progress.requestIds ∨
    (a.call.quarantineEnabled = true ∧ request.requestId ∈ gaps.map (·.requestId))

/-- The requests before those that remain, the last of them refused one after the other. -/
structure ActiveRun.At (a : ActiveRun) (gaps : List GapEvidence) (earlier recent : List DailyRequest) : Prop where
  split : plan.1.requests = earlier ++ recent ++ a.remaining
  passed : ∀ r ∈ earlier ++ recent, a.Passed gaps r
  count : recent.length = a.consecutiveRejections
  rejected : ∀ r ∈ recent, Rejected gaps r

/-- What a run between two writes knows of the stores. -/
structure ActiveOk (snapshots : List StoredSnapshot) (gaps : List GapEvidence) (progress : Option Progress)
    (a : ActiveRun) : Prop where
  call : checkCall runner plan a.call = .ok ()
  progress : progress = some a.progress
  position : ∃ earlier recent, a.At plan gaps earlier recent
  noGaps : a.call.quarantineEnabled = false → a.gaps = []
  loaded : ∀ e ∈ a.gaps, e ∈ gaps
  open_gaps : a.call.quarantineEnabled = true → ∀ e ∈ gaps, e.requestId ∈ a.remaining.map (·.requestId) → e ∈ a.gaps
  pending : ∀ request stored recovered, a.pending = some (request, stored, recovered) →
    a.remaining.head? = some request ∧ request.requestId ∉ a.progress.requestIds ∧ stored ∈ snapshots ∧
      stored.UsableFor runner request.requestId ∧
      (a.call.quarantineEnabled = true → request.requestId ∉ gaps.map (·.requestId))

/-- The invariant of the stores and the run. -/
structure SystemOk (s : System) : Prop where
  snapshots : SnapshotsOk runner plan s.snapshots
  gaps : GapsOk runner plan s.gaps s.clock
  progress : ∀ p, s.progress = some p → ProgressOk runner plan s.snapshots s.clock p
  active : ∀ a, s.active = some a → ActiveOk runner plan s.snapshots s.gaps s.progress a

variable {runner plan} {s : System} {a : ActiveRun}

theorem checkGapLineage_mono {e : GapEvidence} {clock later : Instant} (hle : clock ≤ later)
    (h : checkGapLineage runner plan e clock = .ok ()) : checkGapLineage runner plan e later = .ok () := by
  unfold checkGapLineage at h ⊢
  split at h
  · cases h
  · have h' := raiseIf_eq_ok.mp h
    push Not at h'
    refine raiseIf_neg ?_
    push Not
    obtain ⟨h₁, h₂, h₃, h₄, h₅, h₆, h₇, h₈, h₉, hobserved⟩ := h'
    exact ⟨h₁, h₂, h₃, h₄, h₅, h₆, h₇, h₈, h₉, hobserved.trans hle⟩

theorem GapsOk.mono {gaps : List GapEvidence} {clock later : Instant} (h : GapsOk runner plan gaps clock)
    (hle : clock ≤ later) : GapsOk runner plan gaps later :=
  ⟨fun e he => checkGapLineage_mono hle (h.lineage e he), h.once⟩

theorem ProgressOk.mono {snapshots more : List StoredSnapshot} {clock later : Instant} {p : Progress}
    (h : ProgressOk runner plan snapshots clock p) (hsub : snapshots ⊆ more) (hle : clock ≤ later) :
    ProgressOk runner plan more later p := by
  refine ⟨h.planId, h.provider, h.version, h.requests, h.once, fun c hc => ?_, h.updated.trans hle⟩
  obtain ⟨s, hs, hid, huse, hobserved⟩ := h.snapshots c hc
  exact ⟨s, hsub hs, hid, huse, hobserved.trans hle⟩

theorem SystemOk.wait (h : SystemOk runner plan s) (delay : ℕ) :
    SystemOk runner plan { s with clock := s.clock + delay } := by
  have hle : s.clock ≤ s.clock + delay := Int.le_add_of_nonneg_right (Int.natCast_nonneg delay)
  exact ⟨h.snapshots, h.gaps.mono hle, fun p hp => (h.progress p hp).mono (List.Subset.refl _) hle, h.active⟩

theorem SystemOk.stop (h : SystemOk runner plan s) (outcome : Option Outcome) :
    SystemOk runner plan { s with active := none, outcome := outcome } :=
  ⟨h.snapshots, h.gaps, h.progress, fun _ ha => nomatch ha⟩

theorem SystemOk.goOn (h : SystemOk runner plan s)
    (ha : ActiveOk runner plan s.snapshots s.gaps s.progress a) : SystemOk runner plan (s.goOn a) := by
  refine ⟨h.snapshots, h.gaps, h.progress, fun b hb => ?_⟩
  obtain rfl := Option.some.inj hb
  exact ha

end Invariants

section Start

variable {runner plan} {s : System} {call : RunCall} {reading : Instant}

theorem getSnapshot_of_mem {snapshots : List StoredSnapshot} (hids : (snapshots.map (·.snapshotId)).Nodup)
    {stored : StoredSnapshot} (hmem : stored ∈ snapshots) :
    getSnapshot snapshots stored.snapshotId = some stored := by
  have hfilter : snapshots.filter (·.snapshotId = stored.snapshotId) = [stored] := by
    induction snapshots with
    | nil => cases hmem
    | cons first rest ih =>
      obtain ⟨hfirst, hrest⟩ := List.nodup_cons.mp hids
      rcases List.mem_cons.mp hmem with rfl | hmem
      · have hnone : rest.filter (fun t => decide (t.snapshotId = stored.snapshotId)) = [] := by
          rw [List.filter_eq_nil_iff]
          intro t ht heq
          exact hfirst (List.mem_map.mpr ⟨t, ht, of_decide_eq_true heq⟩)
        rw [List.filter_cons, if_pos (decide_eq_true rfl), hnone]
      · have hne : first.snapshotId ≠ stored.snapshotId := by
          intro heq
          exact hfirst (List.mem_map.mpr ⟨stored, hmem, heq.symm⟩)
        rw [List.filter_cons, if_neg (by simpa using hne), ih hrest hmem]
  unfold getSnapshot
  rw [hfilter]

/-- Gaps that agree with the plan, one for a request, are loaded unless an option is missing. -/
theorem loadGaps_ok (call : RunCall) {stored : List GapEvidence} (loaded : List GapEvidence)
    (hlineage : ∀ e ∈ stored, checkGapLineage runner plan e reading = .ok ())
    (honce : ((loaded ++ stored).map (·.requestId)).Nodup) :
    loadGaps runner plan call reading loaded stored = .ok (loaded ++ stored) ∨
      ∃ e ∈ stored, call.allows e.classification = false ∧
        loadGaps runner plan call reading loaded stored = .error (.gapNeedsOption e.classification) := by
  induction stored generalizing loaded with
  | nil => exact .inl (by rw [List.append_nil]; rfl)
  | cons e rest ih =>
    have hfirst := hlineage e List.mem_cons_self
    by_cases hallows : call.allows e.classification = false
    · refine .inr ⟨e, List.mem_cons_self, hallows, ?_⟩
      rw [loadGaps, hfirst, ok_bind, raiseIf_pos hallows, error_bind]
    · have hnew : e.requestId ∉ loaded.map (·.requestId) := by
        rw [List.map_append, List.nodup_append] at honce
        intro hmem
        exact honce.2.2 _ hmem _ (List.mem_map_of_mem List.mem_cons_self) rfl
      have hsplit : loaded ++ e :: rest = loaded ++ [e] ++ rest := by simp
      have hrest := ih (loaded ++ [e]) (fun g hg => hlineage g (List.mem_cons_of_mem _ hg)) (hsplit ▸ honce)
      rw [loadGaps, hfirst, ok_bind, raiseIf_neg hallows, ok_bind, raiseIf_neg hnew, ok_bind, hsplit]
      rcases hrest with h | ⟨g, hg, hdenied, h⟩
      · exact .inl h
      · exact .inr ⟨g, List.mem_cons_of_mem _ hg, hdenied, h⟩

variable (plan) in
/-- What loading the gaps comes to. -/
inductive Opened (call : RunCall) (reading : Instant) (stored : List GapEvidence) :
    Except RunError (List GapEvidence) → Prop
  | none : call.quarantineEnabled = false → Opened call reading stored (.ok [])
  | behind : reading < plan.1.requestedAt → Opened call reading stored (.error .clockBehind)
  | denied (e : GapEvidence) : e ∈ stored → call.quarantineEnabled = true → call.allows e.classification = false →
      Opened call reading stored (.error (.gapNeedsOption e.classification))
  | all (gaps : List GapEvidence) : call.quarantineEnabled = true → gaps.Perm stored →
      Opened call reading stored (.ok gaps)

theorem openGaps_opened (call : RunCall) {stored : List GapEvidence} (h : GapsOk runner plan stored reading) :
    Opened plan call reading stored (openGaps runner plan call reading stored) := by
  unfold openGaps
  split
  case isFalse hoff => exact .none (Bool.eq_false_iff.mpr hoff)
  case isTrue hon =>
    by_cases hclock : reading < plan.1.requestedAt
    · rw [checkNow, raiseIf_pos hclock, error_bind]
      exact .behind hclock
    · rw [checkNow, raiseIf_neg hclock, ok_bind]
      have hperm : (sortOn (fun e : GapEvidence => toLex (hex e.requestId, e.session)) stored).Perm stored :=
        perm_sortOn _ stored
      have honce := (hperm.map (·.requestId)).nodup_iff.mpr h.once
      rcases loadGaps_ok call [] (fun e he => h.lineage e (hperm.mem_iff.mp he)) honce with
        hload | ⟨e, he, hdenied, hload⟩
      · rw [hload]
        exact .all _ hon hperm
      · rw [hload]
        exact .denied e (hperm.mem_iff.mp he) hon hdenied

theorem checkStoredCompletion_ok {snapshots : List StoredSnapshot} {clock : Instant} {p : Progress}
    (hsnapshots : SnapshotsOk runner plan snapshots) (hp : ProgressOk runner plan snapshots clock p)
    {c : Completion} (hc : c ∈ p.completions) :
    checkStoredCompletion runner snapshots p.connectorVersion c = .ok () := by
  obtain ⟨stored, hmem, hid, huse, -⟩ := hp.snapshots c hc
  obtain ⟨r, hr, hrid⟩ := List.mem_map.mp (hp.requests _ (List.mem_map_of_mem hc))
  unfold checkStoredCompletion
  rw [← hid, getSnapshot_of_mem hsnapshots.ids hmem, hp.version, ← hrid]
  exact hsnapshots.lineage r hr stored hmem (hrid ▸ huse)

/-- The stored state passes its checks, unless a request is complete and has a gap. -/
theorem checkStored_ok {snapshots : List StoredSnapshot} (gaps : List GapEvidence) {clock : Instant} {p : Progress}
    (hsnapshots : SnapshotsOk runner plan snapshots) (hp : ProgressOk runner plan snapshots clock p) :
    (checkStored runner plan snapshots gaps p = .ok () ∧ ∀ e ∈ gaps, e.requestId ∉ p.requestIds) ∨
      (checkStored runner plan snapshots gaps p = .error .completeAndUnresolved ∧
        ∃ e ∈ gaps, e.requestId ∈ p.requestIds) := by
  have hprogress : checkProgress runner plan p = .ok () := by
    refine raiseIf_neg ?_
    push Not
    exact ⟨hp.planId, hp.provider, hp.version, hp.requests⟩
  unfold checkStored
  rw [hprogress, ok_bind]
  by_cases hboth : ∃ e ∈ gaps, e.requestId ∈ p.requestIds
  · exact .inr ⟨by rw [raiseIf_pos hboth, error_bind], hboth⟩
  · refine .inl ⟨?_, fun e he hid => hboth ⟨e, he, hid⟩⟩
    rw [raiseIf_neg hboth, ok_bind, forM_eq_ok]
    exact fun c hc => checkStoredCompletion_ok hsnapshots hp hc

variable (runner plan s call reading) in
/-- Why a run does not get to its loop. -/
def StartRefused : RunError → Prop
  | .invalidCall => call.maximumRequests = some 0 ∨ (call.quarantineEnabled = true ∧ runner.hasGapStore = false)
  | .connectorMismatch => runner.provider ≠ plan.1.provider ∨ runner.providerVersion = ""
  | .clockBehind => reading < plan.1.requestedAt
  | .gapNeedsOption classification => call.quarantineEnabled = true ∧ call.allows classification = false ∧
      ∃ e ∈ s.gaps, e.classification = classification
  | .completeAndUnresolved => call.quarantineEnabled = true ∧
      ∃ p, s.progress = some p ∧ ∃ e ∈ s.gaps, e.requestId ∈ p.requestIds
  | _ => False

variable (s call reading) in
theorem checkCall_ok : checkCall runner plan call = .ok () ∨
    ∃ e, checkCall runner plan call = .error e ∧ StartRefused runner plan s call reading e := by
  unfold checkCall
  by_cases hmaximum : call.maximumRequests = some 0
  · exact .inr ⟨.invalidCall, by rw [raiseIf_pos hmaximum, error_bind], .inl hmaximum⟩
  by_cases hstore : call.quarantineEnabled = true ∧ runner.hasGapStore = false
  · exact .inr ⟨.invalidCall, by rw [raiseIf_neg hmaximum, ok_bind, raiseIf_pos hstore, error_bind], .inr hstore⟩
  rw [raiseIf_neg hmaximum, ok_bind, raiseIf_neg hstore, ok_bind]
  by_cases hconnector : runner.provider ≠ plan.1.provider ∨ runner.providerVersion = ""
  · exact .inr ⟨.connectorMismatch, raiseIf_pos hconnector, hconnector⟩
  · exact .inl (raiseIf_neg hconnector)

variable (runner plan) in
/-- The first progress of a plan. -/
def firstProgress (reading : Instant) : Progress :=
  ⟨plan.1.planId, plan.1.provider, runner.providerVersion, [], reading⟩

theorem firstProgress_ok (snapshots : List StoredSnapshot) :
    ProgressOk runner plan snapshots reading (firstProgress runner plan reading) :=
  ⟨rfl, rfl, rfl, fun _ hid => absurd hid List.not_mem_nil, List.nodup_nil, fun _ hc => absurd hc List.not_mem_nil,
    le_rfl⟩

variable (runner plan s call reading) in
/-- What the start of a run comes to: a refusal that changes no store, or a run over all requests. -/
inductive Started : System → Prop
  | refused (e : RunError) : StartRefused runner plan s call reading e → Started (s.fail e)
  | begun (gaps : List GapEvidence) (p : Progress) :
      checkCall runner plan call = .ok () →
      (call.quarantineEnabled = false ∧ gaps = [] ∨ call.quarantineEnabled = true ∧ gaps.Perm s.gaps) →
      (s.progress = some p ∨ s.progress = none ∧ p = firstProgress runner plan s.clock) →
      (∀ e ∈ gaps, e.requestId ∉ p.requestIds) →
      Started ({ s with progress := some p }.goOn ⟨call, gaps, p, plan.1.requests, 0, 0, none⟩)

theorem started_of_gaps {gaps : List GapEvidence} (h : SystemOk runner plan s) (hle : reading ≤ s.clock)
    (hcall : checkCall runner plan call = .ok ())
    (hmode : call.quarantineEnabled = false ∧ gaps = [] ∨ call.quarantineEnabled = true ∧ gaps.Perm s.gaps) :
    Started runner plan s call reading
      (match openProgress runner plan s.progress s.clock with
      | .error e => s.fail e
      | .ok progress =>
        let saved := { s with progress := some progress }
        match checkStored runner plan saved.snapshots gaps progress with
        | .error e => saved.fail e
        | .ok () => saved.goOn ⟨call, gaps, progress, plan.1.requests, 0, 0, none⟩) := by
  have hprogress : (∃ p, openProgress runner plan s.progress s.clock = .ok p ∧
      (s.progress = some p ∨ s.progress = none ∧ p = firstProgress runner plan s.clock)) ∨
      (openProgress runner plan s.progress s.clock = .error .clockBehind ∧ reading < plan.1.requestedAt) := by
    cases hstored : s.progress with
    | some p => exact .inl ⟨p, rfl, .inl rfl⟩
    | none =>
      unfold openProgress
      by_cases hclock : s.clock < plan.1.requestedAt
      · exact .inr ⟨by rw [checkNow, raiseIf_pos hclock]; rfl, hle.trans_lt hclock⟩
      · exact .inl ⟨_, by rw [checkNow, raiseIf_neg hclock]; rfl, .inr ⟨rfl, rfl⟩⟩
  rcases hprogress with ⟨p, hopen, hp⟩ | ⟨hopen, hclock⟩
  case inr =>
    rw [hopen]
    exact .refused _ hclock
  rw [hopen]
  have hok : ProgressOk runner plan s.snapshots s.clock p := by
    rcases hp with hp | ⟨-, rfl⟩
    · exact h.progress p hp
    · exact firstProgress_ok _
  rcases checkStored_ok gaps h.snapshots hok with ⟨hstored, hnone⟩ | ⟨hstored, e, he, hid⟩
  · dsimp only
    rw [hstored]
    exact .begun gaps p hcall hmode hp hnone
  · dsimp only
    rw [hstored]
    rcases hmode with ⟨-, rfl⟩ | ⟨hon, hperm⟩
    · cases he
    rcases hp with hp | ⟨-, rfl⟩
    · have hsame : { s with progress := some p } = s := by rw [← hp]
      rw [hsame]
      exact .refused _ ⟨hon, p, hp, e, hperm.mem_iff.mp he, hid⟩
    · cases hid

variable (call) in
theorem startRun_started (h : SystemOk runner plan s) (hgaps : GapsOk runner plan s.gaps reading)
    (hle : reading ≤ s.clock) : Started runner plan s call reading (startRun runner plan call s reading s.clock) := by
  unfold startRun
  rcases checkCall_ok s call reading with hcall | ⟨e, hcall, hrefused⟩
  case inr =>
    rw [hcall, error_bind]
    exact .refused e hrefused
  rw [hcall, ok_bind]
  have hopened := openGaps_opened call hgaps
  generalize hgapsEq : openGaps runner plan call reading s.gaps = result at hopened
  cases hopened with
  | none hoff => exact started_of_gaps h hle hcall (.inl ⟨hoff, rfl⟩)
  | behind hclock => exact .refused _ hclock
  | denied e he hon hdenied => exact .refused _ ⟨hon, hdenied, e, he, rfl⟩
  | all gaps hon hperm => exact started_of_gaps h hle hcall (.inr ⟨hon, hperm⟩)

/-- The start of a run keeps the invariant. -/
theorem Started.ok {s' : System} (h : SystemOk runner plan s) (hstarted : Started runner plan s call reading s') :
    SystemOk runner plan s' := by
  cases hstarted with
  | refused e _ => exact h.stop _
  | begun gaps p hcall hmode hp hnone =>
    have hok : ProgressOk runner plan s.snapshots s.clock p := by
      rcases hp with hp | ⟨-, rfl⟩
      · exact h.progress p hp
      · exact firstProgress_ok _
    have hsaved : SystemOk runner plan { s with progress := some p, active := none } :=
      ⟨h.snapshots, h.gaps, fun q hq => Option.some.inj hq ▸ hok, fun _ ha => nomatch ha⟩
    refine hsaved.goOn (a := ⟨call, gaps, p, plan.1.requests, 0, 0, none⟩) ⟨hcall, rfl, ?_, ?_, ?_, ?_, ?_⟩
    · exact ⟨[], [], rfl, fun _ hr => absurd hr List.not_mem_nil, rfl, fun _ hr => absurd hr List.not_mem_nil⟩
    · intro hoff
      rcases hmode with ⟨-, rfl⟩ | ⟨hon, -⟩
      · rfl
      · rw [hoff] at hon
        cases hon
    · intro e he
      rcases hmode with ⟨-, rfl⟩ | ⟨-, hperm⟩
      · cases he
      · exact hperm.mem_iff.mp he
    · intro hon e he _
      rcases hmode with ⟨hoff, -⟩ | ⟨-, hperm⟩
      · rw [hoff] at hon
        cases hon
      · exact hperm.mem_iff.mpr he
    · intro _ _ _ hpending
      cases hpending

end Start

end Backfill

end IndiaSwing
