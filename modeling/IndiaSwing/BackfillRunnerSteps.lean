import IndiaSwing.BackfillInvariants

namespace IndiaSwing

open ExceptGuards KeySort

namespace Backfill

variable {hex : ContentId → String} {runner : Runner} {plan : BackfillPlan hex}

section Loop

variable {s : System} {a : ActiveRun} {answer : ProviderAnswer} {request : DailyRequest}
variable {rest : List DailyRequest}

/-- The evidence that an error of the provider carries. -/
def ProviderAnswer.evidence : ProviderAnswer → Option ResponseEvidence
  | .empty e _ => some e
  | .rejected e _ => some e
  | _ => none

variable (runner) in
/-- The answer is not a batch of the connector for the request. -/
def ProviderAnswer.Uncollected (answer : ProviderAnswer) (request : DailyRequest) : Prop :=
  answer = .unsupported ∨ ∃ b, answer = .batch b ∧ (b.request.requestId ≠ request.requestId ∨
    b.provider ≠ runner.provider ∨ b.providerVersion ≠ runner.providerVersion)

variable (a) in
/-- A request that is neither complete nor skipped. -/
structure Reached (request : DailyRequest) (rest : List DailyRequest) : Prop where
  pending : a.pending = none
  remaining : a.remaining = request :: rest
  incomplete : request.requestId ∉ a.progress.requestIds
  noGap : ∀ g ∈ a.gaps, g.requestId ≠ request.requestId

variable (runner s a) in
/-- The provider is asked for a request that no stored snapshot answers. -/
def Asked (request : DailyRequest) : Prop :=
  (∃ rest, Reached a request rest) ∧ ∀ t ∈ s.snapshots, ¬t.UsableFor runner request.requestId

variable (runner plan s a answer) in
/-- Why a run ends in its loop: the clock, the provider, or one refused request after the other. -/
def AdvanceRefused (gaps : List GapEvidence) : RunError → Prop
  | .clockBehind => (∃ request stored recovered, a.pending = some (request, stored, recovered) ∧
      s.clock < stored.observedAt) ∨
      (a.call.quarantineEnabled = true ∧ ∃ request, Asked runner s a request ∧
        ∃ e, answer.evidence = some e ∧ s.clock < e.observedAt)
  | .provider => ∃ request, Asked runner s a request ∧ (answer = .raises ∨ ∃ e, answer.evidence = some e)
  | .collection => ∃ request, Asked runner s a request ∧ answer.Uncollected runner request
  | .responseLineage => a.call.quarantineEnabled = true ∧
      ∃ request, Asked runner s a request ∧ ∃ e, answer.evidence = some e
  | .safetyCeiling => a.call.quarantineEnabled = true ∧ a.pending = none ∧ ∃ earlier recent later,
      plan.1.requests = earlier ++ recent ++ later ∧ maximumConsecutiveRejections ≤ recent.length ∧
        ∀ r ∈ recent, Rejected gaps r
  | _ => False

/-- The snapshot that the collection of a request stores. -/
def collectedSnapshot (request : DailyRequest) (b : CandleBatch) : StoredSnapshot :=
  ⟨request.requestId, b.provider, b.providerVersion, b.observedAt, .batch b⟩

variable (runner plan s a answer) in
/-- What a step of the loop comes to. -/
inductive Advanced : System → Prop
  | finished : a.pending = none →
      (a.remaining = [] ∨ a.call.maximumRequests.any (fun maximum => decide (maximum ≤ a.processed)) = true) →
      Advanced (s.finish a.progress)
  | refused (e : RunError) : AdvanceRefused runner plan s a answer s.gaps e → Advanced (s.fail e)
  | passed (request : DailyRequest) (rest : List DailyRequest) : a.pending = none → a.remaining = request :: rest →
      request.requestId ∈ a.progress.requestIds →
      Advanced (s.goOn { a with remaining := rest, consecutiveRejections := 0 })
  | skipped (request : DailyRequest) (rest : List DailyRequest) (gap : GapEvidence) : a.pending = none →
      a.remaining = request :: rest → gap ∈ a.gaps → gap.requestId = request.requestId →
      Advanced (s.goOn { a with
        remaining := rest, consecutiveRejections := a.rejectionsAfter gap.classification })
  | recovered (request : DailyRequest) (rest : List DailyRequest) (stored : StoredSnapshot) :
      Reached a request rest → stored ∈ s.snapshots → stored.UsableFor runner request.requestId →
      Advanced (s.goOn { a with pending := some (request, stored, true) })
  | collected (request : DailyRequest) (rest : List DailyRequest) (b : CandleBatch) : Reached a request rest →
      (∀ t ∈ s.snapshots, ¬t.UsableFor runner request.requestId) → answer = .batch b →
      b.request.requestId = request.requestId → b.provider = runner.provider →
      b.providerVersion = runner.providerVersion →
      Advanced (({ s with snapshots := s.snapshots ++ [collectedSnapshot request b] }).goOn
        { a with pending := some (request, collectedSnapshot request b, false) })
  | quarantined (request : DailyRequest) (rest : List DailyRequest) (gap : GapEvidence) : Reached a request rest →
      a.call.quarantineEnabled = true → gap.requestId = request.requestId →
      checkGapLineage runner plan gap s.clock = .ok () →
      Advanced (({ s with gaps := s.gaps ++ [gap] }).goOn { a with
        remaining := rest, processed := a.processed + 1,
        consecutiveRejections := a.rejectionsAfter gap.classification })
  | ceiling (request : DailyRequest) (rest : List DailyRequest) (gap : GapEvidence) : Reached a request rest →
      a.call.quarantineEnabled = true → gap.requestId = request.requestId →
      checkGapLineage runner plan gap s.clock = .ok () →
      AdvanceRefused runner plan s a answer (s.gaps ++ [gap]) .safetyCeiling →
      Advanced (({ s with gaps := s.gaps ++ [gap] }).fail .safetyCeiling)
  | completed (request : DailyRequest) (stored : StoredSnapshot) (recovered : Bool) :
      a.pending = some (request, stored, recovered) → stored.observedAt ≤ s.clock →
      Advanced (({ s with
          progress := some (completedProgress runner plan a.progress s.clock request stored recovered) }).goOn
        { a with
          progress := completedProgress runner plan a.progress s.clock request stored recovered,
          remaining := a.remaining.tail, processed := a.processed + 1, consecutiveRejections := 0,
          pending := none })

theorem completeRequest_advanced {stored : StoredSnapshot} {recovered : Bool} (h : SystemOk runner plan s)
    (ha : s.active = some a) (hpending : a.pending = some (request, stored, recovered)) :
    Advanced runner plan s a answer (completeRequest runner plan s a request stored recovered) := by
  have hactive := h.active a ha
  have hp := h.progress a.progress hactive.progress
  unfold completeRequest
  dsimp only
  by_cases hclock : s.clock < stored.observedAt
  · rw [checkNow, raiseIf_pos hclock, error_bind]
    exact .refused _ (.inl ⟨request, stored, recovered, hpending, hclock⟩)
  · rw [checkNow, raiseIf_neg hclock, ok_bind, hactive.progress, checkSave, raiseIf_neg]
    · exact .completed request stored recovered hpending (not_lt.mp hclock)
    · push Not
      refine ⟨hp.provider, hp.version, hp.updated, fun c hc => ?_⟩
      exact (perm_sortOn _ _).mem_iff.mpr (List.mem_append_left _ hc)

theorem rejection_of_ceiling {classification : GapClassification}
    (h : maximumConsecutiveRejections ≤ a.rejectionsAfter classification) :
    classification = .providerRequestRejection ∧ maximumConsecutiveRejections ≤ a.consecutiveRejections + 1 := by
  cases classification with
  | emptyProviderResponse => exact absurd h (Nat.not_succ_le_zero 2)
  | providerRequestRejection => exact ⟨rfl, h⟩

/-- Three refused requests one after the other. -/
theorem ceiling_refused {gaps : List GapEvidence} {earlier recent : List DailyRequest}
    (hon : a.call.quarantineEnabled = true) (hpending : a.pending = none) (hat : a.At plan s.gaps earlier recent)
    (hremaining : a.remaining = request :: rest) (hsub : s.gaps ⊆ gaps) (hrejected : Rejected gaps request)
    (hcount : maximumConsecutiveRejections ≤ a.consecutiveRejections + 1) :
    AdvanceRefused runner plan s a answer gaps .safetyCeiling := by
  refine ⟨hon, hpending, earlier, recent ++ [request], rest, ?_, ?_, fun r hr => ?_⟩
  · rw [hat.split, hremaining]
    simp
  · rw [List.length_append, hat.count]
    exact hcount
  · rcases List.mem_append.mp hr with hr | hr
    · obtain ⟨e, he, hid⟩ := hat.rejected r hr
      exact ⟨e, hsub he, hid⟩
    · obtain rfl := List.mem_singleton.mp hr
      exact hrejected

theorem skipGap_advanced {gap : GapEvidence} (h : SystemOk runner plan s) (ha : s.active = some a)
    (hpending : a.pending = none) (hremaining : a.remaining = request :: rest) (hgap : gap ∈ a.gaps)
    (hid : gap.requestId = request.requestId) : Advanced runner plan s a answer (skipGap s a gap) := by
  have hactive := h.active a ha
  have htail : a.remaining.tail = rest := by rw [hremaining]; rfl
  unfold skipGap
  split
  case isTrue hcount =>
    have hon : a.call.quarantineEnabled = true := by
      by_contra hoff
      rw [hactive.noGaps (Bool.eq_false_iff.mpr hoff)] at hgap
      cases hgap
    obtain ⟨hrejection, hcount⟩ := rejection_of_ceiling hcount
    obtain ⟨earlier, recent, hat⟩ := hactive.position
    exact .refused _ (ceiling_refused hon hpending hat hremaining (List.Subset.refl _)
      ⟨gap, hactive.loaded gap hgap, hid, hrejection⟩ hcount)
  case isFalse =>
    rw [htail]
    exact .skipped request rest gap hpending hremaining hgap hid

theorem find_request (hmem : request ∈ plan.1.requests) :
    plan.1.requests.find? (fun r => decide (r.requestId = request.requestId)) = some request := by
  have hids := plan.planRequests.ids
  cases hfind : plan.1.requests.find? (fun r => decide (r.requestId = request.requestId)) with
  | none => exact absurd (decide_eq_true rfl) (List.find?_eq_none.mp hfind request hmem)
  | some found =>
    have hid : found.requestId = request.requestId := by simpa using List.find?_some hfind
    rw [List.inj_on_of_nodup_map hids (List.mem_of_find?_eq_some hfind) hmem hid]

theorem ActiveOk.mem_requests (h : ActiveOk runner plan s.snapshots s.gaps s.progress a)
    (hremaining : a.remaining = request :: rest) : request ∈ plan.1.requests := by
  obtain ⟨earlier, recent, hat⟩ := h.position
  rw [hat.split, hremaining]
  exact List.mem_append_right _ List.mem_cons_self

/-- In a run with an option, a request that is reached has no stored gap. -/
theorem Reached.not_mem_gaps (h : ActiveOk runner plan s.snapshots s.gaps s.progress a)
    (hreached : Reached a request rest) (hon : a.call.quarantineEnabled = true) :
    request.requestId ∉ s.gaps.map (·.requestId) := by
  intro hmem
  obtain ⟨gap, hgap, hid⟩ := List.mem_map.mp hmem
  have hremaining : gap.requestId ∈ a.remaining.map (·.requestId) := by
    rw [hid, hreached.remaining]
    exact List.mem_cons_self
  exact hreached.noGap gap (h.open_gaps hon gap hgap hremaining) hid

theorem gapEvidence_lineage (hmem : request ∈ plan.1.requests) {e : ResponseEvidence}
    (classification : GapClassification)
    (hlineage : ¬(e.provider ≠ request.binding.provider ∨ e.providerVersion ≠ runner.providerVersion ∨
      e.providerInstrumentId ≠ request.binding.providerInstrumentId ∨ e.session ∉ request.sessions ∨
      e.observedAt < request.requestedAt)) (hclock : ¬s.clock < e.observedAt) :
    checkGapLineage runner plan (gapEvidence plan request e classification) s.clock = .ok () := by
  push Not at hlineage
  obtain ⟨hprovider, hversion, hinstrument, hsession, hrequested⟩ := hlineage
  unfold checkGapLineage
  rw [show (gapEvidence plan request e classification).requestId = request.requestId from rfl, find_request hmem]
  refine raiseIf_neg ?_
  push Not
  exact ⟨rfl, hprovider.trans (plan.planRequests.provider request hmem), hversion, hinstrument, rfl, rfl, rfl,
    hsession, hrequested, not_lt.mp hclock⟩

theorem allows_enabled {call : RunCall} {classification : GapClassification}
    (h : ¬call.allows classification = false) : call.quarantineEnabled = true := by
  cases classification <;> simp_all [RunCall.allows, RunCall.quarantineEnabled]

theorem quarantine_advanced (h : SystemOk runner plan s) (ha : s.active = some a)
    (hreached : Reached a request rest) (hnone : ∀ t ∈ s.snapshots, ¬t.UsableFor runner request.requestId)
    {e : ResponseEvidence} (hanswer : answer.evidence = some e) (exact : Bool)
    (classification : GapClassification) :
    Advanced runner plan s a answer (quarantine runner plan s a request e exact classification) := by
  have hactive := h.active a ha
  have hasked : Asked runner s a request := ⟨⟨rest, hreached⟩, hnone⟩
  have htail : a.remaining.tail = rest := by rw [hreached.remaining]; rfl
  unfold quarantine
  split
  case isTrue => exact .refused .provider ⟨request, hasked, .inr ⟨e, hanswer⟩⟩
  case isFalse hallows =>
    have hon := allows_enabled hallows
    by_cases hexact : exact = false
    · rw [quarantineGap, raiseIf_pos hexact, error_bind]
      exact .refused .responseLineage ⟨hon, request, hasked, e, hanswer⟩
    by_cases hlineage : e.provider ≠ request.binding.provider ∨ e.providerVersion ≠ runner.providerVersion ∨
      e.providerInstrumentId ≠ request.binding.providerInstrumentId ∨ e.session ∉ request.sessions ∨
      e.observedAt < request.requestedAt
    · rw [quarantineGap, raiseIf_neg hexact, ok_bind, raiseIf_pos hlineage, error_bind]
      exact .refused .responseLineage ⟨hon, request, hasked, e, hanswer⟩
    by_cases hclock : s.clock < e.observedAt
    · rw [quarantineGap, raiseIf_neg hexact, ok_bind, raiseIf_neg hlineage, ok_bind, checkNow, raiseIf_pos hclock,
        error_bind]
      exact .refused .clockBehind (.inr ⟨hon, request, hasked, e, hanswer, hclock⟩)
    have hnew := hreached.not_mem_gaps hactive hon
    have hput : putGap s.gaps (gapEvidence plan request e classification) =
        .ok (s.gaps ++ [gapEvidence plan request e classification]) := by
      have hfind : s.gaps.find? (fun g => decide (g.requestId =
          (gapEvidence plan request e classification).requestId ∧
            g.session = (gapEvidence plan request e classification).session)) = none := by
        rw [List.find?_eq_none]
        intro g hg hsame
        exact hnew (List.mem_map.mpr ⟨g, hg, (of_decide_eq_true hsame).1⟩)
      unfold putGap
      rw [hfind]
    have hgap := gapEvidence_lineage (s := s) (hactive.mem_requests hreached.remaining) classification hlineage hclock
    rw [quarantineGap, raiseIf_neg hexact, ok_bind, raiseIf_neg hlineage, ok_bind, checkNow, raiseIf_neg hclock,
      ok_bind, hput]
    dsimp only
    split
    case isTrue hcount =>
      obtain ⟨hrejection, hcount⟩ := rejection_of_ceiling hcount
      obtain ⟨earlier, recent, hat⟩ := hactive.position
      refine .ceiling request rest _ hreached hon rfl hgap
        (ceiling_refused hon hreached.pending hat hreached.remaining (List.subset_append_left _ _) ?_ hcount)
      exact ⟨_, List.mem_append_right _ List.mem_cons_self, rfl, hrejection⟩
    case isFalse =>
      rw [htail]
      exact .quarantined request rest _ hreached hon rfl hgap

/-- A snapshot with the id of a collected one is of the same request and version. -/
theorem usableFor_of_snapshotId {t : StoredSnapshot} {b : CandleBatch} (hversion : b.providerVersion = runner.providerVersion)
    (hid : t.snapshotId = (collectedSnapshot request b).snapshotId) : t.UsableFor runner request.requestId := by
  have hfields := ContentId.ofFields_inj.mp hid
  simp only [List.cons.injEq, and_true, true_and] at hfields
  obtain ⟨hkey, -, -, -, hpayload⟩ := hfields
  refine ⟨hkey, ?_⟩
  cases hp : t.payload with
  | other content =>
    rw [hp] at hpayload
    have hschema := (ContentId.ofFields_inj.mp hpayload).1
    exact absurd hschema (by decide)
  | batch value =>
    rw [hp] at hpayload
    have hsame := ContentId.ofFields_inj.mp hpayload
    simp only [List.cons.injEq, and_true, true_and, ContentId.text.injEq] at hsame
    exact decide_eq_true (hsame.2.2.1.trans hversion)

theorem collectRequest_advanced (h : SystemOk runner plan s) (ha : s.active = some a)
    (hreached : Reached a request rest) (hnone : ∀ t ∈ s.snapshots, ¬t.UsableFor runner request.requestId) :
    Advanced runner plan s a answer (collectRequest runner plan s a request answer) := by
  have hasked : Asked runner s a request := ⟨⟨rest, hreached⟩, hnone⟩
  cases answer with
  | batch b =>
    unfold collectRequest
    dsimp only
    split
    case isTrue hlineage => exact .refused .collection ⟨request, hasked, .inr ⟨b, rfl, hlineage⟩⟩
    case isFalse hlineage =>
      push Not at hlineage
      obtain ⟨hid, hprovider, hversion⟩ := hlineage
      have hput : putSnapshot s.snapshots (collectedSnapshot request b) =
          (s.snapshots ++ [collectedSnapshot request b], collectedSnapshot request b) := by
        have hfind : s.snapshots.find? (fun t => decide (t.snapshotId = (collectedSnapshot request b).snapshotId)) =
            none := by
          rw [List.find?_eq_none]
          intro t ht hsame
          exact hnone t ht (usableFor_of_snapshotId hversion (of_decide_eq_true hsame))
        unfold putSnapshot
        rw [hfind]
      show Advanced runner plan s a _
        (({ s with snapshots := (putSnapshot s.snapshots (collectedSnapshot request b)).1 }).goOn
          { a with pending := some (request, (putSnapshot s.snapshots (collectedSnapshot request b)).2, false) })
      rw [hput]
      exact .collected request rest b hreached hnone rfl hid hprovider hversion
  | unsupported => exact .refused .collection ⟨request, hasked, .inl rfl⟩
  | empty e exact => exact quarantine_advanced h ha hreached hnone rfl exact _
  | rejected e exact => exact quarantine_advanced h ha hreached hnone rfl exact _
  | raises => exact .refused .provider ⟨request, hasked, .inl rfl⟩

theorem mem_matchingSnapshots {snapshots : List StoredSnapshot} {requestId : ContentId} {t : StoredSnapshot} :
    t ∈ matchingSnapshots hex runner snapshots requestId ↔ t ∈ snapshots ∧ t.UsableFor runner requestId := by
  unfold matchingSnapshots StoredSnapshot.UsableFor
  rw [List.mem_filter, (perm_sortOn _ _).mem_iff, List.mem_filter, decide_eq_true_eq, and_assoc]

/-- A snapshot that an earlier run left for a request is taken up. -/
theorem recoverExisting_ok (h : SnapshotsOk runner plan s.snapshots) (hmem : request ∈ plan.1.requests) :
    recoverExisting hex runner s.snapshots request = .ok none ∧
        (∀ t ∈ s.snapshots, ¬t.UsableFor runner request.requestId) ∨
      ∃ t ∈ s.snapshots, t.UsableFor runner request.requestId ∧
        recoverExisting hex runner s.snapshots request = .ok (some t) := by
  have hchecks : (matchingSnapshots hex runner s.snapshots request.requestId).forM
      (fun stored => checkMatching runner request.requestId stored runner.providerVersion) = .ok () := by
    rw [forM_eq_ok]
    intro t ht
    obtain ⟨ht, huse⟩ := mem_matchingSnapshots.mp ht
    exact h.lineage request hmem t ht huse
  unfold recoverExisting
  dsimp only
  rw [hchecks, ok_bind]
  cases hfound : matchingSnapshots hex runner s.snapshots request.requestId with
  | nil =>
    refine .inl ⟨rfl, fun t ht huse => ?_⟩
    have hmatching : t ∈ matchingSnapshots hex runner s.snapshots request.requestId :=
      mem_matchingSnapshots.mpr ⟨ht, huse⟩
    rw [hfound] at hmatching
    cases hmatching
  | cons t others =>
    have hmatching : t ∈ matchingSnapshots hex runner s.snapshots request.requestId := by
      rw [hfound]
      exact List.mem_cons_self
    obtain ⟨ht, huse⟩ := mem_matchingSnapshots.mp hmatching
    exact .inr ⟨t, ht, huse, rfl⟩

theorem nextRequest_advanced (h : SystemOk runner plan s) (ha : s.active = some a) (hpending : a.pending = none) :
    Advanced runner plan s a answer (nextRequest runner plan s a answer) := by
  have hactive := h.active a ha
  cases hremaining : a.remaining with
  | nil =>
    unfold nextRequest
    rw [hremaining]
    exact .finished hpending (.inl hremaining)
  | cons request rest =>
    have hmem := hactive.mem_requests hremaining
    unfold nextRequest
    rw [hremaining]
    dsimp only
    split
    case isTrue hcomplete => exact .passed request rest hpending hremaining hcomplete
    case isFalse hincomplete =>
      cases hgap : a.gaps.find? (fun g => decide (g.requestId = request.requestId)) with
      | some gap =>
        have hid : gap.requestId = request.requestId := by simpa using List.find?_some hgap
        exact skipGap_advanced h ha hpending hremaining (List.mem_of_find?_eq_some hgap) hid
      | none =>
        dsimp only
        split
        case isTrue hlimit => exact .finished hpending (.inr hlimit)
        case isFalse =>
          have hreached : Reached a request rest := by
            refine ⟨hpending, hremaining, hincomplete, fun g hg hid => ?_⟩
            exact List.find?_eq_none.mp hgap g hg (decide_eq_true hid)
          rcases recoverExisting_ok h.snapshots hmem with ⟨hrecover, hnone⟩ | ⟨t, ht, huse, hrecover⟩
          · rw [hrecover]
            exact collectRequest_advanced h ha hreached hnone
          · rw [hrecover, ← hremaining]
            exact .recovered request rest t hreached ht huse

variable (answer) in
/-- Every step of a run is one of the moves. -/
theorem advanceRun_advanced (h : SystemOk runner plan s) (ha : s.active = some a) :
    Advanced runner plan s a answer (advanceRun runner plan s a answer) := by
  unfold advanceRun
  cases hpending : a.pending with
  | none => exact nextRequest_advanced h ha hpending
  | some found =>
    obtain ⟨request, stored, recovered⟩ := found
    exact completeRequest_advanced h ha hpending

end Loop

end Backfill

end IndiaSwing
