import IndiaSwing.BackfillRunnerSteps

namespace IndiaSwing

open ExceptGuards KeySort

namespace Backfill

variable {hex : ContentId → String} {runner : Runner} {plan : BackfillPlan hex}

section Preservation

variable {s s' : System} {a a' : ActiveRun} {answer : ProviderAnswer} {request : DailyRequest}
variable {rest : List DailyRequest} {snapshots : List StoredSnapshot} {gaps gaps' : List GapEvidence}
variable {progress progress' : Option Progress}

theorem ActiveOk.remaining_nodup (h : ActiveOk runner plan snapshots gaps progress a) :
    (a.remaining.map (·.requestId)).Nodup := by
  obtain ⟨earlier, recent, hat⟩ := h.position
  have hids := plan.planRequests.ids
  rw [hat.split, List.map_append] at hids
  exact (List.nodup_append.mp hids).2.1

theorem ActiveRun.Passed.mono {r : DailyRequest} (h : a.Passed gaps r) (hcall : a'.call = a.call)
    (hcompletions : a.progress.requestIds ⊆ a'.progress.requestIds) (hgaps : gaps ⊆ gaps') : a'.Passed gaps' r := by
  rcases h with h | ⟨hon, h⟩
  · exact .inl (hcompletions h)
  · exact .inr ⟨by rw [hcall, hon], List.map_subset _ hgaps h⟩

/-- A run is done with its first request and goes on with the others. -/
theorem ActiveOk.tail (h : ActiveOk runner plan snapshots gaps progress a) (hremaining : a.remaining = request :: rest)
    (hcall : a'.call = a.call) (hloaded : a'.gaps = a.gaps) (hrest : a'.remaining = rest) (hpending : a'.pending = none)
    (hprogress : progress' = some a'.progress) (hcompletions : a.progress.requestIds ⊆ a'.progress.requestIds)
    (hgaps : gaps ⊆ gaps') (hnew : ∀ e ∈ gaps', e ∈ gaps ∨ e.requestId = request.requestId)
    (hpassed : a'.Passed gaps' request)
    (hcount : a'.consecutiveRejections = 0 ∨
      a'.consecutiveRejections = a.consecutiveRejections + 1 ∧ Rejected gaps' request) :
    ActiveOk runner plan snapshots gaps' progress' a' := by
  obtain ⟨earlier, recent, hat⟩ := h.position
  have hbefore : ∀ r ∈ earlier ++ recent ++ [request], a'.Passed gaps' r := by
    intro r hr
    rcases List.mem_append.mp hr with hr | hr
    · exact (hat.passed r hr).mono hcall hcompletions hgaps
    · obtain rfl := List.mem_singleton.mp hr
      exact hpassed
  have hsplit : plan.1.requests = earlier ++ recent ++ [request] ++ a'.remaining := by
    rw [hat.split, hremaining, hrest]
    simp
  refine ⟨hcall ▸ h.call, hprogress, ?_, ?_, ?_, ?_, ?_⟩
  · rcases hcount with hcount | ⟨hcount, hrejected⟩
    · refine ⟨earlier ++ recent ++ [request], [], ⟨by rw [List.append_nil]; exact hsplit, ?_, hcount.symm, ?_⟩⟩
      · rw [List.append_nil]
        exact hbefore
      · exact fun _ hr => absurd hr List.not_mem_nil
    · refine ⟨earlier, recent ++ [request], ⟨by rw [← List.append_assoc]; exact hsplit, ?_, ?_, ?_⟩⟩
      · rw [← List.append_assoc]
        exact hbefore
      · rw [hcount, List.length_append, hat.count]
        rfl
      · intro r hr
        rcases List.mem_append.mp hr with hr | hr
        · obtain ⟨e, he, hid⟩ := hat.rejected r hr
          exact ⟨e, hgaps he, hid⟩
        · obtain rfl := List.mem_singleton.mp hr
          exact hrejected
  · intro hoff
    rw [hloaded]
    exact h.noGaps (hcall ▸ hoff)
  · intro e he
    exact hgaps (h.loaded e (hloaded ▸ he))
  · intro hon e he hid
    rw [hrest] at hid
    have hids := h.remaining_nodup
    rw [hremaining, List.map_cons, List.nodup_cons] at hids
    rcases hnew e he with he | hsame
    · rw [hloaded]
      refine h.open_gaps (hcall ▸ hon) e he ?_
      rw [hremaining, List.map_cons]
      exact List.mem_cons_of_mem _ hid
    · exact absurd (hsame ▸ hid) hids.1
  · intro _ _ _ hp
    rw [hpending] at hp
    cases hp

/-- A run has a snapshot for the request that it has reached. -/
theorem ActiveOk.found {stored : StoredSnapshot} {recovered : Bool} {more : List StoredSnapshot}
    (h : ActiveOk runner plan s.snapshots s.gaps s.progress a) (hreached : Reached a request rest) (hmem : stored ∈ more)
    (huse : stored.UsableFor runner request.requestId) :
    ActiveOk runner plan more s.gaps s.progress { a with pending := some (request, stored, recovered) } := by
  obtain ⟨earlier, recent, hat⟩ := h.position
  refine ⟨h.call, h.progress, ⟨earlier, recent, hat.split, hat.passed, hat.count, hat.rejected⟩, h.noGaps, h.loaded,
    h.open_gaps, ?_⟩
  intro other stored' recovered' hpending
  obtain ⟨rfl, rfl, rfl⟩ : request = other ∧ stored = stored' ∧ recovered = recovered' := by
    simpa using hpending
  exact ⟨by show a.remaining.head? = _; rw [hreached.remaining]; rfl, hreached.incomplete, hmem, huse,
    fun hon => hreached.not_mem_gaps h hon⟩

theorem collectedSnapshot_usableFor {b : CandleBatch} (hversion : b.providerVersion = runner.providerVersion) :
    (collectedSnapshot request b).UsableFor runner request.requestId :=
  ⟨rfl, decide_eq_true hversion⟩

theorem SnapshotsOk.collect {b : CandleBatch} (h : SnapshotsOk runner plan snapshots)
    (hnone : ∀ t ∈ snapshots, ¬t.UsableFor runner request.requestId)
    (hid : b.request.requestId = request.requestId) (hprovider : b.provider = runner.provider)
    (hversion : b.providerVersion = runner.providerVersion) :
    SnapshotsOk runner plan (snapshots ++ [collectedSnapshot request b]) := by
  have hother : ∀ r : DailyRequest, (collectedSnapshot request b).UsableFor runner r.requestId →
      r.requestId = request.requestId := fun r huse => huse.1.symm
  refine ⟨?_, fun r hr t ht huse => ?_, fun r hr t ht u hu htuse huuse => ?_⟩
  · rw [List.map_append, List.nodup_append]
    refine ⟨h.ids, List.nodup_singleton _, fun id hmem id' hmem' heq => ?_⟩
    obtain ⟨t, ht, rfl⟩ := List.mem_map.mp hmem
    obtain rfl := List.mem_singleton.mp hmem'
    exact hnone t ht (usableFor_of_snapshotId hversion heq)
  · rcases List.mem_append.mp ht with ht | ht
    · exact h.lineage r hr t ht huse
    · obtain rfl := List.mem_singleton.mp ht
      have hrid := hother r huse
      refine raiseIf_neg ?_
      push Not
      exact ⟨hrid.symm, hprovider, hversion, hid.trans hrid.symm, hprovider, hversion⟩
  · rcases List.mem_append.mp ht with ht | ht <;> rcases List.mem_append.mp hu with hu | hu
    · exact h.once r hr t ht u hu htuse huuse
    · obtain rfl := List.mem_singleton.mp hu
      exact absurd (hother r huuse ▸ htuse) (hnone t ht)
    · obtain rfl := List.mem_singleton.mp ht
      exact absurd (hother r htuse ▸ huuse) (hnone u hu)
    · obtain rfl := List.mem_singleton.mp ht
      obtain rfl := List.mem_singleton.mp hu
      rfl

theorem mem_completedProgress {p : Progress} {clock : Instant} {stored : StoredSnapshot} {recovered : Bool}
    {c : Completion} : c ∈ (completedProgress runner plan p clock request stored recovered).completions ↔
      c ∈ p.completions ∨ c = ⟨request.requestId, stored.snapshotId, clock, recovered⟩ := by
  unfold completedProgress
  rw [(perm_sortOn _ _).mem_iff, List.mem_append, List.mem_singleton]

theorem completedProgress_requestIds {p : Progress} {clock : Instant} {stored : StoredSnapshot} {recovered : Bool} :
    (completedProgress runner plan p clock request stored recovered).requestIds.Perm
      (p.requestIds ++ [request.requestId]) := by
  unfold completedProgress Progress.requestIds
  refine ((perm_sortOn _ _).map _).trans ?_
  rw [List.map_append]
  rfl

theorem ProgressOk.complete {p : Progress} {clock : Instant} {stored : StoredSnapshot} (recovered : Bool)
    (h : ProgressOk runner plan snapshots clock p) (hmem : request ∈ plan.1.requests)
    (hnew : request.requestId ∉ p.requestIds) (hstored : stored ∈ snapshots)
    (huse : stored.UsableFor runner request.requestId) (hclock : stored.observedAt ≤ clock) :
    ProgressOk runner plan snapshots clock (completedProgress runner plan p clock request stored recovered) := by
  refine ⟨rfl, rfl, rfl, fun id hid => ?_, ?_, fun c hc => ?_, le_rfl⟩
  · rcases List.mem_append.mp (completedProgress_requestIds.mem_iff.mp hid) with hid | hid
    · exact h.requests id hid
    · obtain rfl := List.mem_singleton.mp hid
      exact List.mem_map_of_mem hmem
  · rw [completedProgress_requestIds.nodup_iff, List.nodup_append]
    refine ⟨h.once, List.nodup_singleton _, fun id hid id' hid' heq => ?_⟩
    obtain rfl := List.mem_singleton.mp hid'
    exact hnew (heq ▸ hid)
  · rcases mem_completedProgress.mp hc with hc | rfl
    · exact h.snapshots c hc
    · exact ⟨stored, hstored, rfl, huse, hclock⟩

theorem GapsOk.append {clock : Instant} {gap : GapEvidence} (h : GapsOk runner plan gaps clock)
    (hlineage : checkGapLineage runner plan gap clock = .ok ()) (hnew : gap.requestId ∉ gaps.map (·.requestId)) :
    GapsOk runner plan (gaps ++ [gap]) clock := by
  refine ⟨fun e he => ?_, ?_⟩
  · rcases List.mem_append.mp he with he | he
    · exact h.lineage e he
    · obtain rfl := List.mem_singleton.mp he
      exact hlineage
  · rw [List.map_append, List.nodup_append]
    refine ⟨h.once, List.nodup_singleton _, fun id hid id' hid' heq => ?_⟩
    obtain rfl := List.mem_singleton.mp hid'
    rw [heq] at hid
    exact hnew hid

theorem count_after {classification : GapClassification} {gap : GapEvidence} (hgap : gap ∈ gaps)
    (hid : gap.requestId = request.requestId) (hclass : gap.classification = classification) :
    a.rejectionsAfter classification = 0 ∨
      a.rejectionsAfter classification = a.consecutiveRejections + 1 ∧ Rejected gaps request := by
  cases classification with
  | emptyProviderResponse => exact .inl rfl
  | providerRequestRejection => exact .inr ⟨rfl, gap, hgap, hid, hclass⟩

/-- A step of the loop keeps the invariant. -/
theorem Advanced.ok (h : SystemOk runner plan s) (ha : s.active = some a)
    (hadvanced : Advanced runner plan s a answer s') : SystemOk runner plan s' := by
  have hactive := h.active a ha
  have hp := h.progress a.progress hactive.progress
  cases hadvanced with
  | finished _ _ => exact h.stop _
  | refused e _ => exact h.stop _
  | passed request rest hpending hremaining hcomplete =>
    exact h.goOn (hactive.tail hremaining rfl rfl rfl hpending hactive.progress (List.Subset.refl _)
      (List.Subset.refl _) (fun e he => .inl he) (.inl hcomplete) (.inl rfl))
  | skipped request rest gap hpending hremaining hgap hid =>
    have hstored := hactive.loaded gap hgap
    have hon : a.call.quarantineEnabled = true := by
      by_contra hoff
      rw [hactive.noGaps (Bool.eq_false_iff.mpr hoff)] at hgap
      cases hgap
    exact h.goOn (hactive.tail hremaining rfl rfl rfl hpending hactive.progress (List.Subset.refl _)
      (List.Subset.refl _) (fun e he => .inl he) (.inr ⟨hon, List.mem_map.mpr ⟨gap, hstored, hid⟩⟩)
      (count_after hstored hid rfl))
  | recovered request rest stored hreached hstored huse => exact h.goOn (hactive.found hreached hstored huse)
  | collected request rest b hreached hnone hanswer hid hprovider hversion =>
    have hsnapshots := h.snapshots.collect hnone hid hprovider hversion
    have hstored : SystemOk runner plan
        { s with snapshots := s.snapshots ++ [collectedSnapshot request b], active := none } :=
      ⟨hsnapshots, h.gaps, fun p hp => (h.progress p hp).mono (List.subset_append_left _ _) le_rfl,
        fun _ ha => nomatch ha⟩
    exact hstored.goOn (hactive.found hreached (List.mem_append_right _ List.mem_cons_self)
      (collectedSnapshot_usableFor hversion))
  | quarantined request rest gap hreached hon hid hlineage =>
    have hgaps := h.gaps.append hlineage (hid ▸ hreached.not_mem_gaps hactive hon)
    have hstored : SystemOk runner plan { s with gaps := s.gaps ++ [gap], active := none } :=
      ⟨h.snapshots, hgaps, h.progress, fun _ ha => nomatch ha⟩
    have hmem : gap ∈ s.gaps ++ [gap] := List.mem_append_right _ List.mem_cons_self
    refine hstored.goOn (hactive.tail hreached.remaining rfl rfl rfl hreached.pending hactive.progress
      (List.Subset.refl _) (List.subset_append_left _ _) (fun e he => ?_)
      (.inr ⟨hon, List.mem_map.mpr ⟨gap, hmem, hid⟩⟩) (count_after hmem hid rfl))
    rcases List.mem_append.mp he with he | he
    · exact .inl he
    · obtain rfl := List.mem_singleton.mp he
      exact .inr hid
  | ceiling request rest gap hreached hon hid hlineage _ =>
    have hgaps := h.gaps.append hlineage (hid ▸ hreached.not_mem_gaps hactive hon)
    exact ⟨h.snapshots, hgaps, h.progress, fun _ ha => nomatch ha⟩
  | completed request stored recovered hpending hclock =>
    obtain ⟨hhead, hnew, hstored, huse, -⟩ := hactive.pending request stored recovered hpending
    obtain ⟨rest, hremaining⟩ : ∃ rest, a.remaining = request :: rest := by
      cases hrest : a.remaining with
      | nil => rw [hrest] at hhead; cases hhead
      | cons first rest =>
        rw [hrest] at hhead
        obtain rfl := Option.some.inj hhead
        exact ⟨rest, rfl⟩
    have hcomplete := hp.complete recovered (hactive.mem_requests hremaining) hnew hstored huse hclock
    have hsaved : SystemOk runner plan { s with
        progress := some (completedProgress runner plan a.progress s.clock request stored recovered),
        active := none } :=
      ⟨h.snapshots, h.gaps, fun q hq => Option.some.inj hq ▸ hcomplete, fun _ ha => nomatch ha⟩
    have hids : (completedProgress runner plan a.progress s.clock request stored recovered).requestIds.Perm
        (a.progress.requestIds ++ [request.requestId]) := completedProgress_requestIds
    refine hsaved.goOn (hactive.tail hremaining rfl rfl (by rw [hremaining]; rfl) rfl rfl (fun id hid => ?_)
      (List.Subset.refl _) (fun e he => .inl he) (.inl ?_) (.inl rfl))
    · exact hids.mem_iff.mpr (List.mem_append_left _ hid)
    · exact hids.mem_iff.mpr (List.mem_append_right _ List.mem_cons_self)

end Preservation

end Backfill

end IndiaSwing
