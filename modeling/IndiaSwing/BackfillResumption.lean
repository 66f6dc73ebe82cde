import IndiaSwing.BackfillRuns

namespace IndiaSwing

open ExceptGuards KeySort ActionRuns

namespace Backfill

variable {hex : ContentId → String} {runner : Runner} {plan : BackfillPlan hex}

section Growth

variable {s s' start : System} {a : ActiveRun} {answer : ProviderAnswer} {event : Event}

/-- What a later state keeps of an earlier one. -/
structure Grows (s s' : System) : Prop where
  snapshots : s.snapshots ⊆ s'.snapshots
  completions : ∀ p, s.progress = some p → ∃ p', s'.progress = some p' ∧ p.completions ⊆ p'.completions
  clock : s.clock ≤ s'.clock

theorem Grows.same (hsnapshots : s'.snapshots = s.snapshots) (hprogress : s'.progress = s.progress)
    (hclock : s'.clock = s.clock) : Grows s s' := by
  refine ⟨?_, fun p hp => ⟨p, hprogress.trans hp, List.Subset.refl _⟩, hclock.symm.le⟩
  rw [hsnapshots]
  exact List.Subset.refl _

theorem Grows.trans {s'' : System} (h : Grows s s') (h' : Grows s' s'') : Grows s s'' := by
  refine ⟨List.Subset.trans h.snapshots h'.snapshots, fun p hp => ?_, h.clock.trans h'.clock⟩
  obtain ⟨p', hp', hsub⟩ := h.completions p hp
  obtain ⟨p'', hp'', hsub'⟩ := h'.completions p' hp'
  exact ⟨p'', hp'', List.Subset.trans hsub hsub'⟩

theorem Grows.wait (s : System) (delay : ℕ) : Grows s { s with clock := s.clock + delay } :=
  ⟨List.Subset.refl _, fun p hp => ⟨p, hp, List.Subset.refl _⟩, Int.le_add_of_nonneg_right (Int.natCast_nonneg delay)⟩

theorem Started.grows {call : RunCall} {reading : Instant} (hstarted : Started runner plan s call reading s') :
    Grows s s' := by
  cases hstarted with
  | refused e _ => exact Grows.same rfl rfl rfl
  | begun gaps p _ _ hp _ =>
    refine ⟨List.Subset.refl _, fun q hq => ⟨p, rfl, ?_⟩, le_rfl⟩
    rcases hp with hp | ⟨hnone, -⟩
    · obtain rfl := Option.some.inj (hq.symm.trans hp)
      exact List.Subset.refl _
    · rw [hnone] at hq
      cases hq

theorem Advanced.grows (hok : SystemOk runner plan s) (ha : s.active = some a)
    (hadvanced : Advanced runner plan s a answer s') : Grows s s' := by
  cases hadvanced with
  | collected request rest b _ _ _ _ _ _ =>
    exact ⟨List.subset_append_left _ _, fun p hp => ⟨p, hp, List.Subset.refl _⟩, le_rfl⟩
  | completed request stored recovered _ _ =>
    refine ⟨List.Subset.refl _, fun p hp => ⟨_, rfl, fun c hc => ?_⟩, le_rfl⟩
    obtain rfl := Option.some.inj ((hok.active a ha).progress.symm.trans hp)
    exact mem_completedProgress.mpr (.inl hc)
  | _ => exact Grows.same rfl rfl rfl

theorem step_grows (hok : SystemOk runner plan s) (event : Event) : Grows s (step runner plan s event) := by
  have hstepped := step_stepped hok event
  generalize step runner plan s event = s' at hstepped
  cases hstepped with
  | idle event _ => exact Grows.same rfl rfl rfl
  | killed => exact Grows.same rfl rfl rfl
  | started call gapDelay progressDelay s' _ hstarted =>
    have hread : Grows s { s with clock := s.clock + gapDelay + progressDelay, outcome := none } :=
      ((Grows.wait s gapDelay).trans (Grows.wait _ progressDelay)).trans (Grows.same rfl rfl rfl)
    exact hread.trans hstarted.grows
  | advanced a answer delay s' ha hadvanced => exact (Grows.wait s delay).trans (hadvanced.grows (hok.wait delay) ha)

theorem run_grows (hok : SystemOk runner plan s) (events : List Event) :
    Grows s (run (step runner plan) s events) := by
  induction events generalizing s with
  | nil => exact Grows.same rfl rfl rfl
  | cons event events ih => exact (step_grows hok event).trans (ih (step_ok hok event))

/-- A run that goes on has not ended. -/
theorem outcome_of_active (hfresh : Fresh runner plan start) (events : List Event)
    (ha : (run (step runner plan) start events).active = some a) :
    (run (step runner plan) start events).outcome = none := by
  have hinvariant : SystemOk runner plan (run (step runner plan) start events) ∧
      ∀ a, (run (step runner plan) start events).active = some a →
        (run (step runner plan) start events).outcome = none := by
    refine run_invariant (I := fun s => SystemOk runner plan s ∧ ∀ a, s.active = some a → s.outcome = none)
      ⟨hfresh.ok, fun _ _ => hfresh.outcome⟩ (fun s event hs => ⟨step_ok hs.1 event, ?_⟩) events
    have hstepped := step_stepped hs.1 event
    generalize step runner plan s event = s' at hstepped
    intro b hb
    cases hstepped with
    | idle event _ => exact hs.2 b hb
    | killed => cases hb
    | started call gapDelay progressDelay s' _ hstarted =>
      cases hstarted with
      | refused e _ => cases hb
      | begun gaps p _ _ _ _ => rfl
    | advanced a answer delay s' ha hadvanced =>
      have hnone := hs.2 a ha
      cases hadvanced <;> first | exact hnone | cases hb
  exact hinvariant.2 a ha

end Growth

section History

variable {s s' start : System} {a : ActiveRun} {event : Event} {r : DailyRequest} {b : CandleBatch}

variable (runner plan start) in
/-- In a run of events the provider was asked for a request and answered with a batch. -/
def Answered (events : List Event) (r : DailyRequest) (b : CandleBatch) : Prop :=
  ∃ before delay after a, events = before ++ .advance (.batch b) delay :: after ∧
    (run (step runner plan) start before).active = some a ∧
      Asked runner (run (step runner plan) start before) a r

theorem Answered.append {events more : List Event} (h : Answered runner plan start events r b) :
    Answered runner plan start (events ++ more) r b := by
  obtain ⟨before, delay, after, a, rfl, ha, hasked⟩ := h
  exact ⟨before, delay, after ++ more, a, by simp, ha, hasked⟩

/-- A snapshot that a step adds is the answer to the request that it asked for. -/
theorem Advanced.snapshots {answer : ProviderAnswer} (hadvanced : Advanced runner plan s a answer s') :
    s'.snapshots = s.snapshots ∨ ∃ request b, Asked runner s a request ∧ answer = .batch b ∧
      s'.snapshots = s.snapshots ++ [collectedSnapshot request b] := by
  cases hadvanced with
  | collected request rest b hreached hnone hanswer _ _ _ =>
    exact .inr ⟨request, b, ⟨⟨rest, hreached⟩, hnone⟩, hanswer, rfl⟩
  | _ => exact .inl rfl

/-- Every stored snapshot was there at first or is an answer of the provider. -/
theorem snapshots_answered (hfresh : Fresh runner plan start) (events : List Event) :
    ∀ t ∈ (run (step runner plan) start events).snapshots, t ∈ start.snapshots ∨
      ∃ r b, Answered runner plan start events r b ∧ t = collectedSnapshot r b := by
  induction events using List.reverseRecOn with
  | nil => exact fun t ht => .inl ht
  | append_singleton events event ih =>
    have hold : ∀ t ∈ (run (step runner plan) start events).snapshots, t ∈ start.snapshots ∨
        ∃ r b, Answered runner plan start (events ++ [event]) r b ∧ t = collectedSnapshot r b := by
      intro t ht
      rcases ih t ht with ht | ⟨r, b, hanswered, rfl⟩
      · exact .inl ht
      · exact .inr ⟨r, b, hanswered.append, rfl⟩
    have hstepped := step_stepped (hfresh.run_ok events) event
    rw [run_concat]
    generalize step runner plan (run (step runner plan) start events) event = s' at hstepped
    intro t ht
    cases hstepped with
    | idle event _ => exact hold t ht
    | killed => exact hold t ht
    | started call gapDelay progressDelay s' _ hstarted =>
      cases hstarted with
      | refused e _ => exact hold t ht
      | begun gaps p _ _ _ _ => exact hold t ht
    | advanced a answer delay s' ha hadvanced =>
      rcases hadvanced.snapshots with hsame | ⟨request, b, hasked, rfl, hmore⟩
      · rw [hsame] at ht
        exact hold t ht
      · rw [hmore] at ht
        rcases List.mem_append.mp ht with ht | ht
        · exact hold t ht
        · obtain rfl := List.mem_singleton.mp ht
          exact .inr ⟨request, b, ⟨events, delay, [], a, rfl, ha, hasked⟩, rfl⟩

end History

section Completion

variable {s s' start : System} {a : ActiveRun} {answer : ProviderAnswer} {p : Progress}

/-- The run that ends without a failure returns what is stored, at its limit or behind its last request. -/
theorem Advanced.of_finished (hok : SystemOk runner plan s) (ha : s.active = some a) (hnone : s.outcome = none)
    (hadvanced : Advanced runner plan s a answer s') (hfinished : s'.outcome = some (.finished p)) :
    s' = s.finish p ∧ s.progress = some p ∧ a.progress = p ∧
      (a.remaining = [] ∨ a.call.maximumRequests.any (fun maximum => decide (maximum ≤ a.processed)) = true) := by
  cases hadvanced with
  | finished _ hend =>
    obtain rfl : a.progress = p := by simpa [System.finish] using hfinished
    exact ⟨rfl, (hok.active a ha).progress, rfl, hend⟩
  | refused e _ => simp [System.fail] at hfinished
  | ceiling request rest gap _ _ _ _ _ => simp [System.fail] at hfinished
  | _ =>
    have hrunning : s.outcome = some (.finished p) := hfinished
    rw [hnone] at hrunning
    cases hrunning

/-- Without a limit and a gap, every request of the plan is complete at the end. -/
theorem ActiveOk.complete_of_end (h : ActiveOk runner plan s.snapshots s.gaps s.progress a)
    (hmode : a.call.quarantineEnabled = false ∨ s.gaps = []) (hend : a.remaining = []) :
    ∀ r ∈ plan.1.requests, r.requestId ∈ a.progress.requestIds := by
  obtain ⟨earlier, recent, hat⟩ := h.position
  intro r hr
  rw [hat.split, hend, List.append_nil] at hr
  rcases hat.passed r hr with hcomplete | ⟨hon, hgap⟩
  · exact hcomplete
  · rcases hmode with hoff | hnone
    · rw [hoff] at hon
      cases hon
    · rw [hnone] at hgap
      cases hgap

theorem ProgressOk.isComplete {snapshots : List StoredSnapshot} {clock : Instant}
    (h : ProgressOk runner plan snapshots clock p) (hall : ∀ r ∈ plan.1.requests, r.requestId ∈ p.requestIds) :
    isComplete plan p = .ok true := by
  have hbelongs : ¬(p.planId ≠ plan.1.planId ∨ p.provider ≠ plan.1.provider) := by
    push Not
    exact ⟨h.planId, h.provider⟩
  have hsame : (plan.1.requests.map (·.requestId)).toFinset = p.requestIds.toFinset := by
    ext id
    rw [List.mem_toFinset, List.mem_toFinset]
    refine ⟨fun hid => ?_, h.requests id⟩
    obtain ⟨r, hr, rfl⟩ := List.mem_map.mp hid
    exact hall r hr
  unfold Backfill.isComplete
  rw [raiseIf_neg hbelongs, ok_bind, decide_eq_true hsame]
  rfl

/-- The pairs of a request and its snapshot. -/
def Progress.pairs (p : Progress) : List (ContentId × ContentId) :=
  p.completions.map fun c => (c.requestId, c.snapshotId)

theorem ProgressOk.exists_usable {snapshots : List StoredSnapshot} {clock : Instant} {r : DailyRequest}
    (h : ProgressOk runner plan snapshots clock p) (hr : r.requestId ∈ p.requestIds) :
    ∃ t ∈ snapshots, t.UsableFor runner r.requestId ∧ t.observedAt ≤ clock ∧ (r.requestId, t.snapshotId) ∈ p.pairs := by
  obtain ⟨c, hc, hid⟩ := List.mem_map.mp hr
  obtain ⟨t, ht, hsnapshot, huse, hclock⟩ := h.snapshots c hc
  rw [hid] at huse
  refine ⟨t, ht, huse, hclock, List.mem_map.mpr ⟨c, hc, ?_⟩⟩
  rw [hid, hsnapshot]

theorem ProgressOk.pairs_nodup {snapshots : List StoredSnapshot} {clock : Instant}
    (h : ProgressOk runner plan snapshots clock p) : p.pairs.Nodup := by
  have hfirst : (p.pairs.map Prod.fst).Nodup := by
    unfold Progress.pairs
    rw [List.map_map]
    exact h.once
  exact List.Nodup.of_map _ hfirst

theorem pairs_subset {snapshots others : List StoredSnapshot} {clock clock' : Instant} {p' : Progress}
    (h : ProgressOk runner plan snapshots clock p) (h' : ProgressOk runner plan others clock' p')
    (hall' : ∀ r ∈ plan.1.requests, r.requestId ∈ p'.requestIds)
    (hsame : ∀ r ∈ plan.1.requests, ∀ t ∈ snapshots, ∀ u ∈ others, t.UsableFor runner r.requestId →
      u.UsableFor runner r.requestId → t = u) : p.pairs ⊆ p'.pairs := by
  intro pair hpair
  obtain ⟨c, hc, rfl⟩ := List.mem_map.mp hpair
  obtain ⟨r, hr, hrid⟩ := List.mem_map.mp (h.requests _ (List.mem_map_of_mem hc))
  obtain ⟨t, ht, hsnapshot, huse, -⟩ := h.snapshots c hc
  obtain ⟨u, hu, huuse, -, hmem⟩ := h'.exists_usable (hall' r hr)
  have htu := hsame r hr t ht u hu (hrid ▸ huse) huuse
  rw [← htu, hsnapshot] at hmem
  exact hrid ▸ hmem

/-- Two progresses that complete every request by the same snapshots have the same pairs. -/
theorem pairs_perm {snapshots others : List StoredSnapshot} {clock clock' : Instant} {p' : Progress}
    (h : ProgressOk runner plan snapshots clock p) (h' : ProgressOk runner plan others clock' p')
    (hall : ∀ r ∈ plan.1.requests, r.requestId ∈ p.requestIds)
    (hall' : ∀ r ∈ plan.1.requests, r.requestId ∈ p'.requestIds)
    (hsame : ∀ r ∈ plan.1.requests, ∀ t ∈ snapshots, ∀ u ∈ others, t.UsableFor runner r.requestId →
      u.UsableFor runner r.requestId → t = u) : p.pairs.Perm p'.pairs := by
  have hsame' : ∀ r ∈ plan.1.requests, ∀ u ∈ others, ∀ t ∈ snapshots, u.UsableFor runner r.requestId →
      t.UsableFor runner r.requestId → u = t :=
    fun r hr u hu t ht huuse htuse => (hsame r hr t ht u hu htuse huuse).symm
  refine (List.perm_ext_iff_of_nodup h.pairs_nodup h'.pairs_nodup).mpr fun pair => ⟨fun hpair => ?_, fun hpair => ?_⟩
  · exact pairs_subset h h' hall' hsame hpair
  · exact pairs_subset h' h hall hsame' hpair

end Completion

section Uninterrupted

variable {s s' start : System} {a : ActiveRun} {p : Progress} {r : DailyRequest} {rest : List DailyRequest}

/-- A run without options and limit. -/
def plainCall : RunCall := ⟨none, false, false⟩

/-- What is left of one uninterrupted run, when the provider answers each request with one batch. -/
def uninterrupted (answers : DailyRequest → CandleBatch) : List DailyRequest → List Event
  | [] => [.advance .raises 0]
  | r :: rest => .advance (.batch (answers r)) 0 :: .advance .raises 0 :: uninterrupted answers rest

variable (runner s) in
/-- The request has a snapshot that the clock has reached, or an answer of the connector. -/
structure Ready (answers : DailyRequest → CandleBatch) (r : DailyRequest) : Prop where
  stored : ∀ t ∈ s.snapshots, t.UsableFor runner r.requestId → t.observedAt ≤ s.clock
  answer : (∀ t ∈ s.snapshots, ¬t.UsableFor runner r.requestId) →
    ¬(ProviderAnswer.batch (answers r)).Uncollected runner r ∧ (answers r).observedAt ≤ s.clock

variable (s a) in
/-- A run without options, between two requests, with nothing of the rest complete. -/
structure Uncompleted : Prop where
  active : s.active = some a
  call : a.call = plainCall
  pending : a.pending = none
  incomplete : ∀ r ∈ a.remaining, r.requestId ∉ a.progress.requestIds

theorem step_advance_now (hok : SystemOk runner plan s) (ha : s.active = some a) (answer : ProviderAnswer) :
    Advanced runner plan s a answer (step runner plan s (.advance answer 0)) := by
  have hadvanced := step_advance hok ha answer 0
  have hclock : s.clock + (0 : ℕ) = s.clock := Int.add_zero s.clock
  rw [hclock] at hadvanced
  exact hadvanced

theorem not_refused {answer : ProviderAnswer} {gaps : List GapEvidence} {e : RunError}
    (hoff : a.call.quarantineEnabled = false)
    (hpending : ∀ request stored recovered, a.pending = some (request, stored, recovered) → stored.observedAt ≤ s.clock)
    (hasked : ∀ request, Asked runner s a request →
      ¬answer.Uncollected runner request ∧ ∃ b, answer = .batch b) :
    ¬AdvanceRefused runner plan s a answer gaps e := by
  intro hrefused
  cases e <;> try exact hrefused
  case clockBehind =>
    rcases hrefused with ⟨request, stored, recovered, hfound, hclock⟩ | ⟨hon, -⟩
    · exact absurd (hpending request stored recovered hfound) (not_le.mpr hclock)
    · rw [hoff] at hon
      cases hon
  case provider =>
    obtain ⟨request, hrequest, hanswer⟩ := hrefused
    obtain ⟨-, b, rfl⟩ := hasked request hrequest
    rcases hanswer with hanswer | ⟨e, he⟩
    · cases hanswer
    · cases he
  case collection =>
    obtain ⟨request, hrequest, huncollected⟩ := hrefused
    exact (hasked request hrequest).1 huncollected
  case responseLineage => exact absurd hrefused.1 (Bool.eq_false_iff.mp hoff)
  case safetyCeiling => exact absurd hrefused.1 (Bool.eq_false_iff.mp hoff)

/-- Asked for a request, a run without options has a snapshot for it at the next write. -/
theorem snapshot_of_ready {answers : DailyRequest → CandleBatch} (h : Uncompleted s a)
    (hremaining : a.remaining = r :: rest) (hready : Ready runner s answers r)
    (hgaps : a.gaps = [])
    (hadvanced : Advanced runner plan s a (.batch (answers r)) s') :
    ∃ stored recovered, s'.active = some { a with pending := some (r, stored, recovered) } ∧
      s'.clock = s.clock ∧ stored.observedAt ≤ s.clock ∧
      (s'.snapshots = s.snapshots ∨ s'.snapshots = s.snapshots ++ [collectedSnapshot r (answers r)]) := by
  have hoff : a.call.quarantineEnabled = false := by rw [h.call]; rfl
  have hincomplete := h.incomplete r (hremaining ▸ List.mem_cons_self)
  cases hadvanced with
  | finished _ hend =>
    rcases hend with hend | hend
    · rw [hremaining] at hend
      cases hend
    · rw [h.call] at hend
      cases hend
  | refused e hrefused =>
    refine absurd hrefused (not_refused hoff (fun _ _ _ hpending => ?_) fun request hasked => ?_)
    · rw [h.pending] at hpending
      cases hpending
    · obtain ⟨⟨rest', hreached⟩, hnone⟩ := hasked
      obtain ⟨rfl, -⟩ := List.cons.inj (hremaining.symm.trans hreached.remaining)
      exact ⟨(hready.answer hnone).1, _, rfl⟩
  | passed request rest' _ hremaining' hcomplete =>
    obtain ⟨rfl, -⟩ := List.cons.inj (hremaining.symm.trans hremaining')
    exact absurd hcomplete hincomplete
  | skipped request rest' gap _ _ hgap _ =>
    rw [hgaps] at hgap
    cases hgap
  | recovered request rest' stored hreached hstored huse =>
    obtain ⟨rfl, -⟩ := List.cons.inj (hremaining.symm.trans hreached.remaining)
    exact ⟨stored, true, rfl, rfl, hready.stored stored hstored huse, .inl rfl⟩
  | collected request rest' b hreached hnone hanswer _ _ _ =>
    obtain ⟨rfl, -⟩ := List.cons.inj (hremaining.symm.trans hreached.remaining)
    obtain rfl := ProviderAnswer.batch.inj hanswer
    exact ⟨_, false, rfl, rfl, (hready.answer hnone).2, .inr rfl⟩
  | quarantined request rest' gap _ hon _ _ =>
    rw [hoff] at hon
    cases hon
  | ceiling request rest' gap _ hon _ _ _ =>
    rw [hoff] at hon
    cases hon
  | completed request stored recovered hpending _ =>
    rw [h.pending] at hpending
    cases hpending

/-- With a snapshot that the clock has reached, the request is complete after the next write. -/
theorem completed_of_pending {stored : StoredSnapshot} {recovered : Bool} {answer : ProviderAnswer}
    (hoff : a.call.quarantineEnabled = false) (hpending : a.pending = some (r, stored, recovered))
    (hclock : stored.observedAt ≤ s.clock) (hadvanced : Advanced runner plan s a answer s') :
    ∃ a', s'.active = some a' ∧ a'.call = a.call ∧ a'.pending = none ∧ a'.remaining = a.remaining.tail ∧
      a'.progress.requestIds.Perm (a.progress.requestIds ++ [r.requestId]) ∧
      s'.clock = s.clock ∧ s'.snapshots = s.snapshots := by
  have hbusy : ∀ {request rest'}, ¬Reached a request rest' := by
    intro request rest' hreached
    rw [hreached.pending] at hpending
    cases hpending
  cases hadvanced with
  | finished hnone _ =>
    rw [hnone] at hpending
    cases hpending
  | refused e hrefused =>
    refine absurd hrefused (not_refused hoff (fun _ _ _ hfound => ?_) fun request hasked => ?_)
    · obtain ⟨-, rfl, -⟩ : r = _ ∧ stored = _ ∧ recovered = _ := by simpa using hpending.symm.trans hfound
      exact hclock
    · obtain ⟨⟨rest', hreached⟩, -⟩ := hasked
      exact absurd hreached hbusy
  | passed request rest' hnone _ _ =>
    rw [hnone] at hpending
    cases hpending
  | skipped request rest' gap hnone _ _ _ =>
    rw [hnone] at hpending
    cases hpending
  | recovered request rest' stored' hreached _ _ => exact absurd hreached hbusy
  | collected request rest' b hreached _ _ _ _ _ => exact absurd hreached hbusy
  | quarantined request rest' gap hreached _ _ _ => exact absurd hreached hbusy
  | ceiling request rest' gap hreached _ _ _ _ => exact absurd hreached hbusy
  | completed request stored' recovered' hfound _ =>
    obtain ⟨rfl, rfl, rfl⟩ : r = request ∧ stored = stored' ∧ recovered = recovered' := by
      simpa using hpending.symm.trans hfound
    exact ⟨_, rfl, rfl, rfl, rfl, completedProgress_requestIds, rfl, rfl⟩

/-- One uninterrupted run gets to its end, with nothing but the answers added to the snapshots. -/
theorem uninterrupted_finishes {answers : DailyRequest → CandleBatch} (hok : SystemOk runner plan s)
    (h : Uncompleted s a) (hready : ∀ r ∈ a.remaining, Ready runner s answers r) :
    (∃ p, (run (step runner plan) s (uninterrupted answers a.remaining)).outcome = some (.finished p) ∧
      (run (step runner plan) s (uninterrupted answers a.remaining)).progress = some p ∧
        ∀ r ∈ plan.1.requests, r.requestId ∈ p.requestIds) ∧
      ∀ t ∈ (run (step runner plan) s (uninterrupted answers a.remaining)).snapshots,
        t ∈ s.snapshots ∨ ∃ r ∈ a.remaining, t = collectedSnapshot r (answers r) := by
  generalize hremaining : a.remaining = remaining
  induction remaining generalizing s a with
  | nil =>
    have hactive := hok.active a h.active
    have hoff : a.call.quarantineEnabled = false := by rw [h.call]; rfl
    have hadvanced := step_advance_now hok h.active .raises
    show (∃ p, (step runner plan s (.advance .raises 0)).outcome = some (.finished p) ∧
      (step runner plan s (.advance .raises 0)).progress = some p ∧ _) ∧
      ∀ t ∈ (step runner plan s (.advance .raises 0)).snapshots, _
    generalize step runner plan s (.advance .raises 0) = s' at hadvanced
    have hnone : ∀ {request rest'}, a.remaining ≠ request :: rest' := by
      intro request rest' heq
      rw [hremaining] at heq
      cases heq
    cases hadvanced with
    | finished _ _ =>
      exact ⟨⟨a.progress, rfl, hactive.progress, hactive.complete_of_end (.inl hoff) hremaining⟩, fun t ht => .inl ht⟩
    | refused e hrefused =>
      refine absurd hrefused (not_refused hoff (fun _ _ _ hpending => ?_) fun request hasked => ?_)
      · rw [h.pending] at hpending
        cases hpending
      · obtain ⟨⟨rest', hreached⟩, -⟩ := hasked
        exact absurd hreached.remaining hnone
    | passed request rest' _ heq _ => exact absurd heq hnone
    | skipped request rest' gap _ heq _ _ => exact absurd heq hnone
    | recovered request rest' stored hreached _ _ => exact absurd hreached.remaining hnone
    | collected request rest' b hreached _ _ _ _ _ => exact absurd hreached.remaining hnone
    | quarantined request rest' gap hreached _ _ _ => exact absurd hreached.remaining hnone
    | ceiling request rest' gap hreached _ _ _ _ => exact absurd hreached.remaining hnone
    | completed request stored recovered hpending _ =>
      rw [h.pending] at hpending
      cases hpending
  | cons r rest ih =>
    have hactive := hok.active a h.active
    have hoff : a.call.quarantineEnabled = false := by rw [h.call]; rfl
    have hids := hactive.remaining_nodup
    rw [hremaining, List.map_cons, List.nodup_cons] at hids
    have hother : ∀ r' ∈ rest, r'.requestId ≠ r.requestId :=
      fun r' hr' heq => hids.1 (heq ▸ List.mem_map_of_mem hr')
    -- the write of the snapshot, if it is not there, and the write of the progress
    have hfirst := step_ok hok (.advance (.batch (answers r)) 0)
    obtain ⟨stored, recovered, hactive₁, hclock₁, hobserved, hsnapshots₁⟩ :=
      snapshot_of_ready h hremaining (hready r (hremaining ▸ List.mem_cons_self)) (hactive.noGaps hoff)
        (step_advance_now hok h.active (.batch (answers r)))
    have hsecond := step_ok hfirst (.advance .raises 0)
    obtain ⟨a', hactive₂, hcall, hpending, htail, hperm, hclock₂, hsnapshots₂⟩ :=
      completed_of_pending (a := { a with pending := some (r, stored, recovered) }) hoff rfl
        (hobserved.trans hclock₁.ge) (step_advance_now hfirst hactive₁ .raises)
    have hrest : a'.remaining = rest := by rw [htail, hremaining]; rfl
    have hclock := hclock₂.trans hclock₁
    rw [← hsnapshots₂] at hsnapshots₁
    show (∃ p, (run (step runner plan) _ (uninterrupted answers rest)).outcome = _ ∧
      (run (step runner plan) _ (uninterrupted answers rest)).progress = _ ∧ _) ∧
      ∀ t ∈ (run (step runner plan) _ (uninterrupted answers rest)).snapshots, _
    generalize step runner plan (step runner plan s (.advance (.batch (answers r)) 0)) (.advance .raises 0) = s₂ at *
    have hold : s.snapshots ⊆ s₂.snapshots := by
      rcases hsnapshots₁ with hsame | hmore
      · rw [hsame]
        exact List.Subset.refl _
      · rw [hmore]
        exact List.subset_append_left _ _
    have hnew : ∀ t ∈ s₂.snapshots, t ∈ s.snapshots ∨ t = collectedSnapshot r (answers r) := by
      intro t ht
      rcases hsnapshots₁ with hsame | hmore
      · exact .inl (hsame ▸ ht)
      · rw [hmore] at ht
        exact (List.mem_append.mp ht).imp id List.mem_singleton.mp
    have huncompleted : Uncompleted s₂ a' := by
      refine ⟨hactive₂, hcall.trans h.call, hpending, fun r' hr' hid => ?_⟩
      rw [hrest] at hr'
      rcases List.mem_append.mp (hperm.mem_iff.mp hid) with hid | hid
      · exact h.incomplete r' (hremaining ▸ List.mem_cons_of_mem _ hr') hid
      · exact hother r' hr' (List.mem_singleton.mp hid)
    have hready' : ∀ r' ∈ a'.remaining, Ready runner s₂ answers r' := by
      intro r' hr'
      rw [hrest] at hr'
      have hbefore := hready r' (hremaining ▸ List.mem_cons_of_mem _ hr')
      refine ⟨fun t ht huse => ?_, fun hnone => ?_⟩
      · rw [hclock]
        rcases hnew t ht with ht | rfl
        · exact hbefore.stored t ht huse
        · exact absurd huse.1.symm (hother r' hr')
      · rw [hclock]
        exact hbefore.answer fun t ht => hnone t (hold ht)
    obtain ⟨hfinished, hadded⟩ := ih hsecond huncompleted hready' hrest
    refine ⟨hfinished, fun t ht => ?_⟩
    rcases hadded t ht with ht | ⟨r', hr', rfl⟩
    · rcases hnew t ht with ht | rfl
      · exact .inl ht
      · exact .inr ⟨r, List.mem_cons_self, rfl⟩
    · exact .inr ⟨r', List.mem_cons_of_mem _ hr', rfl⟩

end Uninterrupted

section Resumption

variable {s start : System} {a : ActiveRun} {p : Progress} {answer : ProviderAnswer}

/-- The batch that the provider gave for a request, where its snapshot was not there at first. -/
theorem exists_answers (hfresh : Fresh runner plan start) (events : List Event) (p : Progress)
    (hp : (run (step runner plan) start events).progress = some p)
    (hall : ∀ r ∈ plan.1.requests, r.requestId ∈ p.requestIds) :
    ∃ answers : DailyRequest → CandleBatch, ∀ r ∈ plan.1.requests,
      ∃ t ∈ (run (step runner plan) start events).snapshots, t.UsableFor runner r.requestId ∧
        t.observedAt ≤ (run (step runner plan) start events).clock ∧
        (t ∈ start.snapshots ∨
          (Answered runner plan start events r (answers r) ∧ t = collectedSnapshot r (answers r))) := by
  have hok := hfresh.run_ok events
  have hbatch : ∀ r : DailyRequest, ∃ b : CandleBatch, r ∈ plan.1.requests →
      ∃ t ∈ (run (step runner plan) start events).snapshots, t.UsableFor runner r.requestId ∧
        t.observedAt ≤ (run (step runner plan) start events).clock ∧
        (t ∈ start.snapshots ∨ (Answered runner plan start events r b ∧ t = collectedSnapshot r b)) := by
    intro r
    by_cases hr : r ∈ plan.1.requests
    · obtain ⟨t, ht, huse, hclock, -⟩ := (hok.progress p hp).exists_usable (hall r hr)
      rcases snapshots_answered hfresh events t ht with hstart | ⟨r', b, hanswered, rfl⟩
      · exact ⟨⟨r, 0, "", .absent⟩, fun _ => ⟨t, ht, huse, hclock, .inl hstart⟩⟩
      · have hrequest : r' = r := by
          obtain ⟨before, _, _, a, _, ha, ⟨⟨rest, hreached⟩, -⟩⟩ := hanswered
          have hr' := ((hfresh.run_ok before).active a ha).mem_requests hreached.remaining
          exact List.inj_on_of_nodup_map plan.planRequests.ids hr' hr huse.1
        subst hrequest
        exact ⟨b, fun _ => ⟨_, ht, huse, hclock, .inr ⟨hanswered, rfl⟩⟩⟩
    · exact ⟨⟨r, 0, "", .absent⟩, fun h => absurd h hr⟩
  choose answers hanswers using hbatch
  exact ⟨answers, fun r hr => hanswers r hr⟩

theorem connector_of_checkCall {call : RunCall} (h : checkCall runner plan call = .ok ()) :
    ¬(runner.provider ≠ plan.1.provider ∨ runner.providerVersion = "") := by
  obtain ⟨-, h⟩ := raiseIf_bind_eq_ok.mp h
  obtain ⟨-, h⟩ := raiseIf_bind_eq_ok.mp h
  exact raiseIf_eq_ok.mp h

/-- A run without options on stores that no run has written to starts. -/
theorem Fresh.starts (hfresh : Fresh runner plan start) (delay : ℕ) (hconnector : ¬(runner.provider ≠ plan.1.provider ∨ runner.providerVersion = ""))
    (hclock : plan.1.requestedAt ≤ start.clock + delay) :
    ∃ a, Uncompleted (step runner plan start (.start plainCall delay 0)) a ∧ a.remaining = plan.1.requests ∧
      (step runner plan start (.start plainCall delay 0)).snapshots = start.snapshots ∧
      (step runner plan start (.start plainCall delay 0)).clock = start.clock + delay := by
  have hstarted := step_start hfresh.ok hfresh.active plainCall delay 0
  generalize step runner plan start (.start plainCall delay 0) = s' at hstarted
  cases hstarted with
  | refused e hrefused =>
    have hnot : ¬StartRefused runner plan { start with clock := start.clock + delay + (0 : ℕ), outcome := none }
        plainCall (start.clock + delay) e := by
      intro hrefused
      cases e <;> try exact hrefused
      case invalidCall => rcases hrefused with h | ⟨h, -⟩ <;> cases h
      case connectorMismatch => exact hconnector hrefused
      case clockBehind => exact absurd hclock (not_le.mpr hrefused)
      case gapNeedsOption => cases hrefused.1
      case completeAndUnresolved => cases hrefused.1
    exact absurd hrefused hnot
  | begun gaps p _ _ hp _ =>
    have hfirst : p.requestIds = [] := by
      rcases hp with hp | ⟨-, rfl⟩
      · have hsome : start.progress = some p := hp
        rw [hfresh.progress] at hsome
        cases hsome
      · rfl
    refine ⟨_, ⟨rfl, rfl, rfl, fun r _ hr => ?_⟩, rfl, rfl, Int.add_zero _⟩
    rw [hfirst] at hr
    cases hr

variable (runner plan start) in
/-- An uninterrupted run with one batch for each request ends with the pairs of a progress. -/
def SamePairs (answers : DailyRequest → CandleBatch) (p : Progress) : Prop :=
  ∃ delay p', (run (step runner plan) start
    (.start plainCall delay 0 :: uninterrupted answers plan.1.requests)).outcome = some (.finished p') ∧
      p.pairs.Perm p'.pairs

/-- Whatever interrupted runs came before, the pairs at the end are those of one uninterrupted run. -/
theorem same_as_uninterrupted (hfresh : Fresh runner plan start) (events : List Event)
    (hconnector : ¬(runner.provider ≠ plan.1.provider ∨ runner.providerVersion = ""))
    (hp : (run (step runner plan) start events).progress = some p)
    (hall : ∀ r ∈ plan.1.requests, r.requestId ∈ p.requestIds) :
    ∃ answers : DailyRequest → CandleBatch,
      (∀ r ∈ plan.1.requests, Answered runner plan start events r (answers r) ∨
        ∃ t ∈ start.snapshots, t.UsableFor runner r.requestId) ∧ SamePairs runner plan start answers p := by
  obtain ⟨answers, hanswers⟩ := exists_answers hfresh events p hp hall
  have hok := hfresh.run_ok events
  have hgrows := run_grows hfresh.ok events
  generalize run (step runner plan) start events = s at *
  refine ⟨answers, fun r hr => ?_, ?_⟩
  · obtain ⟨t, -, huse, -, hstart | ⟨hanswered, -⟩⟩ := hanswers r hr
    · exact .inr ⟨t, hstart, huse⟩
    · exact .inl hanswered
  -- the clock of the uninterrupted run starts late enough for every snapshot
  obtain ⟨delay, hdelay⟩ : ∃ delay : ℕ, start.clock + delay = max s.clock plan.1.requestedAt := by
    have hle : start.clock ≤ max s.clock plan.1.requestedAt := hgrows.clock.trans (le_max_left _ _)
    obtain ⟨delay, hdelay⟩ := Int.le.dest hle
    exact ⟨delay, hdelay⟩
  obtain ⟨a, huncompleted, hremaining, hsnapshots, hclock⟩ :=
    hfresh.starts delay hconnector (hdelay ▸ le_max_right _ _)
  have hstarted := step_ok hfresh.ok (.start plainCall delay 0)
  refine ⟨delay, ?_⟩
  show ∃ p', (run (step runner plan) (step runner plan start (.start plainCall delay 0))
    (uninterrupted answers plan.1.requests)).outcome = some (.finished p') ∧ p.pairs.Perm p'.pairs
  generalize step runner plan start (.start plainCall delay 0) = s₁ at *
  have hreached : s.clock ≤ s₁.clock := by
    rw [hclock, hdelay]
    exact le_max_left _ _
  have hready : ∀ r ∈ a.remaining, Ready runner s₁ answers r := by
    intro r hr
    rw [hremaining] at hr
    obtain ⟨t, ht, huse, hobserved, hsource⟩ := hanswers r hr
    refine ⟨fun u hu huuse => ?_, fun hnone => ?_⟩
    · have hsame := hok.snapshots.once r hr u (hgrows.snapshots (hsnapshots ▸ hu)) t ht huuse huse
      rw [hsame]
      exact hobserved.trans hreached
    · rcases hsource with hstart | ⟨-, rfl⟩
      · exact absurd huse (hnone t (hsnapshots ▸ hstart))
      · refine ⟨?_, hobserved.trans hreached⟩
        have hlineage := raiseIf_eq_ok.mp (hok.snapshots.lineage r hr _ ht huse)
        push Not at hlineage
        obtain ⟨-, -, -, hid, hprovider, hversion⟩ := hlineage
        rintro (hunsupported | ⟨b, hb, hwrong⟩)
        · cases hunsupported
        · obtain rfl := ProviderAnswer.batch.inj hb
          rcases hwrong with hwrong | hwrong | hwrong
          · exact hwrong hid
          · exact hwrong hprovider
          · exact hwrong hversion
  obtain ⟨⟨p', hfinished, hp', hall'⟩, hadded⟩ := uninterrupted_finishes hstarted huncompleted hready
  rw [hremaining] at hfinished hp' hadded
  have hend := run_ok hstarted (uninterrupted answers plan.1.requests)
  have hkept := (run_grows hstarted (uninterrupted answers plan.1.requests)).snapshots
  refine ⟨p', hfinished, pairs_perm (hok.progress p hp) (hend.progress p' hp') hall hall' ?_⟩
  intro r hr t ht u hu htuse huuse
  obtain ⟨t', ht', huse', -, hsource⟩ := hanswers r hr
  obtain rfl := hok.snapshots.once r hr t ht t' ht' htuse huse'
  rcases hadded u hu with hu₁ | ⟨r', hr', rfl⟩
  · exact hok.snapshots.once r hr t ht u (hgrows.snapshots (hsnapshots ▸ hu₁)) htuse huuse
  · obtain rfl := List.inj_on_of_nodup_map plan.planRequests.ids hr' hr huuse.1
    rcases hsource with hstart | ⟨-, rfl⟩
    · exact hend.snapshots.once r' hr t (hkept (hsnapshots ▸ hstart)) _ hu htuse huuse
    · rfl

variable (runner plan start) in
/-- What holds after a run of events: of the stores, of how the next step can fail and of how it can end. -/
structure Resumes (events : List Event) : Prop where
  oneSnapshot : ∀ r ∈ plan.1.requests,
    (matchingSnapshots hex runner (run (step runner plan) start events).snapshots r.requestId).length ≤ 1
  completionsGrow : ∀ more p, (run (step runner plan) start events).progress = some p →
    ∃ p', (run (step runner plan) start (events ++ more)).progress = some p' ∧ p.completions ⊆ p'.completions
  ownSnapshot : ∀ p, (run (step runner plan) start events).progress = some p → ∀ c ∈ p.completions,
    ∃ r ∈ plan.1.requests, r.requestId = c.requestId ∧
      ∃ t ∈ (run (step runner plan) start events).snapshots, t.snapshotId = c.snapshotId ∧
        checkMatching runner r.requestId t runner.providerVersion = .ok ()
  startFails : ∀ call gapDelay progressDelay e, (run (step runner plan) start events).active = none →
    (step runner plan (run (step runner plan) start events) (.start call gapDelay progressDelay)).outcome =
      some (.failed e) → StartRefused runner plan (run (step runner plan) start events) call
        ((run (step runner plan) start events).clock + gapDelay) e
  advanceFails : ∀ a answer (delay : ℕ) e, (run (step runner plan) start events).active = some a →
    (run (step runner plan) start (events ++ [.advance answer delay])).outcome = some (.failed e) →
      AdvanceRefused runner plan
        { run (step runner plan) start events with clock := (run (step runner plan) start events).clock + delay }
        a answer (run (step runner plan) start (events ++ [.advance answer delay])).gaps e
  finishes : ∀ a answer delay p, (run (step runner plan) start events).active = some a →
    (run (step runner plan) start (events ++ [.advance answer delay])).outcome = some (.finished p) →
      a.call.maximumRequests = none →
        (a.call.quarantineEnabled = false ∨ (run (step runner plan) start events).gaps = []) →
          isComplete plan p = .ok true ∧ ∃ answers : DailyRequest → CandleBatch,
            (∀ r ∈ plan.1.requests, Answered runner plan start events r (answers r) ∨
              ∃ t ∈ start.snapshots, t.UsableFor runner r.requestId) ∧ SamePairs runner plan start answers p

theorem matchingSnapshots_length {snapshots : List StoredSnapshot} {r : DailyRequest}
    (h : SnapshotsOk runner plan snapshots) (hr : r ∈ plan.1.requests) :
    (matchingSnapshots hex runner snapshots r.requestId).length ≤ 1 := by
  have hnodup : (matchingSnapshots hex runner snapshots r.requestId).Nodup := by
    unfold matchingSnapshots
    refine List.Nodup.filter _ ((perm_sortOn _ _).nodup_iff.mpr (List.Nodup.filter _ ?_))
    exact List.Nodup.of_map _ h.ids
  match hfound : matchingSnapshots hex runner snapshots r.requestId, hnodup with
  | [], _ => exact Nat.zero_le 1
  | [_], _ => exact le_rfl
  | t :: u :: rest, hnodup =>
    have ht : t ∈ matchingSnapshots hex runner snapshots r.requestId := by
      rw [hfound]
      exact List.mem_cons_self
    have hu : u ∈ matchingSnapshots hex runner snapshots r.requestId := by
      rw [hfound]
      exact List.mem_cons_of_mem _ List.mem_cons_self
    obtain ⟨ht, htuse⟩ := mem_matchingSnapshots.mp ht
    obtain ⟨hu, huuse⟩ := mem_matchingSnapshots.mp hu
    have hsame := h.once r hr t ht u hu htuse huuse
    exact absurd (hsame ▸ List.mem_cons_self) (List.nodup_cons.mp hnodup).1

theorem Started.failed {call : RunCall} {reading : Instant} {s' : System} {e : RunError} (hnone : s.outcome = none)
    (hstarted : Started runner plan s call reading s') (hfailed : s'.outcome = some (.failed e)) :
    StartRefused runner plan s call reading e := by
  cases hstarted with
  | refused e' hrefused =>
    obtain rfl : e' = e := by simpa [System.fail] using hfailed
    exact hrefused
  | begun gaps p _ _ _ _ =>
    have hrunning : s.outcome = some (.failed e) := hfailed
    rw [hnone] at hrunning
    cases hrunning

theorem Advanced.failed {s' : System} {e : RunError} (hnone : s.outcome = none)
    (hadvanced : Advanced runner plan s a answer s') (hfailed : s'.outcome = some (.failed e)) :
    AdvanceRefused runner plan s a answer s'.gaps e := by
  cases hadvanced with
  | finished _ _ => simp [System.finish] at hfailed
  | refused e' hrefused =>
    obtain rfl : e' = e := by simpa [System.fail] using hfailed
    exact hrefused
  | ceiling request rest gap _ _ _ _ hrefused =>
    obtain rfl : .safetyCeiling = e := by simpa [System.fail] using hfailed
    exact hrefused
  | _ =>
    have hrunning : s.outcome = some (.failed e) := hfailed
    rw [hnone] at hrunning
    cases hrunning

/-- Runs that are limited, killed and started again store each request once, lose nothing, fail for no other
reason than the guards name, and end as one uninterrupted run. -/
theorem backfill_resumes (hfresh : Fresh runner plan start) (events : List Event) :
    Resumes runner plan start events := by
  have hok := hfresh.run_ok events
  refine ⟨fun r hr => matchingSnapshots_length hok.snapshots hr, fun more p hp => ?_, fun p hp c hc => ?_,
    fun call gapDelay progressDelay e hnone hfailed => ?_, fun a answer delay e ha hfailed => ?_,
    fun a answer delay p ha hfinished hunlimited hmode => ?_⟩
  · have hgrows := run_grows hok more
    unfold run at hp hgrows ⊢
    rw [List.foldl_append]
    exact hgrows.completions p hp
  · obtain ⟨r, hr, hrid⟩ := List.mem_map.mp ((hok.progress p hp).requests _ (List.mem_map_of_mem hc))
    obtain ⟨t, ht, hid, huse, -⟩ := (hok.progress p hp).snapshots c hc
    exact ⟨r, hr, hrid, t, ht, hid, hok.snapshots.lineage r hr t ht (hrid ▸ huse)⟩
  · have hrefused := (step_start hok hnone call gapDelay progressDelay).failed rfl hfailed
    cases e <;> exact hrefused
  · rw [run_concat] at hfailed ⊢
    exact (step_advance hok ha answer delay).failed (outcome_of_active hfresh events ha) hfailed
  · rw [run_concat] at hfinished
    have hactive := hok.active a ha
    obtain ⟨-, hp, rfl, hend⟩ := (step_advance hok ha answer delay).of_finished (hok.wait delay) ha
      (outcome_of_active hfresh events ha) hfinished
    have hremaining : a.remaining = [] := by
      rcases hend with hend | hend
      · exact hend
      · rw [hunlimited] at hend
        cases hend
    have hall := hactive.complete_of_end hmode hremaining
    exact ⟨(hok.progress a.progress hp).isComplete hall,
      same_as_uninterrupted hfresh events (connector_of_checkCall hactive.call) hp hall⟩

/-- A run with the option for empty responses, killed after the write of a gap. -/
def killedAfterGap : List Event :=
  [.start ⟨none, true, false⟩ 0 0, .advance (.empty sampleEvidence true) 0, .kill]

/-- A run with the option for refused requests, answered with a batch. -/
def refusedOptionRun : List Event :=
  [.start ⟨none, false, true⟩ 0 0, .advance (.batch sampleBatch) 0, .advance .raises 0, .advance .raises 0]

/-- The gap that the killed run left behind stops a run that ends well on its own. -/
theorem gap_of_killed_run_stops_next :
    (run (step sampleRunner samplePlan) emptySystem (killedAfterGap ++ refusedOptionRun)).outcome =
        some (.failed (.gapNeedsOption .emptyProviderResponse)) ∧
      ∃ p, (run (step sampleRunner samplePlan) emptySystem refusedOptionRun).outcome = some (.finished p) ∧
        isComplete samplePlan p = .ok true := by
  refine ⟨by decide +kernel, ⟨samplePlan.1.planId, "UPSTOX", "upstox/v1",
    [⟨sampleRequest.requestId, (collectedSnapshot sampleRequest sampleBatch).snapshotId, 20000000000000, false⟩],
    20000000000000⟩, by decide +kernel, ?_⟩
  decide +kernel

theorem backfill_resumes_sample : Resumes sampleRunner samplePlan emptySystem killedAfterGap :=
  backfill_resumes emptySystem_fresh killedAfterGap

end Resumption

end Backfill

end IndiaSwing
