import IndiaSwing.BackfillPreservation

namespace IndiaSwing

open ExceptGuards KeySort ActionRuns

namespace Backfill

variable {hex : ContentId → String} {runner : Runner} {plan : BackfillPlan hex}

section Steps

variable {s s' start : System} {event : Event}

variable (runner plan s) in
/-- What an event comes to. -/
inductive Stepped : Event → System → Prop
  | idle (event : Event) : (∀ a answer delay, s.active = some a → event ≠ .advance answer delay) → Stepped event s
  | killed : Stepped .kill { s with active := none, outcome := some .killed }
  | started (call : RunCall) (gapDelay progressDelay : ℕ) (s' : System) : s.active = none →
      Started runner plan { s with clock := s.clock + gapDelay + progressDelay, outcome := none } call
        (s.clock + gapDelay) s' → Stepped (.start call gapDelay progressDelay) s'
  | advanced (a : ActiveRun) (answer : ProviderAnswer) (delay : ℕ) (s' : System) : s.active = some a →
      Advanced runner plan { s with clock := s.clock + delay } a answer s' → Stepped (.advance answer delay) s'

theorem SystemOk.read (h : SystemOk runner plan s) (hnone : s.active = none) (gapDelay progressDelay : ℕ) :
    SystemOk runner plan { s with clock := s.clock + gapDelay + progressDelay, outcome := none } := by
  have hread := ((h.wait gapDelay).wait progressDelay).stop none
  have hsame : ({ s with clock := s.clock + gapDelay + progressDelay, outcome := none } : System) =
      { s with clock := s.clock + gapDelay + progressDelay, active := none, outcome := none } := by rw [hnone]
  rw [hsame]
  exact hread

theorem step_start (h : SystemOk runner plan s) (hnone : s.active = none) (call : RunCall)
    (gapDelay progressDelay : ℕ) :
    Started runner plan { s with clock := s.clock + gapDelay + progressDelay, outcome := none } call
      (s.clock + gapDelay) (step runner plan s (.start call gapDelay progressDelay)) := by
  have hclock : s.clock + gapDelay ≤ s.clock + gapDelay + progressDelay :=
    Int.le_add_of_nonneg_right (Int.natCast_nonneg progressDelay)
  have hread := h.read hnone gapDelay progressDelay
  have hstarted := startRun_started call hread (h.wait gapDelay).gaps hclock
  unfold step
  rw [hnone] at hstarted ⊢
  exact hstarted

theorem step_advance {a : ActiveRun} (h : SystemOk runner plan s) (ha : s.active = some a) (answer : ProviderAnswer)
    (delay : ℕ) : Advanced runner plan { s with clock := s.clock + delay } a answer
      (step runner plan s (.advance answer delay)) := by
  have hadvanced := advanceRun_advanced answer (h.wait delay) (a := a) ha
  unfold step
  rw [ha] at hadvanced ⊢
  exact hadvanced

theorem step_stepped (h : SystemOk runner plan s) (event : Event) :
    Stepped runner plan s event (step runner plan s event) := by
  cases event with
  | start call gapDelay progressDelay =>
    cases hactive : s.active with
    | some a =>
      unfold step
      rw [hactive]
      exact .idle _ fun _ _ _ _ heq => nomatch heq
    | none => exact .started call gapDelay progressDelay _ hactive (step_start h hactive call gapDelay progressDelay)
  | advance answer delay =>
    cases hactive : s.active with
    | none =>
      unfold step
      rw [hactive]
      refine .idle _ fun a _ _ ha => ?_
      rw [hactive] at ha
      cases ha
    | some a => exact .advanced a answer delay _ hactive (step_advance h hactive answer delay)
  | kill =>
    cases hactive : s.active with
    | none =>
      unfold step
      rw [hactive]
      exact .idle _ fun _ _ _ _ heq => nomatch heq
    | some a =>
      unfold step
      rw [hactive]
      exact .killed

/-- Every event keeps the invariant. -/
theorem Stepped.ok (h : SystemOk runner plan s) (hstepped : Stepped runner plan s event s') :
    SystemOk runner plan s' := by
  cases hstepped with
  | idle event _ => exact h
  | killed => exact h.stop _
  | started call gapDelay progressDelay s' hnone hstarted => exact hstarted.ok (h.read hnone gapDelay progressDelay)
  | advanced a answer delay s' ha hadvanced => exact hadvanced.ok (h.wait delay) ha

theorem step_ok (h : SystemOk runner plan s) (event : Event) : SystemOk runner plan (step runner plan s event) :=
  (step_stepped h event).ok h

variable (runner plan start) in
/-- Stores that no run of the plan has written to. -/
structure Fresh : Prop where
  snapshots : SnapshotsOk runner plan start.snapshots
  gaps : start.gaps = []
  progress : start.progress = none
  active : start.active = none
  outcome : start.outcome = none

theorem Fresh.ok (h : Fresh runner plan start) : SystemOk runner plan start := by
  refine ⟨h.snapshots, ?_, fun p hp => ?_, fun a ha => ?_⟩
  · rw [h.gaps]
    exact ⟨fun _ he => absurd he List.not_mem_nil, List.nodup_nil⟩
  · rw [h.progress] at hp
    cases hp
  · rw [h.active] at ha
    cases ha

theorem run_ok (h : SystemOk runner plan s) (events : List Event) :
    SystemOk runner plan (run (step runner plan) s events) :=
  run_invariant h (fun _ event hs => step_ok hs event) events

theorem Fresh.run_ok (h : Fresh runner plan start) (events : List Event) :
    SystemOk runner plan (run (step runner plan) start events) := Backfill.run_ok h.ok events

end Steps

section Exclusive

variable {s s' start : System} {event : Event}

/-- No request is complete and unresolved. -/
def Exclusive (s : System) : Prop := ∀ p, s.progress = some p → ∀ e ∈ s.gaps, e.requestId ∉ p.requestIds

/-- No run without an option completes a request that has a stored gap. -/
def StaysUnresolved (s : System) (event : Event) : Prop :=
  ∀ a request stored recovered answer delay, s.active = some a →
    a.pending = some (request, stored, recovered) → event = .advance answer delay →
      a.call.quarantineEnabled = false → stored.observedAt ≤ s.clock + delay →
        request.requestId ∉ s.gaps.map (·.requestId)

/-- What the two stores and the outcome say about complete and unresolved requests. -/
def NeverBoth (s : System) : Prop := Exclusive s ∧ s.outcome ≠ some (.failed .completeAndUnresolved)

theorem Started.neverBoth {call : RunCall} {reading : Instant} (h : NeverBoth s)
    (hstarted : Started runner plan s call reading s') : NeverBoth s' := by
  cases hstarted with
  | refused e hrefused =>
    refine ⟨h.1, fun heq => ?_⟩
    obtain rfl : e = .completeAndUnresolved := by simpa [System.fail] using heq
    obtain ⟨-, p, hp, e, he, hid⟩ := hrefused
    exact h.1 p hp e he hid
  | begun gaps p _ _ hp _ =>
    refine ⟨fun q hq e he => ?_, h.2⟩
    obtain rfl := Option.some.inj hq
    rcases hp with hp | ⟨-, rfl⟩
    · exact h.1 p hp e he
    · exact List.not_mem_nil

theorem AdvanceRefused.pending {a : ActiveRun} {answer : ProviderAnswer} {gaps : List GapEvidence} {e : RunError}
    (h : AdvanceRefused runner plan s a answer gaps e) :
    a.pending = none ∨ ∃ request stored recovered, a.pending = some (request, stored, recovered) ∧
      s.clock < stored.observedAt := by
  cases e <;> try exact h.elim
  case clockBehind =>
    rcases h with h | ⟨-, request, ⟨⟨rest, hreached⟩, -⟩, -⟩
    · exact .inr h
    · exact .inl hreached.pending
  case provider =>
    obtain ⟨request, ⟨⟨rest, hreached⟩, -⟩, -⟩ := h
    exact .inl hreached.pending
  case collection =>
    obtain ⟨request, ⟨⟨rest, hreached⟩, -⟩, -⟩ := h
    exact .inl hreached.pending
  case responseLineage =>
    obtain ⟨-, request, ⟨⟨rest, hreached⟩, -⟩, -⟩ := h
    exact .inl hreached.pending
  case safetyCeiling => exact .inl h.2.1

/-- A gap that is added is one of a request that is not complete. -/
theorem Exclusive.append {a : ActiveRun} {gap : GapEvidence} {request : DailyRequest} {rest : List DailyRequest}
    (h : Exclusive s) (hprogress : s.progress = some a.progress) (hreached : Reached a request rest)
    (hid : gap.requestId = request.requestId) : Exclusive { s with gaps := s.gaps ++ [gap] } := by
  intro p hp e he
  rcases List.mem_append.mp he with he | he
  · exact h p hp e he
  · obtain rfl := List.mem_singleton.mp he
    obtain rfl := Option.some.inj (hprogress.symm.trans hp)
    rw [hid]
    exact hreached.incomplete

/-- A step of the loop keeps the stores exclusive exactly if it does not complete a request with a gap. -/
theorem Advanced.neverBoth_iff {a : ActiveRun} {answer : ProviderAnswer} (hok : SystemOk runner plan s)
    (ha : s.active = some a) (h : NeverBoth s) (hadvanced : Advanced runner plan s a answer s') :
    NeverBoth s' ↔ ∀ request stored recovered, a.pending = some (request, stored, recovered) →
      a.call.quarantineEnabled = false → stored.observedAt ≤ s.clock →
        request.requestId ∉ s.gaps.map (·.requestId) := by
  have hactive := hok.active a ha
  have hidle : a.pending = none → ∀ request stored recovered, a.pending = some (request, stored, recovered) →
      a.call.quarantineEnabled = false → stored.observedAt ≤ s.clock →
        request.requestId ∉ s.gaps.map (·.requestId) := by
    intro hnone request stored recovered hpending
    rw [hnone] at hpending
    cases hpending
  cases hadvanced with
  | finished hpending _ => exact iff_of_true ⟨h.1, fun heq => nomatch heq⟩ (hidle hpending)
  | refused e hrefused =>
    refine iff_of_true ⟨h.1, fun heq => ?_⟩ ?_
    · obtain rfl : e = .completeAndUnresolved := by simpa [System.fail] using heq
      exact hrefused
    · rcases hrefused.pending with hpending | ⟨request, stored, recovered, hpending, hclock⟩
      · exact hidle hpending
      · intro request' stored' recovered' hpending' _ hle
        obtain ⟨-, rfl, -⟩ : request = request' ∧ stored = stored' ∧ recovered = recovered' := by
          simpa using hpending.symm.trans hpending'
        exact absurd hle (not_le.mpr hclock)
  | passed request rest hpending _ _ => exact iff_of_true h (hidle hpending)
  | skipped request rest gap hpending _ _ _ => exact iff_of_true h (hidle hpending)
  | recovered request rest stored hreached _ _ => exact iff_of_true h (hidle hreached.pending)
  | collected request rest b hreached _ _ _ _ _ => exact iff_of_true h (hidle hreached.pending)
  | quarantined request rest gap hreached _ hid _ =>
    exact iff_of_true ⟨h.1.append hactive.progress hreached hid, h.2⟩ (hidle hreached.pending)
  | ceiling request rest gap hreached _ hid _ _ =>
    exact iff_of_true ⟨h.1.append hactive.progress hreached hid, fun heq => nomatch heq⟩ (hidle hreached.pending)
  | completed request stored recovered hpending hclock =>
    have hids : ∀ id, id ∈ (completedProgress runner plan a.progress s.clock request stored recovered).requestIds ↔
        id ∈ a.progress.requestIds ∨ id = request.requestId := by
      intro id
      rw [completedProgress_requestIds.mem_iff, List.mem_append, List.mem_singleton]
    constructor
    · rintro ⟨hexclusive, -⟩ request' stored' recovered' hpending' _ _ hmem
      obtain ⟨rfl, -, -⟩ : request = request' ∧ stored = stored' ∧ recovered = recovered' := by
        simpa using hpending.symm.trans hpending'
      obtain ⟨e, he, hid⟩ := List.mem_map.mp hmem
      exact hexclusive _ rfl e he ((hids _).mpr (.inr hid))
    · intro hstays
      have hnew : request.requestId ∉ s.gaps.map (·.requestId) := by
        cases hmode : a.call.quarantineEnabled with
        | false => exact hstays request stored recovered hpending hmode hclock
        | true => exact (hactive.pending request stored recovered hpending).2.2.2.2 hmode
      refine ⟨fun p hp e he hid => ?_, h.2⟩
      obtain rfl := Option.some.inj hp
      rcases (hids _).mp hid with hid | hid
      · exact h.1 a.progress hactive.progress e he hid
      · exact hnew (List.mem_map.mpr ⟨e, he, hid⟩)

theorem step_neverBoth_iff (hok : SystemOk runner plan s) (h : NeverBoth s) (event : Event) :
    NeverBoth (step runner plan s event) ↔ StaysUnresolved s event := by
  have hstepped := step_stepped hok event
  generalize step runner plan s event = s' at hstepped
  cases hstepped with
  | idle event hidle =>
    refine iff_of_true h fun a request stored recovered answer delay ha _ hevent => ?_
    exact absurd hevent (hidle a answer delay ha)
  | killed => exact iff_of_true ⟨h.1, fun heq => nomatch heq⟩ fun _ _ _ _ _ _ _ _ hevent => nomatch hevent
  | started call gapDelay progressDelay s' _ hstarted =>
    have hread : NeverBoth { s with clock := s.clock + gapDelay + progressDelay, outcome := none } :=
      ⟨h.1, fun heq => nomatch heq⟩
    exact iff_of_true (hstarted.neverBoth hread) fun _ _ _ _ _ _ _ _ hevent => nomatch hevent
  | advanced a answer delay s' ha hadvanced =>
    rw [hadvanced.neverBoth_iff (hok.wait delay) ha ⟨h.1, h.2⟩]
    constructor
    · intro hstays a' request stored recovered answer' delay' ha' hpending hevent hoff hclock
      obtain rfl := Option.some.inj (ha.symm.trans ha')
      obtain ⟨rfl, rfl⟩ := Event.advance.inj hevent
      exact hstays request stored recovered hpending hoff hclock
    · intro hstays request stored recovered hpending hoff hclock
      exact hstays a request stored recovered answer delay ha hpending rfl hoff hclock

/-- Over a whole run of events no request is complete and unresolved, and no run fails for it, exactly if
no run without an option completes a request that has a stored gap. -/
theorem never_complete_and_unresolved_iff (hfresh : Fresh runner plan start) (events : List Event) :
    (∀ earlier, earlier <+: events → Exclusive (run (step runner plan) start earlier) ∧
        (run (step runner plan) start earlier).outcome ≠ some (.failed .completeAndUnresolved)) ↔
      EveryStep (step runner plan) start StaysUnresolved events := by
  have hstart : SystemOk runner plan start ∧ NeverBoth start := by
    refine ⟨hfresh.ok, fun p hp => ?_, ?_⟩
    · rw [hfresh.progress] at hp
      cases hp
    · rw [hfresh.outcome]
      exact fun heq => nomatch heq
  have hiff : (∀ earlier, earlier <+: events → SystemOk runner plan (run (step runner plan) start earlier) ∧
      NeverBoth (run (step runner plan) start earlier)) ↔
        EveryStep (step runner plan) start StaysUnresolved events :=
    everyStep_iff_prefixes (I := fun s => SystemOk runner plan s ∧ NeverBoth s) hstart fun s event hs =>
      (and_iff_right (step_ok hs.1 event)).trans (step_neverBoth_iff hs.1 hs.2 event)
  rw [← hiff]
  constructor
  · intro h earlier hprefix
    exact ⟨hfresh.run_ok earlier, h earlier hprefix⟩
  · intro h earlier hprefix
    exact (h earlier hprefix).2

def sampleRequest : DailyRequest where
  binding := ⟨"UPSTOX", "NSE_EQ|INE001A01036", "NSE:AAA", "EQ", "INE001A01036", 100, 200, [.digest 1]⟩
  sessions := [110]
  requestedAt := 20000000000000

example : sampleRequest.check = .ok () := by decide

def samplePlan : BackfillPlan (fun _ => "") :=
  ⟨⟨"UPSTOX", "resolver/v1", .digest 2, .digest 3, 100, 200, 20000000000000, [sampleRequest], [], none⟩,
    by decide +kernel⟩

def sampleRunner : Runner := ⟨"UPSTOX", "upstox/v1", true⟩

def emptySystem : System := ⟨[], [], none, 20000000000000, none, none⟩

theorem emptySystem_fresh : Fresh sampleRunner samplePlan emptySystem :=
  ⟨⟨List.nodup_nil, fun _ _ _ ht => absurd ht List.not_mem_nil, fun _ _ _ ht => absurd ht List.not_mem_nil⟩,
    rfl, rfl, rfl, rfl⟩

def sampleBatch : CandleBatch := ⟨sampleRequest, 20000000000000, "upstox/v1", .digest 4⟩

def sampleEvidence : ResponseEvidence :=
  ⟨"UPSTOX", "upstox/v1", "NSE_EQ|INE001A01036", 110, 20000000000000, .digest 5⟩

/-- A run that stores a gap for an empty response, and a run without an option that collects the request. -/
def quarantineThenPlain : List Event :=
  [.start ⟨none, true, false⟩ 0 0, .advance (.empty sampleEvidence true) 0, .advance .raises 0,
    .start ⟨none, false, false⟩ 0 0, .advance (.batch sampleBatch) 0, .advance .raises 0, .advance .raises 0]

theorem complete_and_unresolved :
    ¬Exclusive (run (step sampleRunner samplePlan) emptySystem quarantineThenPlain) ∧
      (run (step sampleRunner samplePlan) emptySystem
        (quarantineThenPlain ++ [.start ⟨none, true, true⟩ 0 0])).outcome =
          some (.failed .completeAndUnresolved) := by
  refine ⟨fun h => ?_, by decide +kernel⟩
  have hboth : ∃ p ∈ (run (step sampleRunner samplePlan) emptySystem quarantineThenPlain).progress,
      ∃ e ∈ (run (step sampleRunner samplePlan) emptySystem quarantineThenPlain).gaps,
        e.requestId ∈ p.requestIds := by decide +kernel
  obtain ⟨p, hp, e, he, hid⟩ := hboth
  exact h p hp e he hid

theorem never_complete_and_unresolved_sample :
    (∀ earlier, earlier <+: quarantineThenPlain →
        Exclusive (run (step sampleRunner samplePlan) emptySystem earlier) ∧
          (run (step sampleRunner samplePlan) emptySystem earlier).outcome ≠
            some (.failed .completeAndUnresolved)) ↔
      EveryStep (step sampleRunner samplePlan) emptySystem StaysUnresolved quarantineThenPlain :=
  never_complete_and_unresolved_iff emptySystem_fresh quarantineThenPlain

end Exclusive

end Backfill

end IndiaSwing
