import IndiaSwing.IdentityCandidates

namespace IndiaSwing

open ExceptGuards KeySort Grouping

namespace IdentityRegistry

variable {hex : ContentId → String} {observations members previous current : List IdentityObservation}
variable {observation : IdentityObservation} {conflicted : List ContentId}

section Pairs

/-- Every pass pairs observations of both dates at most once, and so does the last pair. -/
theorem adjacentListingPairs_of (hprevious : previous.Nodup) (hcurrent : current.Nodup) :
    ∃ rest : Pairing IdentityObservation, rest.pairs = adjacentListingPairs previous current ∧
      rest.Of previous current := by
  have hids : ∀ {values : List IdentityObservation}, values.Nodup →
      (values.map fun o => o.1.observationId).Nodup := nodup_ids
  have hlisting := pairUniqueBy_of (fun o : IdentityObservation => o.1.listingKey) id
    (hids hprevious) (hids hcurrent)
  have hinstrument := pairUniqueBy_of (fun o : IdentityObservation => o.1.financialInstrumentId) toString
    (hids (hlisting.previous.nodup_iff.mpr hprevious).of_append_right)
    (hids (hlisting.current.nodup_iff.mpr hcurrent).of_append_right)
  have hboth := hlisting.andThen hinstrument
  have hseries := pairUniqueBy_of (fun o : IdentityObservation => o.1.securitySeries) id
    (hids (hboth.previous.nodup_iff.mpr hprevious).of_append_right)
    (hids (hboth.current.nodup_iff.mpr hcurrent).of_append_right)
  have hall := hboth.andThen hseries
  unfold adjacentListingPairs
  dsimp only
  split
  next p c hp hc =>
    have hlast : (⟨[(p, c)], [], []⟩ : Pairing IdentityObservation).Of [p] [c] := ⟨.refl _, .refl _⟩
    rw [← hp, ← hc] at hlast
    exact ⟨_, rfl, hall.andThen hlast⟩
  next => exact ⟨_, rfl, hall⟩

theorem mem_adjacentListingPairs (hprevious : previous.Nodup) (hcurrent : current.Nodup) :
    ((adjacentListingPairs previous current).map (·.1)).Nodup ∧
      ((adjacentListingPairs previous current).map (·.2)).Nodup ∧
        ∀ pair ∈ adjacentListingPairs previous current, pair.1 ∈ previous ∧ pair.2 ∈ current := by
  obtain ⟨rest, hpairs, hof⟩ := adjacentListingPairs_of hprevious hcurrent
  rw [← hpairs]
  refine ⟨(hof.previous.nodup_iff.mpr hprevious).of_append_left,
    (hof.current.nodup_iff.mpr hcurrent).of_append_left, fun pair hpair => ⟨?_, ?_⟩⟩
  · exact hof.previous.mem_iff.mp (List.mem_append_left _ (List.mem_map.mpr ⟨pair, hpair, rfl⟩))
  · exact hof.current.mem_iff.mp (List.mem_append_left _ (List.mem_map.mpr ⟨pair, hpair, rfl⟩))

theorem mem_observedDates {d : SessionDate} :
    d ∈ observedDates members ↔ ∃ o ∈ members, o.1.claimedReportDate = d := by
  rw [observedDates, (perm_sortOn _ _).mem_iff, List.mem_dedup, List.mem_map]

theorem observedDates_ordered (members : List IdentityObservation) :
    (observedDates members).Pairwise (· < ·) := by
  have hnodup : (observedDates members).Nodup := (perm_sortOn _ _).nodup_iff.mpr (List.nodup_dedup _)
  have hsorted : (observedDates members).Pairwise (· ≤ ·) := sortOn_pairwise id _
  exact (hsorted.and hnodup).imp fun hab => lt_of_le_of_ne hab.1 hab.2

/-- What joins two observations of consecutive dates. -/
structure Joins (members : List IdentityObservation) (pair : IdentityObservation × IdentityObservation) :
    Prop where
  previous : pair.1 ∈ members
  current : pair.2 ∈ members
  later : pair.1.1.claimedReportDate < pair.2.1.claimedReportDate
  consecutive : ∀ o ∈ members, ¬(pair.1.1.claimedReportDate < o.1.claimedReportDate ∧
    o.1.claimedReportDate < pair.2.1.claimedReportDate)

theorem mem_stepPairs (hmembers : members.Nodup) {step : SessionDate × SessionDate}
    {pair : IdentityObservation × IdentityObservation}
    (hpair : pair ∈ adjacentListingPairs (members.filter (·.1.claimedReportDate = step.1))
      (members.filter (·.1.claimedReportDate = step.2))) :
    (pair.1 ∈ members ∧ pair.1.1.claimedReportDate = step.1) ∧
      pair.2 ∈ members ∧ pair.2.1.claimedReportDate = step.2 := by
  obtain ⟨hprevious, hcurrent⟩ :=
    (mem_adjacentListingPairs (hmembers.filter _) (hmembers.filter _)).2.2 pair hpair
  rw [List.mem_filter, decide_eq_true_eq] at hprevious hcurrent
  exact ⟨hprevious, hcurrent⟩

theorem mem_datePairs (hmembers : members.Nodup) {pair : IdentityObservation × IdentityObservation}
    (hpair : pair ∈ datePairs members) : Joins members pair := by
  obtain ⟨step, hstep, hpair⟩ := List.mem_flatMap.mp hpair
  obtain ⟨⟨hprevious, hpreviousDate⟩, hcurrent, hcurrentDate⟩ := mem_stepPairs hmembers hpair
  obtain ⟨-, -, hlt, hnone⟩ := mem_steps (observedDates_ordered members) hstep
  refine ⟨hprevious, hcurrent, ?_, fun o ho => ?_⟩
  · rw [hpreviousDate, hcurrentDate]
    exact hlt
  · rw [hpreviousDate, hcurrentDate]
    exact hnone _ (mem_observedDates.mpr ⟨o, ho, rfl⟩)

/-- An observation is the earlier end of at most one pair, and the later end of at most one. -/
theorem datePairs_nodup (hmembers : members.Nodup) :
    ((datePairs members).map (·.1)).Nodup ∧ ((datePairs members).map (·.2)).Nodup := by
  have hsteps := steps_distinct (observedDates_ordered members)
  constructor
  · show (((observedDates members).zip (observedDates members).tail).flatMap _ |>.map _).Nodup
    rw [List.map_flatMap, List.nodup_flatMap]
    refine ⟨fun step _ => (mem_adjacentListingPairs (hmembers.filter _) (hmembers.filter _)).1,
      hsteps.imp fun {step step'} hne o ho ho' => ?_⟩
    obtain ⟨pair, hpair, rfl⟩ := List.mem_map.mp ho
    obtain ⟨pair', hpair', hsame⟩ := List.mem_map.mp ho'
    have hdate := (mem_stepPairs hmembers hpair).1.2
    have hdate' := (mem_stepPairs hmembers hpair').1.2
    rw [hsame] at hdate'
    exact hne.1 (hdate.symm.trans hdate')
  · show (((observedDates members).zip (observedDates members).tail).flatMap _ |>.map _).Nodup
    rw [List.map_flatMap, List.nodup_flatMap]
    refine ⟨fun step _ => (mem_adjacentListingPairs (hmembers.filter _) (hmembers.filter _)).2.1,
      hsteps.imp fun {step step'} hne o ho ho' => ?_⟩
    obtain ⟨pair, hpair, rfl⟩ := List.mem_map.mp ho
    obtain ⟨pair', hpair', hsame⟩ := List.mem_map.mp ho'
    have hdate := (mem_stepPairs hmembers hpair).2.2
    have hdate' := (mem_stepPairs hmembers hpair').2.2
    rw [hsame] at hdate'
    exact hne.2 (hdate.symm.trans hdate')

end Pairs

section Members

/-- The observations of some ids, in their order. -/
structure MembersOf (observations : List IdentityObservation) (ids : List ContentId)
    (members : List IdentityObservation) : Prop where
  named : members.map (·.1.observationId) = ids
  mem : ∀ o ∈ members, o ∈ observations
  found : ids.filterMap (lastUnder (·.1.observationId) observations) = members

theorem membersOf (hnodup : observations.Nodup) {ids : List ContentId}
    (hids : ∀ id ∈ ids, id ∈ observations.map (·.1.observationId)) :
    ∃ members, ids.mapM (requireObservation observations) = .ok members ∧
      MembersOf observations ids members := by
  induction ids with
  | nil => exact ⟨[], rfl, rfl, fun o ho => absurd ho List.not_mem_nil, rfl⟩
  | cons id ids ih =>
    obtain ⟨members, hmembers, hof⟩ := ih fun other hother => hids other (List.mem_cons_of_mem _ hother)
    obtain ⟨o, ho, rfl⟩ := List.mem_map.mp (hids id List.mem_cons_self)
    have hlookup := lastUnder_name (nodup_ids hnodup) ho
    refine ⟨o :: members, ?_, ?_, ?_, ?_⟩
    · rw [List.mapM_cons, requireObservation, hlookup, hmembers]
      rfl
    · rw [List.map_cons, hof.named]
    · intro p hp
      rcases List.mem_cons.mp hp with rfl | hp
      · exact ho
      · exact hof.mem p hp
    · rw [List.filterMap_cons_some hlookup, hof.found]

theorem MembersOf.nodup {ids : List ContentId} (h : MembersOf observations ids members)
    (hids : ids.Nodup) : members.Nodup := by
  rw [← h.named] at hids
  exact hids.of_map

end Members

section Transitions

variable {candidate : IdentityContinuityCandidate hex} {candidates : List (IdentityContinuityCandidate hex)}

/-- A transition of a candidate, of which it joins two observations of consecutive dates. -/
structure TransitionOf (observations : List IdentityObservation) (candidate : IdentityContinuityCandidate hex)
    (transition : TransitionFields) : Prop where
  basis : candidate.1.basis = .validatedIsin
  status : candidate.1.status = .candidateContinuity
  joins : ∃ members pair, MembersOf observations candidate.1.observationIds members ∧
    Joins members pair ∧ transition = transitionFields candidate.1.candidateId pair

/-- The transitions of one candidate. -/
structure CandidateTransitions (observations : List IdentityObservation)
    (candidate : IdentityContinuityCandidate hex) (transitions : List IdentityCandidateTransition) : Prop where
  each : ∀ transition ∈ transitions, TransitionOf observations candidate transition.1
  previous : (transitions.map (·.1.previousObservationId)).Nodup
  current : (transitions.map (·.1.currentObservationId)).Nodup

theorem transition_valid {pair : IdentityObservation × IdentityObservation} (h : Joins members pair)
    (candidateId : ContentId) : validateTransition (transitionFields candidateId pair) = .ok () :=
  raiseIf_neg (not_le.mpr h.later)

theorem candidateTransitions_ok (hnodup : observations.Nodup) (hcandidate : candidate.1.observationIds.Nodup)
    (hids : ∀ id ∈ candidate.1.observationIds, id ∈ observations.map (·.1.observationId)) :
    ∃ transitions, candidateTransitions hex observations candidate = .ok transitions ∧
      CandidateTransitions observations candidate transitions := by
  unfold candidateTransitions
  split
  next => exact ⟨[], rfl, fun transition h => absurd h List.not_mem_nil, .nil, .nil⟩
  next hkind =>
    rw [not_or, not_not, not_not] at hkind
    obtain ⟨members, hmembers, hof⟩ := membersOf hnodup hids
    have hmembersNodup := hof.nodup hcandidate
    obtain ⟨built, hbuilt, hfields⟩ := Checked.mapM_build_ok validateTransition
      (transitionFields candidate.1.candidateId)
      fun pair hpair => transition_valid (mem_datePairs hmembersNodup hpair) candidate.1.candidateId
    have hids : ∀ f : TransitionFields → ContentId, built.map (fun t => f t.1) =
        (datePairs members).map fun pair => f (transitionFields candidate.1.candidateId pair) := by
      intro f
      have h := congrArg (List.map f) hfields
      rwa [List.map_map, List.map_map] at h
    obtain ⟨hprevious, hcurrent⟩ := datePairs_nodup hmembersNodup
    rw [hmembers, ok_bind]
    refine ⟨built, hbuilt, fun transition htransition => ⟨hkind.1, hkind.2, ?_⟩, ?_, ?_⟩
    · have hmem : transition.1 ∈ built.map (·.1) := List.mem_map.mpr ⟨transition, htransition, rfl⟩
      rw [hfields] at hmem
      obtain ⟨pair, hpair, heq⟩ := List.mem_map.mp hmem
      exact ⟨members, pair, hof, mem_datePairs hmembersNodup hpair, heq.symm⟩
    · rw [hids (·.previousObservationId)]
      have h := nodup_ids hprevious
      rwa [List.map_map] at h
    · rw [hids (·.currentObservationId)]
      have h := nodup_ids hcurrent
      rwa [List.map_map] at h

theorem TransitionOf.ends {transition : TransitionFields}
    (h : TransitionOf observations candidate transition) :
    transition.previousObservationId ∈ candidate.1.observationIds ∧
      transition.currentObservationId ∈ candidate.1.observationIds := by
  obtain ⟨members, pair, hof, hjoins, rfl⟩ := h.joins
  rw [← hof.named]
  exact ⟨List.mem_map.mpr ⟨_, hjoins.previous, rfl⟩, List.mem_map.mpr ⟨_, hjoins.current, rfl⟩⟩

/-- Lists within disjoint parts have no member in common. -/
theorem nodup_flatten_of_parts {α β : Type*} {parts : α → List β} {values : List α} {lists : List (List β)}
    (hparts : (values.flatMap parts).Nodup)
    (h : List.Forall₂ (fun a list => list.Nodup ∧ ∀ b ∈ list, b ∈ parts a) values lists) :
    lists.flatten.Nodup := by
  induction h with
  | nil => exact .nil
  | @cons a list values lists hlist hrest ih =>
    rw [List.flatMap_cons, List.nodup_append'] at hparts
    rw [List.flatten_cons, List.nodup_append']
    refine ⟨hlist.1, ih hparts.2.1, fun b hb hb' => ?_⟩
    have hmem : ∀ {values : List α} {lists : List (List β)},
        List.Forall₂ (fun a list => list.Nodup ∧ ∀ b ∈ list, b ∈ parts a) values lists →
          b ∈ lists.flatten → b ∈ values.flatMap parts := by
      intro values lists h
      induction h with
      | nil => exact fun hnone => by cases hnone
      | cons hlist _ ih =>
        intro hb
        rw [List.flatten_cons, List.mem_append] at hb
        rw [List.flatMap_cons, List.mem_append]
        exact hb.imp (hlist.2 b) ih
    exact hparts.2.2 (hlist.2 b hb) (hmem hrest hb')

/-- The transitions of some candidates: sorted, each of one of them, and a partial matching. -/
structure TransitionsOf (hex : ContentId → String) (observations : List IdentityObservation)
    (candidates : List (IdentityContinuityCandidate hex)) (transitions : List IdentityCandidateTransition) :
    Prop where
  sorted : SortedUnique hex (transitions.map (·.1.transitionId))
  each : ∀ transition ∈ transitions, ∃ candidate ∈ candidates, TransitionOf observations candidate transition.1
  previous : (transitions.map (·.1.previousObservationId)).Nodup
  current : (transitions.map (·.1.currentObservationId)).Nodup

theorem transitionId_inj {a b : TransitionFields} (h : a.transitionId = b.transitionId) :
    a.previousObservationId = b.previousObservationId := by
  simp only [TransitionFields.transitionId, ContentId.ofFields_inj, true_and, List.cons.injEq] at h
  exact h.2.1

/-- No transition is rejected. -/
theorem buildTransitions_ok (hnodup : observations.Nodup)
    (hcandidates : CandidatesOf hex observations conflicted candidates) :
    ∃ transitions, buildTransitions hex observations candidates = .ok transitions ∧
      TransitionsOf hex observations candidates transitions := by
  have hparts : (candidates.flatMap (·.1.observationIds)).Nodup :=
    hcandidates.partition.nodup_iff.mpr (nodup_ids hnodup)
  obtain ⟨lists, hlists, hall⟩ := mapM_exists (P := CandidateTransitions observations) fun candidate hcandidate =>
      candidateTransitions_ok hnodup ((List.nodup_flatMap.mp hparts).1 candidate hcandidate) fun id hid =>
        hcandidates.partition.mem_iff.mp (List.mem_flatMap.mpr ⟨candidate, hcandidate, hid⟩)
  have hprevious : (lists.flatten.map (·.1.previousObservationId)).Nodup := by
    rw [List.map_flatten]
    refine nodup_flatten_of_parts hparts (List.forall₂_map_right_iff.mpr (hall.imp fun candidate list h => ?_))
    refine ⟨h.previous, fun id hid => ?_⟩
    obtain ⟨transition, htransition, rfl⟩ := List.mem_map.mp hid
    exact (h.each transition htransition).ends.1
  have hcurrent : (lists.flatten.map (·.1.currentObservationId)).Nodup := by
    rw [List.map_flatten]
    refine nodup_flatten_of_parts hparts (List.forall₂_map_right_iff.mpr (hall.imp fun candidate list h => ?_))
    refine ⟨h.current, fun id hid => ?_⟩
    obtain ⟨transition, htransition, rfl⟩ := List.mem_map.mp hid
    exact (h.each transition htransition).ends.2
  have hids : (lists.flatten.map (·.1.transitionId)).Nodup := by
    rw [List.Nodup, List.pairwise_map] at hprevious ⊢
    exact hprevious.imp fun hne heq => hne (transitionId_inj heq)
  have hperm := perm_sortOn (fun transition : IdentityCandidateTransition => hex transition.1.transitionId)
    lists.flatten
  refine ⟨sortOn (hex ·.1.transitionId) lists.flatten, ?_, sortedUnique_sortOn hids,
    fun transition htransition => ?_, (hperm.map _).nodup_iff.mpr hprevious,
    (hperm.map _).nodup_iff.mpr hcurrent⟩
  · unfold buildTransitions
    rw [hlists]
    rfl
  · obtain ⟨list, hlist, hin⟩ := List.mem_flatten.mp (hperm.mem_iff.mp htransition)
    obtain ⟨candidate, hcandidate, hof⟩ := mem_of_forall₂_left hall.flip hlist
    exact ⟨candidate, hcandidate, hof.each transition hin⟩

end Transitions

end IdentityRegistry

end IndiaSwing
