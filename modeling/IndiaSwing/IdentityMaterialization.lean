import Mathlib.Data.List.Pairwise
import IndiaSwing.IdentityTransitions

namespace IndiaSwing

open ExceptGuards KeySort Grouping

namespace IdentityRegistry

variable {hex : ContentId → String} {sources others ordered : List StoredReferenceArtifact}
variable {source : StoredReferenceArtifact} {observations : List IdentityObservation} {cutoff : Instant}

section Sources

/-- What the checks of the sources say. -/
structure SourcesAccepted (sources : List StoredReferenceArtifact) (cutoff : Instant) : Prop where
  ne_nil : sources ≠ []
  known : ∀ source ∈ sources, source.manifest.validatedAt ≤ cutoff
  artifacts : (sources.map (·.manifest.artifactId)).Nodup
  dates : (sources.map (·.manifest.claimedReportDate)).Nodup
  readiness : ∀ source ∈ sources, source.manifest.readiness = .collectionOnly

theorem checkSources_iff : checkSources sources cutoff = .ok () ↔ SourcesAccepted sources cutoff := by
  have hsource : ∀ source, checkSource cutoff source = .ok () ↔
      source.manifest.readiness = .collectionOnly ∧ source.manifest.validatedAt ≤ cutoff := by
    intro source
    unfold checkSource
    rw [raiseIf_bind_eq_ok, not_not, raiseIf_eq_ok, not_lt]
  unfold checkSources
  rw [raiseIf_bind_eq_ok, bind_eq_ok]
  constructor
  · rintro ⟨hne, _, hforM, h⟩
    obtain ⟨hartifacts, h⟩ := raiseIf_bind_eq_ok.mp h
    rw [raiseIf_eq_ok, not_not] at h
    have hall := forM_eq_ok.mp hforM
    exact ⟨hne, fun s hs => ((hsource s).mp (hall s hs)).2, not_not.mp hartifacts, h,
      fun s hs => ((hsource s).mp (hall s hs)).1⟩
  · intro h
    refine ⟨h.ne_nil, (), forM_eq_ok.mpr fun s hs => (hsource s).mpr ⟨h.readiness s hs, h.known s hs⟩, ?_⟩
    rw [raiseIf_neg (not_not.mpr h.artifacts), ok_bind, raiseIf_eq_ok, not_not]
    exact h.dates

theorem SourcesAccepted.perm (h : SourcesAccepted sources cutoff) (hperm : others.Perm sources) :
    SourcesAccepted others cutoff where
  ne_nil := fun hnil => h.ne_nil (List.nil_perm.mp (hnil ▸ hperm))
  known := fun s hs => h.known s (hperm.mem_iff.mp hs)
  artifacts := (hperm.map _).nodup_iff.mpr h.artifacts
  dates := (hperm.map _).nodup_iff.mpr h.dates
  readiness := fun s hs => h.readiness s (hperm.mem_iff.mp hs)

/-- The records of a source are told apart by their ids, which hold the number of their row. -/
theorem recordIds_nodup (source : StoredReferenceArtifact) :
    (source.records.map (·.sourceRecordId)).Nodup := by
  have hrows : (source.records.map (·.sourceRowNumber)).Nodup := by
    rw [source.rowNumbers]
    exact List.nodup_range'
  refine nodup_map_of hrows fun a ha b hb heq => ?_
  rw [source.recordIds a ha, source.recordIds b hb] at heq
  simp only [ContentId.ofFields_inj, true_and, List.cons.injEq, ContentId.int.injEq, Int.natCast_inj] at heq
  exact heq.1

/-- The observation fields of all retained rows. -/
def retainedFields (sources : List StoredReferenceArtifact) : List ObservationFields :=
  (retainedRows sources).map fun row => observationFields row.1 row.2

theorem mem_retainedFields {fields : ObservationFields} : fields ∈ retainedFields sources ↔
    ∃ source ∈ sources, ∃ record ∈ source.records.filter (·.disposition = .retainedUnverifiedEquity),
      fields = observationFields source record := by
  simp only [retainedFields, retainedRows, List.mem_map, List.mem_flatMap]
  constructor
  · rintro ⟨_, ⟨source, hsource, record, hrecord, rfl⟩, rfl⟩
    exact ⟨source, hsource, record, hrecord, rfl⟩
  · rintro ⟨source, hsource, record, hrecord, rfl⟩
    exact ⟨_, ⟨source, hsource, record, hrecord, rfl⟩, rfl⟩

theorem retainedFields_cons : retainedFields (source :: sources) =
    (source.records.filter (·.disposition = .retainedUnverifiedEquity)).map (observationFields source) ++
      retainedFields sources := by
  rw [retainedFields, retainedRows, List.flatMap_cons, List.map_append, List.map_map]
  rfl

theorem retainedFields_nodup (hartifacts : (sources.map (·.manifest.artifactId)).Nodup) :
    (retainedFields sources).Nodup := by
  induction sources with
  | nil => exact .nil
  | cons source sources ih =>
    obtain ⟨hnew, hrest⟩ := List.nodup_cons.mp hartifacts
    rw [retainedFields_cons, List.nodup_append']
    refine ⟨?_, ih hrest, fun fields hfields hother => ?_⟩
    · have hids : ((source.records.filter (·.disposition = .retainedUnverifiedEquity)).map
          (·.sourceRecordId)).Nodup := (recordIds_nodup source).sublist (List.filter_sublist.map _)
      exact nodup_map_of hids fun a _ b _ heq => congrArg ObservationFields.sourceRecordId heq
    · obtain ⟨record, -, rfl⟩ := List.mem_map.mp hfields
      obtain ⟨other, hmem, record', -, heq⟩ := mem_retainedFields.mp hother
      exact hnew (List.mem_map.mpr ⟨other, hmem, (congrArg ObservationFields.sourceArtifactId heq).symm⟩)

/-- A source owns as many of the rows as its manifest counts. -/
theorem retainedFields_count (hartifacts : (sources.map (·.manifest.artifactId)).Nodup)
    (hsource : source ∈ sources) :
    ((retainedFields sources).filter (·.sourceArtifactId = source.manifest.artifactId)).length =
      source.manifest.retainedUnverifiedEquityCount := by
  induction sources with
  | nil => cases hsource
  | cons first sources ih =>
    obtain ⟨hnew, hrest⟩ := List.nodup_cons.mp hartifacts
    rw [retainedFields_cons, List.filter_append, List.length_append]
    rcases List.mem_cons.mp hsource with rfl | hsource
    · have hown : (((source.records.filter (·.disposition = .retainedUnverifiedEquity)).map
          (observationFields source)).filter (·.sourceArtifactId = source.manifest.artifactId)) =
          (source.records.filter (·.disposition = .retainedUnverifiedEquity)).map
            (observationFields source) := by
        refine List.filter_eq_self.mpr fun fields hfields => decide_eq_true ?_
        obtain ⟨record, -, rfl⟩ := List.mem_map.mp hfields
        rfl
      have hothers : ((retainedFields sources).filter
          (·.sourceArtifactId = source.manifest.artifactId)) = [] := by
        refine List.filter_eq_nil_iff.mpr fun fields hfields hsame => ?_
        obtain ⟨other, hother, record, -, rfl⟩ := mem_retainedFields.mp hfields
        exact hnew (List.mem_map.mpr ⟨other, hother, of_decide_eq_true hsame⟩)
      rw [hown, hothers, List.length_map, List.length_nil, Nat.add_zero, source.retained]
    · have hfirst : (((first.records.filter (·.disposition = .retainedUnverifiedEquity)).map
          (observationFields first)).filter (·.sourceArtifactId = source.manifest.artifactId)) = [] := by
        refine List.filter_eq_nil_iff.mpr fun fields hfields hsame => ?_
        obtain ⟨record, -, rfl⟩ := List.mem_map.mp hfields
        exact hnew (List.mem_map.mpr ⟨source, hsource, (of_decide_eq_true hsame).symm⟩)
      rw [hfirst, List.length_nil, Nat.zero_add]
      exact ih hrest hsource

/-- The sources of a materialization in their order, and their observations. -/
structure Observed (hex : ContentId → String) (sources : List StoredReferenceArtifact) (cutoff : Instant)
    (ordered : List StoredReferenceArtifact) (observations : List IdentityObservation) : Prop where
  accepted : SourcesAccepted sources cutoff
  ordered : ordered = sortOn (fun source => manifestKey hex source.manifest) sources
  fields : (observations.map (·.1)).Perm (retainedFields sources)
  sorted : ∃ built, observations = sortOn (hex ·.1.observationId) built
  ne_nil : observations ≠ []

theorem sourceObservations_eq_ok (h : sourceObservations hex sources cutoff = .ok (ordered, observations)) :
    Observed hex sources cutoff ordered observations := by
  unfold sourceObservations at h
  obtain ⟨_, hcheck, h⟩ := bind_eq_ok.mp h
  obtain ⟨built, hbuilt, h⟩ := bind_eq_ok.mp h
  obtain ⟨hne, h⟩ := raiseIf_bind_eq_ok.mp h
  obtain ⟨rfl, rfl⟩ := Prod.mk.inj (Except.ok.inj h)
  have hfields := Checked.map_of_mapM_build hbuilt
  have hperm := perm_sortOn (fun o : IdentityObservation => hex o.1.observationId) built
  have hsources := perm_sortOn (fun source : StoredReferenceArtifact => manifestKey hex source.manifest) sources
  refine ⟨checkSources_iff.mp hcheck, rfl, ?_, ⟨built, rfl⟩, fun hnil => ?_⟩
  · refine (hperm.map _).trans ?_
    rw [hfields]
    exact (hsources.flatMap_right _).map _
  · rw [hnil] at hperm
    exact hne (List.nil_perm.mp hperm)

end Sources

section Registry

variable {conflicts : List (IdentityConflict hex)} {candidates : List (IdentityContinuityCandidate hex)}
variable {transitions : List IdentityCandidateTransition} {candidate : IdentityContinuityCandidate hex}
variable {conflicted : List ContentId} {registry : RegistryFields hex}

/-- What a materialization makes of its sources. -/
structure Materialized (hex : ContentId → String) (sources : List StoredReferenceArtifact) (cutoff : Instant)
    (registry : RegistryFields hex) : Prop where
  observed : ∃ ordered, Observed hex sources cutoff ordered registry.observations ∧
    registry.sourceManifests = ordered.map (·.manifest)
  cutoff_eq : registry.cutoff = cutoff
  latest : latestValidation registry.sourceManifests = some registry.knowledgeTime
  conflicts : ConflictsOf hex registry.observations registry.conflicts
  candidates : CandidatesOf hex registry.observations (registry.conflicts.flatMap (·.1.observationIds))
    registry.candidates
  transitions : TransitionsOf hex registry.observations registry.candidates registry.transitions

theorem Observed.nodup (h : Observed hex sources cutoff ordered observations) : observations.Nodup := by
  have hfields := retainedFields_nodup h.accepted.artifacts
  exact (h.fields.nodup_iff.mpr hfields).of_map

theorem Observed.lineage (h : Observed hex sources cutoff ordered observations)
    {o : IdentityObservation} (ho : o ∈ observations) : ∃ source ∈ sources,
      o.1.sourceArtifactId = source.manifest.artifactId ∧ o.1.sourceManifestId = source.manifest.manifestId ∧
        o.1.claimedReportDate = source.manifest.claimedReportDate ∧
          o.1.knowledgeTime = source.manifest.validatedAt := by
  obtain ⟨source, hsource, record, -, heq⟩ :=
    mem_retainedFields.mp (h.fields.mem_iff.mp (List.mem_map.mpr ⟨o, ho, rfl⟩))
  refine ⟨source, hsource, ?_⟩
  rw [heq]
  exact ⟨rfl, rfl, rfl, rfl⟩

theorem validateSourceManifests_ok (h : Materialized hex sources cutoff registry) :
    validateSourceManifests registry = .ok () := by
  obtain ⟨ordered, hobserved, hmanifests⟩ := h.observed
  have hperm : ordered.Perm sources := hobserved.ordered ▸ perm_sortOn _ _
  have haccepted := hobserved.accepted.perm hperm
  have hsorted : registry.sourceManifests = sortOn (manifestKey hex) registry.sourceManifests := by
    have hmap := map_sortOn (fun source : StoredReferenceArtifact => manifestKey hex source.manifest)
      (manifestKey hex) (·.manifest) (fun _ => rfl) sources
    rw [hmanifests, hobserved.ordered, hmap, sortOn_sortOn]
  have hne : registry.sourceManifests ≠ [] := by
    rw [hmanifests]
    exact fun hnil => haccepted.ne_nil (List.map_eq_nil_iff.mp hnil)
  have hknown : ∀ manifest ∈ registry.sourceManifests, manifest.validatedAt ≤ registry.cutoff := by
    intro manifest hmanifest
    rw [hmanifests] at hmanifest
    obtain ⟨source, hsource, rfl⟩ := List.mem_map.mp hmanifest
    rw [h.cutoff_eq]
    exact haccepted.known source hsource
  have hlatest : registry.knowledgeTime ≤ registry.cutoff := by
    obtain ⟨manifest, hmanifest, heq⟩ := List.mem_map.mp (List.max?_mem h.latest)
    rw [← heq]
    exact hknown manifest hmanifest
  have hartifacts : (registry.sourceManifests.map (·.artifactId)).Nodup := by
    rw [hmanifests, List.map_map]
    exact haccepted.artifacts
  have hdates : (registry.sourceManifests.map (·.claimedReportDate)).Nodup := by
    rw [hmanifests, List.map_map]
    exact haccepted.dates
  unfold validateSourceManifests
  rw [raiseIf_neg (not_lt.mpr hlatest), ok_bind, raiseIf_neg hne, ok_bind, raiseIf_neg (not_not.mpr hsorted),
    ok_bind, raiseIf_neg (not_not.mpr hartifacts), ok_bind, raiseIf_neg (not_not.mpr hdates), ok_bind,
    raiseIf_neg (not_not.mpr h.latest), ok_bind]
  refine raiseIf_neg ?_
  rintro ⟨manifest, hmanifest, hlate⟩
  exact absurd (hknown manifest hmanifest) (not_le.mpr hlate)

theorem validateObservations_ok (h : Materialized hex sources cutoff registry) :
    validateObservations registry = .ok () := by
  obtain ⟨ordered, hobserved, hmanifests⟩ := h.observed
  have hperm : ordered.Perm sources := hobserved.ordered ▸ perm_sortOn _ _
  have hartifacts : (registry.sourceManifests.map (·.artifactId)).Nodup := by
    rw [hmanifests, List.map_map]
    exact (hperm.map _).nodup_iff.mpr hobserved.accepted.artifacts
  have hsorted : SortedUnique hex (registry.observations.map (·.1.observationId)) := by
    obtain ⟨built, hbuilt⟩ := hobserved.sorted
    have hnodup := hobserved.nodup
    rw [hbuilt] at hnodup ⊢
    exact sortedUnique_sortOn (nodup_ids ((perm_sortOn _ _).nodup_iff.mp hnodup))
  have hlineage : ¬∃ observation ∈ registry.observations,
      ¬(lastUnder (·.artifactId) registry.sourceManifests observation.1.sourceArtifactId).any fun manifest =>
        observation.1.sourceManifestId = manifest.manifestId &&
          observation.1.claimedReportDate = manifest.claimedReportDate &&
            observation.1.knowledgeTime = manifest.validatedAt := by
    rintro ⟨observation, hobservation, hnot⟩
    obtain ⟨source, hsource, hartifact, hmanifest, hdate, htime⟩ := hobserved.lineage hobservation
    have hmem : source.manifest ∈ registry.sourceManifests := by
      rw [hmanifests]
      exact List.mem_map.mpr ⟨source, hperm.mem_iff.mpr hsource, rfl⟩
    rw [hartifact, lastUnder_name hartifacts hmem] at hnot
    simp [hmanifest, hdate, htime] at hnot
  have hcounts : ¬∃ manifest ∈ registry.sourceManifests,
      (registry.observations.filter (·.1.sourceArtifactId = manifest.artifactId)).length ≠
        manifest.retainedUnverifiedEquityCount := by
    rintro ⟨manifest, hmanifest, hne⟩
    rw [hmanifests] at hmanifest
    obtain ⟨source, hsource, rfl⟩ := List.mem_map.mp hmanifest
    refine hne ?_
    rw [← retainedFields_count hobserved.accepted.artifacts (hperm.mem_iff.mp hsource),
      ← (hobserved.fields.filter _).length_eq, List.filter_map, List.length_map]
    rfl
  unfold validateObservations
  rw [raiseIf_neg (not_not.mpr hsorted), ok_bind, raiseIf_neg (not_not.mpr h.candidates.sorted), ok_bind,
    raiseIf_neg (not_not.mpr h.transitions.sorted), ok_bind, raiseIf_neg (not_not.mpr h.conflicts.sorted),
    ok_bind, raiseIf_neg hobserved.ne_nil, ok_bind, raiseIf_neg hlineage, ok_bind]
  exact raiseIf_neg hcounts

/-- An observation belongs to one candidate only. -/
theorem eq_of_mem_observationIds (hnodup : observations.Nodup)
    (hcandidates : CandidatesOf hex observations conflicted candidates)
    {a b : IdentityContinuityCandidate hex} (ha : a ∈ candidates) (hb : b ∈ candidates) {id : ContentId}
    (hida : id ∈ a.1.observationIds) (hidb : id ∈ b.1.observationIds) : a = b := by
  by_contra hne
  have hparts : (candidates.flatMap (·.1.observationIds)).Nodup :=
    hcandidates.partition.nodup_iff.mpr (nodup_ids hnodup)
  haveI : Std.Symm (Function.onFun List.Disjoint
      fun candidate : IdentityContinuityCandidate hex => candidate.1.observationIds) :=
    ⟨fun _ _ hab => hab.symm⟩
  exact (List.nodup_flatMap.mp hparts).2.forall ha hb hne hida hidb

theorem candidateIdOf_eq (hnodup : observations.Nodup)
    (hcandidates : CandidatesOf hex observations conflicted candidates) (hcandidate : candidate ∈ candidates)
    {id : ContentId} (hid : id ∈ candidate.1.observationIds) :
    candidateIdOf candidates id = some candidate.1.candidateId := by
  unfold candidateIdOf
  cases hfound : candidates.reverse.find? fun candidate => decide (id ∈ candidate.1.observationIds) with
  | none =>
    have hnone := List.find?_eq_none.mp hfound candidate (List.mem_reverse.mpr hcandidate)
    exact absurd (decide_eq_true hid) hnone
  | some found =>
    have hmem := List.mem_reverse.mp (List.mem_of_find?_eq_some hfound)
    have hin := List.find?_some hfound
    rw [decide_eq_true_eq] at hin
    rw [eq_of_mem_observationIds hnodup hcandidates hcandidate hmem hid hin]
    rfl

theorem transitionAgrees_ok (h : Materialized hex sources cutoff registry)
    {transition : IdentityCandidateTransition} (htransition : transition ∈ registry.transitions) :
    transitionAgrees registry transition.1 = true := by
  obtain ⟨ordered, hobserved, -⟩ := h.observed
  have hnodup := hobserved.nodup
  obtain ⟨candidate, hcandidate, hof⟩ := h.transitions.each transition htransition
  obtain ⟨members, pair, hmembers, hjoins, heq⟩ := hof.joins
  obtain ⟨hprevious, hcurrent⟩ := hof.ends
  have hcandidateIds : (registry.candidates.map (·.1.candidateId)).Nodup := by
    have hsorted := h.candidates.sorted
    rw [SortedUnique] at hsorted
    rw [hsorted, sortedIds]
    exact (perm_sortOn _ _).nodup_iff.mpr (List.nodup_dedup _)
  have hcandidateId := lastUnder_name hcandidateIds hcandidate
  have hpreviousId := lastUnder_name (nodup_ids hnodup) (hmembers.mem _ hjoins.previous)
  have hcurrentId := lastUnder_name (nodup_ids hnodup) (hmembers.mem _ hjoins.current)
  rw [heq] at hprevious hcurrent ⊢
  have hownPrevious := candidateIdOf_eq hnodup h.candidates hcandidate hprevious
  have hownCurrent := candidateIdOf_eq hnodup h.candidates hcandidate hcurrent
  unfold transitionAgrees
  rw [show (transitionFields candidate.1.candidateId pair).candidateId = candidate.1.candidateId from rfl,
    show (transitionFields candidate.1.candidateId pair).previousObservationId =
      pair.1.1.observationId from rfl,
    show (transitionFields candidate.1.candidateId pair).currentObservationId =
      pair.2.1.observationId from rfl, hcandidateId, hpreviousId, hcurrentId]
  dsimp only
  rw [show (transitionFields candidate.1.candidateId pair).previousObservationId =
      pair.1.1.observationId from rfl] at hownPrevious
  rw [show (transitionFields candidate.1.candidateId pair).currentObservationId =
      pair.2.1.observationId from rfl] at hownCurrent
  rw [hownPrevious, hownCurrent]
  simp

/-- A candidate is that of an ISIN, or that of an observation without one. -/
theorem candidate_fields (hcandidates : CandidatesOf hex observations conflicted candidates)
    (hcandidate : candidate ∈ candidates) :
    (∃ group ∈ isinGroups observations, candidate.1 = isinCandidateFields hex conflicted group) ∨
      ∃ o ∈ observations, o.1.validatedIsin = none ∧ candidate.1 = unvalidatedCandidateFields conflicted o := by
  have hmem := hcandidates.fields.mem_iff.mp (List.mem_map.mpr ⟨candidate, hcandidate, rfl⟩)
  rcases List.mem_append.mp hmem with hmem | hmem
  · obtain ⟨group, hgroup, heq⟩ := List.mem_map.mp hmem
    exact .inl ⟨group, hgroup, heq.symm⟩
  · obtain ⟨o, ho, heq⟩ := List.mem_map.mp hmem
    obtain ⟨ho, hnone⟩ := List.mem_filter.mp ho
    exact .inr ⟨o, ho, Option.isNone_iff_eq_none.mp hnone, heq.symm⟩

/-- The members of the candidate of an ISIN are the group that it is made of. -/
theorem members_perm {group : Option String × List IdentityObservation} {members : List IdentityObservation}
    (hmembers : MembersOf observations (isinCandidateFields hex conflicted group).observationIds members) :
    members.Perm group.2 := by
  have hids : (members.map (·.1.observationId)).Perm (group.2.map (·.1.observationId)) := by
    rw [hmembers.named]
    exact perm_sortOn _ _
  have hinj : Function.Injective fun o : IdentityObservation => o.1.observationId :=
    fun _ _ => observationId_inj
  exact (List.map_perm_map_iff hinj).mp hids

theorem candidateLineage_ok (hnodup : registry.observations.Nodup)
    (hcandidates : CandidatesOf hex registry.observations conflicted registry.candidates)
    (hcandidate : candidate ∈ registry.candidates) :
    validateCandidateLineage registry conflicted candidate = .ok () := by
  have hids : ∀ id ∈ candidate.1.observationIds, id ∈ registry.observations.map (·.1.observationId) :=
    fun id hid => hcandidates.partition.mem_iff.mp (List.mem_flatMap.mpr ⟨candidate, hcandidate, hid⟩)
  obtain ⟨members, -, hmembers⟩ := membersOf hnodup hids
  have hfound := hmembers.found
  unfold validateCandidateLineage
  dsimp only
  rw [hfound]
  rcases candidate_fields hcandidates hcandidate with ⟨group, hgroup, heq⟩ | ⟨o, ho, hnone, heq⟩
  · rw [heq] at hmembers ⊢
    have hperm := members_perm hmembers
    have hdates : (members.map (·.1.claimedReportDate)).dedup.length =
        (group.2.map (·.1.claimedReportDate)).dedup.length := (hperm.map _).dedup.length_eq
    have hisin : ¬∃ observation ∈ members, observation.1.validatedIsin ≠
        (isinCandidateFields hex conflicted group).validatedIsin := by
      rintro ⟨observation, hobservation, hne⟩
      exact hne (((mem_isinGroups hgroup).2.2.2 observation).mp (hperm.mem_iff.mp hobservation)).2
    have hstatus : (isinCandidateFields hex conflicted group).status =
        if (isinCandidateFields hex conflicted group).observationIds.any (· ∈ conflicted) then .conflict
        else if (members.map (·.1.claimedReportDate)).dedup.length = 1 then .singleVintage
        else .candidateContinuity := by
      rw [hdates]
      rfl
    have htouches : (isinCandidateFields hex conflicted group).observationIds.any (· ∈ conflicted) =
        decide ((isinCandidateFields hex conflicted group).status = .conflict) := by
      rw [hstatus]
      split
      next h => rw [h]; rfl
      next h =>
        rw [Bool.not_eq_true] at h
        rw [h]
        split <;> rfl
    rw [raiseIf_neg (not_not.mpr htouches), ok_bind]
    show (do raiseIf _ _; raiseIf _ _) = _
    rw [raiseIf_neg hisin, ok_bind]
    exact raiseIf_neg (not_not.mpr hstatus)
  · rw [heq] at hmembers ⊢
    have hown : members = [o] := by
      have hnamed := hmembers.named
      obtain ⟨p, rfl, hp⟩ := List.map_eq_singleton_iff.mp hnamed
      rw [observationId_inj hp]
    have htouches : (unvalidatedCandidateFields conflicted o).observationIds.any (· ∈ conflicted) =
        decide ((unvalidatedCandidateFields conflicted o).status = .conflict) := by
      simp only [unvalidatedCandidateFields, List.any_cons, List.any_nil, Bool.or_false]
      split
      next h => simp [h]
      next h => simp [h]
    have hshape : ¬(members.length ≠ 1 ∨ ∃ observation ∈ members, observation.1.validatedIsin ≠ none ∨
        some observation.1.rawSourceIdentifier ≠
          (unvalidatedCandidateFields conflicted o).rawSourceIdentifier) := by
      rw [hown]
      simp [hnone, unvalidatedCandidateFields]
    rw [raiseIf_neg (not_not.mpr htouches), ok_bind]
    exact raiseIf_neg hshape

theorem validateGraph_ok (h : Materialized hex sources cutoff registry) :
    validateGraph registry = .ok () := by
  obtain ⟨ordered, hobserved, -⟩ := h.observed
  have hnodup := hobserved.nodup
  have htransitions : ¬∃ transition ∈ registry.transitions, ¬transitionAgrees registry transition.1 := by
    rintro ⟨transition, htransition, hnot⟩
    exact hnot (transitionAgrees_ok h htransition)
  have hconflicts : ¬∃ conflict ∈ registry.conflicts, ∃ id ∈ conflict.1.observationIds,
      id ∉ registry.observations.map (·.1.observationId) := by
    rintro ⟨conflict, hconflict, id, hid, hnot⟩
    obtain ⟨o, ho, hname, -⟩ := (h.conflicts.mem id).mp (List.mem_flatMap.mpr ⟨conflict, hconflict, hid⟩)
    exact hnot (List.mem_map.mpr ⟨o, ho, hname⟩)
  unfold validateGraph
  rw [raiseIf_neg (not_not.mpr h.candidates.partition), ok_bind, raiseIf_neg htransitions, ok_bind,
    raiseIf_neg hconflicts, ok_bind]
  exact forM_eq_ok.mpr fun candidate hcandidate => candidateLineage_ok hnodup h.candidates hcandidate

/-- What is materialized is never rejected by the checks of the registry. -/
theorem validateRegistry_ok (h : Materialized hex sources cutoff registry) :
    validateRegistry registry = .ok () := by
  unfold validateRegistry
  rw [validateSourceManifests_ok h, ok_bind, validateObservations_ok h, ok_bind]
  exact validateGraph_ok h

theorem materialize_ok (h : sourceObservations hex sources cutoff = .ok (ordered, observations)) :
    ∃ registry, materializeCrossVintageIdentityRegistry hex sources cutoff = .ok registry ∧
      registry.1.observations = observations ∧ Materialized hex sources cutoff registry.1 := by
  have hobserved := sourceObservations_eq_ok h
  have hnodup := hobserved.nodup
  have hperm : ordered.Perm sources := hobserved.ordered ▸ perm_sortOn _ _
  obtain ⟨conflicts, hconflicts, hconflictsOf⟩ := buildConflicts_ok hex hnodup
  obtain ⟨candidates, hcandidates, hcandidatesOf⟩ := buildCandidates_ok hnodup conflicts
  obtain ⟨transitions, htransitions, htransitionsOf⟩ := buildTransitions_ok hnodup hcandidatesOf
  cases hlatest : latestValidation (ordered.map (·.manifest)) with
  | none =>
    have hnil := List.map_eq_nil_iff.mp (List.map_eq_nil_iff.mp (List.max?_eq_none_iff.mp hlatest))
    rw [hnil] at hperm
    exact absurd (List.nil_perm.mp hperm) hobserved.accepted.ne_nil
  | some knowledgeTime =>
    have hmaterialized : Materialized hex sources cutoff
        { cutoff := cutoff
          knowledgeTime := knowledgeTime
          sourceManifests := ordered.map (·.manifest)
          observations := observations
          candidates := candidates
          transitions := transitions
          conflicts := conflicts } :=
      ⟨⟨ordered, hobserved, rfl⟩, rfl, hlatest, hconflictsOf, hcandidatesOf, htransitionsOf⟩
    have hvalid := validateRegistry_ok hmaterialized
    refine ⟨⟨_, hvalid⟩, ?_, rfl, hmaterialized⟩
    unfold materializeCrossVintageIdentityRegistry
    rw [h, ok_bind]
    dsimp only
    rw [hconflicts, ok_bind, hcandidates, ok_bind, htransitions, ok_bind, hlatest]
    exact Checked.build_of_ok hvalid

end Registry

section Soundness

variable {registry : RegistryFields hex} {more : List StoredReferenceArtifact}

/-- An observation that some conflict is about. -/
def InConflict (registry : RegistryFields hex) (id : ContentId) : Prop :=
  ∃ conflict ∈ registry.conflicts, id ∈ conflict.1.observationIds

/-- A transition of a continuity candidate, from one observed date of its ISIN to the next. -/
structure SoundTransition (registry : RegistryFields hex) (transition : TransitionFields)
    (candidate : CandidateFields) (isin : String) (previous current : IdentityObservation) : Prop where
  candidateId : transition.candidateId = candidate.candidateId
  basis : candidate.basis = .validatedIsin
  status : candidate.status = .candidateContinuity
  ofIsin : candidate.validatedIsin = some isin
  previousId : transition.previousObservationId = previous.1.observationId
  currentId : transition.currentObservationId = current.1.observationId
  previousMember : previous.1.observationId ∈ candidate.observationIds
  currentMember : current.1.observationId ∈ candidate.observationIds
  later : previous.1.claimedReportDate < current.1.claimedReportDate
  consecutive : ∀ o ∈ registry.observations, o.1.validatedIsin = some isin →
    ¬(previous.1.claimedReportDate < o.1.claimedReportDate ∧
      o.1.claimedReportDate < current.1.claimedReportDate)

/-- The graph of a registry: a partition into candidates, a partial matching of transitions inside the
continuity candidates, and nothing ambiguous inside these. -/
structure SoundGraph (registry : RegistryFields hex) : Prop where
  partition : (registry.candidates.flatMap (·.1.observationIds)).Perm
    (registry.observations.map (·.1.observationId))
  distinct : (registry.observations.map (·.1.observationId)).Nodup
  transitions : ∀ transition ∈ registry.transitions, ∃ candidate ∈ registry.candidates,
    ∃ isin, ∃ previous ∈ registry.observations, ∃ current ∈ registry.observations,
      SoundTransition registry transition.1 candidate.1 isin previous current
  earlierEnds : (registry.transitions.map (·.1.previousObservationId)).Nodup
  laterEnds : (registry.transitions.map (·.1.currentObservationId)).Nodup
  seriesOnce : ∀ candidate ∈ registry.candidates, candidate.1.status = .candidateContinuity →
    ∀ a ∈ registry.observations, a.1.observationId ∈ candidate.1.observationIds →
      ∀ b ∈ registry.observations, b.1.observationId ∈ candidate.1.observationIds →
        a.1.claimedReportDate = b.1.claimedReportDate → a.1.securitySeries = b.1.securitySeries → a = b
  oneIdentifier : ∀ candidate ∈ registry.candidates, candidate.1.status = .candidateContinuity →
    ∀ a ∈ registry.observations, a.1.observationId ∈ candidate.1.observationIds →
      ∀ o ∈ registry.observations, o.1.listingKey = a.1.listingKey ∨
        o.1.financialInstrumentId = a.1.financialInstrumentId → o.1.identifierKey = a.1.identifierKey

theorem Materialized.nodup (h : Materialized hex sources cutoff registry) : registry.observations.Nodup := by
  obtain ⟨ordered, hobserved, -⟩ := h.observed
  exact hobserved.nodup

/-- The members of a continuity candidate are of its ISIN, and none is in conflict. -/
theorem continuity_members (h : Materialized hex sources cutoff registry)
    {candidate : IdentityContinuityCandidate hex} (hcandidate : candidate ∈ registry.candidates)
    (hstatus : candidate.1.status = .candidateContinuity) :
    ∃ isin, candidate.1.validatedIsin = some isin ∧
      (∀ o ∈ registry.observations, o.1.observationId ∈ candidate.1.observationIds ↔
        o.1.validatedIsin = some isin) ∧
      ∀ o ∈ registry.observations, o.1.observationId ∈ candidate.1.observationIds →
        ¬Conflicted registry.observations o := by
  rcases candidate_fields h.candidates hcandidate with ⟨group, hgroup, heq⟩ | ⟨o, -, -, heq⟩
  · obtain ⟨-, -, hsome, hmem⟩ := mem_isinGroups hgroup
    obtain ⟨isin, hisin⟩ := Option.isSome_iff_exists.mp hsome
    rw [hisin] at hmem
    have hids : ∀ o ∈ registry.observations, o.1.observationId ∈ candidate.1.observationIds ↔
        o.1.validatedIsin = some isin := by
      intro o ho
      rw [heq, show (isinCandidateFields hex (registry.conflicts.flatMap (·.1.observationIds)) group).observationIds
        = sortOn hex (group.2.map (·.1.observationId)) from rfl, (perm_sortOn _ _).mem_iff, List.mem_map]
      constructor
      · rintro ⟨p, hp, hsame⟩
        rw [← observationId_inj hsame]
        exact ((hmem p).mp hp).2
      · exact fun hkey => ⟨o, (hmem o).mpr ⟨ho, hkey⟩, rfl⟩
    refine ⟨isin, by rw [heq]; exact hisin, hids, fun o ho hid hconflicted => ?_⟩
    have hin : o.1.observationId ∈ registry.conflicts.flatMap (·.1.observationIds) :=
      (h.conflicts.mem _).mpr ⟨o, ho, rfl, hconflicted⟩
    rw [heq] at hstatus hid
    have htouches : (sortOn hex (group.2.map (·.1.observationId))).any
        (· ∈ registry.conflicts.flatMap (·.1.observationIds)) = true :=
      List.any_eq_true.mpr ⟨_, hid, decide_eq_true hin⟩
    unfold isinCandidateFields at hstatus
    rw [htouches] at hstatus
    cases hstatus
  · rw [heq] at hstatus
    unfold unvalidatedCandidateFields at hstatus
    dsimp only at hstatus
    split at hstatus <;> cases hstatus

theorem Materialized.sound (h : Materialized hex sources cutoff registry) : SoundGraph registry where
  partition := h.candidates.partition
  distinct := nodup_ids h.nodup
  earlierEnds := h.transitions.previous
  laterEnds := h.transitions.current
  transitions := by
    intro transition htransition
    obtain ⟨candidate, hcandidate, hof⟩ := h.transitions.each transition htransition
    obtain ⟨members, pair, hmembers, hjoins, heq⟩ := hof.joins
    obtain ⟨hprevious, hcurrent⟩ := hof.ends
    obtain ⟨isin, hisin, hids, -⟩ := continuity_members h hcandidate hof.status
    rw [heq] at hprevious hcurrent ⊢
    refine ⟨candidate, hcandidate, isin, pair.1, hmembers.mem _ hjoins.previous, pair.2,
      hmembers.mem _ hjoins.current, rfl, hof.basis, hof.status, hisin, rfl, rfl, hprevious, hcurrent,
      hjoins.later, fun o ho hkey => ?_⟩
    have hid := (hids o ho).mpr hkey
    rw [← hmembers.named] at hid
    obtain ⟨p, hp, hsame⟩ := List.mem_map.mp hid
    exact hjoins.consecutive o (observationId_inj hsame ▸ hp)
  seriesOnce := by
    intro candidate hcandidate hstatus a ha hida b hb hidb hdate hseries
    obtain ⟨isin, -, hids, hclean⟩ := continuity_members h hcandidate hstatus
    have hisinA := (hids a ha).mp hida
    have hisinB := (hids b hb).mp hidb
    by_contra hne
    refine hclean b hb hidb (.series a ha hne ?_ (hisinA.trans hisinB.symm) hdate hseries)
    rw [hisinB]
    rfl
  oneIdentifier := by
    intro candidate hcandidate hstatus a ha hida o ho hsame
    obtain ⟨-, -, -, hclean⟩ := continuity_members h hcandidate hstatus
    by_contra hne
    rcases hsame with hlisting | hfinancial
    · exact hclean a ha hida (.listingKey o ho hlisting hne)
    · exact hclean a ha hida (.financialId o ho hfinancial hne)

theorem Materialized.inConflict (h : Materialized hex sources cutoff registry) (id : ContentId) :
    InConflict registry id ↔ ∃ o ∈ registry.observations, o.1.observationId = id ∧
      Conflicted registry.observations o := by
  rw [← h.conflicts.mem id, InConflict, List.mem_flatMap]

/-- Sources in another order give the same ordered sources and observations. -/
theorem sourceObservations_perm (h : sourceObservations hex sources cutoff = .ok (ordered, observations))
    (hperm : others.Perm sources) : sourceObservations hex others cutoff = .ok (ordered, observations) := by
  have hobserved := sourceObservations_eq_ok h
  have hsorted : sortOn (fun source => manifestKey hex source.manifest) others =
      sortOn (fun source => manifestKey hex source.manifest) sources := by
    refine (sortOn_eq_of_perm _ hperm.symm fun a ha b hb hkey => ?_).symm
    have hdate : a.manifest.claimedReportDate = b.manifest.claimedReportDate :=
      congrArg Prod.fst (toLex.injective hkey)
    exact List.inj_on_of_nodup_map hobserved.accepted.dates ha hb hdate
  have hchecks : checkSources others cutoff = .ok () :=
    checkSources_iff.mpr (hobserved.accepted.perm hperm)
  unfold sourceObservations at h ⊢
  rw [checkSources_iff.mpr hobserved.accepted] at h
  rw [hchecks, hsorted]
  exact h

/-- Sources whose rows make valid observations are observed. -/
theorem sourceObservations_ok (hex : ContentId → String) (haccepted : SourcesAccepted sources cutoff)
    (hrows : ∀ fields ∈ retainedFields sources, validateObservation fields = .ok ())
    (hne : retainedFields sources ≠ []) :
    ∃ ordered observations, sourceObservations hex sources cutoff = .ok (ordered, observations) := by
  have hsources := perm_sortOn (fun source : StoredReferenceArtifact => manifestKey hex source.manifest) sources
  obtain ⟨built, hbuilt, hfields⟩ := Checked.mapM_build_ok validateObservation
    (fun row : StoredReferenceArtifact × NseCmSecurityRecord => observationFields row.1 row.2)
    fun row (hrow : row ∈ retainedRows (sortOn (fun source => manifestKey hex source.manifest) sources)) =>
      hrows _ (List.mem_map.mpr ⟨row, (hsources.flatMap_right _).mem_iff.mp hrow, rfl⟩)
  have hbuiltNe : built ≠ [] := by
    intro hnil
    rw [hnil] at hfields
    refine hne (List.nil_perm.mp ?_)
    exact (List.Perm.of_eq hfields).trans ((hsources.flatMap_right _).map _)
  refine ⟨sortOn (fun source => manifestKey hex source.manifest) sources,
    sortOn (hex ·.1.observationId) built, ?_⟩
  unfold sourceObservations
  rw [checkSources_iff.mpr haccepted, ok_bind]
  dsimp only
  rw [hbuilt, ok_bind, raiseIf_neg hbuiltNe, ok_bind]
  rfl

def plainRecord : NseCmSecurityRecord where
  sourceRowNumber := 2
  sourceRecordId := .ofFields "nse-cm-mii-security" [.int 1, .int 2, .digest 1]
  normalizedRowSha256 := .digest 1
  financialInstrumentId := 1
  tickerSymbol := "ABC"
  securitySeries := "EQ"
  instrumentName := "ABC LIMITED"
  rawSourceIdentifier := "INE000A01012"
  validatedIsin := some "INE000A01012"
  deleteFlag := "N"
  disposition := .retainedUnverifiedEquity

def plainMaster : StoredReferenceArtifact where
  manifest := ⟨.digest 2, .digest 3, .collectionOnly, 1, 10, 1⟩
  records := [plainRecord]
  rowNumbers := rfl
  recordIds := by
    intro record hrecord
    obtain rfl := List.mem_singleton.mp hrecord
    rfl
  retained := rfl

end Soundness

end IdentityRegistry

end IndiaSwing
