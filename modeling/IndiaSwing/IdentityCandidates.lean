import IndiaSwing.IdentityConflicts

namespace IndiaSwing

open ExceptGuards KeySort Grouping

namespace IdentityRegistry

variable {hex : ContentId → String} {observations : List IdentityObservation}
variable {observation : IdentityObservation} {conflicted : List ContentId}

/-- What the checks of an observation say of its identifiers. -/
theorem observation_identifiers (observation : IdentityObservation) :
    (∀ isin ∈ observation.1.validatedIsin, isIsin isin.toList = true) ∧
      observation.1.rawSourceIdentifier ≠ "" := by
  have h := observation.2
  unfold validateObservation at h
  obtain ⟨-, h⟩ := raiseIf_bind_eq_ok.mp h
  obtain ⟨-, h⟩ := raiseIf_bind_eq_ok.mp h
  obtain ⟨-, h⟩ := raiseIf_bind_eq_ok.mp h
  obtain ⟨hraw, h⟩ := raiseIf_bind_eq_ok.mp h
  obtain ⟨-, h⟩ := raiseIf_bind_eq_ok.mp h
  obtain ⟨-, h⟩ := raiseIf_bind_eq_ok.mp h
  obtain ⟨-, h⟩ := raiseIf_bind_eq_ok.mp h
  obtain ⟨hisin, -⟩ := raiseIf_bind_eq_ok.mp h
  constructor
  · intro isin hmem
    by_contra hnot
    exact hisin ⟨isin, hmem, .inl hnot⟩
  · rintro hempty
    rw [hempty] at hraw
    exact hraw (by decide)

section Fields

/-- The groups that candidates of an ISIN are made of. -/
def isinGroups (observations : List IdentityObservation) : List (Option String × List IdentityObservation) :=
  groupsBy (·.1.validatedIsin) (observations.filter (·.1.validatedIsin.isSome))

variable {group : Option String × List IdentityObservation}

theorem mem_isinGroups (hgroup : group ∈ isinGroups observations) :
    group.2.Sublist observations ∧ group.2 ≠ [] ∧ group.1.isSome ∧
      (∀ o, o ∈ group.2 ↔ o ∈ observations ∧ o.1.validatedIsin = group.1) := by
  obtain ⟨o, ho, rfl⟩ := mem_groupsBy.mp hgroup
  have hsome := (List.mem_filter.mp ho).2
  refine ⟨List.filter_sublist.trans List.filter_sublist, ?_, hsome, fun p => ?_⟩
  · exact List.ne_nil_of_mem (mem_group.mpr ⟨ho, rfl⟩)
  · rw [mem_group, List.mem_filter]
    constructor
    · rintro ⟨⟨hp, -⟩, hkey⟩
      exact ⟨hp, hkey⟩
    · rintro ⟨hp, hkey⟩
      exact ⟨⟨hp, by rw [hkey]; exact hsome⟩, hkey⟩

theorem isinCandidate_valid (hnodup : observations.Nodup) (hgroup : group ∈ isinGroups observations) :
    validateCandidate hex (isinCandidateFields hex conflicted group) = .ok () := by
  obtain ⟨hsub, hne, hsome, hmem⟩ := mem_isinGroups hgroup
  have hids : (group.2.map (·.1.observationId)).Nodup := nodup_ids (hnodup.sublist hsub)
  have hnodupSorted : (sortOn hex (group.2.map (·.1.observationId))).Nodup :=
    (perm_sortOn _ _).nodup_iff.mpr hids
  have hfirst : ¬(sortOn hex (group.2.map (·.1.observationId)) = [] ∨
      sortedIds hex (sortOn hex (group.2.map (·.1.observationId))) ≠
        sortOn hex (group.2.map (·.1.observationId))) := by
    rw [not_or, not_not, sortedIds_of_nodup hnodupSorted, sortOn_sortOn]
    refine ⟨fun hnil => hne ?_, rfl⟩
    have hperm := perm_sortOn hex (group.2.map (·.1.observationId))
    rw [hnil] at hperm
    exact List.map_eq_nil_iff.mp (List.nil_perm.mp hperm)
  have hisin : group.1.any (fun isin => isIsin isin.toList) = true := by
    obtain ⟨o, ho⟩ := List.exists_mem_of_ne_nil _ hne
    obtain ⟨isin, hisin⟩ := Option.isSome_iff_exists.mp hsome
    have hkey := ((hmem o).mp ho).2
    rw [hisin] at hkey ⊢
    exact (observation_identifiers o).1 isin hkey
  have hsecond : ¬(¬group.1.any (fun isin => isIsin isin.toList) ∨ (none : Option String) ≠ none ∨
      (isinCandidateFields hex conflicted group).status = .unresolvedIdentifier) := by
    rw [not_or, not_or, not_not, not_not]
    refine ⟨hisin, rfl, ?_⟩
    unfold isinCandidateFields
    dsimp only
    split
    · decide
    · split <;> decide
  unfold validateCandidate
  rw [show (isinCandidateFields hex conflicted group).observationIds =
    sortOn hex (group.2.map (·.1.observationId)) from rfl, raiseIf_neg hfirst, ok_bind]
  exact raiseIf_neg hsecond

theorem unvalidatedCandidate_valid (observation : IdentityObservation) :
    validateCandidate hex (unvalidatedCandidateFields conflicted observation) = .ok () := by
  have hraw := (observation_identifiers observation).2
  have hsorted : sortedIds hex [observation.1.observationId] = [observation.1.observationId] := by
    rw [sortedIds_of_nodup (List.nodup_singleton _)]
    rfl
  unfold validateCandidate unvalidatedCandidateFields
  dsimp only
  rw [raiseIf_neg (by simp [hsorted]), ok_bind]
  refine raiseIf_neg ?_
  split <;> simp [hraw]

end Fields

section Candidates

/-- The candidates of some observations: sorted, one for each ISIN and for each observation without
one. -/
structure CandidatesOf (hex : ContentId → String) (observations : List IdentityObservation)
    (conflicted : List ContentId) (candidates : List (IdentityContinuityCandidate hex)) : Prop where
  sorted : SortedUnique hex (candidates.map (·.1.candidateId))
  fields : (candidates.map (·.1)).Perm
    ((isinGroups observations).map (isinCandidateFields hex conflicted) ++
      (observations.filter (·.1.validatedIsin.isNone)).map (unvalidatedCandidateFields conflicted))
  partition : (candidates.flatMap (·.1.observationIds)).Perm (observations.map (·.1.observationId))

theorem candidateIds_injOn {a b : CandidateFields} (h : a.candidateId = b.candidateId) :
    a.observationIds = b.observationIds := by
  simp only [CandidateFields.candidateId, ContentId.ofFields_inj, true_and, List.cons.injEq, and_true,
    ContentId.list_injective.eq_iff] at h
  exact h.2.2.2

/-- Values with distinct parts that are not empty have distinct names, when the name tells the parts. -/
theorem nodup_names_of_parts {α β ν : Type*} {parts : α → List β} {name : α → ν} {values : List α}
    (hparts : (values.flatMap parts).Nodup) (hne : ∀ a ∈ values, parts a ≠ [])
    (hname : ∀ a ∈ values, ∀ b ∈ values, name a = name b → parts a = parts b) :
    (values.map name).Nodup := by
  rw [List.nodup_flatMap] at hparts
  rw [List.Nodup, List.pairwise_map]
  refine hparts.2.imp_of_mem fun {a b} ha hb hdisjoint heq => ?_
  obtain ⟨x, hx⟩ := List.exists_mem_of_ne_nil _ (hne a ha)
  exact hdisjoint hx (hname a ha b hb heq ▸ hx)

/-- The parts of the fields of the candidates are the observations. -/
theorem candidateFields_partition (hex : ContentId → String) (observations : List IdentityObservation)
    (conflicted : List ContentId) :
    (((isinGroups observations).map (isinCandidateFields hex conflicted) ++
      (observations.filter (·.1.validatedIsin.isNone)).map
        (unvalidatedCandidateFields conflicted)).flatMap (·.observationIds)).Perm
      (observations.map (·.1.observationId)) := by
  rw [List.flatMap_append, List.flatMap_map, List.flatMap_map]
  have hisin : ((isinGroups observations).flatMap fun group =>
      (isinCandidateFields hex conflicted group).observationIds).Perm
        ((observations.filter (·.1.validatedIsin.isSome)).map (·.1.observationId)) := by
    have hgroups := (groupsBy_perm (fun o : IdentityObservation => o.1.validatedIsin)
      (observations.filter (·.1.validatedIsin.isSome))).map (·.1.observationId)
    rw [List.map_flatMap] at hgroups
    refine (List.Perm.flatMap_left _ fun group _ => ?_).trans hgroups
    exact perm_sortOn _ _
  have hunvalidated : ((observations.filter (·.1.validatedIsin.isNone)).flatMap fun o =>
      (unvalidatedCandidateFields conflicted o).observationIds) =
        (observations.filter (·.1.validatedIsin.isNone)).map (·.1.observationId) := by
    rw [List.map_eq_flatMap]
    rfl
  rw [hunvalidated]
  refine (hisin.append_right _).trans ?_
  rw [← List.map_append]
  have hsplit := List.filter_append_perm (fun o : IdentityObservation => o.1.validatedIsin.isSome) observations
  have hnone : (observations.filter fun o => !o.1.validatedIsin.isSome) =
      observations.filter (·.1.validatedIsin.isNone) := by
    refine List.filter_congr fun o _ => ?_
    rw [Option.not_isSome]
  rw [hnone] at hsplit
  exact hsplit.map _

/-- No candidate is rejected. -/
theorem buildCandidates_ok (hnodup : observations.Nodup) (conflicts : List (IdentityConflict hex)) :
    ∃ candidates, buildCandidates hex observations conflicts = .ok candidates ∧
      CandidatesOf hex observations (conflicts.flatMap (·.1.observationIds)) candidates := by
  obtain ⟨byIsin, hbyIsin, hisinFields⟩ := Checked.mapM_build_ok (validateCandidate hex)
    (isinCandidateFields hex (conflicts.flatMap (·.1.observationIds)))
    fun group hgroup => isinCandidate_valid hnodup hgroup
  obtain ⟨unvalidated, hunvalidated, hrawFields⟩ := Checked.mapM_build_ok (validateCandidate hex)
    (unvalidatedCandidateFields (conflicts.flatMap (·.1.observationIds)))
    fun o (_ : o ∈ observations.filter (·.1.validatedIsin.isNone)) => unvalidatedCandidate_valid o
  have hfields : ((byIsin ++ unvalidated).map (·.1)) =
      (isinGroups observations).map (isinCandidateFields hex (conflicts.flatMap (·.1.observationIds))) ++
        (observations.filter (·.1.validatedIsin.isNone)).map
          (unvalidatedCandidateFields (conflicts.flatMap (·.1.observationIds))) := by
    rw [List.map_append, hisinFields, hrawFields]
  have hperm := perm_sortOn (fun candidate : IdentityContinuityCandidate hex => hex candidate.1.candidateId)
    (byIsin ++ unvalidated)
  have hpartition : ((byIsin ++ unvalidated).flatMap (·.1.observationIds)).Perm
      (observations.map (·.1.observationId)) := by
    have h := candidateFields_partition hex observations (conflicts.flatMap (·.1.observationIds))
    rw [← hfields, List.flatMap_map] at h
    exact h
  have hids : ((byIsin ++ unvalidated).map (·.1.candidateId)).Nodup := by
    refine nodup_names_of_parts (hpartition.nodup_iff.mpr (nodup_ids hnodup)) ?_
      fun a _ b _ => candidateIds_injOn
    intro candidate _
    have h := candidate.2
    unfold validateCandidate at h
    exact (not_or.mp (raiseIf_bind_eq_ok.mp h).1).1
  refine ⟨sortOn (hex ·.1.candidateId) (byIsin ++ unvalidated), ?_, sortedUnique_sortOn hids, ?_, ?_⟩
  · unfold buildCandidates
    dsimp only
    show (groupsBy _ _).mapM _ >>= _ = _
    rw [show (groupsBy (fun o : IdentityObservation => o.1.validatedIsin)
      (observations.filter (·.1.validatedIsin.isSome))) = isinGroups observations from rfl, hbyIsin, ok_bind,
      hunvalidated]
    rfl
  · rw [← hfields]
    exact hperm.map _
  · exact (hperm.flatMap_right _).trans hpartition

end Candidates

end IdentityRegistry

end IndiaSwing
