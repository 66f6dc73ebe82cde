import IndiaSwing.IdentityRegistry

namespace IndiaSwing

open ExceptGuards KeySort Grouping

namespace IdentityRegistry

variable {hex : ContentId → String} {observations more : List IdentityObservation}
variable {a b observation : IdentityObservation} {ids : List ContentId}

theorem observationId_inj (h : a.1.observationId = b.1.observationId) : a = b := by
  simp only [ObservationFields.observationId, ContentId.ofFields_inj, true_and, List.cons.injEq,
    ContentId.int.injEq, ContentId.text.injEq, and_true] at h
  obtain ⟨h₁, h₂, h₃, h₄, h₅, h₆, h₇, h₈, h₉, h₁₀, h₁₁, h₁₂, h₁₃⟩ := h
  have hisin : a.1.validatedIsin = b.1.validatedIsin :=
    ContentId.option_injective (fun _ _ htext => ContentId.text.inj htext) h₁₂
  obtain ⟨a, ha⟩ := a
  obtain ⟨b, hb⟩ := b
  obtain rfl : a = b := by
    cases a
    cases b
    simp only at h₁ h₂ h₃ h₄ h₅ h₆ h₇ h₈ h₉ h₁₀ h₁₁ h₁₃ hisin
    subst h₁ h₂ h₃ h₄ h₅ h₆ h₇ h₈ h₉ h₁₀ h₁₁ h₁₃ hisin
    rfl
  rfl

theorem nodup_ids (h : observations.Nodup) : (observations.map (·.1.observationId)).Nodup :=
  h.map fun _ _ => observationId_inj

section Order

theorem sortOn_sortOn {α κ : Type*} [LinearOrder κ] (key : α → κ) (values : List α) :
    sortOn key (sortOn key values) = sortOn key values :=
  (sortOn_pairwise key values).insertionSort_eq

theorem sortedIds_of_nodup (h : ids.Nodup) : sortedIds hex ids = sortOn hex ids := by
  rw [sortedIds, h.dedup]

theorem sortedUnique_sortOn {α : Type*} {name : α → ContentId} {values : List α}
    (h : (values.map name).Nodup) : SortedUnique hex ((sortOn (fun a => hex (name a)) values).map name) := by
  have hsorted : (sortOn (fun a => hex (name a)) values).map name = sortOn hex (values.map name) :=
    map_sortOn _ hex name (fun _ => rfl) values
  rw [hsorted]
  have hnodup : (sortOn hex (values.map name)).Nodup := (perm_sortOn _ _).nodup_iff.mpr h
  rw [SortedUnique, sortedIds_of_nodup hnodup, sortOn_sortOn]

theorem mem_sortedIds {id : ContentId} : id ∈ sortedIds hex ids ↔ id ∈ ids := by
  rw [sortedIds, (perm_sortOn _ _).mem_iff, List.mem_dedup]

end Order

section Conflicts

/-- What puts an observation in conflict: another row of its ISIN, date and series, or its financial
id or listing key with another identifier. -/
inductive Conflicted (observations : List IdentityObservation) (observation : IdentityObservation) : Prop
  | series (other : IdentityObservation) (hother : other ∈ observations) (hne : other ≠ observation)
      (hsome : observation.1.validatedIsin.isSome)
      (hisin : other.1.validatedIsin = observation.1.validatedIsin)
      (hdate : other.1.claimedReportDate = observation.1.claimedReportDate)
      (hseries : other.1.securitySeries = observation.1.securitySeries)
  | financialId (other : IdentityObservation) (hother : other ∈ observations)
      (hid : other.1.financialInstrumentId = observation.1.financialInstrumentId)
      (hkey : other.1.identifierKey ≠ observation.1.identifierKey)
  | listingKey (other : IdentityObservation) (hother : other ∈ observations)
      (hid : other.1.listingKey = observation.1.listingKey)
      (hkey : other.1.identifierKey ≠ observation.1.identifierKey)

/-- More observations leave no observation out of its conflict. -/
theorem Conflicted.mono (hsub : ∀ o ∈ observations, o ∈ more) (h : Conflicted observations observation) :
    Conflicted more observation := by
  cases h with
  | series other hother hne hsome hisin hdate hseries =>
    exact .series other (hsub other hother) hne hsome hisin hdate hseries
  | financialId other hother hid hkey => exact .financialId other (hsub other hother) hid hkey
  | listingKey other hother hid hkey => exact .listingKey other (hsub other hother) hid hkey

theorem mem_reusedAcrossIdentifiers {κ : Type} [DecidableEq κ] {key : IdentityObservation → κ} :
    (∃ values ∈ reusedAcrossIdentifiers key observations, observation ∈ values) ↔
      observation ∈ observations ∧ ∃ other ∈ observations, key other = key observation ∧
        other.1.identifierKey ≠ observation.1.identifierKey := by
  unfold reusedAcrossIdentifiers
  rw [mem_groups_filter]
  refine and_congr_right fun hmem => ?_
  rw [one_lt_images_iff (mem_group.mpr ⟨hmem, rfl⟩)]
  simp only [mem_group, and_assoc]

theorem mem_repeatedSeries (hnodup : observations.Nodup) :
    (∃ values ∈ repeatedSeries observations, observation ∈ values) ↔
      (observation ∈ observations ∧ observation.1.validatedIsin.isSome) ∧
        ∃ other ∈ observations, other ≠ observation ∧
          other.1.validatedIsin = observation.1.validatedIsin ∧
            other.1.claimedReportDate = observation.1.claimedReportDate ∧
              other.1.securitySeries = observation.1.securitySeries := by
  unfold repeatedSeries
  rw [mem_groups_filter, List.mem_filter]
  refine and_congr_right fun hmem => ?_
  rw [one_lt_length_iff ((hnodup.filter _).filter _) (mem_group.mpr ⟨List.mem_filter.mpr hmem, rfl⟩)]
  constructor
  · rintro ⟨other, hother, hne⟩
    obtain ⟨hother, hkey⟩ := mem_group.mp hother
    simp only [Prod.mk.injEq] at hkey
    exact ⟨other, (List.mem_filter.mp hother).1, hne, hkey.1, hkey.2.1, hkey.2.2⟩
  · rintro ⟨other, hother, hne, hisin, hdate, hseries⟩
    refine ⟨other, mem_group.mpr ⟨List.mem_filter.mpr ⟨hother, ?_⟩, ?_⟩, hne⟩
    · rw [hisin]
      exact hmem.2
    · rw [hisin, hdate, hseries]

/-- The observations in groups of conflicts are those in conflict. -/
theorem mem_conflictGroups (hnodup : observations.Nodup) :
    (∃ group ∈ conflictGroups observations, observation ∈ group.2) ↔
      observation ∈ observations ∧ Conflicted observations observation := by
  have hmap : ∀ (kind : IdentityConflictType) (lists : List (List IdentityObservation)),
      (∃ group ∈ lists.map (kind, ·), observation ∈ group.2) ↔ ∃ values ∈ lists, observation ∈ values := by
    intro kind lists
    simp only [List.mem_map, exists_exists_and_eq_and]
  have hsplit : (∃ group ∈ conflictGroups observations, observation ∈ group.2) ↔
      (∃ values ∈ repeatedSeries observations, observation ∈ values) ∨
        (∃ values ∈ reusedAcrossIdentifiers (·.1.financialInstrumentId) observations,
          observation ∈ values) ∨
        ∃ values ∈ reusedAcrossIdentifiers (·.1.listingKey) observations, observation ∈ values := by
    unfold conflictGroups
    simp only [List.mem_append, or_and_right, exists_or, hmap, or_assoc]
  rw [hsplit, mem_repeatedSeries hnodup, mem_reusedAcrossIdentifiers, mem_reusedAcrossIdentifiers]
  constructor
  · rintro (⟨⟨hmem, hsome⟩, other, hother, hne, hisin, hdate, hseries⟩ | ⟨hmem, other, hother, hid, hkey⟩ |
      ⟨hmem, other, hother, hid, hkey⟩)
    · exact ⟨hmem, .series other hother hne hsome hisin hdate hseries⟩
    · exact ⟨hmem, .financialId other hother hid hkey⟩
    · exact ⟨hmem, .listingKey other hother hid hkey⟩
  · rintro ⟨hmem, hconflicted⟩
    cases hconflicted with
    | series other hother hne hsome hisin hdate hseries =>
      exact .inl ⟨⟨hmem, hsome⟩, other, hother, hne, hisin, hdate, hseries⟩
    | financialId other hother hid hkey => exact .inr (.inl ⟨hmem, other, hother, hid, hkey⟩)
    | listingKey other hother hid hkey => exact .inr (.inr ⟨hmem, other, hother, hid, hkey⟩)

theorem conflictGroups_sublist {group : IdentityConflictType × List IdentityObservation}
    (hgroup : group ∈ conflictGroups observations) :
    group.2.Sublist observations ∧ 1 < group.2.length := by
  have hreused : ∀ {κ : Type} [DecidableEq κ] (key : IdentityObservation → κ),
      ∀ values ∈ reusedAcrossIdentifiers key observations,
        values.Sublist observations ∧ 1 < values.length := by
    intro κ _ key values hvalues
    obtain ⟨hvalues, hlength⟩ := List.mem_filter.mp hvalues
    obtain ⟨found, hfound, rfl⟩ := List.mem_map.mp hvalues
    obtain ⟨o, -, rfl⟩ := mem_groupsBy.mp hfound
    refine ⟨List.filter_sublist, (of_decide_eq_true hlength).trans_le ?_⟩
    refine (List.dedup_sublist _).length_le.trans ?_
    rw [List.length_map]
  have hseries : ∀ values ∈ repeatedSeries observations,
      values.Sublist observations ∧ 1 < values.length := by
    intro values hvalues
    obtain ⟨hvalues, hlength⟩ := List.mem_filter.mp hvalues
    obtain ⟨found, hfound, rfl⟩ := List.mem_map.mp hvalues
    obtain ⟨o, -, rfl⟩ := mem_groupsBy.mp hfound
    exact ⟨List.filter_sublist.trans List.filter_sublist, of_decide_eq_true hlength⟩
  unfold conflictGroups at hgroup
  rcases List.mem_append.mp hgroup with hgroup | hgroup
  · rcases List.mem_append.mp hgroup with hgroup | hgroup
    · obtain ⟨values, hvalues, rfl⟩ := List.mem_map.mp hgroup
      exact hseries values hvalues
    · obtain ⟨values, hvalues, rfl⟩ := List.mem_map.mp hgroup
      exact hreused _ values hvalues
  · obtain ⟨values, hvalues, rfl⟩ := List.mem_map.mp hgroup
    exact hreused _ values hvalues

theorem conflictFields_valid (hnodup : observations.Nodup)
    {group : IdentityConflictType × List IdentityObservation} (hgroup : group ∈ conflictGroups observations) :
    validateConflict hex (conflictFields hex group) = .ok () := by
  obtain ⟨hsub, hlength⟩ := conflictGroups_sublist hgroup
  have hids : (group.2.map (·.1.observationId)).Nodup := nodup_ids (hnodup.sublist hsub)
  have hsorted : sortedIds hex (group.2.map (·.1.observationId)) =
      sortOn hex (group.2.map (·.1.observationId)) := sortedIds_of_nodup hids
  have hnodupSorted : (sortOn hex (group.2.map (·.1.observationId))).Nodup :=
    (perm_sortOn _ _).nodup_iff.mpr hids
  unfold validateConflict conflictFields
  refine raiseIf_neg ?_
  rw [not_or, not_not, not_lt, hsorted, sortedIds_of_nodup hnodupSorted, sortOn_sortOn,
    (perm_sortOn _ _).length_eq, List.length_map]
  exact ⟨hlength, rfl⟩

theorem conflictId_inj {a b : ConflictFields} (h : a.conflictId = b.conflictId) : a = b := by
  simp only [ConflictFields.conflictId, ContentId.ofFields_inj, true_and, List.cons.injEq, and_true,
    ContentId.text.injEq, ContentId.list_injective.eq_iff] at h
  obtain ⟨htype, hids⟩ := h
  have hvalue : ∀ s t : IdentityConflictType, s.value = t.value → s = t := by
    intro s t hst
    cases s <;> cases t <;> first | rfl | (exact absurd hst (by decide))
  cases a
  cases b
  simp only at htype hids
  rw [hvalue _ _ htype, hids]

/-- The conflicts of some observations: sorted, and of exactly the observations in conflict. -/
structure ConflictsOf (hex : ContentId → String) (observations : List IdentityObservation)
    (conflicts : List (IdentityConflict hex)) : Prop where
  sorted : SortedUnique hex (conflicts.map (·.1.conflictId))
  mem : ∀ id, id ∈ conflicts.flatMap (·.1.observationIds) ↔
    ∃ observation ∈ observations, observation.1.observationId = id ∧ Conflicted observations observation

/-- No conflict of a group is rejected. -/
theorem buildConflicts_ok (hex : ContentId → String) (hnodup : observations.Nodup) :
    ∃ conflicts, buildConflicts hex observations = .ok conflicts ∧ ConflictsOf hex observations conflicts := by
  obtain ⟨built, hbuilt, hfields⟩ := Checked.mapM_build_ok (validateConflict hex) (conflictFields hex)
    fun group hgroup => conflictFields_valid hnodup hgroup
  have hids : (built.dedup.map (·.1.conflictId)).Nodup :=
    (List.nodup_dedup built).map fun a b h => Subtype.ext (conflictId_inj h)
  refine ⟨sortOn (hex ·.1.conflictId) built.dedup, ?_, sortedUnique_sortOn hids, fun id => ?_⟩
  · unfold buildConflicts
    rw [hbuilt]
    rfl
  · have hconflict : id ∈ (sortOn (hex ·.1.conflictId) built.dedup).flatMap (·.1.observationIds) ↔
        ∃ conflict ∈ built.map (·.1), id ∈ conflict.observationIds := by
      simp only [List.mem_flatMap, (perm_sortOn _ _).mem_iff, List.mem_dedup, List.mem_map,
        exists_exists_and_eq_and]
    rw [hconflict, hfields]
    constructor
    · rintro ⟨_, hmem, hid⟩
      obtain ⟨group, hgroup, rfl⟩ := List.mem_map.mp hmem
      obtain ⟨observation, hobservation, rfl⟩ := List.mem_map.mp (mem_sortedIds.mp hid)
      obtain ⟨hin, hconflicted⟩ := (mem_conflictGroups hnodup).mp ⟨group, hgroup, hobservation⟩
      exact ⟨observation, hin, rfl, hconflicted⟩
    · rintro ⟨observation, hin, rfl, hconflicted⟩
      obtain ⟨group, hgroup, hobservation⟩ := (mem_conflictGroups hnodup).mpr ⟨hin, hconflicted⟩
      refine ⟨_, List.mem_map.mpr ⟨group, hgroup, rfl⟩, ?_⟩
      exact mem_sortedIds.mpr (List.mem_map.mpr ⟨observation, hobservation, rfl⟩)

end Conflicts

end IdentityRegistry

end IndiaSwing
