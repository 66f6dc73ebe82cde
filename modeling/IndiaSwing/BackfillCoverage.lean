import IndiaSwing.BackfillPlanner
import IndiaSwing.CalendarNavigation
import IndiaSwing.IdentityMaterialization

namespace IndiaSwing

open ExceptGuards KeySort Grouping TextPatterns IdentityRegistry ConsecutiveRuns

variable {hex : ContentId → String}

namespace IdentityRegistry

variable (registry : CrossVintageIdentityRegistry hex)

theorem observationIds_nodup : (registry.1.observations.map (·.1.observationId)).Nodup := by
  obtain ⟨_, _, hrest⟩ := bind_eq_ok.mp registry.2
  obtain ⟨_, h, _⟩ := bind_eq_ok.mp hrest
  unfold validateObservations at h
  obtain ⟨hsorted, -⟩ := raiseIf_bind_eq_ok.mp h
  rw [not_not] at hsorted
  unfold SortedUnique sortedIds at hsorted
  rw [hsorted]
  exact (perm_sortOn _ _).nodup_iff.mpr (List.nodup_dedup _)

/-- The date of an observation is that of one of the security masters. -/
theorem exists_manifest {observation : IdentityObservation} (hmem : observation ∈ registry.1.observations) :
    ∃ manifest ∈ registry.1.sourceManifests, manifest.claimedReportDate = observation.1.claimedReportDate := by
  obtain ⟨_, _, hrest⟩ := bind_eq_ok.mp registry.2
  obtain ⟨_, h, _⟩ := bind_eq_ok.mp hrest
  unfold validateObservations at h
  obtain ⟨-, h⟩ := raiseIf_bind_eq_ok.mp h
  obtain ⟨-, h⟩ := raiseIf_bind_eq_ok.mp h
  obtain ⟨-, h⟩ := raiseIf_bind_eq_ok.mp h
  obtain ⟨-, h⟩ := raiseIf_bind_eq_ok.mp h
  obtain ⟨-, h⟩ := raiseIf_bind_eq_ok.mp h
  obtain ⟨hlineage, -⟩ := raiseIf_bind_eq_ok.mp h
  have hagrees := not_exists.mp hlineage observation
  rw [not_and, not_not] at hagrees
  have hany := hagrees hmem
  cases hfound : lastUnder (·.artifactId) registry.1.sourceManifests observation.1.sourceArtifactId with
  | none =>
    rw [hfound] at hany
    cases hany
  | some manifest =>
    rw [hfound, Option.any_some] at hany
    simp only [Bool.and_eq_true, decide_eq_true_eq] at hany
    exact ⟨manifest, (lastUnder_some hfound).1, hany.1.2.symm⟩

end IdentityRegistry

namespace Backfill

variable (i : PlanInputs hex) {o o' : IdentityObservation} {r r' : Resolved} {session : SessionDate}

section Observed

theorem sessions_increasing : i.sessions.Pairwise (· < ·) := by
  have hdays := CalendarMaterialization.CalendarSnapshot.days_eq i.calendar.snapshot.2
  have hall : (i.calendar.snapshot.1.days.map (·.1.day)).Pairwise (· < ·) := by
    rw [hdays]
    unfold CalendarMaterialization.coveredDates
    rw [List.pairwise_map]
    exact List.pairwise_lt_range.imp fun h => Int.add_lt_add_left (Int.ofNat_lt.mpr h) _
  refine hall.sublist ?_
  unfold PlanInputs.sessions
  exact (List.filter_sublist.trans List.filter_sublist).map _

theorem sessions_in_coverage (h : session ∈ i.sessions) : i.coverageStart ≤ session ∧ session ≤ i.coverageEnd := by
  unfold PlanInputs.sessions at h
  obtain ⟨value, hvalue, rfl⟩ := List.mem_map.mp h
  exact of_decide_eq_true (List.mem_filter.mp (List.mem_filter.mp hvalue).1).2

theorem mem_observationsOn : o ∈ i.observationsOn session ↔
    o ∈ i.registry.1.observations ∧ o.1.claimedReportDate = session ∧ session ∈ i.manifestDates := by
  unfold PlanInputs.observationsOn
  split_ifs with h
  · rw [List.mem_filter, decide_eq_true_eq]
    simp only [h, and_true]
  · simp only [h, and_false, List.not_mem_nil]

/-- The observations that are judged are those of the sessions. -/
theorem mem_observed : o ∈ i.observed ↔ o ∈ i.registry.1.observations ∧ o.1.claimedReportDate ∈ i.sessions := by
  unfold PlanInputs.observed
  rw [List.mem_flatMap]
  constructor
  · rintro ⟨session, hsession, ho⟩
    obtain ⟨hmem, rfl, -⟩ := (mem_observationsOn i).mp ho
    exact ⟨hmem, hsession⟩
  · rintro ⟨hmem, hsession⟩
    refine ⟨_, hsession, (mem_observationsOn i).mpr ⟨hmem, rfl, ?_⟩⟩
    obtain ⟨manifest, hmanifest, hdate⟩ := exists_manifest i.registry hmem
    exact List.mem_filter.mpr ⟨List.mem_map.mpr ⟨manifest, hmanifest, hdate⟩,
      decide_eq_true (sessions_in_coverage i hsession)⟩

theorem eq_of_observationId (ho : o ∈ i.observed) (ho' : o' ∈ i.observed)
    (h : o.1.observationId = o'.1.observationId) : o = o' :=
  List.inj_on_of_nodup_map (observationIds_nodup i.registry) ((mem_observed i).mp ho).1 ((mem_observed i).mp ho').1 h

theorem observed_nodup : (i.observed.map (·.1.observationId)).Nodup := by
  have hall := observationIds_nodup i.registry
  have hnodup : i.observed.Nodup := by
    refine List.nodup_flatMap.mpr ⟨fun session _ => ?_, ?_⟩
    · unfold PlanInputs.observationsOn
      split_ifs
      · exact hall.of_map.filter _
      · exact List.nodup_nil
    · refine (sessions_increasing i).imp fun hlt => ?_
      rw [Function.onFun, List.disjoint_left]
      intro o ho ho'
      have hdate := ((mem_observationsOn i).mp ho).2.1
      have hdate' := ((mem_observationsOn i).mp ho').2.1
      exact hlt.ne (hdate.symm.trans hdate')
  exact hnodup.map_on fun o ho o' ho' h => eq_of_observationId i ho ho' h

end Observed

section Judged

theorem judge_eq_ok (h : i.judge o = .ok r) : r.observation = o ∧ supportedLane o ∧ isEquityIsin r.isin.toList ∧
    isSecuritySeries o.1.securitySeries.toList ∧ isProviderKey r.providerKey := by
  unfold PlanInputs.judge at h
  obtain ⟨-, h⟩ := raiseIf_bind_eq_ok.mp h
  obtain ⟨hlane, h⟩ := raiseIf_bind_eq_ok.mp h
  obtain ⟨-, h⟩ := raiseIf_bind_eq_ok.mp h
  obtain ⟨-, h⟩ := raiseIf_bind_eq_ok.mp h
  split at h
  · cases h
  next isin hisin =>
    obtain ⟨-, h⟩ := raiseIf_bind_eq_ok.mp h
    obtain ⟨htexts, h⟩ := raiseIf_bind_eq_ok.mp h
    rw [not_or, not_not, not_not] at htexts
    split at h
    next key hanswer =>
      obtain ⟨hkey, h⟩ := raiseIf_bind_eq_ok.mp h
      split at h
      · obtain rfl := Except.ok.inj h
        exact ⟨rfl, not_not.mp hlane, htexts.1, htexts.2, not_not.mp hkey⟩
      · obtain rfl := Except.ok.inj h
        exact ⟨rfl, not_not.mp hlane, htexts.1, htexts.2, not_not.mp hkey⟩
      · cases h
    · cases h

/-- The codes of the issues that exclude an observation when it is judged. -/
theorem judge_eq_error {code : IssueCode} (h : i.judge o = .error code) : code ∈
    [IssueCode.deletedSecurity, .unsupportedListingLane, .ineligibleNormalMarket, .conflictingIdentity,
      .unvalidatedIdentifier, .providerKeyUnavailable] := by
  unfold PlanInputs.judge at h
  rcases raiseIf_bind_eq_error.mp h with ⟨-, rfl⟩ | ⟨-, h⟩
  · decide
  rcases raiseIf_bind_eq_error.mp h with ⟨-, rfl⟩ | ⟨-, h⟩
  · decide
  rcases raiseIf_bind_eq_error.mp h with ⟨-, rfl⟩ | ⟨-, h⟩
  · decide
  rcases raiseIf_bind_eq_error.mp h with ⟨-, rfl⟩ | ⟨-, h⟩
  · decide
  split at h
  · obtain rfl := Except.error.inj h
    decide
  rcases raiseIf_bind_eq_error.mp h with ⟨-, rfl⟩ | ⟨-, h⟩
  · decide
  rcases raiseIf_bind_eq_error.mp h with ⟨-, rfl⟩ | ⟨-, h⟩
  · decide
  split at h
  · rcases raiseIf_bind_eq_error.mp h with ⟨-, rfl⟩ | ⟨-, h⟩
    · decide
    split at h
    · cases h
    · cases h
    · obtain rfl := Except.error.inj h
      decide
  · obtain rfl := Except.error.inj h
    decide

theorem judgeIssue_eq_some {issue : Issue} (h : i.judgeIssue o = some issue) :
    issue = observationIssue issue.code o ∧
      ((i.judge o = .error issue.code ∧ issue.code ≠ .providerCatalogAbsent) ∨
        (issue.code = .providerCatalogAbsent ∧ ∃ r, i.judge o = .ok r ∧ r.absent)) := by
  unfold PlanInputs.judgeIssue at h
  split at h
  next code hjudge =>
    obtain rfl := Option.some.inj h
    refine ⟨rfl, .inl ⟨hjudge, ?_⟩⟩
    show code ≠ _
    rintro rfl
    exact absurd (judge_eq_error i hjudge) (by decide)
  next r hjudge =>
    split_ifs at h with habsent
    obtain rfl := Option.some.inj h
    exact ⟨rfl, .inr ⟨rfl, r, hjudge, habsent⟩⟩

theorem mem_resolved : r ∈ i.resolved ↔ r.observation ∈ i.observed ∧ i.judge r.observation = .ok r := by
  unfold PlanInputs.resolved
  rw [List.mem_filterMap]
  constructor
  · rintro ⟨o, ho, h⟩
    cases hjudge : i.judge o with
    | error code =>
      rw [hjudge] at h
      cases h
    | ok found =>
      rw [hjudge] at h
      obtain rfl := Option.some.inj h
      obtain ⟨rfl, -⟩ := judge_eq_ok i hjudge
      exact ⟨ho, hjudge⟩
  · rintro ⟨ho, hjudge⟩
    exact ⟨r.observation, ho, by rw [hjudge]; rfl⟩

theorem eq_of_observation (hr : r ∈ i.resolved) (hr' : r' ∈ i.resolved)
    (h : r.observation.1.observationId = r'.observation.1.observationId) : r = r' := by
  obtain ⟨ho, hjudge⟩ := (mem_resolved i).mp hr
  obtain ⟨ho', hjudge'⟩ := (mem_resolved i).mp hr'
  rw [eq_of_observationId i ho ho' h, hjudge'] at hjudge
  exact (Except.ok.inj hjudge).symm

theorem resolved_nodup : i.resolved.Nodup := by
  refine (observed_nodup i).of_map.filterMap fun o o' r h h' => ?_
  have hjudge : ∀ o : IdentityObservation, (i.judge o).toOption = some r → r.observation = o := by
    intro o h
    cases hj : i.judge o with
    | error code =>
      rw [hj] at h
      cases h
    | ok found =>
      rw [hj] at h
      obtain rfl := Option.some.inj h
      exact (judge_eq_ok i hj).1
  exact (hjudge o h).symm.trans (hjudge o' h')

theorem resolved_ids_nodup : (i.resolved.map (·.observation.1.observationId)).Nodup :=
  (resolved_nodup i).map_on fun _ hr _ hr' h => eq_of_observation i hr hr' h

end Judged

section Accepted

/-- The key that an answer of the resolver is filed under. -/
def Resolved.key (r : Resolved) : SessionDate × String := (r.session, r.providerKey)

/-- The resolved observations whose provider key no other observation of the session has. -/
def PlanInputs.safe : List Resolved := i.resolved.filter fun r => (i.resolved.filter (·.key = r.key)).length = 1

/-- The one value of a list. -/
def single {α : Type} : List α → Option α
  | [a] => some a
  | _ => none

theorem single_eq_some {α : Type} {values : List α} {a : α} : single values = some a ↔ values = [a] := by
  unfold single
  split <;> simp_all

variable (hex) in
/-- The issue of a provider key that several observations have. -/
def ambiguousIssue (group : (SessionDate × String) × List Resolved) : Issue :=
  ⟨.ambiguousProviderKey, [group.1.1], sortOn hex (group.2.map (·.observation.1.observationId))⟩

/-- One step of the pass, at a group none of whose observations was rejected before. -/
theorem acceptGroup_eq {st : Acceptance} {group : (SessionDate × String) × List Resolved}
    (h : ∀ r ∈ group.2, r.observation.1.observationId ∉ st.rejected) :
    @acceptGroup hex st group =
      if group.2.length = 1 then { st with accepted := st.accepted ++ (single group.2).toList }
      else { st with
        issues := st.issues ++ [ambiguousIssue hex group]
        rejected := st.rejected ++ group.2.map (·.observation.1.observationId) } := by
  unfold acceptGroup
  split
  next r hvalues =>
    rw [hvalues] at h ⊢
    rw [if_neg (h r (List.mem_singleton_self r))]
    rfl
  next hvalues =>
    have hlength : group.2.length ≠ 1 := by
      intro hone
      obtain ⟨r, hr⟩ := List.length_eq_one_iff.mp hone
      exact hvalues r hr
    rw [if_neg hlength]
    rfl

theorem foldl_acceptGroup {st : Acceptance} {groups : List ((SessionDate × String) × List Resolved)}
    (hnodup : ((groups.flatMap (·.2)).map (·.observation.1.observationId)).Nodup)
    (hrejected : ∀ r ∈ groups.flatMap (·.2), r.observation.1.observationId ∉ st.rejected) :
    (groups.foldl (@acceptGroup hex) st).accepted = st.accepted ++ groups.filterMap (single ·.2) ∧
      (groups.foldl (@acceptGroup hex) st).issues =
        st.issues ++ (groups.filter (·.2.length ≠ 1)).map (ambiguousIssue hex) := by
  induction groups generalizing st with
  | nil => exact ⟨(List.append_nil _).symm, (List.append_nil _).symm⟩
  | cons group groups ih =>
    rw [List.flatMap_cons, List.map_append] at hnodup
    obtain ⟨-, hrest, hdisjoint⟩ := List.nodup_append.mp hnodup
    have hfirst : ∀ r ∈ group.2, r.observation.1.observationId ∉ st.rejected := fun r hr =>
      hrejected r (List.mem_append_left _ hr)
    have hothers : ∀ r ∈ groups.flatMap (·.2), r.observation.1.observationId ∉ st.rejected := fun r hr =>
      hrejected r (List.mem_append_right _ hr)
    rw [List.foldl_cons, acceptGroup_eq hfirst]
    by_cases hone : group.2.length = 1
    · obtain ⟨r, hr⟩ := List.length_eq_one_iff.mp hone
      rw [if_pos hone]
      obtain ⟨haccepted, hissues⟩ := @ih { st with accepted := st.accepted ++ (single group.2).toList } hrest hothers
      refine ⟨?_, ?_⟩
      · rw [haccepted, List.filterMap_cons, hr]
        simp [single]
      · rw [hissues, List.filter_cons_of_neg (by simp [hone])]
    · have hnone : single group.2 = none := by
        rw [Option.eq_none_iff_forall_not_mem]
        intro r hr
        rw [Option.mem_def, single_eq_some] at hr
        exact hone (by rw [hr]; rfl)
      have hlater : ∀ r ∈ groups.flatMap (·.2), r.observation.1.observationId ∉
          st.rejected ++ group.2.map (·.observation.1.observationId) := by
        intro r hr hmem
        rcases List.mem_append.mp hmem with h | h
        · exact hothers r hr h
        · exact hdisjoint _ h _ (List.mem_map.mpr ⟨r, hr, rfl⟩) rfl
      rw [if_neg hone]
      obtain ⟨haccepted, hissues⟩ := @ih { st with
        issues := st.issues ++ [ambiguousIssue hex group]
        rejected := st.rejected ++ group.2.map (·.observation.1.observationId) } hrest hlater
      refine ⟨?_, ?_⟩
      · rw [haccepted, List.filterMap_cons, hnone]
      · rw [hissues, List.filter_cons_of_pos (by simp [hone])]
        simp

theorem keyGroups_perm : (i.keyGroups.flatMap (·.2)).Perm i.resolved :=
  ((perm_sortOn _ _).flatMap_right _).trans (groupsBy_perm _ _)

theorem mem_keyGroups {group : (SessionDate × String) × List Resolved} : group ∈ i.keyGroups ↔
    ∃ r ∈ i.resolved, group = (r.key, i.resolved.filter (·.key = r.key)) := by
  unfold PlanInputs.keyGroups
  rw [(perm_sortOn _ _).mem_iff]
  exact mem_groupsBy

theorem acceptance_eq : i.acceptance.accepted = i.keyGroups.filterMap (single ·.2) ∧
    i.acceptance.issues = (i.keyGroups.filter (·.2.length ≠ 1)).map (ambiguousIssue hex) := by
  have hnodup : ((i.keyGroups.flatMap (·.2)).map (·.observation.1.observationId)).Nodup :=
    ((keyGroups_perm i).map _).nodup_iff.mpr (resolved_ids_nodup i)
  have hrejected : ∀ r ∈ i.keyGroups.flatMap (·.2), r.observation.1.observationId ∉ i.rejected := by
    intro r hr hmem
    obtain ⟨ho, hjudge⟩ := (mem_resolved i).mp ((keyGroups_perm i).mem_iff.mp hr)
    obtain ⟨o, hfiltered, hid⟩ := List.mem_map.mp hmem
    obtain ⟨ho', hnone⟩ := List.mem_filter.mp hfiltered
    rw [eq_of_observationId i ho' ho hid, hjudge] at hnone
    cases hnone
  have h := @foldl_acceptGroup hex ⟨[], [], i.rejected⟩ i.keyGroups hnodup hrejected
  rw [List.nil_append, List.nil_append] at h
  exact h

theorem mem_safe : r ∈ i.safe ↔ r ∈ i.resolved ∧ i.resolved.filter (·.key = r.key) = [r] := by
  unfold PlanInputs.safe
  rw [List.mem_filter, decide_eq_true_eq]
  constructor
  · rintro ⟨hr, hone⟩
    obtain ⟨r', hr'⟩ := List.length_eq_one_iff.mp hone
    have hself : r ∈ i.resolved.filter (·.key = r.key) := mem_group.mpr ⟨hr, rfl⟩
    rw [hr', List.mem_singleton] at hself
    rw [← hself] at hr'
    exact ⟨hr, hr'⟩
  · rintro ⟨hr, hself⟩
    exact ⟨hr, by rw [hself]; rfl⟩

/-- The values that are alone in their groups are some of the grouped values. -/
theorem filterMap_single_sublist {α κ : Type} (groups : List (κ × List α)) :
    (groups.filterMap (single ·.2)).Sublist (groups.flatMap (·.2)) := by
  induction groups with
  | nil => exact List.Sublist.refl _
  | cons group groups ih =>
    rw [List.flatMap_cons, List.filterMap_cons]
    split
    · exact ih.trans (List.sublist_append_right _ _)
    next a ha =>
      rw [single_eq_some.mp ha]
      exact ih.cons_cons a

/-- What the pass accepts. -/
theorem accepted_perm : i.acceptance.accepted.Perm i.safe := by
  rw [(acceptance_eq i).1]
  have hnodup : (i.keyGroups.filterMap (single ·.2)).Nodup :=
    ((keyGroups_perm i).nodup_iff.mpr (resolved_nodup i)).sublist (filterMap_single_sublist _)
  refine (List.perm_ext_iff_of_nodup hnodup ((resolved_nodup i).filter _)).mpr fun r => ?_
  rw [List.mem_filterMap]
  show _ ↔ r ∈ i.safe
  rw [mem_safe]
  constructor
  · rintro ⟨group, hgroup, hsingle⟩
    obtain ⟨r', hr', rfl⟩ := (mem_keyGroups i).mp hgroup
    have hfilter : i.resolved.filter (·.key = r'.key) = [r] := single_eq_some.mp hsingle
    have hmem : r ∈ i.resolved.filter (·.key = r'.key) := by
      rw [hfilter]
      exact List.mem_singleton_self r
    obtain ⟨hr, hkey⟩ := mem_group.mp hmem
    rw [← hkey] at hfilter
    exact ⟨hr, hfilter⟩
  · rintro ⟨hr, hself⟩
    exact ⟨_, (mem_keyGroups i).mpr ⟨r, hr, rfl⟩, single_eq_some.mpr hself⟩

/-- No two accepted observations have a provider key in a session together. -/
theorem safe_keys_nodup : (i.safe.map (·.key)).Nodup := by
  refine ((resolved_nodup i).filter _).map_on fun r hr r' hr' h => ?_
  have hself := ((mem_safe i).mp hr).2
  have hmem : r' ∈ i.resolved.filter (·.key = r.key) := mem_group.mpr ⟨((mem_safe i).mp hr').1, h.symm⟩
  rw [hself] at hmem
  exact (List.mem_singleton.mp hmem).symm

end Accepted

section Lanes

/-- What an accepted observation asks for: its listing key, series, ISIN, provider key and session. -/
def Resolved.wanted (r : Resolved) : String × String × String × String × SessionDate :=
  ("NSE:" ++ r.observation.1.tickerSymbol, r.observation.1.securitySeries, r.isin, r.providerKey, r.session)

/-- What a request asks for. -/
def DailyRequest.wanted (request : DailyRequest) : List (String × String × String × String × SessionDate) :=
  request.sessions.map fun session => (request.binding.listingKey, request.binding.securitySeries,
    request.binding.isin, request.binding.providerInstrumentId, session)

/-- The sessions on which a lane has an accepted observation. -/
def PlanInputs.laneDates (lane : Lane) : List SessionDate :=
  i.sessions.filter fun session => ∃ r ∈ i.safe, i.laneOf r = lane ∧ r.session = session

theorem session_of_safe (hr : r ∈ i.safe) : r.session ∈ i.sessions :=
  ((mem_observed i).mp ((mem_resolved i).mp ((mem_safe i).mp hr).1).1).2

theorem mem_lanes {lane : Lane × List Resolved} : lane ∈ i.lanes ↔
    ∃ r ∈ i.acceptance.accepted, lane = (i.laneOf r, i.acceptance.accepted.filter (i.laneOf · = i.laneOf r)) := by
  unfold PlanInputs.lanes
  rw [(perm_sortOn _ _).mem_iff]
  exact mem_groupsBy

/-- The dates of the observations of a lane are those of the lane. -/
theorem laneSessions_eq {lane : Lane × List Resolved} (hlane : lane ∈ i.lanes) :
    laneSessions lane.2 = i.laneDates lane.1 := by
  obtain ⟨r, -, rfl⟩ := (mem_lanes i).mp hlane
  have hsorted : (laneSessions (i.acceptance.accepted.filter (i.laneOf · = i.laneOf r))).Pairwise (· < ·) := by
    unfold laneSessions
    refine @TopRanked.sortOn_strict _ _ _ (id : SessionDate → SessionDate) _ ?_
    rw [List.map_id]
    exact List.nodup_dedup _
  have hsorted' : (i.laneDates (i.laneOf r)).Pairwise (· < ·) := (sessions_increasing i).filter _
  refine List.Perm.eq_of_pairwise (fun a b _ _ hab hba => absurd hba (lt_asymm hab)) hsorted hsorted' ?_
  refine (List.perm_ext_iff_of_nodup (hsorted.imp fun h => h.ne) (hsorted'.imp fun h => h.ne)).mpr fun session => ?_
  unfold laneSessions PlanInputs.laneDates
  rw [(perm_sortOn _ _).mem_iff, List.mem_dedup, List.mem_map, List.mem_filter, decide_eq_true_eq]
  constructor
  · rintro ⟨a, ha, rfl⟩
    obtain ⟨hmem, hkey⟩ := mem_group.mp ha
    have hsafe := (accepted_perm i).mem_iff.mp hmem
    exact ⟨session_of_safe i hsafe, a, hsafe, hkey, rfl⟩
  · rintro ⟨-, a, ha, hkey, rfl⟩
    exact ⟨a, mem_group.mpr ⟨(accepted_perm i).mem_iff.mpr ha, hkey⟩, rfl⟩

theorem laneDates_increasing (lane : Lane) : (i.laneDates lane).Pairwise (· < ·) := (sessions_increasing i).filter _

theorem laneDates_subset {lane : Lane} : ∀ session ∈ i.laneDates lane, session ∈ i.sessions := fun _ h =>
  (List.mem_filter.mp h).1

/-- The requests of a lane ask for its observations. -/
theorem lane_wanted (provider : String) {lane : Lane × List Resolved} (hlane : lane ∈ i.lanes) :
    (((runs i.sessions (laneSessions lane.2)).map (i.request provider lane)).flatMap DailyRequest.wanted).Perm
      (lane.2.map Resolved.wanted) := by
  have hasks : ((runs i.sessions (laneSessions lane.2)).map (i.request provider lane)).flatMap DailyRequest.wanted =
      (laneSessions lane.2).map fun session => ("NSE:" ++ lane.1.2.1, lane.1.2.2.1, lane.1.2.2.2.1, lane.1.2.2.2.2, session) := by
    conv_rhs => rw [← flatten_runs i.sessions (laneSessions lane.2)]
    rw [List.flatMap_map, List.map_flatten, List.flatMap_def]
    rfl
  rw [hasks]
  obtain ⟨r, -, rfl⟩ := (mem_lanes i).mp hlane
  have hvalues : (i.acceptance.accepted.filter (i.laneOf · = i.laneOf r)).map Resolved.wanted =
      ((i.acceptance.accepted.filter (i.laneOf · = i.laneOf r)).map (·.session)).map fun session =>
        ("NSE:" ++ r.observation.1.tickerSymbol, r.observation.1.securitySeries, r.isin, r.providerKey, session) := by
    rw [List.map_map]
    refine List.map_congr_left fun a ha => ?_
    obtain ⟨-, hkey⟩ := mem_group.mp ha
    unfold PlanInputs.laneOf at hkey
    simp only [Prod.mk.injEq] at hkey
    obtain ⟨-, hticker, hseries, hisin, hprovider⟩ := hkey
    unfold Resolved.wanted
    rw [hticker, hseries, hisin, hprovider]
    rfl
  rw [hvalues]
  refine List.Perm.map _ ?_
  -- a lane has one observation in a session, since it has one provider key
  have hnodup : ((i.acceptance.accepted.filter (i.laneOf · = i.laneOf r)).map (·.session)).Nodup := by
    have hall : (i.acceptance.accepted.map (·.key)).Nodup := ((accepted_perm i).map _).nodup_iff.mpr (safe_keys_nodup i)
    refine (hall.of_map.filter _).map_on fun a ha b hb h => ?_
    obtain ⟨hmem, hkey⟩ := mem_group.mp ha
    obtain ⟨hmem', hkey'⟩ := mem_group.mp hb
    refine List.inj_on_of_nodup_map hall hmem hmem' ?_
    have hprovider : a.providerKey = b.providerKey := by
      have hlanes := hkey.trans hkey'.symm
      unfold PlanInputs.laneOf at hlanes
      simp only [Prod.mk.injEq] at hlanes
      exact hlanes.2.2.2.2
    unfold Resolved.key
    rw [hprovider]
    exact congrArg (·, b.providerKey) h
  unfold laneSessions
  rw [hnodup.dedup]
  exact perm_sortOn _ _

/-- The requests ask exactly for the accepted observations. -/
theorem requests_wanted (provider : String) :
    ((i.requests provider).flatMap DailyRequest.wanted).Perm (i.safe.map Resolved.wanted) := by
  have hlanes : ((i.requests provider).flatMap DailyRequest.wanted).Perm (i.lanes.flatMap fun lane => lane.2.map Resolved.wanted) := by
    unfold PlanInputs.requests
    rw [List.flatMap_assoc]
    exact List.Perm.flatMap_left _ fun lane hlane => lane_wanted i provider hlane
  refine hlanes.trans ?_
  rw [← List.map_flatMap]
  refine List.Perm.map _ (List.Perm.trans ?_ (accepted_perm i))
  exact ((perm_sortOn _ _).flatMap_right _).trans (groupsBy_perm _ _)

/-- What a request of the plan is: a run of the sessions of a lane. -/
theorem mem_requests {provider : String} {request : DailyRequest} (h : request ∈ i.requests provider) :
    ∃ lane ∈ i.lanes, ∃ run ∈ runs i.sessions (i.laneDates lane.1), request = i.request provider lane run := by
  obtain ⟨lane, hlane, hrequest⟩ := List.mem_flatMap.mp h
  obtain ⟨run, hrun, rfl⟩ := List.mem_map.mp hrequest
  rw [laneSessions_eq i hlane] at hrun
  exact ⟨lane, hlane, run, hrun, rfl⟩

end Lanes

section Issues

theorem mem_issues {issue : Issue} : issue ∈ i.issues ↔ issue ∈ i.coverageIssues ∨
    (∃ o ∈ i.observed, i.judgeIssue o = some issue) ∨
    ∃ group ∈ i.keyGroups, group.2.length ≠ 1 ∧ issue = ambiguousIssue hex group := by
  unfold PlanInputs.issues
  rw [List.mem_dedup, List.mem_append, List.mem_append, List.mem_filterMap, (acceptance_eq i).2, List.mem_map, or_assoc]
  refine or_congr_right (or_congr_right ?_)
  constructor
  · rintro ⟨group, hgroup, rfl⟩
    obtain ⟨hmem, hlength⟩ := List.mem_filter.mp hgroup
    exact ⟨group, hmem, of_decide_eq_true hlength, rfl⟩
  · rintro ⟨group, hmem, hlength, rfl⟩
    exact ⟨group, List.mem_filter.mpr ⟨hmem, decide_eq_true hlength⟩, rfl⟩

theorem coverageIssue_cases {issue : Issue} (h : issue ∈ i.coverageIssues) : issue.observationIds = [] ∧
    ((∃ run ∈ runs i.sessions (i.sessions.filter (· ∉ i.manifestDates)),
        issue = ⟨.missingSecurityMasterVintage, run, []⟩) ∨
      ∃ value ∈ i.manifestDates, value ∉ i.sessions ∧ issue = ⟨.nonSessionSecurityMaster, [value], []⟩) := by
  unfold PlanInputs.coverageIssues at h
  rcases List.mem_append.mp h with h | h
  · obtain ⟨run, hrun, rfl⟩ := List.mem_map.mp h
    exact ⟨rfl, .inl ⟨run, hrun, rfl⟩⟩
  · obtain ⟨value, hvalue, rfl⟩ := List.mem_map.mp h
    obtain ⟨hmem, hnot⟩ := List.mem_filter.mp ((perm_sortOn _ _).mem_iff.mp hvalue)
    exact ⟨rfl, .inr ⟨value, hmem, of_decide_eq_true hnot, rfl⟩⟩

/-- The observations of an ambiguous provider key. -/
theorem mem_ambiguousIssue {group : (SessionDate × String) × List Resolved} (hgroup : group ∈ i.keyGroups)
    (hid : o.1.observationId ∈ (ambiguousIssue hex group).observationIds) (ho : o ∈ i.observed) :
    ∃ r ∈ i.resolved, r.observation = o ∧ group.2 = i.resolved.filter (·.key = r.key) := by
  obtain ⟨r', hr', rfl⟩ := (mem_keyGroups i).mp hgroup
  obtain ⟨r, hr, hsame⟩ := List.mem_map.mp ((perm_sortOn _ _).mem_iff.mp hid)
  obtain ⟨hmem, hkey⟩ := mem_group.mp hr
  refine ⟨r, hmem, eq_of_observationId i ((mem_resolved i).mp hmem).1 ho hsame, ?_⟩
  rw [hkey]

/-- The issues that say that an observation is not asked for. -/
theorem excluded_iff (ho : o ∈ i.observed) :
    (∃ issue ∈ i.issues, issue.code ≠ .providerCatalogAbsent ∧ o.1.observationId ∈ issue.observationIds) ↔
      ∀ r ∈ i.safe, r.observation ≠ o := by
  constructor
  · rintro ⟨issue, hissue, hcode, hid⟩ r hr rfl
    obtain ⟨hresolved, hself⟩ := (mem_safe i).mp hr
    have hjudge := ((mem_resolved i).mp hresolved).2
    rcases (mem_issues i).mp hissue with h | ⟨o, ho', h⟩ | ⟨group, hgroup, hlength, rfl⟩
    · rw [(coverageIssue_cases i h).1] at hid
      cases hid
    · obtain ⟨hof, hcases⟩ := judgeIssue_eq_some i h
      rw [hof] at hid
      have hsame := eq_of_observationId i ho ho' (List.mem_singleton.mp hid)
      rcases hcases with ⟨herror, -⟩ | ⟨habsent, -⟩
      · rw [← hsame, hjudge] at herror
        cases herror
      · exact hcode habsent
    · obtain ⟨r', hr', hof, hvalues⟩ := mem_ambiguousIssue i hgroup hid ho
      have hsame := eq_of_observation i hr' hresolved (by rw [hof])
      rw [hvalues, hsame, hself] at hlength
      exact hlength rfl
  · intro hnone
    cases hjudge : i.judge o with
    | error code =>
      have hissue : i.judgeIssue o = some (observationIssue code o) := by
        unfold PlanInputs.judgeIssue
        rw [hjudge]
      refine ⟨observationIssue code o, (mem_issues i).mpr (.inr (.inl ⟨o, ho, hissue⟩)), ?_, List.mem_singleton_self _⟩
      show code ≠ _
      rintro rfl
      exact absurd (judge_eq_error i hjudge) (by decide)
    | ok r =>
      obtain ⟨rfl, -⟩ := judge_eq_ok i hjudge
      have hr : r ∈ i.resolved := (mem_resolved i).mpr ⟨ho, hjudge⟩
      have hlength : (i.resolved.filter (·.key = r.key)).length ≠ 1 := by
        intro hone
        exact hnone r (List.mem_filter.mpr ⟨hr, decide_eq_true hone⟩) rfl
      refine ⟨_, (mem_issues i).mpr (.inr (.inr ⟨_, (mem_keyGroups i).mpr ⟨r, hr, rfl⟩, hlength, rfl⟩)), ?_, ?_⟩
      · show IssueCode.ambiguousProviderKey ≠ _
        decide
      · exact (perm_sortOn _ _).mem_iff.mpr (List.mem_map.mpr ⟨r, mem_group.mpr ⟨hr, rfl⟩, rfl⟩)

/-- The issues that say that the catalog lacks an observation. -/
theorem absent_iff (ho : o ∈ i.observed) :
    (∃ issue ∈ i.issues, issue.code = .providerCatalogAbsent ∧ o.1.observationId ∈ issue.observationIds) ↔
      ∃ r, i.judge o = .ok r ∧ r.absent := by
  constructor
  · rintro ⟨issue, hissue, hcode, hid⟩
    rcases (mem_issues i).mp hissue with h | ⟨o', ho', h⟩ | ⟨group, -, -, rfl⟩
    · rw [(coverageIssue_cases i h).1] at hid
      cases hid
    · obtain ⟨hof, hcases⟩ := judgeIssue_eq_some i h
      rw [hof] at hid
      obtain rfl := eq_of_observationId i ho ho' (List.mem_singleton.mp hid)
      rcases hcases with ⟨-, hne⟩ | ⟨-, h⟩
      · exact absurd hcode hne
      · exact h
    · cases hcode
  · rintro ⟨r, hjudge, habsent⟩
    have hissue : i.judgeIssue o = some (observationIssue .providerCatalogAbsent o) := by
      unfold PlanInputs.judgeIssue
      rw [hjudge]
      exact if_pos habsent
    exact ⟨_, (mem_issues i).mpr (.inr (.inl ⟨o, ho, hissue⟩)), rfl, List.mem_singleton_self _⟩

/-- A session without a security master is named by one issue. -/
theorem missing_unique (hsession : session ∈ i.sessions) (hmissing : session ∉ i.manifestDates) :
    ∃! issue, issue ∈ i.issues ∧ issue.code = .missingSecurityMasterVintage ∧ session ∈ issue.affectedDates := by
  have hmem : session ∈ i.sessions.filter (· ∉ i.manifestDates) := List.mem_filter.mpr ⟨hsession, decide_eq_true hmissing⟩
  have hflat := flatten_runs i.sessions (i.sessions.filter (· ∉ i.manifestDates))
  rw [← hflat] at hmem
  obtain ⟨run, hrun, hin⟩ := List.mem_flatten.mp hmem
  have hcoverage : (⟨.missingSecurityMasterVintage, run, []⟩ : Issue) ∈ i.coverageIssues :=
    List.mem_append_left _ (List.mem_map.mpr ⟨run, hrun, rfl⟩)
  refine ⟨_, ⟨(mem_issues i).mpr (.inl hcoverage), rfl, hin⟩, ?_⟩
  rintro issue ⟨hissue, hcode, hdate⟩
  rcases (mem_issues i).mp hissue with h | ⟨o, -, h⟩ | ⟨group, -, -, rfl⟩
  · rcases (coverageIssue_cases i h).2 with ⟨run', hrun', rfl⟩ | ⟨value, -, -, rfl⟩
    · -- the runs do not share a session
      have hnodup : (i.sessions.filter (· ∉ i.manifestDates)).Nodup := ((sessions_increasing i).filter _).imp fun h => h.ne
      rw [run_unique hnodup hrun' hrun hdate hin]
    · cases hcode
  · rcases (judgeIssue_eq_some i h).2 with ⟨herror, -⟩ | ⟨habsent, -⟩
    · rw [hcode] at herror
      exact absurd (judge_eq_error i herror) (by decide)
    · rw [hcode] at habsent
      cases habsent
  · cases hcode

end Issues

section Requests

theorem run_increasing {lane : Lane} {run : List SessionDate} (hrun : run ∈ runs i.sessions (i.laneDates lane)) :
    run.Pairwise (· < ·) := by
  have hall := laneDates_increasing i lane
  rw [← flatten_runs i.sessions (i.laneDates lane)] at hall
  exact (List.pairwise_flatten.mp hall).1 run hrun

/-- A lane is that of an accepted observation. -/
theorem exists_safe {lane : Lane × List Resolved} (hlane : lane ∈ i.lanes) : ∃ r ∈ i.safe, lane.1 = i.laneOf r := by
  obtain ⟨r, hr, rfl⟩ := (mem_lanes i).mp hlane
  exact ⟨r, (accepted_perm i).mem_iff.mp hr, rfl⟩

theorem exists_lane (hr : r ∈ i.safe) : ∃ lane ∈ i.lanes, lane.1 = i.laneOf r :=
  ⟨_, (mem_lanes i).mpr ⟨r, (accepted_perm i).mem_iff.mpr hr, rfl⟩, rfl⟩

theorem isListingKey_of_isTicker {ticker : String} (h : isTicker ticker.toList) : isListingKey ("NSE:" ++ ticker).toList := by
  have htext : ("NSE:" ++ ticker).toList = "NSE:".toList ++ ticker.toList := String.toList_append
  have htake : ("NSE:".toList ++ ticker.toList).take 4 = "NSE:".toList := List.take_left' rfl
  have hdrop : ("NSE:".toList ++ ticker.toList).drop 4 = ticker.toList := List.drop_left' rfl
  unfold isListingKey
  rw [htext, htake, hdrop, h]
  simp

/-- The texts of a request are accepted unless the provider key has a control character. -/
theorem checkTexts_request {provider : String} (hprovider : isProvider provider.toList) {lane : Lane × List Resolved}
    (hr : r ∈ i.safe) (hlane : lane.1 = i.laneOf r) (run : List SessionDate) :
    (i.request provider lane run).binding.checkTexts = .ok () ↔ ∀ c ∈ r.providerKey.toList, 32 ≤ c.toNat := by
  obtain ⟨-, hsupported, hisin, hseries, hkey⟩ := judge_eq_ok i ((mem_resolved i).mp ((mem_safe i).mp hr).1).2
  have hticker : isTicker r.observation.1.tickerSymbol.toList := (Bool.and_eq_true_iff.mp hsupported).2
  have hlisting := isListingKey_of_isTicker hticker
  unfold InstrumentBinding.checkTexts PlanInputs.request
  rw [hlane]
  unfold PlanInputs.laneOf
  dsimp only
  rw [raiseIf_bind_eq_ok, raiseIf_bind_eq_ok, raiseIf_bind_eq_ok, raiseIf_bind_eq_ok, raiseIf_eq_ok]
  simp only [hprovider, hkey, hlisting, hseries, hisin, not_true, not_false_eq_true, true_and, and_true, false_or,
    List.any_eq_true, decide_eq_true_eq, not_exists, not_and, not_lt]

/-- The coverage lies before the day of the request. -/
theorem coverage_of_check (hcheck : i.checkSources = .ok ()) :
    i.coverageStart ≤ i.coverageEnd ∧ i.coverageEnd < Instant.istDate i.requestedAt := by
  unfold PlanInputs.checkSources at hcheck
  obtain ⟨-, h⟩ := raiseIf_bind_eq_ok.mp hcheck
  obtain ⟨-, h⟩ := raiseIf_bind_eq_ok.mp h
  obtain ⟨-, h⟩ := raiseIf_bind_eq_ok.mp h
  obtain ⟨-, h⟩ := raiseIf_bind_eq_ok.mp h
  obtain ⟨hbounds, h⟩ := raiseIf_bind_eq_ok.mp h
  obtain ⟨-, h⟩ := raiseIf_bind_eq_ok.mp h
  have hbefore := raiseIf_eq_ok.mp h
  rw [not_or, not_lt] at hbounds
  exact ⟨hbounds.1, not_le.mp hbefore⟩

theorem head_le_getLast {first : SessionDate} {rest : List SessionDate} (h : (first :: rest).Pairwise (· < ·)) :
    first ≤ (first :: rest).getLast (List.cons_ne_nil _ _) := by
  rcases List.mem_cons.mp (List.getLast_mem (List.cons_ne_nil first rest)) with heq | hmem
  · exact heq.ge
  · exact ((List.pairwise_cons.mp h).1 _ hmem).le

/-- A request is accepted unless its run is too long. -/
theorem check_request (hcheck : i.checkSources = .ok ()) {provider : String} {lane : Lane × List Resolved}
    {run : List SessionDate} (hrun : run ∈ runs i.sessions (i.laneDates lane.1)) :
    (i.request provider lane run).check = .ok () ↔ run.length ≤ maximumHistoricalSessions := by
  have hsorted := run_increasing i hrun
  obtain ⟨first, rest, rfl⟩ := List.exists_cons_of_ne_nil (run_ne_nil hrun)
  have hlast : (first :: rest).getLast (List.cons_ne_nil _ _) ∈ i.sessions :=
    laneDates_subset i _ (mem_of_mem_run hrun (List.getLast_mem _))
  have hpast : (first :: rest).getLast (List.cons_ne_nil _ _) < Instant.istDate i.requestedAt :=
    lt_of_le_of_lt (sessions_in_coverage i hlast).2 (coverage_of_check i hcheck).2
  have hids : (i.request provider lane (first :: rest)).binding.sourceSnapshotIds ≠ [] ∧
      (i.request provider lane (first :: rest)).binding.sourceSnapshotIds.Nodup := by
    unfold PlanInputs.request sortedIds
    dsimp only
    refine ⟨fun hnil => ?_, (perm_sortOn _ _).nodup_iff.mpr (List.nodup_dedup _)⟩
    have hmem : i.registry.1.registryId ∈ sortOn hex ([i.registry.1.registryId, i.calendar.snapshotId] ++
        (i.identitySnapshot.map (·.snapshotId)).toList ++ (first :: rest).filterMap fun session =>
          (lastUnder (·.session) lane.2 session).map (·.observation.1.sourceArtifactId)).dedup :=
      (perm_sortOn _ _).mem_iff.mpr (List.mem_dedup.mpr (by simp))
    rw [hnil] at hmem
    cases hmem
  have hfirst : (first :: rest).head?.getD 0 = first := rfl
  have hend : (first :: rest).getLast?.getD 0 = (first :: rest).getLast (List.cons_ne_nil _ _) := by
    rw [List.getLast?_eq_some_getLast (List.cons_ne_nil _ _)]
    rfl
  unfold DailyRequest.check DailyRequest.firstSession DailyRequest.lastSession
  rw [raiseIf_bind_eq_ok, raiseIf_bind_eq_ok, raiseIf_bind_eq_ok, raiseIf_bind_eq_ok, raiseIf_eq_ok]
  have hfrom : (i.request provider lane (first :: rest)).binding.validFrom = first := rfl
  have hthrough : (i.request provider lane (first :: rest)).binding.validThrough =
      (first :: rest).getLast (List.cons_ne_nil _ _) := hend
  have hsessions : (i.request provider lane (first :: rest)).sessions = first :: rest := rfl
  have hat : (i.request provider lane (first :: rest)).requestedAt = i.requestedAt := rfl
  rw [hfrom, hthrough, hsessions, hat, hfirst, hend]
  constructor
  · rintro ⟨-, -, hlength, -⟩
    rw [not_or, not_or, not_lt] at hlength
    exact hlength.2.1
  · intro hlength
    refine ⟨not_lt.mpr (head_le_getLast hsorted), ?_, ?_, ?_, not_le.mpr hpast⟩
    · rw [not_or, not_not]
      exact hids
    · rw [not_or, not_or, not_lt, not_not]
      exact ⟨List.cons_ne_nil _ _, hlength, hsorted⟩
    · rw [not_or, not_lt, not_lt]
      exact ⟨le_rfl, le_rfl⟩

end Requests

section Sample

/-- A trading day with the window of the weekly schedule. -/
def tradingDay (day : SessionDate) : CalendarMaterialization.CalendarDay where
  day := day
  kind := .regular
  knowledgeTime := 0
  sessionWindows := CalendarMaterialization.weekSchedule.windows.map (CalendarMaterialization.window day)

def twoSessions : CalendarMaterialization.CalendarSnapshot where
  cutoff := 10
  coverageStart := 1
  coverageEnd := 2
  days := [⟨tradingDay 1, by decide +kernel⟩, ⟨tradingDay 2, by decide +kernel⟩]

def plainObservation : ObservationFields := observationFields plainMaster plainRecord

def plainCandidate : CandidateFields where
  basis := .validatedIsin
  validatedIsin := some "INE000A01012"
  rawSourceIdentifier := none
  observationIds := [plainObservation.observationId]
  status := .singleVintage

def plainRegistry : RegistryFields (fun _ => "") where
  cutoff := 10
  knowledgeTime := 10
  sourceManifests := [plainMaster.manifest]
  observations := [⟨plainObservation, ok_of_toOption (by decide +kernel)⟩]
  candidates := [⟨plainCandidate, ok_of_toOption (by decide +kernel)⟩]
  transitions := []
  conflicts := []

/-- A security master for the first of two sessions, and a resolver that makes the key from the ISIN. -/
def plainInputs : PlanInputs (fun _ => "") where
  registry := ⟨plainRegistry, ok_of_toOption (by decide +kernel)⟩
  securityMasterSources := [⟨plainMaster.manifest, [⟨plainRecord, ⟨6, true⟩⟩]⟩]
  calendar := ⟨.digest 9, "NSE", "CM", twoSessions, ok_of_toOption (by decide +kernel)⟩
  resolver :=
    { provider := .value "UPSTOX"
      resolverVersion := .value "upstox-nse-eq-isin/v1"
      knowledgeTime := none
      resolve := fun observation => .value ("NSE_EQ|" ++ observation.1.rawSourceIdentifier)
      resolveIsin := none
      catalogContains := none
      catalogContainsIsin := none }
  coverageStart := 1
  coverageEnd := 2
  requestedAt := 864000000000
  identitySnapshot := none

/-- A plan of one request for the first session, and an issue for the second. -/
theorem plainInputs_plan : ∃ plan, buildHistoricalBackfillPlan plainInputs = .ok plan ∧
    plan.1.requests.map (·.sessions) = [[1]] ∧ plan.1.issues.map (·.affectedDates) = [[2]] := by
  obtain ⟨plan, hplan, h⟩ := exists_ok_of_any (x := buildHistoricalBackfillPlan plainInputs)
    (p := fun plan => decide (plan.1.requests.map (·.sessions) = [[1]] ∧ plan.1.issues.map (·.affectedDates) = [[2]]))
    (by decide +kernel)
  exact ⟨plan, hplan, of_decide_eq_true h⟩

theorem plainInputs_check : ∃ metadata, plainInputs.check = .ok metadata := by
  obtain ⟨metadata, h, -⟩ := exists_ok_of_any (x := plainInputs.check) (p := fun _ => true) (by decide +kernel)
  exact ⟨metadata, h⟩

end Sample

section Plan

/-- Values whose images under `f` share nothing have different names, if values of one name have one image. -/
theorem nodup_of_flatMap {α β γ : Type} {values : List α} {f : α → List β} {name : α → γ} (h : (values.flatMap f).Nodup)
    (hne : ∀ a ∈ values, f a ≠ []) (hname : ∀ a ∈ values, ∀ b ∈ values, name a = name b → f a = f b) :
    (values.map name).Nodup := by
  obtain ⟨-, hdisjoint⟩ := List.nodup_flatMap.mp h
  refine List.pairwise_map.mpr (hdisjoint.imp_of_mem fun {a b} ha hb hab heq => ?_)
  obtain ⟨image, himage⟩ := List.exists_mem_of_ne_nil _ (hne a ha)
  exact hab himage (hname a ha b hb heq ▸ himage)

theorem requestId_injective : Function.Injective DailyRequest.requestId := by
  intro request request' h
  obtain ⟨binding, sessions, requestedAt⟩ := request
  obtain ⟨binding', sessions', requestedAt'⟩ := request'
  obtain ⟨provider, key, listing, series, isin, start, through, ids⟩ := binding
  obtain ⟨provider', key', listing', series', isin', start', through', ids'⟩ := binding'
  have hint : Function.Injective ContentId.int := fun _ _ h => ContentId.int.inj h
  simp only [DailyRequest.requestId, InstrumentBinding.bindingId, ContentId.ofFields_inj, List.cons.injEq,
    ContentId.text.injEq, ContentId.int.injEq, ContentId.list_injective.eq_iff, (List.map_injective_iff.mpr hint).eq_iff,
    true_and, and_true] at h
  obtain ⟨⟨rfl, rfl, rfl, rfl, rfl, rfl, rfl, rfl⟩, rfl, rfl⟩ := h
  rfl

theorem issueCode_value_injective : Function.Injective IssueCode.value := by
  intro code code' h
  cases code <;> cases code' <;> first | rfl | exact absurd h (by decide)

theorem issueId_injective : Function.Injective Issue.issueId := by
  intro issue issue' h
  obtain ⟨code, dates, ids⟩ := issue
  obtain ⟨code', dates', ids'⟩ := issue'
  have hint : Function.Injective ContentId.int := fun _ _ h => ContentId.int.inj h
  simp only [Issue.issueId, ContentId.ofFields_inj, List.cons.injEq, ContentId.text.injEq,
    ContentId.list_injective.eq_iff, (List.map_injective_iff.mpr hint).eq_iff, issueCode_value_injective.eq_iff,
    true_and, and_true] at h
  obtain ⟨rfl, rfl, rfl⟩ := h
  rfl

/-- What the requests of a plan ask for is asked for once. -/
theorem providerSessions_nodup (provider : String) : ((i.requests provider).flatMap (·.providerSessions)).Nodup := by
  have hwanted : ∀ request : DailyRequest, request.providerSessions =
      request.wanted.map fun wanted => (wanted.2.2.2.1, wanted.2.2.2.2) := by
    intro request
    unfold DailyRequest.providerSessions DailyRequest.wanted
    rw [List.map_map]
    rfl
  have heq : ((i.requests provider).flatMap (·.providerSessions)) =
      ((i.requests provider).flatMap DailyRequest.wanted).map fun wanted => (wanted.2.2.2.1, wanted.2.2.2.2) := by
    rw [List.map_flatMap]
    exact List.flatMap_congr fun request _ => hwanted request
  rw [heq, ((requests_wanted i provider).map _).nodup_iff, List.map_map]
  have hkeys := (safe_keys_nodup i).map (f := Prod.swap) Prod.swap_injective
  rw [List.map_map] at hkeys
  exact hkeys

/-- The bounds of all sessions of a run are bounds of its first and of its last. -/
theorem ends_of_run {run : List SessionDate} {low high : SessionDate} (h : ∀ session ∈ run, low ≤ session ∧ session ≤ high)
    (hne : run ≠ []) : low ≤ run.head?.getD 0 ∧ run.getLast?.getD 0 ≤ high := by
  rw [List.head?_eq_some_head hne, List.getLast?_eq_some_getLast hne]
  exact ⟨(h _ (List.head_mem hne)).1, (h _ (List.getLast_mem hne)).2⟩

/-- The dates of an issue lie in the coverage. -/
theorem issue_in_coverage {issue : Issue} (h : issue ∈ i.issues) :
    ∀ date ∈ issue.affectedDates, i.coverageStart ≤ date ∧ date ≤ i.coverageEnd := by
  rcases (mem_issues i).mp h with h | ⟨o, ho, h⟩ | ⟨group, hgroup, -, rfl⟩
  · rcases (coverageIssue_cases i h).2 with ⟨run, hrun, rfl⟩ | ⟨value, hvalue, -, rfl⟩
    · intro date hdate
      exact sessions_in_coverage i (List.mem_filter.mp (mem_of_mem_run hrun hdate)).1
    · intro date hdate
      rw [List.mem_singleton.mp hdate]
      exact of_decide_eq_true (List.mem_filter.mp hvalue).2
  · intro date hdate
    rw [(judgeIssue_eq_some i h).1] at hdate
    rw [List.mem_singleton.mp hdate]
    exact sessions_in_coverage i ((mem_observed i).mp ho).2
  · intro date hdate
    obtain ⟨r, hr, rfl⟩ := (mem_keyGroups i).mp hgroup
    rw [List.mem_singleton.mp hdate]
    exact sessions_in_coverage i ((mem_observed i).mp ((mem_resolved i).mp hr).1).2

/-- The plan passes its own check once its inputs do. -/
theorem planFields_check (hcheck : i.checkSources = .ok ()) (provider version : String) :
    (i.planFields provider version).check hex = .ok () := by
  have hrequests := planFields_requests i provider version
  have hissues := planFields_issues i provider version
  have hsessions : ((i.planFields provider version).requests.flatMap (·.providerSessions)).Nodup :=
    (hrequests.flatMap_right _).nodup_iff.mpr (providerSessions_nodup i provider)
  have hne : ∀ request ∈ (i.planFields provider version).requests, request.providerSessions ≠ [] := by
    intro request hrequest
    obtain ⟨lane, -, run, hrun, rfl⟩ := mem_requests i (hrequests.mem_iff.mp hrequest)
    exact fun hnil => run_ne_nil hrun (List.map_eq_nil_iff.mp hnil)
  have hids : ((i.planFields provider version).requests.map (·.requestId)).Nodup :=
    nodup_of_flatMap hsessions hne fun request _ request' _ h => by rw [requestId_injective h]
  have hissueIds : ((i.planFields provider version).issues.map (·.issueId)).Nodup :=
    (hissues.nodup_iff.mpr (List.nodup_dedup _)).map issueId_injective
  unfold PlanFields.check
  rw [raiseIf_bind_eq_ok, raiseIf_bind_eq_ok, raiseIf_bind_eq_ok, raiseIf_bind_eq_ok, raiseIf_bind_eq_ok,
    raiseIf_bind_eq_ok, raiseIf_eq_ok]
  refine ⟨?_, ?_, ?_, ?_, ?_, ?_, ?_⟩
  · exact not_lt.mpr (coverage_of_check i hcheck).1
  · exact not_not.mpr (planFields_sorted i provider version).1.symm
  · exact not_not.mpr hids
  · rintro ⟨request, hrequest, hbad⟩
    obtain ⟨lane, -, run, hrun, rfl⟩ := mem_requests i (hrequests.mem_iff.mp hrequest)
    have hinside : ∀ session ∈ run, i.coverageStart ≤ session ∧ session ≤ i.coverageEnd := fun session h =>
      sessions_in_coverage i (laneDates_subset i _ (mem_of_mem_run hrun h))
    obtain ⟨hfirst, hlast⟩ := ends_of_run hinside (run_ne_nil hrun)
    rcases hbad with h | h | h | h
    · exact h rfl
    · exact h rfl
    · exact absurd hfirst (not_le.mpr h)
    · exact absurd hlast (not_le.mpr h)
  · exact not_not.mpr hsessions
  · rw [not_or, not_not, not_not]
    exact ⟨(planFields_sorted i provider version).2.symm, hissueIds⟩
  · rintro ⟨issue, hissue, hbad⟩
    have hdates := issue_in_coverage i (hissues.mem_iff.mp hissue)
    rcases hbad with h | h
    · cases hdate : issue.affectedDates.head? with
      | none =>
        rw [hdate] at h
        cases h
      | some date =>
        rw [hdate] at h
        exact absurd (hdates date (List.mem_of_head? hdate)).1 (not_le.mpr (of_decide_eq_true h))
    · cases hdate : issue.affectedDates.getLast? with
      | none =>
        rw [hdate] at h
        cases h
      | some date =>
        rw [hdate] at h
        exact absurd (hdates date (List.mem_of_getLast? hdate)).2 (not_le.mpr (of_decide_eq_true h))

/-- What a plan says about the observations that it is made of. -/
structure AccountsFor (plan : PlanFields) : Prop where
  requested : (plan.requests.flatMap DailyRequest.wanted).Perm (i.safe.map Resolved.wanted)
  excluded : ∀ o ∈ i.registry.1.observations, o.1.claimedReportDate ∈ i.sessions →
    ((∃ issue ∈ plan.issues, issue.code ≠ .providerCatalogAbsent ∧ o.1.observationId ∈ issue.observationIds) ↔
      ∀ r ∈ i.safe, r.observation ≠ o)
  absent : ∀ o ∈ i.registry.1.observations, o.1.claimedReportDate ∈ i.sessions →
    ((∃ issue ∈ plan.issues, issue.code = .providerCatalogAbsent ∧ o.1.observationId ∈ issue.observationIds) ↔
      ∃ r, i.judge o = .ok r ∧ r.absent)
  missing : ∀ session ∈ i.sessions, session ∉ i.manifestDates →
    ∃! issue, issue ∈ plan.issues ∧ issue.code = .missingSecurityMasterVintage ∧ session ∈ issue.affectedDates

variable {i} {plan : BackfillPlan hex}

theorem build_eq_ok (h : buildHistoricalBackfillPlan i = .ok plan) :
    ∃ provider version, i.check = .ok (provider, version) ∧
      (∀ request ∈ i.requests provider, request.checkAll = .ok ()) ∧ plan.1 = i.planFields provider version := by
  unfold buildHistoricalBackfillPlan at h
  obtain ⟨⟨provider, version⟩, hcheck, h⟩ := bind_eq_ok.mp h
  obtain ⟨_, hall, h⟩ := bind_eq_ok.mp h
  exact ⟨provider, version, hcheck, forM_eq_ok.mp hall, (Checked.build_eq_ok.mp h).symm⟩

/-- Backfill planning loses no observation and doubles none: each is asked for once, or excluded by an issue. -/
theorem plan_accounts (h : buildHistoricalBackfillPlan i = .ok plan) : AccountsFor i plan.1 := by
  obtain ⟨provider, version, -, -, hplan⟩ := build_eq_ok h
  have hrequests : plan.1.requests.Perm (i.requests provider) := hplan ▸ planFields_requests i provider version
  have hissues : ∀ issue, issue ∈ plan.1.issues ↔ issue ∈ i.issues := fun issue =>
    hplan ▸ (planFields_issues i provider version).mem_iff
  constructor
  · exact (hrequests.flatMap_right _).trans (requests_wanted i provider)
  · intro o hmem hsession
    simp only [hissues]
    exact excluded_iff i ((mem_observed i).mpr ⟨hmem, hsession⟩)
  · intro o hmem hsession
    simp only [hissues]
    exact absent_iff i ((mem_observed i).mpr ⟨hmem, hsession⟩)
  · intro session hsession hmissing
    simp only [hissues]
    exact missing_unique i hsession hmissing

theorem plan_accounts_plain : ∃ plan, buildHistoricalBackfillPlan plainInputs = .ok plan ∧
    plan.1.requests.map (·.sessions) = [[1]] ∧ AccountsFor plainInputs plan.1 := by
  obtain ⟨plan, hplan, hsessions, -⟩ := plainInputs_plan
  exact ⟨plan, hplan, hsessions, plan_accounts hplan⟩

/-- Each request asks for a maximal run of the sessions of one lane. -/
theorem plan_runs (h : buildHistoricalBackfillPlan i = .ok plan) : ∀ request ∈ plan.1.requests, ∃ r ∈ i.safe,
    request.wanted = request.sessions.map (fun session => (r.wanted.1, r.wanted.2.1, r.wanted.2.2.1, r.wanted.2.2.2.1, session)) ∧
      (∀ session ∈ request.sessions, session ∈ i.laneDates (i.laneOf r)) ∧
        ∃ front back, IsBlock i.sessions (i.laneDates (i.laneOf r)) request.sessions front back := by
  obtain ⟨provider, version, -, -, hplan⟩ := build_eq_ok h
  intro request hrequest
  rw [hplan] at hrequest
  obtain ⟨lane, hlane, run, hrun, rfl⟩ := mem_requests i ((planFields_requests i provider version).mem_iff.mp hrequest)
  obtain ⟨r, hr, heq⟩ := exists_safe i hlane
  rw [heq] at hrun
  refine ⟨r, hr, ?_, fun session hsession => mem_of_mem_run hrun hsession, ?_⟩
  · unfold DailyRequest.wanted PlanInputs.request
    rw [heq]
    rfl
  · exact exists_block (sessions_increasing i) (laneDates_increasing i _) (laneDates_subset i) hrun

theorem plan_runs_plain : ∃ plan request, buildHistoricalBackfillPlan plainInputs = .ok plan ∧
    request ∈ plan.1.requests ∧ ∃ r ∈ plainInputs.safe, ∃ front back,
      IsBlock plainInputs.sessions (plainInputs.laneDates (plainInputs.laneOf r)) request.sessions front back := by
  obtain ⟨plan, hplan, hsessions, -⟩ := plainInputs_plan
  obtain ⟨request, hrequest, -⟩ := List.mem_map.mp (hsessions ▸ List.mem_singleton_self ([1] : List SessionDate))
  obtain ⟨r, hr, -, -, hblock⟩ := plan_runs hplan request hrequest
  exact ⟨plan, request, hplan, hrequest, r, hr, hblock⟩

/-- What the checks of the inputs come to. -/
theorem check_eq_ok {provider version : String} (h : i.check = .ok (provider, version)) :
    i.checkSources = .ok () ∧ isProvider provider.toList := by
  unfold PlanInputs.check at h
  obtain ⟨_, hsources, h⟩ := bind_eq_ok.mp h
  obtain ⟨_, -, h⟩ := bind_eq_ok.mp h
  obtain ⟨metadata, hmetadata, h⟩ := bind_eq_ok.mp h
  obtain ⟨_, -, h⟩ := bind_eq_ok.mp h
  obtain rfl := Except.ok.inj h
  refine ⟨hsources, ?_⟩
  unfold PlanInputs.resolverMetadata at hmetadata
  split at hmetadata
  · cases hmetadata
  · cases hmetadata
  · cases hmetadata
  · obtain ⟨hprovider, hmetadata⟩ := raiseIf_bind_eq_ok.mp hmetadata
    split at hmetadata
    · split_ifs at hmetadata
      obtain ⟨rfl, -⟩ := Prod.mk.inj (Except.ok.inj hmetadata)
      exact not_not.mp hprovider
    · cases hmetadata

/-- Once its inputs are accepted, a plan is made unless a provider key has a control character, or a run is longer
than a request may be. -/
theorem plan_exists_iff {metadata : String × String} (hcheck : i.check = .ok metadata) :
    (∃ plan, buildHistoricalBackfillPlan i = .ok plan) ↔
      ∀ r ∈ i.safe, (∀ c ∈ r.providerKey.toList, 32 ≤ c.toNat) ∧
        ∀ run ∈ runs i.sessions (i.laneDates (i.laneOf r)), run.length ≤ maximumHistoricalSessions := by
  obtain ⟨provider, version⟩ := metadata
  obtain ⟨hsources, hprovider⟩ := check_eq_ok hcheck
  constructor
  · rintro ⟨plan, hbuild⟩ r hr
    obtain ⟨provider', version', hcheck', hall, -⟩ := build_eq_ok hbuild
    obtain ⟨rfl, rfl⟩ := Prod.mk.inj (Except.ok.inj (hcheck.symm.trans hcheck'))
    obtain ⟨lane, hlane, heq⟩ := exists_lane i hr
    have hrun : ∀ run ∈ runs i.sessions (i.laneDates (i.laneOf r)),
        (i.request provider lane run).binding.checkTexts = .ok () ∧ (i.request provider lane run).check = .ok () := by
      intro run hrun
      have hmem : i.request provider lane run ∈ i.requests provider := by
        refine List.mem_flatMap.mpr ⟨lane, hlane, List.mem_map.mpr ⟨run, ?_, rfl⟩⟩
        rw [laneSessions_eq i hlane, heq]
        exact hrun
      have hchecked := hall _ hmem
      unfold DailyRequest.checkAll at hchecked
      obtain ⟨_, htexts, hrest⟩ := bind_eq_ok.mp hchecked
      exact ⟨htexts, hrest⟩
    constructor
    · have hdate : r.session ∈ i.laneDates (i.laneOf r) :=
        List.mem_filter.mpr ⟨session_of_safe i hr, decide_eq_true ⟨r, hr, rfl, rfl⟩⟩
      rw [← flatten_runs i.sessions (i.laneDates (i.laneOf r))] at hdate
      obtain ⟨run, hmem, -⟩ := List.mem_flatten.mp hdate
      exact (checkTexts_request i hprovider hr heq run).mp (hrun run hmem).1
    · intro run hmem
      exact (check_request i hsources (heq ▸ hmem)).mp (hrun run hmem).2
  · intro hsafe
    have hall : ∀ request ∈ i.requests provider, request.checkAll = .ok () := by
      intro request hrequest
      obtain ⟨lane, hlane, run, hrun, rfl⟩ := mem_requests i hrequest
      obtain ⟨r, hr, heq⟩ := exists_safe i hlane
      obtain ⟨hkey, hruns⟩ := hsafe r hr
      have htexts := (checkTexts_request i hprovider hr heq run).mpr hkey
      have hlength : (i.request provider lane run).check = .ok () :=
        (check_request i hsources hrun).mpr (hruns run (heq ▸ hrun))
      unfold DailyRequest.checkAll
      rw [htexts]
      exact hlength
    refine ⟨⟨i.planFields provider version, planFields_check i hsources provider version⟩, ?_⟩
    unfold buildHistoricalBackfillPlan
    rw [hcheck, ok_bind]
    dsimp only
    rw [forM_eq_ok.mpr hall, ok_bind]
    exact Checked.build_of_ok (planFields_check i hsources provider version)

theorem plan_exists_plain : (∃ plan, buildHistoricalBackfillPlan plainInputs = .ok plan) ∧
    ∀ r ∈ plainInputs.safe, (∀ c ∈ r.providerKey.toList, 32 ≤ c.toNat) ∧
      ∀ run ∈ runs plainInputs.sessions (plainInputs.laneDates (plainInputs.laneOf r)),
        run.length ≤ maximumHistoricalSessions := by
  obtain ⟨metadata, hcheck⟩ := plainInputs_check
  obtain ⟨plan, hplan, -⟩ := plainInputs_plan
  have hmade : ∃ plan, buildHistoricalBackfillPlan plainInputs = .ok plan := ⟨plan, hplan⟩
  exact ⟨hmade, (plan_exists_iff hcheck).mp hmade⟩

end Plan

end Backfill

end IndiaSwing
