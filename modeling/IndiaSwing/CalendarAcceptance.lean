import IndiaSwing.CalendarDays

namespace IndiaSwing.CalendarMaterialization

open ExceptGuards Relation
open KeySort (sortOn perm_sortOn sortOn_pairwise)
open SortedTuples

section Coverage

variable {first last day : SessionDate}

theorem mem_coveredDates : day ∈ coveredDates first last ↔ first ≤ day ∧ day ≤ last := by
  have hindex : ∀ a b c : ℤ, (∃ n : ℕ, n < (b - a + 1).toNat ∧ a + n = c) ↔ a ≤ c ∧ c ≤ b := by
    intro a b c
    constructor
    · rintro ⟨n, hn, rfl⟩
      omega
    · rintro ⟨hfirst, hlast⟩
      exact ⟨(c - a).toNat, by omega, by omega⟩
  unfold coveredDates
  rw [List.mem_map]
  simp only [List.mem_range]
  exact hindex first last day

theorem length_coveredDates : (coveredDates first last).length = (last - first + 1).toNat := by
  unfold coveredDates
  rw [List.length_map, List.length_range]

theorem nodup_coveredDates : (coveredDates first last).Nodup := by
  unfold coveredDates
  refine List.Nodup.map (fun a b h => ?_) List.nodup_range
  exact Int.ofNat_inj.mp (Int.add_left_cancel h)

/-- The date of a covered index. -/
theorem getElem?_coveredDates (h : first ≤ day) (h' : day ≤ last) :
    (coveredDates first last)[(day - first).toNat]? = some day := by
  have hindex : ∀ a b c : ℤ, a ≤ c → c ≤ b → (c - a).toNat < (b - a + 1).toNat ∧ a + ((c - a).toNat : ℤ) = c := by
    intro a b c hfirst hlast
    omega
  obtain ⟨hlt, heq⟩ := hindex first last day h h'
  unfold coveredDates
  rw [List.getElem?_map, List.getElem?_range hlt]
  exact congrArg some heq

end Coverage

section Reading

variable {eventId : CalendarEvent → String} {events chain : List EventSource} {source base : EventSource} {day : SessionDate}
variable {result : CheckedDay × CheckedResolution}

/-- The windows of a date in no order: those of the event that decides it, and on a trading day those of its activities. -/
def dayWindows (events : List EventSource) (day : SessionDate) (source : EventSource) : List DeclaredSessionWindow :=
  if (stateFor day source.event.1).1.isTrading then
    (stateFor day source.event.1).2 ++
      (events.filter fun other => isActivity other.event.1 && other.event.1.effectiveDate = some day).flatMap (·.event.1.windows)
  else []

/-- What a materialized calendar says about a date, read off the events. -/
structure Describes (eventId : CalendarEvent → String) (events : List EventSource) (day : SessionDate) (value : CalendarDay)
    (resolution : CalendarDayResolution) : Prop where
  day_eq : value.day = day
  resolution_day : resolution.day = day
  chain : ∃ base chain, StateChain eventId events day base chain ∧
    resolution.stateChainEventIds = (base :: chain).map (·.id eventId)
  decided : ∃ source, Decides eventId events day source ∧ value.kind = (stateFor day source.event.1).1 ∧
    ∃ declared : List DeclaredSessionWindow, declared.Perm (dayWindows events day source) ∧ declared.Pairwise (fun a b => a.closes ≤ b.opens) ∧
      value.sessionWindows = declared.map (window day)
  activities_sorted : resolution.nonExecutableEventIds.Pairwise (· < ·)
  activities : ∀ id, id ∈ resolution.nonExecutableEventIds ↔
    ∃ source ∈ events, (isActivity source.event.1 ∧ source.event.1.effectiveDate = some day) ∧ source.id eventId = id
  applied : ∀ id, id ∈ resolution.appliedEventIds ↔
    ∃ source ∈ events, AppliesOn day source.event.1 ∧ source.id eventId = id
  artifacts : ∀ id, id ∈ resolution.sourceArtifactIds ↔
    ∃ source ∈ events, AppliesOn day source.event.1 ∧ source.artifact.artifactId = id
  known : IsGreatest {time | ∃ source ∈ events, AppliesOn day source.event.1 ∧ source.artifact.validatedAt = time}
    value.knowledgeTime

theorem foldl_max (latest : Instant) (applied : List EventSource) :
    let result := applied.foldl (fun latest source => max latest source.artifact.validatedAt) latest
    (latest ≤ result ∧ ∀ source ∈ applied, source.artifact.validatedAt ≤ result) ∧
      (result = latest ∨ ∃ source ∈ applied, source.artifact.validatedAt = result) := by
  induction applied generalizing latest with
  | nil => exact ⟨⟨le_rfl, fun _ h => absurd h List.not_mem_nil⟩, .inl rfl⟩
  | cons first applied ih =>
    obtain ⟨⟨hlatest, hall⟩, hreached⟩ := ih (max latest first.artifact.validatedAt)
    refine ⟨⟨(le_max_left _ _).trans hlatest, List.forall_mem_cons.mpr ⟨(le_max_right _ _).trans hlatest, hall⟩⟩, ?_⟩
    rcases hreached with heq | ⟨source, hsource, heq⟩
    · rcases max_choice latest first.artifact.validatedAt with hmax | hmax
      · exact .inl (heq.trans hmax)
      · exact .inr ⟨first, List.mem_cons_self, (heq.trans hmax).symm⟩
    · exact .inr ⟨source, List.mem_cons_of_mem _ hsource, heq⟩

theorem knowledgeTime_isGreatest (h : StateChain eventId events day base chain) (hids : (events.map (·.id eventId)).Nodup) :
    IsGreatest {time | ∃ source ∈ events, AppliesOn day source.event.1 ∧ source.artifact.validatedAt = time}
      (knowledgeTime eventId events base (dayResolution eventId events day base chain).appliedEventIds) := by
  obtain ⟨⟨-, hall⟩, hreached⟩ := foldl_max base.artifact.validatedAt
    ((dayResolution eventId events day base chain).appliedEventIds.filterMap (eventById eventId events))
  constructor
  · rcases hreached with heq | ⟨source, hsource, heq⟩
    · obtain ⟨hmem, happlies⟩ := h.mem_iff.mp List.mem_cons_self
      exact ⟨base, hmem, .inl happlies, heq.symm⟩
    · obtain ⟨hmem, happlies⟩ := (mem_appliedSources h hids).mp hsource
      exact ⟨source, hmem, happlies, heq⟩
  · rintro time ⟨source, hmem, happlies, rfl⟩
    exact hall source ((mem_appliedSources h hids).mpr ⟨hmem, happlies⟩)

theorem declaredWindows_perm (hchain : StateChain eventId events day base chain) (hids : (events.map (·.id eventId)).Nodup)
    (hdecides : Decides eventId events day source) :
    (declaredWindows (stateOf day base chain) (activitiesOn eventId events day)).Perm (dayWindows events day source) := by
  rw [hchain.stateOf_eq hdecides hids]
  unfold declaredWindows dayWindows
  refine (perm_sortOn windowKey _).trans ?_
  rcases stateFor_windows source.event.2 hdecides.applies with ⟨htrading, -⟩ | ⟨hclosed, hnone⟩
  · rw [if_pos htrading, if_pos htrading]
    exact List.Perm.append_left _ ((perm_sortOn _ _).flatMap_right _)
  · rw [hclosed, hnone]
    exact .nil

/-- The windows of a date are in order exactly when no two of them overlap. -/
theorem windowsInOrder_iff_apart (hchain : StateChain eventId events day base chain)
    (hids : (events.map (·.id eventId)).Nodup) (hdecides : Decides eventId events day source) :
    WindowsInOrder (declaredWindows (stateOf day base chain) (activitiesOn eventId events day)) ↔
      (dayWindows events day source).Pairwise Apart := by
  have hperm := declaredWindows_perm hchain hids hdecides
  have hiff : (declaredWindows (stateOf day base chain) (activitiesOn eventId events day)).Pairwise Apart ↔
      (dayWindows events day source).Pairwise Apart := hperm.pairwise_iff fun h => Or.symm h
  rw [← hiff]
  unfold declaredWindows
  rw [windowsInOrder_iff]
  have hsorted : ∀ windows : List DeclaredSessionWindow,
      windows.Pairwise Apart ↔ (sortOn windowKey windows).Pairwise Apart :=
    fun windows => ((perm_sortOn windowKey windows).pairwise_iff fun h => Or.symm h).symm
  exact hsorted _

theorem WindowsInOrder.pairwise {windows : List DeclaredSessionWindow} (h : WindowsInOrder windows) :
    windows.Pairwise fun a b => a.closes ≤ b.opens := by
  have htrans : IsTrans DeclaredSessionWindow fun a b => a.closes ≤ b.opens :=
    ⟨fun a b c hab hbc => hab.trans (b.opens_lt_closes.le.trans hbc)⟩
  exact List.isChain_iff_pairwise.mp h

/-- A resolved date says what the events say. -/
theorem resolveDay_describes (hgraph : WellFormedGraph eventId events) (hids : (events.map (·.id eventId)).Nodup)
    (h : resolveDay eventId events day = .ok result) : Describes eventId events day result.1.1 result.2.1 := by
  obtain ⟨base, hbase, hvalue, hresolution⟩ := (resolveDay_eq_ok hgraph hids).mp h
  obtain ⟨-, hchain⟩ := hgraph.forms_chain hids hbase
  obtain ⟨decider, hdecides⟩ : ∃ decider, Decides eventId events day decider := ⟨_, (hchain.decides_iff hids).mpr rfl⟩
  have horder := (dayValue_check hgraph hids hbase).mp (hvalue ▸ result.1.2)
  rw [hvalue, hresolution]
  refine ⟨rfl, rfl, ⟨base, _, hchain, rfl⟩, ?_, ?_, ?_, ?_, ?_, knowledgeTime_isGreatest hchain hids⟩
  · refine ⟨decider, hdecides, ?_, _, declaredWindows_perm hchain hids hdecides, horder.pairwise, rfl⟩
    rw [← hchain.stateOf_eq hdecides hids]
    rfl
  · exact (activityIds_sorted.and (nodup_activityIds hids)).imp fun hab => lt_of_le_of_ne hab.1 hab.2
  · intro id
    show id ∈ (activitiesOn eventId events day).map (·.id eventId) ↔ _
    rw [List.mem_map]
    simp only [mem_activitiesOn, and_assoc]
  · intro id
    rw [mem_appliedEventIds hchain]
    exact exists_congr fun source => and_congr_right fun _ => and_comm
  · exact fun id => mem_sourceArtifactIds hchain hids

/-- Whether a resolved date is a session, read off the event that decides it. -/
theorem isSession_iff (h : Describes eventId events day result.1.1 result.2.1) (hids : (events.map (·.id eventId)).Nodup) :
    result.1.1.isSession ↔ ∃ source, Decides eventId events day source ∧ (stateFor day source.event.1).1.isTrading := by
  obtain ⟨source, hdecides, hkind, -⟩ := h.decided
  obtain ⟨base, chain, hchain, -⟩ := h.chain
  unfold CalendarDay.isSession
  rw [hkind]
  constructor
  · exact fun htrading => ⟨source, hdecides, htrading⟩
  · rintro ⟨other, hother, htrading⟩
    rwa [(hchain.decides_iff hids).mp hdecides, ← (hchain.decides_iff hids).mp hother]

end Reading

section Sources

variable {eventId : CalendarEvent → String} {sources others : List StoredCalendarSourceArtifact} {source : EventSource}
variable {day : SessionDate}

theorem mem_collectEvents : source ∈ collectEvents sources ↔ source.artifact ∈ sources ∧ source.event ∈ source.artifact.events := by
  unfold collectEvents
  simp only [List.mem_flatMap, List.mem_map]
  constructor
  · rintro ⟨artifact, hmem, event, hevent, rfl⟩
    exact ⟨hmem, hevent⟩
  · rintro ⟨hmem, hevent⟩
    exact ⟨source.artifact, hmem, source.event, hevent, rfl⟩

theorem collectEvents_perm (h : sources.Perm others) : (collectEvents sources).Perm (collectEvents others) := h.flatMap_right _

theorem ids_perm (h : sources.Perm others) :
    ((collectEvents sources).map (·.id eventId)).Nodup ↔ ((collectEvents others).map (·.id eventId)).Nodup :=
  ((collectEvents_perm h).map _).nodup_iff

theorem flatMap_eventIds : sources.flatMap (·.eventIds eventId) = (collectEvents sources).map (·.id eventId) := by
  unfold collectEvents
  rw [List.map_flatMap]
  refine List.flatMap_congr fun source _ => ?_
  rw [List.map_map]
  rfl

/-- The manifest of an event is that of the source it was read from. -/
theorem eventToManifest_of_mem (hids : ((collectEvents sources).map (·.id eventId)).Nodup) (h : source ∈ collectEvents sources) :
    eventToManifest eventId sources (source.id eventId) = some source.artifact := by
  obtain ⟨hartifact, hevent⟩ := mem_collectEvents.mp h
  have hin : source.id eventId ∈ source.artifact.eventIds eventId := List.mem_map_of_mem hevent
  unfold eventToManifest
  cases hfind : sources.find? fun artifact => source.id eventId ∈ artifact.eventIds eventId with
  | none => exact absurd (decide_eq_true hin) (List.find?_eq_none.mp hfind source.artifact hartifact)
  | some artifact =>
    have hlisted : source.id eventId ∈ artifact.eventIds eventId := by simpa using List.find?_some hfind
    obtain ⟨event, hmem, heq⟩ := List.mem_map.mp hlisted
    have hother : (⟨event, artifact⟩ : EventSource) ∈ collectEvents sources :=
      mem_collectEvents.mpr ⟨List.mem_of_find?_eq_some hfind, hmem⟩
    rw [← eq_of_id_eq hids hother h heq]

theorem Supersedes.congr {events events' : List EventSource} (hmem : ∀ source, source ∈ events ↔ source ∈ events')
    {a b : EventSource} (h : Supersedes eventId events a b) : Supersedes eventId events' a b :=
  ⟨(hmem a).mp h.mem, (hmem b).mp h.mem_other, h.listed⟩

/-- The conditions on the graph do not depend on the order of the events. -/
theorem WellFormedGraph.congr {events events' : List EventSource} (h : WellFormedGraph eventId events)
    (hmem : ∀ source, source ∈ events ↔ source ∈ events') : WellFormedGraph eventId events' where
  known := by simpa only [hmem] using h.known
  acyclic := fun source hcycle => h.acyclic source
    (hcycle.lift id fun _ _ hsupersedes => hsupersedes.congr fun source => (hmem source).symm)
  overrides := by simpa only [hmem] using h.overrides
  competing := by simpa only [hmem] using h.competing
  activities := by simpa only [hmem] using h.activities

theorem Decides.congr {events events' : List EventSource} (h : Decides eventId events day source)
    (hmem : ∀ source, source ∈ events ↔ source ∈ events') : Decides eventId events' day source where
  mem := (hmem source).mp h.mem
  applies := h.applies
  last := by simpa only [hmem] using h.last

theorem dayWindows_perm {events events' : List EventSource} (h : events.Perm events') :
    (dayWindows events day source).Perm (dayWindows events' day source) := by
  unfold dayWindows
  split
  · exact List.Perm.append_left _ ((h.filter _).flatMap_right _)
  · exact .nil

/-- The one base that applies, as the loop looks for it. -/
theorem exists_filter_eq {events : List EventSource} (hnodup : events.Nodup) :
    (∃ base, events.filter (fun source => appliesBase source.event.1 day) = [base]) ↔
      ∃! base, base ∈ events ∧ appliesBase base.event.1 day := by
  constructor
  · rintro ⟨base, hbase⟩
    exact ⟨base, base_of_filter hbase, fun other hother => eq_base hbase hother.1 hother.2⟩
  · rintro ⟨base, ⟨hmem, happlies⟩, hunique⟩
    refine ⟨base, List.perm_singleton.mp ?_⟩
    refine (List.perm_ext_iff_of_nodup (hnodup.filter _) (List.nodup_singleton _)).mpr fun source => ?_
    rw [List.mem_filter, List.mem_singleton]
    constructor
    · exact fun h => hunique source h
    · rintro rfl
      exact ⟨hmem, happlies⟩

end Sources

section Acceptance

variable (eventId : CalendarEvent → String) (verified : StoredCalendarSourceArtifact → Bool)
variable (sources : List StoredCalendarSourceArtifact) (coverageStart coverageEnd : SessionDate) (cutoff : Instant)
variable (observedDateArtifacts : List CheckedEvidence)

/-- When a calendar can be materialized, whatever order the sources and the evidence come in. -/
structure Materializable : Prop where
  coverage : coverageStart ≤ coverageEnd
  nonempty : sources ≠ []
  artifacts : (sources.map (·.artifactId)).Nodup
  manifests : (sources.map (·.manifestId)).Nodup
  verified : ∀ source ∈ sources, verified source ∧ source.validatedAt ≤ cutoff
  events : ((collectEvents sources).map (·.id eventId)).Nodup
  graph : WellFormedGraph eventId (collectEvents sources)
  bases : ∀ day, coverageStart ≤ day → day ≤ coverageEnd →
    ∃! base, base ∈ collectEvents sources ∧ appliesBase base.event.1 day
  apart : ∀ day, coverageStart ≤ day → day ≤ coverageEnd → ∀ source, Decides eventId (collectEvents sources) day source →
    (dayWindows (collectEvents sources) day source).Pairwise Apart
  evidence : (observedDateArtifacts.map (·.1.artifactId)).Nodup
  observed : ∀ evidence ∈ observedDateArtifacts, evidence.1.cutoff ≤ cutoff ∧ ∀ day ∈ evidence.1.observedDates,
    (coverageStart ≤ day ∧ day ≤ coverageEnd) ∧
      ∃ source, Decides eventId (collectEvents sources) day source ∧ (stateFor day source.event.1).1.isTrading
  used : ∀ source ∈ sources, ∃ event ∈ source.events, ∃ day, (coverageStart ≤ day ∧ day ≤ coverageEnd) ∧ AppliesOn day event.1

variable {eventId verified sources coverageStart coverageEnd cutoff observedDateArtifacts}

theorem Materializable.perm {others : List StoredCalendarSourceArtifact} {others' : List CheckedEvidence}
    (h : Materializable eventId verified sources coverageStart coverageEnd cutoff observedDateArtifacts)
    (hsources : sources.Perm others) (hevidence : observedDateArtifacts.Perm others') :
    Materializable eventId verified others coverageStart coverageEnd cutoff others' := by
  have hperm := collectEvents_perm hsources
  have hmem : ∀ source, source ∈ collectEvents sources ↔ source ∈ collectEvents others := fun _ => hperm.mem_iff
  have hback : ∀ {day source}, Decides eventId (collectEvents others) day source →
      Decides eventId (collectEvents sources) day source := fun h => h.congr fun source => (hmem source).symm
  constructor
  · exact h.coverage
  · rintro rfl
    exact h.nonempty hsources.eq_nil
  · exact (hsources.map _).nodup_iff.mp h.artifacts
  · exact (hsources.map _).nodup_iff.mp h.manifests
  · exact fun source hsource => h.verified source (hsources.mem_iff.mpr hsource)
  · exact (ids_perm hsources).mp h.events
  · exact h.graph.congr hmem
  · simpa only [hmem] using h.bases
  · intro day hfirst hlast source hdecides
    exact ((dayWindows_perm hperm).pairwise_iff fun h => Or.symm h).mp (h.apart day hfirst hlast source (hback hdecides))
  · exact (hevidence.map _).nodup_iff.mp h.evidence
  · intro evidence hmem'
    obtain ⟨hcutoff, hdays⟩ := h.observed evidence (hevidence.mem_iff.mpr hmem')
    refine ⟨hcutoff, fun day hday => ?_⟩
    obtain ⟨hcovered, source, hdecides, htrading⟩ := hdays day hday
    exact ⟨hcovered, source, hdecides.congr hmem, htrading⟩
  · exact fun source hsource => h.used source (hsources.mem_iff.mpr hsource)

end Acceptance

section Resolved

variable {eventId : CalendarEvent → String} {events : List EventSource} {first last day : SessionDate} {cutoff : Instant}
variable {resolved : List (CheckedDay × CheckedResolution)} {result : CheckedDay × CheckedResolution} {evidence : CheckedEvidence}

/-- A date can be resolved exactly when one base applies to it and no two of its windows overlap. -/
theorem exists_resolveDay_iff (hgraph : WellFormedGraph eventId events) (hids : (events.map (·.id eventId)).Nodup) :
    (∃ result, resolveDay eventId events day = .ok result) ↔
      (∃! base, base ∈ events ∧ appliesBase base.event.1 day) ∧
        ∀ source, Decides eventId events day source → (dayWindows events day source).Pairwise Apart := by
  have hnodup : events.Nodup := List.Nodup.of_map _ hids
  constructor
  · rintro ⟨result, h⟩
    obtain ⟨base, hbase, hvalue, -⟩ := (resolveDay_eq_ok hgraph hids).mp h
    obtain ⟨-, hchain⟩ := hgraph.forms_chain hids hbase
    refine ⟨(exists_filter_eq hnodup).mp ⟨base, hbase⟩, fun source hdecides => ?_⟩
    exact (windowsInOrder_iff_apart hchain hids hdecides).mp ((dayValue_check hgraph hids hbase).mp (hvalue ▸ result.1.2))
  · rintro ⟨hunique, hapart⟩
    obtain ⟨base, hbase⟩ := (exists_filter_eq hnodup).mpr hunique
    obtain ⟨-, hchain⟩ := hgraph.forms_chain hids hbase
    obtain ⟨decider, hdecides⟩ : ∃ decider, Decides eventId events day decider := ⟨_, (hchain.decides_iff hids).mpr rfl⟩
    have horder := (windowsInOrder_iff_apart hchain hids hdecides).mpr (hapart decider hdecides)
    exact ⟨⟨⟨_, (dayValue_check hgraph hids hbase).mpr horder⟩, ⟨_, dayResolution_check hchain hids⟩⟩,
      (resolveDay_eq_ok hgraph hids).mpr ⟨base, hbase, rfl, rfl⟩⟩

theorem images_of_mapM {α β : Type} {step : α → Except String β} {values : List α} {results : List β}
    (h : values.mapM step = .ok results) : values.map step = results.map .ok := by
  rw [← List.forall₂_eq_eq_eq, List.forall₂_map_left_iff, List.forall₂_map_right_iff]
  exact mapM_eq_ok.mp h

variable (hresolved : (coveredDates first last).mapM (resolveDay eventId events) = .ok resolved)
include hresolved

theorem mem_resolved : result ∈ resolved ↔ ∃ day, (first ≤ day ∧ day ≤ last) ∧ resolveDay eventId events day = .ok result := by
  have himages := images_of_mapM hresolved
  have hok : result ∈ resolved ↔ Except.ok result ∈ resolved.map (@Except.ok String _) := by
    rw [List.mem_map]
    constructor
    · exact fun h => ⟨result, h, rfl⟩
    · rintro ⟨other, hother, heq⟩
      exact Except.ok.inj heq ▸ hother
  rw [hok, ← himages, List.mem_map]
  simp only [mem_coveredDates]

theorem length_resolved : resolved.length = (last - first + 1).toNat := by
  have hlength := congrArg List.length (images_of_mapM hresolved)
  rw [List.length_map, List.length_map, length_coveredDates] at hlength
  exact hlength.symm

/-- The entry of a date. -/
theorem getElem?_resolved (h : first ≤ day) (h' : day ≤ last) :
    ∃ result, resolved[(day - first).toNat]? = some result ∧ resolveDay eventId events day = .ok result := by
  have hentry := congrArg (·[(day - first).toNat]?) (images_of_mapM hresolved)
  rw [List.getElem?_map, List.getElem?_map, getElem?_coveredDates h h'] at hentry
  cases hresult : resolved[(day - first).toNat]? with
  | none =>
    rw [hresult] at hentry
    cases hentry
  | some result =>
    rw [hresult] at hentry
    exact ⟨result, rfl, Option.some.inj hentry⟩

variable (hgraph : WellFormedGraph eventId events) (hids : (events.map (·.id eventId)).Nodup)
include hgraph hids

theorem days_resolved : resolved.map (·.1.1.day) = coveredDates first last := by
  have hdays : List.Forall₂ (fun date result => date = result.1.1.day) (coveredDates first last) resolved :=
    (mapM_eq_ok.mp hresolved).imp fun date result h => (resolveDay_describes hgraph hids h).day_eq.symm
  rw [← List.forall₂_map_right_iff (f := fun result : CheckedDay × CheckedResolution => result.1.1.day),
    List.forall₂_eq_eq_eq] at hdays
  exact hdays.symm

theorem resolution_days : resolved.map (·.2.1.day) = coveredDates first last := by
  have hdays : List.Forall₂ (fun date result => date = result.2.1.day) (coveredDates first last) resolved :=
    (mapM_eq_ok.mp hresolved).imp fun date result h => (resolveDay_describes hgraph hids h).resolution_day.symm
  rw [← List.forall₂_map_right_iff (f := fun result : CheckedDay × CheckedResolution => result.2.1.day),
    List.forall₂_eq_eq_eq] at hdays
  exact hdays.symm

/-- An observed date passes exactly when it is covered and a session. -/
theorem checkObserved_eq_ok : checkObserved (resolved.map (·.1)) day = .ok () ↔
    (first ≤ day ∧ day ≤ last) ∧ ∃ source, Decides eventId events day source ∧ (stateFor day source.event.1).1.isTrading := by
  have hfound : ∀ value, (resolved.map (·.1)).find? (fun value => value.1.day = day) = some value →
      (first ≤ day ∧ day ≤ last) ∧ ∃ result, result.1 = value ∧ resolveDay eventId events day = .ok result := by
    intro value hfind
    have hday : value.1.day = day := by simpa using List.find?_some hfind
    obtain ⟨result, hresult, rfl⟩ := List.mem_map.mp (List.mem_of_find?_eq_some hfind)
    obtain ⟨date, hcovered, hok⟩ := (mem_resolved hresolved).mp hresult
    obtain rfl : date = day := (resolveDay_describes hgraph hids hok).day_eq.symm.trans hday
    exact ⟨hcovered, result, rfl, hok⟩
  unfold checkObserved
  split
  next hnone =>
    constructor
    · intro h
      cases h
    · rintro ⟨hcovered, -⟩
      obtain ⟨result, hentry, hok⟩ := getElem?_resolved hresolved hcovered.1 hcovered.2
      have hmem : result.1 ∈ resolved.map (·.1) := List.mem_map_of_mem (List.mem_of_getElem? hentry)
      exact absurd (decide_eq_true (resolveDay_describes hgraph hids hok).day_eq) (List.find?_eq_none.mp hnone _ hmem)
  next value hfind =>
    obtain ⟨hcovered, result, rfl, hok⟩ := hfound value hfind
    rw [raiseIf_eq_ok, not_not, isSession_iff (resolveDay_describes hgraph hids hok) hids]
    exact ⟨fun h => ⟨hcovered, h⟩, fun h => h.2⟩

omit hresolved hgraph hids in
/-- A binding passes its own checks, since the evidence passed the same. -/
theorem binding_check (evidence : CheckedEvidence) : ObservedDateEvidenceBinding.check
    { artifactId := evidence.1.artifactId
      cutoff := evidence.1.cutoff
      knowledgeTime := evidence.1.sourceValidatedAt
      sourceBundleArtifactId := evidence.1.sourceBundleArtifactId
      sourceBundleManifestId := evidence.1.sourceBundleManifestId
      observedDates := evidence.1.observedDates } = .ok () := by
  obtain ⟨evidence, hcheck⟩ := evidence
  unfold ObservedMarketDateArtifact.check at hcheck
  obtain ⟨-, hcheck⟩ := raiseIf_bind_eq_ok.mp hcheck
  obtain ⟨hknown, hcheck⟩ := raiseIf_bind_eq_ok.mp hcheck
  obtain ⟨hnonempty, hcheck⟩ := raiseIf_bind_eq_ok.mp hcheck
  obtain ⟨hsorted, hcheck⟩ := raiseIf_bind_eq_ok.mp hcheck
  have hnodup := not_not.mp (raiseIf_eq_ok.mp hcheck)
  refine raiseIf_bind_eq_ok.mpr ⟨hknown, raiseIf_bind_eq_ok.mpr ⟨hnonempty, raiseIf_eq_ok.mpr ?_⟩⟩
  rw [hnodup.dedup]
  exact hsorted

/-- The binding of an observed-date artifact. -/
def bindingOf (evidence : CheckedEvidence) : CheckedBinding := ⟨_, binding_check evidence⟩

omit hresolved hgraph hids in
theorem known_of_cutoff (h : evidence.1.cutoff ≤ cutoff) : evidence.1.sourceValidatedAt ≤ cutoff := by
  obtain ⟨evidence, hcheck⟩ := evidence
  unfold ObservedMarketDateArtifact.check at hcheck
  obtain ⟨-, hcheck⟩ := raiseIf_bind_eq_ok.mp hcheck
  obtain ⟨hknown, -⟩ := raiseIf_bind_eq_ok.mp hcheck
  exact (not_lt.mp hknown).trans h

theorem bindEvidence_eq_ok {binding : CheckedBinding} : bindEvidence cutoff (resolved.map (·.1)) evidence = .ok binding ↔
    (evidence.1.sourceValidatedAt ≤ cutoff ∧ ∀ day ∈ evidence.1.observedDates, (first ≤ day ∧ day ≤ last) ∧
      ∃ source, Decides eventId events day source ∧ (stateFor day source.event.1).1.isTrading) ∧
      binding = bindingOf evidence := by
  have hscope : ¬(evidence.1.exchange, evidence.1.segment) ≠ ("NSE", "CM") := by
    obtain ⟨evidence, hcheck⟩ := evidence
    unfold ObservedMarketDateArtifact.check at hcheck
    obtain ⟨hscope, -⟩ := raiseIf_bind_eq_ok.mp hcheck
    rw [not_or, not_not, not_not] at hscope
    rw [not_not]
    exact Prod.ext hscope.1 hscope.2
  have hdates : evidence.1.observedDates.forM (checkObserved (resolved.map (·.1))) = .ok () ↔
      ∀ day ∈ evidence.1.observedDates, (first ≤ day ∧ day ≤ last) ∧
        ∃ source, Decides eventId events day source ∧ (stateFor day source.event.1).1.isTrading := by
    rw [forM_eq_ok]
    exact forall₂_congr fun day _ => checkObserved_eq_ok hresolved hgraph hids
  unfold bindEvidence
  constructor
  · intro h
    obtain ⟨-, h⟩ := raiseIf_bind_eq_ok.mp h
    obtain ⟨hknown, h⟩ := raiseIf_bind_eq_ok.mp h
    obtain ⟨_, hall, h⟩ := bind_eq_ok.mp h
    exact ⟨⟨not_lt.mp hknown, hdates.mp hall⟩, Subtype.ext (Checked.build_eq_ok.mp h).symm⟩
  · rintro ⟨⟨hknown, hall⟩, rfl⟩
    refine raiseIf_bind_eq_ok.mpr ⟨hscope, raiseIf_bind_eq_ok.mpr ⟨not_lt.mpr hknown, ?_⟩⟩
    exact bind_eq_ok.mpr ⟨(), hdates.mpr hall, Checked.build_of_ok _⟩

omit hresolved hgraph hids in
/-- A map whose step gives a known result where a condition holds, and fails elsewhere. -/
theorem mapM_eq_ok_map {α β : Type} {step : α → Except String β} {P : α → Prop} {make : α → β} {values : List α}
    {results : List β} (h : ∀ a b, step a = .ok b ↔ P a ∧ b = make a) :
    values.mapM step = .ok results ↔ (∀ a ∈ values, P a) ∧ results = values.map make := by
  rw [mapM_eq_ok]
  constructor
  · intro hall
    induction hall with
    | nil => exact ⟨fun _ hmem => absurd hmem List.not_mem_nil, rfl⟩
    | cons hfirst _ ih =>
      obtain ⟨hP, rfl⟩ := (h _ _).mp hfirst
      obtain ⟨hrest, rfl⟩ := ih
      exact ⟨List.forall_mem_cons.mpr ⟨hP, hrest⟩, rfl⟩
  · rintro ⟨hall, rfl⟩
    rw [List.forall₂_map_right_iff]
    exact List.forall₂_same.mpr fun a ha => (h a _).mpr ⟨hall a ha, rfl⟩

end Resolved

section Contract

variable {eventId : CalendarEvent → String} {verified : StoredCalendarSourceArtifact → Bool}
variable {sources : List StoredCalendarSourceArtifact} {first last : SessionDate} {cutoff : Instant}
variable {resolved : List (CheckedDay × CheckedResolution)} {bindings : List CheckedBinding} {snapshot : CheckedSnapshot}
variable (hids : ((collectEvents sources).map (·.id eventId)).Nodup)
variable (hgraph : WellFormedGraph eventId (collectEvents sources))
variable (hresolved : (coveredDates first last).mapM (resolveDay eventId (collectEvents sources)) = .ok resolved)
include hids hgraph hresolved

/-- What a resolution traces its events to is what the manifests say. -/
theorem lineage_eq_ok {resolution : CheckedResolution} (h : resolution ∈ resolved.map (·.2)) :
    checkLineage eventId sources resolution.1 = .ok () := by
  obtain ⟨result, hresult, rfl⟩ := List.mem_map.mp h
  obtain ⟨day, -, hok⟩ := (mem_resolved hresolved).mp hresult
  obtain ⟨base, hbase, -, hresolution⟩ := (resolveDay_eq_ok hgraph hids).mp hok
  obtain ⟨-, hchain⟩ := hgraph.forms_chain hids hbase
  have hsame : ∀ id ∈ result.2.1.appliedEventIds,
      eventToManifest eventId sources id = (eventById eventId (collectEvents sources) id).map (·.artifact) := by
    intro id hid
    rw [hresolution] at hid
    obtain ⟨source, hsource, rfl, -⟩ := (mem_appliedEventIds hchain).mp hid
    rw [eventToManifest_of_mem hids hsource, eventById_of_mem hids hsource]
    rfl
  have happlied : result.2.1.appliedEventIds.filterMap (eventToManifest eventId sources) =
      (result.2.1.appliedEventIds.filterMap (eventById eventId (collectEvents sources))).map (·.artifact) := by
    rw [List.filterMap_congr hsame, List.map_filterMap]
  unfold checkLineage
  refine raiseIf_bind_eq_ok.mpr ⟨?_, raiseIf_eq_ok.mpr ?_⟩
  · rintro ⟨id, hid, hnone⟩
    rw [hresolution] at hid
    obtain ⟨source, hsource, rfl, -⟩ := (mem_appliedEventIds hchain).mp hid
    rw [eventToManifest_of_mem hids hsource] at hnone
    cases hnone
  · rw [happlied, hresolution, not_or, not_not, not_not]
    exact ⟨rfl, rfl⟩

/-- Every source is used on some date exactly when the artifacts of the resolutions are those of the sources. -/
theorem used_iff (hartifacts : (sources.map (·.artifactId)).Nodup) :
    sortedSet ((resolved.map (·.2)).flatMap (·.1.sourceArtifactIds)) = sortedSet (sources.map (·.artifactId)) ↔
      ∀ source ∈ sources, ∃ event ∈ source.events, ∃ day, (first ≤ day ∧ day ≤ last) ∧ AppliesOn day event.1 := by
  have hused : ∀ id, id ∈ (resolved.map (·.2)).flatMap (·.1.sourceArtifactIds) ↔ ∃ source ∈ collectEvents sources,
      (∃ day, (first ≤ day ∧ day ≤ last) ∧ AppliesOn day source.event.1) ∧ source.artifact.artifactId = id := by
    intro id
    rw [List.mem_flatMap]
    constructor
    · rintro ⟨resolution, hresolution, hid⟩
      obtain ⟨result, hresult, rfl⟩ := List.mem_map.mp hresolution
      obtain ⟨day, hcovered, hok⟩ := (mem_resolved hresolved).mp hresult
      obtain ⟨source, hsource, happlies, heq⟩ := ((resolveDay_describes hgraph hids hok).artifacts id).mp hid
      exact ⟨source, hsource, ⟨day, hcovered, happlies⟩, heq⟩
    · rintro ⟨source, hsource, ⟨day, hcovered, happlies⟩, heq⟩
      obtain ⟨result, hentry, hok⟩ := getElem?_resolved hresolved hcovered.1 hcovered.2
      exact ⟨result.2, List.mem_map_of_mem (List.mem_of_getElem? hentry),
        ((resolveDay_describes hgraph hids hok).artifacts id).mpr ⟨source, hsource, happlies, heq⟩⟩
  rw [sortedSet_eq_iff]
  constructor
  · intro h source hsource
    obtain ⟨other, hother, ⟨day, hcovered, happlies⟩, heq⟩ :=
      (hused _).mp ((h source.artifactId).mpr (List.mem_map_of_mem hsource))
    obtain ⟨hmem, hevent⟩ := mem_collectEvents.mp hother
    have hsame : other.artifact = source := List.inj_on_of_nodup_map hartifacts hmem hsource heq
    exact ⟨other.event, hsame ▸ hevent, day, hcovered, happlies⟩
  · intro h id
    rw [hused id, List.mem_map]
    constructor
    · rintro ⟨source, hsource, -, heq⟩
      exact ⟨source.artifact, (mem_collectEvents.mp hsource).1, heq⟩
    · rintro ⟨source, hsource, heq⟩
      obtain ⟨event, hevent, day, hcovered, happlies⟩ := h source hsource
      exact ⟨⟨event, source⟩, mem_collectEvents.mpr ⟨hsource, hevent⟩, ⟨day, hcovered, happlies⟩, heq⟩

variable (hverified : ∀ source ∈ sources, verified source ∧ source.validatedAt ≤ cutoff) (hcoverage : first ≤ last)
include hverified

/-- Nothing that a day rests on was validated after the cutoff. -/
theorem known_by_cutoff {result : CheckedDay × CheckedResolution} (h : result ∈ resolved) :
    result.1.1.knowledgeTime ≤ cutoff := by
  obtain ⟨day, -, hok⟩ := (mem_resolved hresolved).mp h
  obtain ⟨source, hsource, -, heq⟩ := (resolveDay_describes hgraph hids hok).known.1
  rw [← heq]
  exact (hverified _ (mem_collectEvents.mp hsource).1).2

include hcoverage

theorem snapshot_check : CalendarSnapshot.check ⟨cutoff, first, last, resolved.map (·.1)⟩ = .ok () := by
  unfold CalendarSnapshot.check
  refine raiseIf_bind_eq_ok.mpr ⟨not_lt.mpr hcoverage, ?_⟩
  refine raiseIf_bind_eq_ok.mpr ⟨?_, ?_⟩
  · rw [List.length_map, length_resolved hresolved, not_not]
  refine forM_eq_ok.mpr ?_
  rintro ⟨value, expected⟩ hmem
  have hdays := days_resolved hresolved hgraph hids
  rw [← hdays, List.zip_map'] at hmem
  obtain ⟨result, hresult, heq⟩ := List.mem_map.mp hmem
  obtain ⟨rfl, rfl⟩ := Prod.mk.inj heq
  refine raiseIf_bind_eq_ok.mpr ⟨not_not.mpr rfl, raiseIf_eq_ok.mpr (not_lt.mpr ?_)⟩
  exact known_by_cutoff hids hgraph hresolved hverified hresult

/-- What is left for the final contract to reject. -/
theorem contract_eq_ok (hnonempty : sources ≠ []) (hsorted : sources.Pairwise fun a b => manifestSortKey a ≤ manifestSortKey b)
    (hartifacts : (sources.map (·.artifactId)).Nodup) (hbindings : (bindings.map (·.1.artifactId)).Nodup)
    (hknown : ∀ binding ∈ bindings, binding.1.knowledgeTime ≤ cutoff)
    (hsnapshot : snapshot.1 = ⟨cutoff, first, last, resolved.map (·.1)⟩) :
    CollectionCalendarMaterialization.check eventId
        { cutoff := cutoff
          coverageStart := first
          coverageEnd := last
          sourceManifests := sources
          dayResolutions := resolved.map (·.2)
          observedEvidenceBindings := sortOn (·.1.artifactId) bindings
          calendarSnapshot := snapshot } = .ok () ↔
      (sources.map (·.manifestId)).Nodup ∧ (∀ binding ∈ bindings, binding.1.cutoff ≤ cutoff) ∧
        ∀ source ∈ sources, ∃ event ∈ source.events, ∃ day, (first ≤ day ∧ day ≤ last) ∧ AppliesOn day event.1 := by
  have hperm := perm_sortOn (fun binding : CheckedBinding => binding.1.artifactId) bindings
  have hcutoffs : ((sortOn (·.1.artifactId) bindings).forM fun binding => do
      raiseIf (cutoff < binding.1.knowledgeTime) "observed evidence was unknown at the cutoff"
      raiseIf (cutoff < binding.1.cutoff) "observed evidence cutoff follows the materialization cutoff") = .ok () ↔
      ∀ binding ∈ bindings, binding.1.cutoff ≤ cutoff := by
    rw [forM_eq_ok]
    simp only [raiseIf_bind_eq_ok, raiseIf_eq_ok, not_lt, hperm.mem_iff]
    exact forall₂_congr fun binding hmem => and_iff_right (hknown binding hmem)
  unfold CollectionCalendarMaterialization.check
  dsimp only
  constructor
  · intro h
    obtain ⟨-, h⟩ := raiseIf_bind_eq_ok.mp h
    obtain ⟨-, h⟩ := raiseIf_bind_eq_ok.mp h
    obtain ⟨-, h⟩ := raiseIf_bind_eq_ok.mp h
    obtain ⟨-, h⟩ := raiseIf_bind_eq_ok.mp h
    obtain ⟨hmanifests, h⟩ := raiseIf_bind_eq_ok.mp h
    obtain ⟨-, h⟩ := raiseIf_bind_eq_ok.mp h
    obtain ⟨-, h⟩ := raiseIf_bind_eq_ok.mp h
    obtain ⟨-, h⟩ := raiseIf_bind_eq_ok.mp h
    obtain ⟨-, h⟩ := raiseIf_bind_eq_ok.mp h
    obtain ⟨-, h⟩ := raiseIf_bind_eq_ok.mp h
    obtain ⟨_, hcutoff, h⟩ := bind_eq_ok.mp h
    obtain ⟨-, h⟩ := raiseIf_bind_eq_ok.mp h
    obtain ⟨-, h⟩ := raiseIf_bind_eq_ok.mp h
    obtain ⟨-, h⟩ := raiseIf_bind_eq_ok.mp h
    obtain ⟨_, -, h⟩ := bind_eq_ok.mp h
    exact ⟨not_not.mp hmanifests, hcutoffs.mp hcutoff,
      (used_iff hids hgraph hresolved hartifacts).mp (not_not.mp (raiseIf_eq_ok.mp h))⟩
  · rintro ⟨hmanifests, hcutoff, hused⟩
    refine raiseIf_bind_eq_ok.mpr ⟨not_lt.mpr hcoverage, raiseIf_bind_eq_ok.mpr ⟨hnonempty, ?_⟩⟩
    refine raiseIf_bind_eq_ok.mpr ⟨not_not.mpr hsorted, raiseIf_bind_eq_ok.mpr ⟨not_not.mpr hartifacts, ?_⟩⟩
    refine raiseIf_bind_eq_ok.mpr ⟨not_not.mpr hmanifests, raiseIf_bind_eq_ok.mpr ⟨?_, ?_⟩⟩
    · rintro ⟨source, hsource, hlate⟩
      exact absurd (hverified source hsource).2 (not_le.mpr hlate)
    refine raiseIf_bind_eq_ok.mpr ⟨?_, raiseIf_bind_eq_ok.mpr ⟨?_, ?_⟩⟩
    · rw [List.length_map, length_resolved hresolved, not_not]
    · rw [List.map_map, not_not]
      exact resolution_days hresolved hgraph hids
    refine raiseIf_bind_eq_ok.mpr ⟨not_not.mpr (sortOn_pairwise _ _), raiseIf_bind_eq_ok.mpr ⟨not_not.mpr ?_, ?_⟩⟩
    · exact (hperm.map _).nodup_iff.mpr hbindings
    refine bind_eq_ok.mpr ⟨(), hcutoffs.mpr hcutoff, raiseIf_bind_eq_ok.mpr ⟨?_, raiseIf_bind_eq_ok.mpr ⟨?_, ?_⟩⟩⟩
    · rw [hsnapshot, not_not]
    · rw [hsnapshot, List.map_map, List.map_map, not_not]
      exact (days_resolved hresolved hgraph hids).trans (resolution_days hresolved hgraph hids).symm
    refine raiseIf_bind_eq_ok.mpr ⟨not_not.mpr (flatMap_eventIds ▸ hids), bind_eq_ok.mpr ⟨(), ?_, ?_⟩⟩
    · exact forM_eq_ok.mpr fun resolution hmem => lineage_eq_ok hids hgraph hresolved hmem
    · exact raiseIf_eq_ok.mpr (not_not.mpr ((used_iff hids hgraph hresolved hartifacts).mpr hused))

end Contract

section Materialize

variable {eventId : CalendarEvent → String} {verified : StoredCalendarSourceArtifact → Bool}
variable {sources : List StoredCalendarSourceArtifact} {coverageStart coverageEnd day : SessionDate} {cutoff : Instant}
variable {observedDateArtifacts : List CheckedEvidence} {result : CheckedMaterialization eventId}

/-- The sources in the order in which they are read. -/
def canonical (sources : List StoredCalendarSourceArtifact) : List StoredCalendarSourceArtifact := sortOn manifestSortKey sources

theorem canonical_perm : (canonical sources).Perm sources := perm_sortOn _ _

theorem checkSource_eq_ok {source : StoredCalendarSourceArtifact} :
    checkSource verified cutoff source = .ok () ↔ verified source ∧ source.validatedAt ≤ cutoff := by
  unfold checkSource
  rw [raiseIf_bind_eq_ok, raiseIf_eq_ok, not_not, not_lt]

/-- A calendar that was materialized meets the conditions, and its days are the resolved ones. -/
theorem materializable_of_ok (h : materializeCollectionCalendar eventId verified sources coverageStart coverageEnd cutoff
    observedDateArtifacts = .ok result) :
    Materializable eventId verified (canonical sources) coverageStart coverageEnd cutoff observedDateArtifacts ∧
      ∃ resolved, (coveredDates coverageStart coverageEnd).mapM (resolveDay eventId (collectEvents (canonical sources))) = .ok resolved ∧
        result.1.calendarSnapshot.1 = ⟨cutoff, coverageStart, coverageEnd, resolved.map (·.1)⟩ ∧
          result.1.dayResolutions = resolved.map (·.2) := by
  unfold materializeCollectionCalendar at h
  obtain ⟨hcoverage, h⟩ := raiseIf_bind_eq_ok.mp h
  obtain ⟨hnonempty, h⟩ := raiseIf_bind_eq_ok.mp h
  obtain ⟨hartifacts, h⟩ := raiseIf_bind_eq_ok.mp h
  obtain ⟨_, hsources, h⟩ := bind_eq_ok.mp h
  obtain ⟨hids, h⟩ := raiseIf_bind_eq_ok.mp h
  obtain ⟨_, hvalidated, h⟩ := bind_eq_ok.mp h
  obtain ⟨resolved, hresolved, h⟩ := bind_eq_ok.mp h
  obtain ⟨hevidence, h⟩ := raiseIf_bind_eq_ok.mp h
  obtain ⟨bindings, hbindings, h⟩ := bind_eq_ok.mp h
  obtain ⟨snapshot, hsnapshot, h⟩ := bind_eq_ok.mp h
  have hvalue := Checked.build_eq_ok.mp (mapError_eq_ok.mp h)
  have hcheck := result.2
  rw [← hvalue] at hcheck
  replace hcoverage := not_lt.mp hcoverage
  replace hids := not_not.mp hids
  replace hartifacts := not_not.mp hartifacts
  have hgraph := (validateEventGraph_eq_ok hids).mp hvalidated
  have hverified : ∀ source ∈ canonical sources, verified source ∧ source.validatedAt ≤ cutoff :=
    fun source hsource => checkSource_eq_ok.mp (forM_eq_ok.mp hsources source hsource)
  obtain ⟨hobserved, rfl⟩ := (mapM_eq_ok_map fun _ _ => bindEvidence_eq_ok hresolved hgraph hids).mp hbindings
  have hcontract := (contract_eq_ok hids hgraph hresolved hverified hcoverage ?_ (sortOn_pairwise _ _) hartifacts ?_ ?_
    (Checked.build_eq_ok.mp hsnapshot).symm).mp hcheck
  · obtain ⟨hmanifests, hcutoffs, hused⟩ := hcontract
    have hdays := fun day (hfirst : coverageStart ≤ day) (hlast : day ≤ coverageEnd) =>
      (exists_resolveDay_iff hgraph hids).mp ((getElem?_resolved hresolved hfirst hlast).imp fun _ h => h.2)
    refine ⟨⟨hcoverage, ?_, hartifacts, hmanifests, hverified, hids, hgraph, fun day hfirst hlast => (hdays day hfirst hlast).1,
      fun day hfirst hlast => (hdays day hfirst hlast).2, not_not.mp hevidence, ?_, hused⟩, resolved, hresolved, ?_, ?_⟩
    · intro hnil
      have hperm := @canonical_perm sources
      rw [hnil] at hperm
      exact hnonempty hperm.nil_eq.symm
    · intro evidence hmem
      exact ⟨hcutoffs _ (List.mem_map_of_mem hmem), (hobserved evidence hmem).2⟩
    · rw [← hvalue]
      exact (Checked.build_eq_ok.mp hsnapshot).symm
    · rw [← hvalue]
  · intro hnil
    have hperm := @canonical_perm sources
    rw [show canonical sources = [] from hnil] at hperm
    exact hnonempty hperm.nil_eq.symm
  · rw [List.map_map]
    exact not_not.mp hevidence
  · intro binding hmem
    obtain ⟨evidence, hevidence, rfl⟩ := List.mem_map.mp hmem
    exact (hobserved evidence hevidence).1

/-- A calendar is materialized under its conditions. -/
theorem ok_of_materializable (h : Materializable eventId verified (canonical sources) coverageStart coverageEnd cutoff
    observedDateArtifacts) :
    ∃ result, materializeCollectionCalendar eventId verified sources coverageStart coverageEnd cutoff observedDateArtifacts =
      .ok result := by
  have hids := h.events
  have hgraph := h.graph
  have hstep : ∀ day ∈ coveredDates coverageStart coverageEnd,
      ∃ result, resolveDay eventId (collectEvents (canonical sources)) day = .ok result ∧ True := by
    intro day hday
    obtain ⟨hfirst, hlast⟩ := mem_coveredDates.mp hday
    obtain ⟨result, hresult⟩ := (exists_resolveDay_iff hgraph hids).mpr ⟨h.bases day hfirst hlast, h.apart day hfirst hlast⟩
    exact ⟨result, hresult, trivial⟩
  obtain ⟨resolved, hresolved, -⟩ := mapM_exists hstep
  have hbindings : observedDateArtifacts.mapM (bindEvidence cutoff (resolved.map (·.1))) =
      .ok (observedDateArtifacts.map bindingOf) := by
    refine (mapM_eq_ok_map fun _ _ => bindEvidence_eq_ok hresolved hgraph hids).mpr ⟨fun evidence hmem => ?_, rfl⟩
    obtain ⟨hcutoff, hdays⟩ := h.observed evidence hmem
    exact ⟨known_of_cutoff hcutoff, hdays⟩
  have hsnapshot := snapshot_check hids hgraph hresolved h.verified h.coverage
  have hartifacts : ((observedDateArtifacts.map bindingOf).map (·.1.artifactId)).Nodup := by
    rw [List.map_map]
    exact h.evidence
  have hknown : ∀ binding ∈ observedDateArtifacts.map bindingOf, binding.1.knowledgeTime ≤ cutoff := by
    intro binding hmem
    obtain ⟨evidence, hevidence, rfl⟩ := List.mem_map.mp hmem
    exact known_of_cutoff (h.observed evidence hevidence).1
  have hcutoffs : ∀ binding ∈ observedDateArtifacts.map bindingOf, binding.1.cutoff ≤ cutoff := by
    intro binding hmem
    obtain ⟨evidence, hevidence, rfl⟩ := List.mem_map.mp hmem
    exact (h.observed evidence hevidence).1
  have hcontract : CollectionCalendarMaterialization.check eventId
      { cutoff := cutoff
        coverageStart := coverageStart
        coverageEnd := coverageEnd
        sourceManifests := canonical sources
        dayResolutions := resolved.map (·.2)
        observedEvidenceBindings := sortOn (·.1.artifactId) (observedDateArtifacts.map bindingOf)
        calendarSnapshot := ⟨_, hsnapshot⟩ } = .ok () :=
    (contract_eq_ok hids hgraph hresolved h.verified h.coverage h.nonempty (sortOn_pairwise _ _) h.artifacts hartifacts
      hknown rfl).mpr ⟨h.manifests, hcutoffs, h.used⟩
  refine ⟨⟨_, hcontract⟩, ?_⟩
  unfold materializeCollectionCalendar
  refine raiseIf_bind_eq_ok.mpr ⟨not_lt.mpr h.coverage, raiseIf_bind_eq_ok.mpr ⟨?_, ?_⟩⟩
  · rintro rfl
    exact h.nonempty rfl
  refine raiseIf_bind_eq_ok.mpr ⟨not_not.mpr h.artifacts, bind_eq_ok.mpr ⟨(), ?_, ?_⟩⟩
  · exact forM_eq_ok.mpr fun source hsource => checkSource_eq_ok.mpr (h.verified source hsource)
  refine raiseIf_bind_eq_ok.mpr ⟨not_not.mpr hids, bind_eq_ok.mpr ⟨(), (validateEventGraph_eq_ok hids).mpr hgraph, ?_⟩⟩
  refine bind_eq_ok.mpr ⟨resolved, hresolved, raiseIf_bind_eq_ok.mpr ⟨not_not.mpr h.evidence, ?_⟩⟩
  refine bind_eq_ok.mpr ⟨_, hbindings, bind_eq_ok.mpr ⟨⟨_, hsnapshot⟩, Checked.build_of_ok _, ?_⟩⟩
  exact mapError_eq_ok.mpr (Checked.build_of_ok _)

theorem StateChain.perm_events {events events' chain : List EventSource} {base : EventSource}
    (h : StateChain eventId events day base chain) (hperm : events.Perm events') : StateChain eventId events' day base chain where
  base_applies := h.base_applies
  overrides := h.overrides
  perm := h.perm.trans (hperm.filter _)
  linked := h.linked

theorem Describes.perm_events {events events' : List EventSource} {value : CalendarDay} {resolution : CalendarDayResolution}
    (h : Describes eventId events day value resolution) (hperm : events.Perm events') :
    Describes eventId events' day value resolution := by
  have hmem : ∀ source, source ∈ events ↔ source ∈ events' := fun _ => hperm.mem_iff
  obtain ⟨base, chain, hchain, hids⟩ := h.chain
  obtain ⟨source, hdecides, hkind, declared, hdeclared, hrest⟩ := h.decided
  refine ⟨h.day_eq, h.resolution_day, ⟨base, chain, hchain.perm_events hperm, hids⟩, ?_, h.activities_sorted, ?_, ?_, ?_, ?_⟩
  · exact ⟨source, hdecides.congr hmem, hkind, declared, hdeclared.trans (dayWindows_perm hperm), hrest⟩
  · simpa only [hmem] using h.activities
  · simpa only [hmem] using h.applied
  · simpa only [hmem] using h.artifacts
  · simpa only [hmem] using h.known

/-- The entries of a covered date, and what they say. -/
theorem entries_of_ok (h : materializeCollectionCalendar eventId verified sources coverageStart coverageEnd cutoff
    observedDateArtifacts = .ok result) (hfirst : coverageStart ≤ day) (hlast : day ≤ coverageEnd) :
    ∃ value resolution, result.1.calendarSnapshot.1.day day = .ok value ∧
      result.1.dayResolutions[(day - coverageStart).toNat]? = some resolution ∧
        Describes eventId (collectEvents sources) day value.1 resolution.1 ∧ value.1.knowledgeTime ≤ cutoff := by
  obtain ⟨hconditions, resolved, hresolved, hsnapshot, hresolutions⟩ := materializable_of_ok h
  obtain ⟨entry, hentry, hok⟩ := getElem?_resolved hresolved hfirst hlast
  have hdescribes := resolveDay_describes hconditions.graph hconditions.events hok
  have hknown := known_by_cutoff hconditions.events hconditions.graph hresolved hconditions.verified (List.mem_of_getElem? hentry)
  refine ⟨entry.1, entry.2, ?_, ?_, hdescribes.perm_events (collectEvents_perm canonical_perm), hknown⟩
  · unfold CalendarSnapshot.day
    rw [hsnapshot]
    refine raiseIf_bind_eq_ok.mpr ⟨?_, ?_⟩
    · rw [not_or, not_lt, not_lt]
      exact ⟨hfirst, hlast⟩
    · rw [List.getElem?_map, hentry]
      rfl
  · rw [hresolutions, List.getElem?_map, hentry]
    rfl

end Materialize

section Agreement

variable {eventId : CalendarEvent → String} {events events' : List EventSource} {day : SessionDate}
variable {value value' : CalendarDay} {resolution resolution' : CalendarDayResolution}

/-- Two lists of events have the same say about a date. -/
def AgreeOn (day : SessionDate) (events events' : List EventSource) : Prop :=
  ∀ event : CheckedEvent, AppliesOn day event.1 → (event ∈ events.map (·.event) ↔ event ∈ events'.map (·.event))

theorem nodup_events (hids : (events.map (·.id eventId)).Nodup) : (events.map (·.event)).Nodup := by
  refine List.Nodup.of_map (fun event : CheckedEvent => eventId event.1) ?_
  rw [List.map_map]
  exact hids

/-- The activities of a date are the same events. -/
theorem activities_perm (h : AgreeOn day events events') (hids : (events.map (·.id eventId)).Nodup)
    (hids' : (events'.map (·.id eventId)).Nodup) :
    ((events.filter fun source => isActivity source.event.1 && source.event.1.effectiveDate = some day).map (·.event)).Perm
      ((events'.filter fun source => isActivity source.event.1 && source.event.1.effectiveDate = some day).map (·.event)) := by
  have hfilter : ∀ list : List EventSource,
      (list.filter fun source => isActivity source.event.1 && source.event.1.effectiveDate = some day).map (·.event) =
        (list.map (·.event)).filter fun event => isActivity event.1 && event.1.effectiveDate = some day := by
    intro list
    rw [List.filter_map]
    rfl
  rw [hfilter, hfilter]
  refine (List.perm_ext_iff_of_nodup ((nodup_events hids).filter _) ((nodup_events hids').filter _)).mpr fun event => ?_
  rw [List.mem_filter, List.mem_filter]
  refine and_congr_left fun hactivity => h event (.inr ?_)
  simpa using hactivity

/-- Windows in order are fixed by which they are. -/
theorem windows_eq {declared declared' : List DeclaredSessionWindow} (hperm : declared.Perm declared')
    (horder : declared.Pairwise fun a b => a.closes ≤ b.opens) (horder' : declared'.Pairwise fun a b => a.closes ≤ b.opens) :
    declared = declared' := by
  refine hperm.eq_of_pairwise (fun a b _ _ hab hba => ?_) horder horder'
  have hlt : a.closes < b.closes := hab.trans_lt b.opens_lt_closes
  have hlt' : b.closes < a.closes := hba.trans_lt a.opens_lt_closes
  exact absurd hlt (lt_asymm hlt')

/-- What is said about a date depends only on the events that have a say about it. -/
theorem Describes.agree (h : Describes eventId events day value resolution)
    (h' : Describes eventId events' day value' resolution') (hids : (events.map (·.id eventId)).Nodup)
    (hids' : (events'.map (·.id eventId)).Nodup) (hsame : AgreeOn day events events') :
    value.kind = value'.kind ∧ value.sessionWindows = value'.sessionWindows ∧
      resolution.stateChainEventIds = resolution'.stateChainEventIds ∧
        resolution.nonExecutableEventIds = resolution'.nonExecutableEventIds := by
  obtain ⟨base, chain, hchain, hchainIds⟩ := h.chain
  obtain ⟨base', chain', hchain', hchainIds'⟩ := h'.chain
  obtain ⟨source, hdecides, hkind, declared, hdeclared, horder, hwindows⟩ := h.decided
  obtain ⟨source', hdecides', hkind', declared', hdeclared', horder', hwindows'⟩ := h'.decided
  have hunique := hchain.unique hchain' hids hids' fun event happlies => hsame event (.inl happlies)
  have hdecider : source.event = source'.event := by
    have hlast : ∀ {base : EventSource} {chain : List EventSource},
        ((base :: chain).getLast (List.cons_ne_nil _ _)).event =
          ((base :: chain).map (·.event)).getLast (by simp) := fun {base chain} => (List.getLast_map _).symm
    rw [(hchain.decides_iff hids).mp hdecides, (hchain'.decides_iff hids').mp hdecides', hlast, hlast]
    congr 1
  have hactivities := activities_perm hsame hids hids'
  have hdayWindows : (dayWindows events day source).Perm (dayWindows events' day source') := by
    unfold dayWindows
    rw [hdecider]
    split
    · refine List.Perm.append_left _ ?_
      have hflat := hactivities.flatMap_right fun event : CheckedEvent => event.1.windows
      rwa [List.flatMap_map, List.flatMap_map] at hflat
    · exact .nil
  refine ⟨?_, ?_, ?_, ?_⟩
  · rw [hkind, hkind', hdecider]
  · rw [hwindows, hwindows', windows_eq (hdeclared.trans (hdayWindows.trans hdeclared'.symm)) horder horder']
  · have hmap : ∀ list : List EventSource,
        list.map (·.id eventId) = (list.map (·.event)).map fun event : CheckedEvent => eventId event.1 := by
      intro list
      rw [List.map_map]
      rfl
    rw [hchainIds, hchainIds', hmap, hmap, hunique]
  · have hmem : ∀ id, id ∈ resolution.nonExecutableEventIds ↔ id ∈ resolution'.nonExecutableEventIds := by
      intro id
      rw [h.activities, h'.activities]
      have hin := fun event : CheckedEvent => hactivities.mem_iff (a := event)
      simp only [List.mem_map, List.mem_filter, Bool.and_eq_true, decide_eq_true_eq] at hin
      constructor
      · rintro ⟨source, hsource, hactivity, rfl⟩
        obtain ⟨other, ⟨hother, hactivity'⟩, heq⟩ := (hin source.event).mp ⟨source, ⟨hsource, hactivity⟩, rfl⟩
        exact ⟨other, hother, hactivity', congrArg (fun event : CheckedEvent => eventId event.1) heq⟩
      · rintro ⟨source, hsource, hactivity, rfl⟩
        obtain ⟨other, ⟨hother, hactivity'⟩, heq⟩ := (hin source.event).mpr ⟨source, ⟨hsource, hactivity⟩, rfl⟩
        exact ⟨other, hother, hactivity', congrArg (fun event : CheckedEvent => eventId event.1) heq⟩
    have hperm := (List.perm_ext_iff_of_nodup (h.activities_sorted.imp ne_of_lt) (h'.activities_sorted.imp ne_of_lt)).mpr hmem
    exact hperm.eq_of_pairwise (fun a b _ _ hab hba => absurd hab (lt_asymm hba)) h.activities_sorted h'.activities_sorted

end Agreement

section Sample

/-- A mock session before the market opens on a Tuesday. -/
def mockSession : CalendarEvent where
  eventType := .nonExecutableActivity
  sourceSha256 := "0"
  claimedDocumentId := "NSE-1"
  sourceLocator := ⟨none, "circular", none⟩
  reason := "mock"
  effectiveDate := some 5
  effectiveFrom := none
  effectiveToExclusive := none
  weekdays := []
  dayKind := none
  windows := [⟨28800, 32400, .mockTest, by decide +kernel⟩]
  supersedesEventIds := ["base"]

def weekSchedule : CalendarEvent :=
  { mockSession with
    eventType := .baseWeeklySchedule
    reason := "base"
    effectiveDate := none
    effectiveFrom := some 0
    effectiveToExclusive := some 1000
    weekdays := [.mon, .tue, .wed, .thu, .fri]
    windows := [⟨33300, 55800, .liveContinuous, by decide +kernel⟩]
    supersedesEventIds := [] }

def mondayHoliday : CalendarEvent :=
  { mockSession with
    eventType := .dateClosed
    reason := "holiday"
    effectiveDate := some 4
    dayKind := some .holiday
    windows := []
    supersedesEventIds := ["base"] }

/-- An evening session on the holiday. -/
def eveningSession : CalendarEvent :=
  { mockSession with
    eventType := .dateSessionReplaced
    reason := "evening"
    effectiveDate := some 4
    dayKind := some .special
    windows := [⟨61200, 64800, .liveContinuous, by decide +kernel⟩]
    supersedesEventIds := ["holiday"] }

theorem mockSession_check : mockSession.check = .ok () := ok_of_toOption (by decide +kernel)

theorem weekSchedule_check : weekSchedule.check = .ok () := ok_of_toOption (by decide +kernel)

theorem mondayHoliday_check : mondayHoliday.check = .ok () := ok_of_toOption (by decide +kernel)

theorem eveningSession_check : eveningSession.check = .ok () := ok_of_toOption (by decide +kernel)

def scheduleSource : StoredCalendarSourceArtifact := ⟨"a", "m", 10, [⟨weekSchedule, weekSchedule_check⟩]⟩

def circularSource : StoredCalendarSourceArtifact :=
  ⟨"b", "n", 20, [⟨eveningSession, eveningSession_check⟩, ⟨mondayHoliday, mondayHoliday_check⟩, ⟨mockSession, mockSession_check⟩]⟩

/-- The same events for the holiday in one document. -/
def combinedSource : StoredCalendarSourceArtifact :=
  ⟨"c", "p", 30, [⟨weekSchedule, weekSchedule_check⟩, ⟨eveningSession, eveningSession_check⟩, ⟨mondayHoliday, mondayHoliday_check⟩]⟩

theorem week_materializes : ∃ result, materializeCollectionCalendar (·.reason) (fun _ => true) [circularSource, scheduleSource]
    3 5 100 [] = .ok result := by
  have hsome : (materializeCollectionCalendar (·.reason) (fun _ => true) [circularSource, scheduleSource] 3 5 100 []).toOption.any
      (fun _ => true) = true := by decide +kernel
  obtain ⟨result, hresult, -⟩ := exists_ok_of_any hsome
  exact ⟨result, hresult⟩

theorem holiday_materializes : ∃ result, materializeCollectionCalendar (·.reason) (fun _ => true) [combinedSource] 4 4 50 [] =
    .ok result := by
  have hsome : (materializeCollectionCalendar (·.reason) (fun _ => true) [combinedSource] 4 4 50 []).toOption.any
      (fun _ => true) = true := by decide +kernel
  obtain ⟨result, hresult, -⟩ := exists_ok_of_any hsome
  exact ⟨result, hresult⟩

end Sample

section Results

variable {eventId : CalendarEvent → String} {verified verified' : StoredCalendarSourceArtifact → Bool}
variable {sources sources' : List StoredCalendarSourceArtifact} {coverageStart coverageEnd first last day : SessionDate}
variable {cutoff cutoff' : Instant} {observedDateArtifacts observed' : List CheckedEvidence}
variable {result result' : CheckedMaterialization eventId}

/-- A calendar is materialized exactly when the graph of its events is well formed, every covered date has one base and no
overlapping windows, the evidence agrees with it, and no source goes unused. -/
theorem materialize_ok_iff : (∃ result, materializeCollectionCalendar eventId verified sources coverageStart coverageEnd cutoff
      observedDateArtifacts = .ok result) ↔
    Materializable eventId verified sources coverageStart coverageEnd cutoff observedDateArtifacts := by
  constructor
  · rintro ⟨result, h⟩
    exact (materializable_of_ok h).1.perm canonical_perm (List.Perm.refl _)
  · exact fun h => ok_of_materializable (h.perm canonical_perm.symm (List.Perm.refl _))

/-- A materialized calendar has one entry for each covered date, which says what the events say and rests on nothing that
was validated after the cutoff. -/
theorem materialized_calendar (h : materializeCollectionCalendar eventId verified sources coverageStart coverageEnd cutoff
    observedDateArtifacts = .ok result) :
    result.1.calendarSnapshot.1.days.map (·.1.day) = coveredDates coverageStart coverageEnd ∧
      result.1.dayResolutions.map (·.1.day) = coveredDates coverageStart coverageEnd ∧
        ∀ day, coverageStart ≤ day → day ≤ coverageEnd → ∃ value resolution,
          result.1.calendarSnapshot.1.day day = .ok value ∧
            result.1.dayResolutions[(day - coverageStart).toNat]? = some resolution ∧
              Describes eventId (collectEvents sources) day value.1 resolution.1 ∧ value.1.knowledgeTime ≤ cutoff := by
  obtain ⟨hconditions, resolved, hresolved, hsnapshot, hresolutions⟩ := materializable_of_ok h
  refine ⟨?_, ?_, fun day hfirst hlast => entries_of_ok h hfirst hlast⟩
  · rw [hsnapshot, List.map_map]
    exact days_resolved hresolved hconditions.graph hconditions.events
  · rw [hresolutions, List.map_map]
    exact resolution_days hresolved hconditions.graph hconditions.events

theorem materialized_calendar_week : ∃ result, materializeCollectionCalendar (·.reason) (fun _ => true)
      [circularSource, scheduleSource] 3 5 100 [] = .ok result ∧
    result.1.calendarSnapshot.1.days.map (·.1.day) = coveredDates 3 5 := by
  obtain ⟨result, hresult⟩ := week_materializes
  exact ⟨result, hresult, (materialized_calendar hresult).1⟩

/-- Two calendars say the same about a date when their sources carry the same events for it, however the events are spread
over documents and whatever else they cover. -/
theorem materialized_day_eq (h : materializeCollectionCalendar eventId verified sources coverageStart coverageEnd cutoff
      observedDateArtifacts = .ok result)
    (h' : materializeCollectionCalendar eventId verified' sources' first last cutoff' observed' = .ok result')
    (hcovered : (coverageStart ≤ day ∧ day ≤ coverageEnd) ∧ first ≤ day ∧ day ≤ last)
    (hsame : ∀ event : CheckedEvent, AppliesOn day event.1 →
      ((∃ source ∈ sources, event ∈ source.events) ↔ ∃ source ∈ sources', event ∈ source.events)) :
    ∃ value resolution value' resolution',
      (result.1.calendarSnapshot.1.day day = .ok value ∧
        result.1.dayResolutions[(day - coverageStart).toNat]? = some resolution) ∧
      (result'.1.calendarSnapshot.1.day day = .ok value' ∧
        result'.1.dayResolutions[(day - first).toNat]? = some resolution') ∧
      value.1.kind = value'.1.kind ∧ value.1.sessionWindows = value'.1.sessionWindows ∧
        resolution.1.stateChainEventIds = resolution'.1.stateChainEventIds ∧
          resolution.1.nonExecutableEventIds = resolution'.1.nonExecutableEventIds := by
  obtain ⟨value, resolution, hvalue, hresolution, hdescribes, -⟩ := entries_of_ok h hcovered.1.1 hcovered.1.2
  obtain ⟨value', resolution', hvalue', hresolution', hdescribes', -⟩ := entries_of_ok h' hcovered.2.1 hcovered.2.2
  have hids := (ids_perm canonical_perm).mp (materializable_of_ok h).1.events
  have hids' := (ids_perm canonical_perm).mp (materializable_of_ok h').1.events
  have hagree : AgreeOn day (collectEvents sources) (collectEvents sources') := by
    have hmem : ∀ (list : List StoredCalendarSourceArtifact) (event : CheckedEvent),
        event ∈ (collectEvents list).map (·.event) ↔ ∃ source ∈ list, event ∈ source.events := by
      intro list event
      rw [List.mem_map]
      constructor
      · rintro ⟨source, hsource, rfl⟩
        exact ⟨source.artifact, mem_collectEvents.mp hsource⟩
      · rintro ⟨source, hsource, hevent⟩
        exact ⟨⟨event, source⟩, mem_collectEvents.mpr ⟨hsource, hevent⟩, rfl⟩
    intro event happlies
    rw [hmem, hmem]
    exact hsame event happlies
  exact ⟨value, resolution, value', resolution', ⟨hvalue, hresolution⟩, ⟨hvalue', hresolution'⟩,
    hdescribes.agree hdescribes' hids hids' hagree⟩

theorem materialized_day_eq_holiday : ∃ result result',
    materializeCollectionCalendar (·.reason) (fun _ => true) [circularSource, scheduleSource] 3 5 100 [] = .ok result ∧
      materializeCollectionCalendar (·.reason) (fun _ => true) [combinedSource] 4 4 50 [] = .ok result' ∧
        ∃ value value', result.1.calendarSnapshot.1.day 4 = .ok value ∧ result'.1.calendarSnapshot.1.day 4 = .ok value' ∧
          value.1.kind = value'.1.kind ∧ value.1.sessionWindows = value'.1.sessionWindows := by
  obtain ⟨result, hresult⟩ := week_materializes
  obtain ⟨result', hresult'⟩ := holiday_materializes
  have hmock : ¬AppliesOn 4 mockSession := by
    unfold AppliesOn
    decide
  have hsame : ∀ event : CheckedEvent, AppliesOn 4 event.1 →
      ((∃ source ∈ [circularSource, scheduleSource], event ∈ source.events) ↔
        ∃ source ∈ [combinedSource], event ∈ source.events) := by
    intro event happlies
    have hne : event ≠ ⟨mockSession, mockSession_check⟩ := by
      rintro rfl
      exact hmock happlies
    simp only [List.mem_cons, List.not_mem_nil, or_false, exists_eq_or_imp, exists_eq_left, circularSource, scheduleSource,
      combinedSource, hne]
    tauto
  obtain ⟨value, _, value', _, ⟨hvalue, -⟩, ⟨hvalue', -⟩, hkind, hwindows, -⟩ :=
    materialized_day_eq hresult hresult' ⟨⟨by decide, by decide⟩, by decide, by decide⟩ hsame
  exact ⟨result, result', hresult, hresult', value, value', hvalue, hvalue', hkind, hwindows⟩

end Results

end IndiaSwing.CalendarMaterialization
