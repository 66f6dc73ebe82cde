import IndiaSwing.CalendarEventGraph

namespace IndiaSwing.CalendarMaterialization

open ExceptGuards
open KeySort (sortOn perm_sortOn sortOn_pairwise)
open SortedTuples

section Sets

variable {values others : List String} {id : String}

theorem mem_sortedSet : id ∈ sortedSet values ↔ id ∈ values := by
  unfold sortedSet
  rw [mem_sorted, List.mem_dedup]

theorem nodup_sortedSet : (sortedSet values).Nodup := sorted_perm.nodup_iff.mpr (List.nodup_dedup values)

theorem sortedSet_of_sorted (hnodup : values.Nodup) (hsorted : values.Pairwise (· ≤ ·)) : sortedSet values = values := by
  unfold sortedSet
  rw [hnodup.dedup, sorted_of_pairwise hsorted]

@[simp] theorem sortedSet_sortedSet : sortedSet (sortedSet values) = sortedSet values :=
  sortedSet_of_sorted nodup_sortedSet sorted_pairwise

/-- Two sorted sets are equal when they have the same members. -/
theorem sortedSet_eq_iff : sortedSet values = sortedSet others ↔ ∀ id, id ∈ values ↔ id ∈ others := by
  constructor
  · intro h id
    rw [← mem_sortedSet, h, mem_sortedSet]
  · intro h
    refine sorted_eq_of_perm ((List.perm_ext_iff_of_nodup (List.nodup_dedup _) (List.nodup_dedup _)).mpr fun id => ?_)
    rw [List.mem_dedup, List.mem_dedup]
    exact h id

theorem sortedSet_ne_nil (h : id ∈ values) : sortedSet values ≠ [] :=
  List.ne_nil_of_mem (mem_sortedSet.mpr h)

end Sets

section Windows

variable {day : SessionDate} {windows : List DeclaredSessionWindow} {a b : DeclaredSessionWindow}

/-- One window closes before the other opens. -/
def Apart (a b : DeclaredSessionWindow) : Prop := a.closes ≤ b.opens ∨ b.closes ≤ a.opens

theorem opens_le_of_windowKey_le (h : windowKey a ≤ windowKey b) : a.opens ≤ b.opens := by
  rcases Prod.Lex.le_iff.mp h with hlt | ⟨heq, -⟩
  · exact hlt.le
  · exact heq.le

/-- Windows sorted by their times are in order exactly when no two of them overlap. -/
theorem windowsInOrder_iff : WindowsInOrder (sortOn windowKey windows) ↔ windows.Pairwise Apart := by
  have htrans : IsTrans DeclaredSessionWindow fun a b => a.closes ≤ b.opens :=
    ⟨fun a b c hab hbc => hab.trans (b.opens_lt_closes.le.trans hbc)⟩
  have hsorted := sortOn_pairwise windowKey windows
  have hperm : (sortOn windowKey windows).Pairwise Apart ↔ windows.Pairwise Apart :=
    (perm_sortOn windowKey windows).pairwise_iff fun h => Or.symm h
  rw [← hperm]
  unfold WindowsInOrder
  rw [List.isChain_iff_pairwise]
  constructor
  · exact fun h => h.imp .inl
  · intro h
    refine (h.and hsorted).imp fun {a b} hab => ?_
    rcases hab.1 with hleft | hright
    · exact hleft
    · have hopens := opens_le_of_windowKey_le hab.2
      exact absurd (b.opens_lt_closes.trans_le (hright.trans hopens)) (lt_irrefl _)

theorem istDate_wallTime (seconds : Fin 86400) : (wallTime day seconds).istDate = day := by
  have hdate : ∀ (date : ℤ) (time : ℕ), time < 86400 →
      (date * 86400000000 - 19800000000 + time * 1000000 + 19800000000) / 86400000000 = date := by
    intro date time htime
    omega
  exact hdate day seconds.val seconds.isLt

theorem wallTime_le_iff {first second : Fin 86400} : wallTime day first ≤ wallTime day second ↔ first ≤ second := by
  have hle : ∀ (date : ℤ) (m n : ℕ), date * 86400000000 - 19800000000 + m * 1000000 ≤
      date * 86400000000 - 19800000000 + n * 1000000 ↔ m ≤ n := by
    intro date m n
    omega
  exact hle day first.val second.val

theorem window_check (value : DeclaredSessionWindow) : (window day value).check = .ok () := by
  have hlt : value.opens.val < value.closes.val := Fin.lt_def.mp value.opens_lt_closes
  unfold SessionWindow.check window
  refine raiseIf_bind_eq_ok.mpr ⟨?_, raiseIf_eq_ok.mpr ?_⟩
  · rw [istDate_wallTime, istDate_wallTime, not_not]
  · rw [wallTime_le_iff, Fin.le_def]
    omega

theorem forM_window_check : (windows.map (window day)).forM SessionWindow.check = .ok () := by
  refine forM_eq_ok.mpr fun value hvalue => ?_
  obtain ⟨declared, -, rfl⟩ := List.mem_map.mp hvalue
  exact window_check declared

end Windows

section States

variable {day : SessionDate}

/-- The shape of an event leaves a trading day an executable window and a closed day none. -/
theorem stateFor_windows {event : CalendarEvent} (hcheck : event.check = .ok ()) (h : appliesState event day) :
    (stateFor day event).1.isTrading = true ∧ (stateFor day event).2.any (·.executable) = true ∨
      (stateFor day event).1.isTrading = false ∧ (stateFor day event).2 = [] := by
  unfold CalendarEvent.check at hcheck
  obtain ⟨-, hcheck⟩ := raiseIf_bind_eq_ok.mp hcheck
  obtain ⟨-, hcheck⟩ := raiseIf_bind_eq_ok.mp hcheck
  obtain ⟨-, hcheck⟩ := raiseIf_bind_eq_ok.mp hcheck
  cases htype : event.eventType with
  | baseWeeklySchedule =>
    rw [htype] at hcheck
    dsimp only at hcheck
    have hshape := raiseIf_eq_ok.mp hcheck
    simp only [not_or, not_not] at hshape
    have hstate : stateFor day event = baseState day event := if_pos htype
    rw [hstate]
    unfold baseState
    by_cases hweekday : weekdayOf day ∈ event.weekdays
    · rw [if_pos hweekday]
      exact .inl ⟨rfl, hshape.2.2.2.2.2.1⟩
    · rw [if_neg hweekday]
      exact .inr ⟨rfl, rfl⟩
  | dateClosed =>
    rw [htype] at hcheck
    dsimp only at hcheck
    have hshape := raiseIf_eq_ok.mp hcheck
    simp only [not_or, not_not] at hshape
    have hstate : stateFor day event = (event.dayKind.elim .holiday closedKind, []) := by
      unfold stateFor overrideState
      rw [htype]
      rfl
    have hkind : event.dayKind ∈ [some .holiday, some .weekend, some .unscheduledClosure] := hshape.2.1
    simp only [List.mem_cons, List.not_mem_nil, or_false] at hkind
    rw [hstate]
    refine .inr ⟨?_, rfl⟩
    rcases hkind with hkind | hkind | hkind <;> rw [hkind] <;> rfl
  | dateSessionReplaced =>
    rw [htype] at hcheck
    dsimp only at hcheck
    have hshape := raiseIf_eq_ok.mp hcheck
    simp only [not_or, not_not] at hshape
    have hstate : stateFor day event = (.special, event.windows) := by
      unfold stateFor overrideState
      rw [htype]
      rfl
    rw [hstate]
    exact .inl ⟨rfl, hshape.2.2.2.1⟩
  | nonExecutableActivity =>
    exfalso
    unfold appliesState isTerminal at h
    rw [htype] at h
    simp at h

end States

section Resolution

variable {eventId : CalendarEvent → String} {events chain : List EventSource} {source base : EventSource} {id : String}
variable {day : SessionDate}

/-- The events that have a say about a date: those that apply to its state, and the activities on it. -/
def AppliesOn (day : SessionDate) (event : CalendarEvent) : Prop :=
  appliesState event day ∨ isActivity event ∧ event.effectiveDate = some day

theorem mem_activitiesOn : source ∈ activitiesOn eventId events day ↔
    source ∈ events ∧ isActivity source.event.1 ∧ source.event.1.effectiveDate = some day := by
  unfold activitiesOn
  rw [(perm_sortOn _ _).mem_iff]
  simp [List.mem_filter]

theorem activityIds_sorted : ((activitiesOn eventId events day).map (·.id eventId)).Pairwise (· ≤ ·) := by
  rw [List.pairwise_map]
  exact sortOn_pairwise _ _

theorem nodup_activitiesOn (hids : (events.map (·.id eventId)).Nodup) : (activitiesOn eventId events day).Nodup :=
  (perm_sortOn _ _).nodup_iff.mpr ((List.Nodup.of_map _ hids).filter _)

theorem nodup_activityIds (hids : (events.map (·.id eventId)).Nodup) :
    ((activitiesOn eventId events day).map (·.id eventId)).Nodup :=
  (List.nodup_map_iff_inj_on (nodup_activitiesOn hids)).mpr fun _ hsource _ hother =>
    eq_of_id_eq hids (mem_activitiesOn.mp hsource).1 (mem_activitiesOn.mp hother).1

theorem mem_appliedEventIds (h : StateChain eventId events day base chain) :
    id ∈ (dayResolution eventId events day base chain).appliedEventIds ↔
      ∃ source ∈ events, source.id eventId = id ∧ AppliesOn day source.event.1 := by
  show id ∈ sortedSet _ ↔ _
  rw [mem_sortedSet, List.mem_append, List.mem_map, List.mem_map]
  constructor
  · rintro (⟨source, hsource, rfl⟩ | ⟨source, hsource, rfl⟩)
    · obtain ⟨hmem, happlies⟩ := h.mem_iff.mp hsource
      exact ⟨source, hmem, rfl, .inl happlies⟩
    · obtain ⟨hmem, hactivity⟩ := mem_activitiesOn.mp hsource
      exact ⟨source, hmem, rfl, .inr hactivity⟩
  · rintro ⟨source, hmem, rfl, happlies | hactivity⟩
    · exact .inl ⟨source, h.mem_iff.mpr ⟨hmem, happlies⟩, rfl⟩
    · exact .inr ⟨source, mem_activitiesOn.mpr ⟨hmem, hactivity⟩, rfl⟩

/-- The sources that a resolution is applied from. -/
theorem mem_appliedSources (h : StateChain eventId events day base chain) (hids : (events.map (·.id eventId)).Nodup) :
    source ∈ (dayResolution eventId events day base chain).appliedEventIds.filterMap (eventById eventId events) ↔
      source ∈ events ∧ AppliesOn day source.event.1 := by
  rw [List.mem_filterMap]
  constructor
  · rintro ⟨id, hid, hfind⟩
    obtain ⟨hmem, rfl⟩ := mem_of_eventById hfind
    obtain ⟨other, hother, hsame, happlies⟩ := (mem_appliedEventIds h).mp hid
    rw [eq_of_id_eq hids hother hmem hsame] at happlies
    exact ⟨hmem, happlies⟩
  · rintro ⟨hmem, happlies⟩
    exact ⟨_, (mem_appliedEventIds h).mpr ⟨source, hmem, rfl, happlies⟩, eventById_of_mem hids hmem⟩

theorem mem_sourceArtifactIds (h : StateChain eventId events day base chain) (hids : (events.map (·.id eventId)).Nodup) :
    id ∈ (dayResolution eventId events day base chain).sourceArtifactIds ↔
      ∃ source ∈ events, AppliesOn day source.event.1 ∧ source.artifact.artifactId = id := by
  show id ∈ sortedSet _ ↔ _
  rw [mem_sortedSet, List.mem_map]
  simp only [List.mem_map]
  constructor
  · rintro ⟨artifact, ⟨source, hsource, rfl⟩, rfl⟩
    obtain ⟨hmem, happlies⟩ := (mem_appliedSources h hids).mp hsource
    exact ⟨source, hmem, happlies, rfl⟩
  · rintro ⟨source, hmem, happlies, rfl⟩
    exact ⟨source.artifact, ⟨source, (mem_appliedSources h hids).mpr ⟨hmem, happlies⟩, rfl⟩, rfl⟩

/-- The base of a date is among the sources that are applied. -/
theorem base_applied (h : StateChain eventId events day base chain) (hids : (events.map (·.id eventId)).Nodup) :
    base ∈ (dayResolution eventId events day base chain).appliedEventIds.filterMap (eventById eventId events) := by
  obtain ⟨hmem, happlies⟩ := h.mem_iff.mp List.mem_cons_self
  exact (mem_appliedSources h hids).mpr ⟨hmem, .inl happlies⟩

/-- The resolution of a date passes its own checks. -/
theorem dayResolution_check (h : StateChain eventId events day base chain) (hids : (events.map (·.id eventId)).Nodup) :
    (dayResolution eventId events day base chain).check = .ok () := by
  have hbase := List.mem_map_of_mem (f := fun source : EventSource => source.artifact) (base_applied h hids)
  unfold CalendarDayResolution.check
  refine raiseIf_bind_eq_ok.mpr ⟨List.cons_ne_nil _ _, ?_⟩
  refine raiseIf_bind_eq_ok.mpr ⟨?_, ?_⟩
  · refine List.ne_nil_of_mem ((mem_appliedEventIds h).mpr ⟨base, ?_, rfl, .inl ?_⟩)
    · exact (h.mem_iff.mp List.mem_cons_self).1
    · exact (h.mem_iff.mp List.mem_cons_self).2
  refine raiseIf_bind_eq_ok.mpr ⟨sortedSet_ne_nil (List.mem_map_of_mem hbase), ?_⟩
  refine raiseIf_bind_eq_ok.mpr ⟨sortedSet_ne_nil (List.mem_map_of_mem hbase), ?_⟩
  refine raiseIf_bind_eq_ok.mpr ⟨not_not.mpr (h.ids_nodup hids), ?_⟩
  refine raiseIf_bind_eq_ok.mpr ⟨not_not.mpr (sortedSet_of_sorted (nodup_activityIds hids) activityIds_sorted), ?_⟩
  refine raiseIf_bind_eq_ok.mpr ⟨not_not.mpr sortedSet_sortedSet, ?_⟩
  refine raiseIf_bind_eq_ok.mpr ⟨not_not.mpr sortedSet_sortedSet, ?_⟩
  refine raiseIf_bind_eq_ok.mpr ⟨not_not.mpr sortedSet_sortedSet, ?_⟩
  exact raiseIf_eq_ok.mpr (not_not.mpr sortedSet_sortedSet)

/-- The day that the loop makes of a date. -/
def dayValue (eventId : CalendarEvent → String) (events : List EventSource) (day : SessionDate) (base : EventSource) :
    CalendarDay :=
  let chain := stateChain eventId events day base
  let state := stateOf day base chain
  { day := day
    kind := state.1
    knowledgeTime := knowledgeTime eventId events base (dayResolution eventId events day base chain).appliedEventIds
    sessionWindows := (declaredWindows state (activitiesOn eventId events day)).map (window day) }

/-- A day of a state that its event's shape allows passes its checks exactly when its windows are in order. -/
theorem calendarDay_check {state : CalendarDayKind × List DeclaredSessionWindow} {activities : List EventSource} {known : Instant}
    (hstate : state.1.isTrading = true ∧ state.2.any (·.executable) = true ∨ state.1.isTrading = false ∧ state.2 = []) :
    CalendarDay.check ⟨day, state.1, known, (declaredWindows state activities).map (window day)⟩ = .ok () ↔
      WindowsInOrder (declaredWindows state activities) := by
  unfold CalendarDay.check CalendarDay.isSession
  dsimp only
  rcases hstate with ⟨htrading, hexecutable⟩ | ⟨hclosed, hnone⟩
  · rw [if_pos htrading]
    unfold declaredWindows
    rw [if_pos htrading]
    obtain ⟨live, hlive, hphase⟩ := List.any_eq_true.mp hexecutable
    have hmem : live ∈ sortOn windowKey (state.2 ++ activities.flatMap (·.event.1.windows)) :=
      (perm_sortOn _ _).mem_iff.mpr (List.mem_append_left _ hlive)
    have horder : ∀ windows : List DeclaredSessionWindow,
        (windows.map (window day)).IsChain (fun previous window => previous.closesAt ≤ window.opensAt) ↔
          WindowsInOrder windows := by
      intro windows
      rw [List.isChain_map]
      exact List.IsChain.iff fun a b => wallTime_le_iff
    constructor
    · intro h
      obtain ⟨-, h⟩ := raiseIf_bind_eq_ok.mp h
      obtain ⟨-, h⟩ := raiseIf_bind_eq_ok.mp h
      obtain ⟨-, h⟩ := raiseIf_bind_eq_ok.mp h
      exact (horder _).mp (not_not.mp (raiseIf_eq_ok.mp h))
    · intro h
      refine raiseIf_bind_eq_ok.mpr ⟨List.ne_nil_of_mem (List.mem_map_of_mem hmem), ?_⟩
      refine raiseIf_bind_eq_ok.mpr ⟨not_not.mpr (List.any_eq_true.mpr ⟨_, List.mem_map_of_mem hmem, hphase⟩), ?_⟩
      refine raiseIf_bind_eq_ok.mpr ⟨?_, raiseIf_eq_ok.mpr (not_not.mpr ((horder _).mpr h))⟩
      rintro ⟨value, hvalue, hother⟩
      obtain ⟨declared, -, rfl⟩ := List.mem_map.mp hvalue
      rcases hother with hother | hother
      · exact hother (istDate_wallTime _)
      · exact hother (istDate_wallTime _)
  · have hempty : declaredWindows state activities = [] := by
      unfold declaredWindows
      rw [if_neg (by rw [hclosed]; exact Bool.false_ne_true), hnone]
      rfl
    rw [if_neg (by rw [hclosed]; exact Bool.false_ne_true), hempty]
    exact iff_of_true (raiseIf_eq_ok.mpr (not_not.mpr rfl)) .nil

theorem dayValue_check (hgraph : WellFormedGraph eventId events) (hids : (events.map (·.id eventId)).Nodup)
    (hbase : events.filter (fun source => appliesBase source.event.1 day) = [base]) :
    (dayValue eventId events day base).check = .ok () ↔
      WindowsInOrder (declaredWindows (stateOf day base (stateChain eventId events day base)) (activitiesOn eventId events day)) := by
  obtain ⟨-, hchain⟩ := hgraph.forms_chain hids hbase
  obtain ⟨decider, hdecides⟩ : ∃ decider, Decides eventId events day decider := ⟨_, (hchain.decides_iff hids).mpr rfl⟩
  refine calendarDay_check ?_
  rw [hchain.stateOf_eq hdecides hids]
  exact stateFor_windows decider.event.2 hdecides.applies

/-- On a well-formed graph the chain checks never fail: a date is resolved exactly when one base applies to it and no two
of its windows overlap. -/
theorem resolveDay_eq_ok (hgraph : WellFormedGraph eventId events) (hids : (events.map (·.id eventId)).Nodup)
    {result : CheckedDay × CheckedResolution} :
    resolveDay eventId events day = .ok result ↔ ∃ base,
      events.filter (fun source => appliesBase source.event.1 day) = [base] ∧
        result.1.1 = dayValue eventId events day base ∧
          result.2.1 = dayResolution eventId events day base (stateChain eventId events day base) := by
  unfold resolveDay
  split
  next base hbase =>
    obtain ⟨hperm, hchain⟩ := hgraph.forms_chain hids hbase
    have hone := hgraph.oneChain hids hbase
    have hcompeting : ((overridesOn events day).map predecessorId).Nodup :=
      (List.nodup_map_iff_inj_on hone.nodup).mpr hone.injective
    constructor
    · intro h
      obtain ⟨-, h⟩ := raiseIf_bind_eq_ok.mp h
      obtain ⟨-, h⟩ := raiseIf_bind_eq_ok.mp h
      obtain ⟨_, -, h⟩ := bind_eq_ok.mp h
      obtain ⟨resolution, hresolution, h⟩ := bind_eq_ok.mp h
      obtain ⟨value, hvalue, h⟩ := bind_eq_ok.mp h
      obtain rfl := Except.ok.inj h
      have hresolved := Checked.build_eq_ok.mp hresolution
      have hmade := Checked.build_eq_ok.mp (mapError_eq_ok.mp hvalue)
      rw [← hresolved] at hmade
      exact ⟨base, hbase, hmade.symm, hresolved.symm⟩
    · rintro ⟨other, hother, hvalue, hresolution⟩
      obtain rfl : base = other := (List.cons.inj (hbase.symm.trans hother)).1
      refine raiseIf_bind_eq_ok.mpr ⟨not_not.mpr hcompeting, ?_⟩
      refine raiseIf_bind_eq_ok.mpr ⟨not_not.mpr hperm.length_eq, ?_⟩
      refine bind_eq_ok.mpr ⟨(), mapError_eq_ok.mpr forM_window_check, ?_⟩
      refine bind_eq_ok.mpr ⟨result.2, Checked.build_eq_ok.mpr hresolution.symm, ?_⟩
      refine bind_eq_ok.mpr ⟨result.1, mapError_eq_ok.mpr (Checked.build_eq_ok.mpr ?_), rfl⟩
      rw [hvalue, hresolution]
      rfl
  next hbase =>
    constructor
    · intro h
      cases h
    · rintro ⟨base, hone, -⟩
      exact absurd hone (hbase base)

end Resolution

end IndiaSwing.CalendarMaterialization
