import IndiaSwing.CalendarMaterialization

namespace IndiaSwing.CalendarMaterialization

open ExceptGuards Relation
open DepthFirst (Edge)
open LinkedRecords (Follows OneChain)

section Lookup

variable {eventId : CalendarEvent → String} {events : List EventSource} {source other : EventSource} {id : String}
variable {day : SessionDate}

theorem mem_of_eventById (h : eventById eventId events id = some source) : source ∈ events ∧ source.id eventId = id :=
  ⟨List.mem_of_find?_eq_some h, by simpa using List.find?_some h⟩

theorem eq_of_id_eq (hids : (events.map (·.id eventId)).Nodup) (hsource : source ∈ events) (hother : other ∈ events)
    (h : source.id eventId = other.id eventId) : source = other :=
  List.inj_on_of_nodup_map hids hsource hother h

theorem eventById_of_mem (hids : (events.map (·.id eventId)).Nodup) (h : source ∈ events) :
    eventById eventId events (source.id eventId) = some source := by
  cases hfind : eventById eventId events (source.id eventId) with
  | none => exact absurd (decide_eq_true rfl) (List.find?_eq_none.mp hfind source h)
  | some found =>
    obtain ⟨hmem, hid⟩ := mem_of_eventById hfind
    rw [eq_of_id_eq hids hmem h hid]

theorem eventById_isNone_iff : (eventById eventId events id).isNone ↔ ¬∃ source ∈ events, source.id eventId = id := by
  rw [Option.isNone_iff_eq_none]
  unfold eventById
  simp only [List.find?_eq_none, decide_eq_true_eq, not_exists, not_and]

/-- The predecessors of an event of the graph are the ids that it lists. -/
theorem predecessorIds_of_mem (hids : (events.map (·.id eventId)).Nodup) (h : source ∈ events) :
    predecessorIds eventId events (source.id eventId) = source.event.1.supersedesEventIds := by
  unfold predecessorIds
  rw [eventById_of_mem hids h]

theorem isState_of_appliesState {event : CalendarEvent} (h : appliesState event day) : isState event := by
  unfold appliesState at h
  unfold isState
  by_cases hbase : event.eventType = .baseWeeklySchedule
  · simp [hbase]
  · rw [if_neg hbase] at h
    simp only [Bool.and_eq_true] at h
    simp [h.1]

theorem appliesAt_iff (hids : (events.map (·.id eventId)).Nodup) {date : Option SessionDate} :
    appliesAt eventId events date id ↔ ∃ source ∈ events, source.id eventId = id ∧ ∃ day ∈ date, appliesState source.event.1 day := by
  constructor
  · intro h
    unfold appliesAt at h
    split at h
    · rename_i source day hfind
      obtain ⟨hmem, hid⟩ := mem_of_eventById hfind
      exact ⟨source, hmem, hid, day, rfl, (Bool.and_eq_true _ _ ▸ h).2⟩
    · cases h
  · rintro ⟨source, hmem, rfl, day, rfl, happlies⟩
    unfold appliesAt
    rw [eventById_of_mem hids hmem]
    exact Bool.and_eq_true _ _ ▸ ⟨isState_of_appliesState happlies, happlies⟩

end Lookup

section Graph

variable (eventId : CalendarEvent → String) (events : List EventSource)

/-- One event of the graph lists another. -/
structure Supersedes (source other : EventSource) : Prop where
  mem : source ∈ events
  mem_other : other ∈ events
  listed : other.id eventId ∈ source.event.1.supersedesEventIds

/-- What the graph of the events has to satisfy, whatever order they come in. -/
structure WellFormedGraph : Prop where
  known : ∀ source ∈ events, ∀ id ∈ source.event.1.supersedesEventIds, ∃ other ∈ events, other.id eventId = id
  acyclic : ∀ source, ¬TransGen (Supersedes eventId events) source source
  overrides : ∀ source ∈ events, isTerminal source.event.1 → ∃ predecessor ∈ events,
    source.event.1.supersedesEventIds = [predecessor.id eventId] ∧
      ∃ day ∈ source.event.1.effectiveDate, appliesState predecessor.event.1 day
  competing : ∀ source ∈ events, ∀ other ∈ events, isTerminal source.event.1 → isTerminal other.event.1 →
    source.event.1.effectiveDate = other.event.1.effectiveDate →
      source.event.1.supersedesEventIds = other.event.1.supersedesEventIds → source = other
  activities : ∀ source ∈ events, isActivity source.event.1 → ∀ id ∈ source.event.1.supersedesEventIds,
    ∃ predecessor ∈ events, predecessor.id eventId = id ∧
      ∃ day ∈ source.event.1.effectiveDate, appliesState predecessor.event.1 day

variable {eventId events} {source other : EventSource} {id : String} {day : SessionDate}

theorem known_iff : (events.forM fun source => source.event.1.supersedesEventIds.forM fun id =>
      raiseIf (eventById eventId events id).isNone "calendar event supersedes an unknown event") = .ok () ↔
    ∀ source ∈ events, ∀ id ∈ source.event.1.supersedesEventIds, ∃ other ∈ events, other.id eventId = id := by
  rw [forM_eq_ok]
  refine forall₂_congr fun source _ => ?_
  rw [forM_eq_ok]
  refine forall₂_congr fun id _ => ?_
  rw [raiseIf_eq_ok, eventById_isNone_iff, not_not]

/-- A path of predecessor ids is a path of events. -/
theorem exists_path (hids : (events.map (·.id eventId)).Nodup)
    (hknown : ∀ source ∈ events, ∀ id ∈ source.event.1.supersedesEventIds, ∃ other ∈ events, other.id eventId = id)
    (hsource : source ∈ events) (hpath : TransGen (Edge (predecessorIds eventId events)) (source.id eventId) id) :
    ∃ other ∈ events, other.id eventId = id ∧ TransGen (Supersedes eventId events) source other := by
  have hstep : ∀ {a : EventSource} {k : String}, a ∈ events → Edge (predecessorIds eventId events) (a.id eventId) k →
      ∃ b ∈ events, b.id eventId = k ∧ Supersedes eventId events a b := by
    intro a k ha hedge
    unfold Edge at hedge
    rw [predecessorIds_of_mem hids ha] at hedge
    obtain ⟨b, hb, rfl⟩ := hknown a ha k hedge
    exact ⟨b, hb, rfl, ha, hb, hedge⟩
  induction hpath with
  | single hedge =>
    obtain ⟨b, hb, hid, hsupersedes⟩ := hstep hsource hedge
    exact ⟨b, hb, hid, .single hsupersedes⟩
  | tail _ hedge ih =>
    obtain ⟨a, ha, rfl, hpath⟩ := ih
    obtain ⟨b, hb, hid, hsupersedes⟩ := hstep ha hedge
    exact ⟨b, hb, hid, hpath.tail hsupersedes⟩

/-- The depth-first check accepts exactly the graphs in which no event supersedes itself through others. -/
theorem visitAll_iff (hids : (events.map (·.id eventId)).Nodup)
    (hknown : ∀ source ∈ events, ∀ id ∈ source.event.1.supersedesEventIds, ∃ other ∈ events, other.id eventId = id) :
    (DepthFirst.visitAll (predecessorIds eventId events) (events.map (·.id eventId))).isSome ↔
      ∀ source, ¬TransGen (Supersedes eventId events) source source := by
  have hclosed : ∀ k ∈ events.map (·.id eventId), ∀ p ∈ predecessorIds eventId events k, p ∈ events.map (·.id eventId) := by
    intro k hk p hp
    obtain ⟨source, hsource, rfl⟩ := List.mem_map.mp hk
    rw [predecessorIds_of_mem hids hsource] at hp
    obtain ⟨other, hother, rfl⟩ := hknown source hsource p hp
    exact List.mem_map_of_mem hother
  rw [DepthFirst.visitAll_isSome_iff hclosed]
  constructor
  · intro h source hcycle
    have hmem : source ∈ events := by
      obtain ⟨_, hfirst, -⟩ := TransGen.head'_iff.mp hcycle
      exact hfirst.mem
    refine h _ (List.mem_map_of_mem hmem) (hcycle.lift (·.id eventId) fun a b hsupersedes => ?_)
    show b.id eventId ∈ predecessorIds eventId events (a.id eventId)
    rw [predecessorIds_of_mem hids hsupersedes.mem]
    exact hsupersedes.listed
  · intro h k hk hcycle
    obtain ⟨source, hsource, rfl⟩ := List.mem_map.mp hk
    obtain ⟨other, hother, hid, hpath⟩ := exists_path hids hknown hsource hcycle
    rw [eq_of_id_eq hids hother hsource hid] at hpath
    exact h source hpath

theorem checkOverride_eq_ok (hids : (events.map (·.id eventId)).Nodup) : checkOverride eventId events source = .ok () ↔
    ∃ predecessor ∈ events, source.event.1.supersedesEventIds = [predecessor.id eventId] ∧
      ∃ day ∈ source.event.1.effectiveDate, appliesState predecessor.event.1 day := by
  unfold checkOverride
  rw [raiseIf_bind_eq_ok, raiseIf_eq_ok, not_not]
  unfold predecessorId
  constructor
  · rintro ⟨hlength, happlies⟩
    obtain ⟨id, hid⟩ := List.length_eq_one_iff.mp hlength
    rw [hid] at happlies ⊢
    have hid' : appliesAt eventId events source.event.1.effectiveDate id := by simpa using happlies
    obtain ⟨predecessor, hmem, rfl, hday⟩ := (appliesAt_iff hids).mp hid'
    exact ⟨predecessor, hmem, rfl, hday⟩
  · rintro ⟨predecessor, hmem, hlist, hday⟩
    rw [hlist]
    refine ⟨rfl, ?_⟩
    have happlies := (appliesAt_iff hids).mpr ⟨predecessor, hmem, rfl, hday⟩
    simpa using happlies

theorem competing_iff (hids : (events.map (·.id eventId)).Nodup)
    (hone : ∀ source ∈ events, isTerminal source.event.1 → ∃ id, source.event.1.supersedesEventIds = [id]) :
    ((events.filter fun source => isTerminal source.event.1).map fun source =>
        (source.event.1.effectiveDate, predecessorId source)).Nodup ↔
      ∀ source ∈ events, ∀ other ∈ events, isTerminal source.event.1 → isTerminal other.event.1 →
        source.event.1.effectiveDate = other.event.1.effectiveDate →
          source.event.1.supersedesEventIds = other.event.1.supersedesEventIds → source = other := by
  have hnodup : (events.filter fun source => isTerminal source.event.1).Nodup := (List.Nodup.of_map _ hids).filter _
  rw [List.nodup_map_iff_inj_on hnodup]
  constructor
  · intro h source hsource other hother hterminal hterminal' hdate hlist
    refine h source (List.mem_filter.mpr ⟨hsource, hterminal⟩) other (List.mem_filter.mpr ⟨hother, hterminal'⟩) ?_
    unfold predecessorId
    rw [hdate, hlist]
  · intro h source hsource other hother heq
    obtain ⟨hsource, hterminal⟩ := List.mem_filter.mp hsource
    obtain ⟨hother, hterminal'⟩ := List.mem_filter.mp hother
    obtain ⟨hdate, hhead⟩ := Prod.mk.inj heq
    obtain ⟨a, ha⟩ := hone source hsource hterminal
    obtain ⟨b, hb⟩ := hone other hother hterminal'
    unfold predecessorId at hhead
    rw [ha, hb] at hhead
    refine h source hsource other hother hterminal hterminal' hdate ?_
    rw [ha, hb, Option.some.inj hhead]

/-- The graph check accepts exactly the well-formed graphs. -/
theorem validateEventGraph_eq_ok (hids : (events.map (·.id eventId)).Nodup) :
    validateEventGraph eventId events = .ok () ↔ WellFormedGraph eventId events := by
  have hterminals : (events.filter fun source => isTerminal source.event.1).forM (checkOverride eventId events) = .ok () ↔
      ∀ source ∈ events, isTerminal source.event.1 → ∃ predecessor ∈ events,
        source.event.1.supersedesEventIds = [predecessor.id eventId] ∧
          ∃ day ∈ source.event.1.effectiveDate, appliesState predecessor.event.1 day := by
    rw [forM_eq_ok]
    simp only [List.mem_filter, and_imp, checkOverride_eq_ok hids]
  have hactivities : ((events.filter fun source => isActivity source.event.1).forM fun source =>
      source.event.1.supersedesEventIds.forM fun id =>
        raiseIf (¬appliesAt eventId events source.event.1.effectiveDate id)
          "non-executable activity references an inapplicable state event") = .ok () ↔
      ∀ source ∈ events, isActivity source.event.1 → ∀ id ∈ source.event.1.supersedesEventIds,
        ∃ predecessor ∈ events, predecessor.id eventId = id ∧
          ∃ day ∈ source.event.1.effectiveDate, appliesState predecessor.event.1 day := by
    rw [forM_eq_ok]
    simp only [List.mem_filter, and_imp, forM_eq_ok, raiseIf_eq_ok, not_not, appliesAt_iff hids]
  unfold validateEventGraph
  constructor
  · intro h
    obtain ⟨_, hknown, h⟩ := bind_eq_ok.mp h
    have hknown' := known_iff.mp hknown
    obtain ⟨hvisited, h⟩ := raiseIf_bind_eq_ok.mp h
    obtain ⟨_, hoverrides, h⟩ := bind_eq_ok.mp h
    have hoverrides' := hterminals.mp hoverrides
    obtain ⟨hcompeting, h⟩ := raiseIf_bind_eq_ok.mp h
    refine ⟨hknown', ?_, hoverrides', ?_, hactivities.mp h⟩
    · refine (visitAll_iff hids hknown').mp (Option.isSome_iff_ne_none.mpr fun hnone => ?_)
      exact hvisited (Option.isNone_iff_eq_none.mpr hnone)
    · refine (competing_iff hids fun source hsource hterminal => ?_).mp (not_not.mp hcompeting)
      obtain ⟨predecessor, -, hlist, -⟩ := hoverrides' source hsource hterminal
      exact ⟨_, hlist⟩
  · intro h
    refine bind_eq_ok.mpr ⟨(), known_iff.mpr h.known, ?_⟩
    refine raiseIf_bind_eq_ok.mpr ⟨fun hnone => ?_, ?_⟩
    · have hvisited := (visitAll_iff hids h.known).mpr h.acyclic
      exact Option.isSome_iff_ne_none.mp hvisited (Option.isNone_iff_eq_none.mp hnone)
    refine bind_eq_ok.mpr ⟨(), hterminals.mpr h.overrides, ?_⟩
    refine raiseIf_bind_eq_ok.mpr ⟨not_not.mpr ?_, hactivities.mpr h.activities⟩
    refine (competing_iff hids fun source hsource hterminal => ?_).mpr h.competing
    obtain ⟨predecessor, -, hlist, -⟩ := h.overrides source hsource hterminal
    exact ⟨_, hlist⟩

end Graph

section Chains

variable {eventId : CalendarEvent → String} {events chain : List EventSource} {source other base : EventSource}
variable {day : SessionDate}

theorem appliesState_iff {event : CalendarEvent} : appliesState event day ↔
    appliesBase event day ∨ isTerminal event ∧ event.effectiveDate = some day := by
  unfold appliesState
  by_cases hbase : event.eventType = .baseWeeklySchedule
  · have hterminal : isTerminal event = false := by simp [isTerminal, hbase]
    rw [if_pos hbase, hterminal]
    simp
  · have hnot : appliesBase event day = false := by simp [appliesBase, hbase]
    rw [if_neg hbase, hnot]
    simp

theorem not_terminal_of_appliesBase {event : CalendarEvent} (h : appliesBase event day) : isTerminal event = false := by
  have hbase : event.eventType = .baseWeeklySchedule := by
    unfold appliesBase at h
    rw [Bool.and_eq_true] at h
    exact of_decide_eq_true h.1
  simp [isTerminal, hbase]

theorem mem_overridesOn : source ∈ overridesOn events day ↔
    source ∈ events ∧ isTerminal source.event.1 ∧ source.event.1.effectiveDate = some day := by
  unfold overridesOn
  simp [List.mem_filter]

theorem base_of_filter (h : events.filter (fun source => appliesBase source.event.1 day) = [base]) :
    base ∈ events ∧ appliesBase base.event.1 day := by
  have hmem : base ∈ events.filter fun source => appliesBase source.event.1 day := by
    rw [h]
    exact List.mem_singleton_self base
  exact List.mem_filter.mp hmem

theorem eq_base (h : events.filter (fun source => appliesBase source.event.1 day) = [base]) (hsource : source ∈ events)
    (happlies : appliesBase source.event.1 day) : source = base := by
  have hmem : source ∈ events.filter fun source => appliesBase source.event.1 day :=
    List.mem_filter.mpr ⟨hsource, happlies⟩
  rw [h] at hmem
  exact List.mem_singleton.mp hmem

theorem Supersedes.of_follows (h : Follows (·.id eventId) predecessorId (overridesOn events day) source other) :
    Supersedes eventId events source other where
  mem := (mem_overridesOn.mp h.mem).1
  mem_other := (mem_overridesOn.mp h.mem_previous).1
  listed := List.mem_of_mem_head? h.previous_eq

/-- The overrides of a date form one chain from its base. -/
theorem WellFormedGraph.oneChain (h : WellFormedGraph eventId events) (hids : (events.map (·.id eventId)).Nodup)
    (hbase : events.filter (fun source => appliesBase source.event.1 day) = [base]) :
    OneChain (·.id eventId) predecessorId (base.id eventId) (overridesOn events day) where
  nodup := (List.Nodup.of_map _ hids).filter _
  injective := by
    intro source hsource other hother heq
    obtain ⟨hsource, hterminal, hdate⟩ := mem_overridesOn.mp hsource
    obtain ⟨hother, hterminal', hdate'⟩ := mem_overridesOn.mp hother
    obtain ⟨a, -, ha, -⟩ := h.overrides source hsource hterminal
    obtain ⟨b, -, hb, -⟩ := h.overrides other hother hterminal'
    unfold predecessorId at heq
    rw [ha, hb] at heq
    refine h.competing source hsource other hother hterminal hterminal' (hdate.trans hdate'.symm) ?_
    rw [ha, hb, Option.some.inj heq]
  named := by
    intro source hsource
    obtain ⟨hsource, hterminal, hdate⟩ := mem_overridesOn.mp hsource
    obtain ⟨predecessor, hmem, hlist, day', hday', happlies⟩ := h.overrides source hsource hterminal
    obtain rfl : day = day' := Option.some.inj (hdate.symm.trans hday')
    have hprevious : predecessorId source = some (predecessor.id eventId) := by
      unfold predecessorId
      rw [hlist]
      rfl
    rcases appliesState_iff.mp happlies with happlies | hterminal'
    · left
      rw [hprevious, eq_base hbase hmem happlies]
    · exact .inr ⟨predecessor, mem_overridesOn.mpr ⟨hmem, hterminal'⟩, hprevious⟩
  acyclic := fun source hcycle => h.acyclic source (hcycle.lift id fun _ _ hfollows => .of_follows hfollows)

/-- An override supersedes the one event that its predecessor id names. -/
theorem WellFormedGraph.supersedes_eq (h : WellFormedGraph eventId events) (hsource : source ∈ overridesOn events day)
    {id : String} (hprevious : predecessorId source = some id) : source.event.1.supersedesEventIds = [id] := by
  obtain ⟨hmem, hterminal, -⟩ := mem_overridesOn.mp hsource
  obtain ⟨predecessor, -, hlist, -⟩ := h.overrides source hmem hterminal
  unfold predecessorId at hprevious
  rw [hlist] at hprevious ⊢
  rw [Option.some.inj hprevious]

/-- The events from a base on that supersede one another on a date, and no others of the date. -/
structure StateChain (eventId : CalendarEvent → String) (events : List EventSource) (day : SessionDate)
    (base : EventSource) (chain : List EventSource) : Prop where
  base_applies : appliesBase base.event.1 day
  overrides : ∀ source ∈ chain, isTerminal source.event.1 ∧ source.event.1.effectiveDate = some day
  perm : (base :: chain).Perm (events.filter fun source => appliesState source.event.1 day)
  linked : (base :: chain).IsChain fun before after => after.event.1.supersedesEventIds = [before.id eventId]

theorem WellFormedGraph.forms_chain (h : WellFormedGraph eventId events) (hids : (events.map (·.id eventId)).Nodup)
    (hbase : events.filter (fun source => appliesBase source.event.1 day) = [base]) :
    (stateChain eventId events day base).Perm (overridesOn events day) ∧
      StateChain eventId events day base (stateChain eventId events day base) := by
  have hperm : (stateChain eventId events day base).Perm (overridesOn events day) := (h.oneChain hids hbase).follow_perm
  obtain ⟨hmem, happlies⟩ := base_of_filter hbase
  have hnodup : events.Nodup := List.Nodup.of_map _ hids
  have hnew : base ∉ overridesOn events day := by
    intro hoverride
    have hterminal := (mem_overridesOn.mp hoverride).2.1
    rw [not_terminal_of_appliesBase happlies] at hterminal
    cases hterminal
  refine ⟨hperm, happlies, fun source hsource => (mem_overridesOn.mp (hperm.mem_iff.mp hsource)).2,
    (hperm.cons base).trans ?_, ?_⟩
  · refine (List.perm_ext_iff_of_nodup (List.nodup_cons.mpr ⟨hnew, hnodup.filter _⟩) (hnodup.filter _)).mpr fun source => ?_
    rw [List.mem_cons, mem_overridesOn, List.mem_filter, appliesState_iff]
    constructor
    · rintro (rfl | ⟨hsource, hterminal⟩)
      · exact ⟨hmem, .inl happlies⟩
      · exact ⟨hsource, .inr hterminal⟩
    · rintro ⟨hsource, hstate | hterminal⟩
      · exact .inl (eq_base hbase hsource hstate)
      · exact .inr ⟨hsource, hterminal⟩
  · refine (LinkedRecords.isChain_follow rfl).imp_of_mem_tail_imp fun before after _ hafter hprevious => ?_
    exact h.supersedes_eq (hperm.mem_iff.mp hafter) hprevious

/-- The state that an event gives to a date. -/
def stateFor (day : SessionDate) (event : CalendarEvent) : CalendarDayKind × List DeclaredSessionWindow :=
  if event.eventType = .baseWeeklySchedule then baseState day event else overrideState event

/-- The event that gives a date its state: one that applies and that no override of the date supersedes. -/
structure Decides (eventId : CalendarEvent → String) (events : List EventSource) (day : SessionDate)
    (source : EventSource) : Prop where
  mem : source ∈ events
  applies : appliesState source.event.1 day
  last : ∀ override ∈ events, isTerminal override.event.1 → override.event.1.effectiveDate = some day →
    source.id eventId ∉ override.event.1.supersedesEventIds

theorem StateChain.mem_iff (h : StateChain eventId events day base chain) :
    source ∈ base :: chain ↔ source ∈ events ∧ appliesState source.event.1 day := by
  rw [h.perm.mem_iff, List.mem_filter]

theorem StateChain.nodup (h : StateChain eventId events day base chain) (hids : (events.map (·.id eventId)).Nodup) :
    (base :: chain).Nodup :=
  h.perm.nodup_iff.mpr ((List.Nodup.of_map _ hids).filter _)

theorem StateChain.ids_nodup (h : StateChain eventId events day base chain) (hids : (events.map (·.id eventId)).Nodup) :
    ((base :: chain).map (·.id eventId)).Nodup :=
  (List.nodup_map_iff_inj_on (h.nodup hids)).mpr fun source hsource other hother =>
    eq_of_id_eq hids (h.mem_iff.mp hsource).1 (h.mem_iff.mp hother).1

theorem StateChain.eq_base (h : StateChain eventId events day base chain) (hsource : source ∈ base :: chain)
    (happlies : appliesBase source.event.1 day) : source = base := by
  rcases List.mem_cons.mp hsource with rfl | hsource
  · rfl
  · have hterminal := (h.overrides source hsource).1
    rw [not_terminal_of_appliesBase happlies] at hterminal
    cases hterminal

theorem StateChain.link (h : StateChain eventId events day base chain) {front back : List EventSource}
    {before after : EventSource} (heq : base :: chain = front ++ before :: after :: back) :
    after.event.1.supersedesEventIds = [before.id eventId] := by
  have hlinked := h.linked
  rw [heq] at hlinked
  exact (List.isChain_append_cons_cons.mp hlinked).2.1

/-- The last event of a chain is the one that decides the date. -/
theorem StateChain.decides_iff (h : StateChain eventId events day base chain) (hids : (events.map (·.id eventId)).Nodup) :
    Decides eventId events day source ↔ source = (base :: chain).getLast (List.cons_ne_nil _ _) := by
  have hnodup := h.nodup hids
  constructor
  · intro hdecides
    rcases LinkedRecords.eq_getLast_or_exists_after (h.mem_iff.mpr ⟨hdecides.mem, hdecides.applies⟩) with
      hlast | ⟨front, after, back, heq⟩
    · exact hlast
    have hlink := h.link heq
    have hafter : after ∈ base :: chain := heq ▸ List.mem_append_right _ (List.mem_cons_of_mem _ List.mem_cons_self)
    have hne : after ≠ base := by
      rintro rfl
      cases front with
      | nil =>
        obtain ⟨rfl, hchain⟩ := List.cons.inj heq
        exact (List.nodup_cons.mp hnodup).1 (hchain ▸ List.mem_cons_self)
      | cons first front =>
        obtain ⟨-, hchain⟩ := List.cons.inj heq
        refine (List.nodup_cons.mp hnodup).1 (hchain ▸ ?_)
        exact List.mem_append_right _ (List.mem_cons_of_mem _ List.mem_cons_self)
    obtain ⟨hterminal, hdate⟩ := h.overrides after (List.mem_of_ne_of_mem hne hafter)
    refine absurd ?_ (hdecides.last after (h.mem_iff.mp hafter).1 hterminal hdate)
    rw [hlink]
    exact List.mem_singleton_self _
  · rintro rfl
    obtain ⟨hmem, happlies⟩ := h.mem_iff.mp (List.getLast_mem (List.cons_ne_nil base chain))
    refine ⟨hmem, happlies, fun override hoverride hterminal hdate hlisted => ?_⟩
    have hchain : override ∈ chain := by
      have hall := h.mem_iff.mpr ⟨hoverride, appliesState_iff.mpr (.inr ⟨hterminal, hdate⟩)⟩
      rcases List.mem_cons.mp hall with rfl | hchain
      · rw [not_terminal_of_appliesBase h.base_applies] at hterminal
        cases hterminal
      · exact hchain
    obtain ⟨front, before, back, heq⟩ := @LinkedRecords.exists_before _ base override chain hchain
    have hlink := h.link heq
    have hbefore : before ∈ base :: chain := heq ▸ List.mem_append_right _ List.mem_cons_self
    rw [hlink, List.mem_singleton] at hlisted
    have hsame := eq_of_id_eq hids hmem (h.mem_iff.mp hbefore).1 hlisted
    -- the last event would stand before the override
    have hrepeated : before ∈ override :: back := by
      have hlast := LinkedRecords.getLast_mem_after heq (List.cons_ne_nil base chain)
      rwa [hsame] at hlast
    rw [heq] at hnodup
    exact (List.nodup_cons.mp (List.nodup_append.mp hnodup).2.1).1 hrepeated

/-- What the loop reads off the chain is the state that its last event gives. -/
theorem StateChain.stateOf_eq (h : StateChain eventId events day base chain) (hsource : Decides eventId events day source)
    (hids : (events.map (·.id eventId)).Nodup) : stateOf day base chain = stateFor day source.event.1 := by
  obtain rfl := (h.decides_iff hids).mp hsource
  unfold stateOf stateFor
  rcases List.eq_nil_or_concat chain with rfl | ⟨front, terminal, rfl⟩
  · have hbase : base.event.1.eventType = .baseWeeklySchedule := by
      have happlies := h.base_applies
      unfold appliesBase at happlies
      rw [Bool.and_eq_true] at happlies
      exact of_decide_eq_true happlies.1
    rw [List.getLast_singleton, if_pos hbase]
    rfl
  · obtain ⟨hterminal, -⟩ := h.overrides terminal (by simp)
    have hnot : terminal.event.1.eventType ≠ .baseWeeklySchedule := by
      intro hbase
      simp [isTerminal, hbase] at hterminal
    have hlast : (base :: front.concat terminal).getLast (List.cons_ne_nil _ _) = terminal := by
      simp
    rw [hlast, if_neg hnot, List.concat_eq_append, List.getLast?_concat]

/-- Two lists of events that agree on a date have the same chain there. -/
theorem StateChain.unique {events' chain' : List EventSource} {base' : EventSource}
    (h : StateChain eventId events day base chain) (h' : StateChain eventId events' day base' chain')
    (hids : (events.map (·.id eventId)).Nodup) (hids' : (events'.map (·.id eventId)).Nodup)
    (hsame : ∀ event : CheckedEvent, appliesState event.1 day →
      (event ∈ events.map (·.event) ↔ event ∈ events'.map (·.event))) :
    (base :: chain).map (·.event) = (base' :: chain').map (·.event) := by
  have hmem : ∀ {events chain : List EventSource} {base : EventSource}, StateChain eventId events day base chain →
      ∀ event, event ∈ (base :: chain).map (·.event) ↔ event ∈ events.map (·.event) ∧ appliesState event.1 day := by
    intro events chain base h event
    simp only [List.mem_map]
    constructor
    · rintro ⟨source, hsource, rfl⟩
      obtain ⟨hmem, happlies⟩ := h.mem_iff.mp hsource
      exact ⟨⟨source, hmem, rfl⟩, happlies⟩
    · rintro ⟨⟨source, hmem, rfl⟩, happlies⟩
      exact ⟨source, h.mem_iff.mpr ⟨hmem, happlies⟩, rfl⟩
  have hiff : ∀ event, event ∈ (base :: chain).map (·.event) ↔ event ∈ (base' :: chain').map (·.event) := by
    intro event
    rw [hmem h, hmem h']
    exact and_congr_left fun happlies => hsame event happlies
  have hbase : base.event = base'.event := by
    have hin : base.event ∈ (base' :: chain').map (·.event) := (hiff base.event).mp List.mem_cons_self
    obtain ⟨source, hsource, heq⟩ := List.mem_map.mp hin
    rw [← heq, h'.eq_base hsource (heq ▸ h.base_applies)]
  have hlinked : ∀ {events chain : List EventSource} {base : EventSource}, StateChain eventId events day base chain →
      ((base :: chain).map (·.event)).IsChain fun before after => after.1.supersedesEventIds = [eventId before.1] := by
    intro events chain base h
    exact (List.isChain_map _).mpr h.linked
  have hnodup : ∀ {events chain : List EventSource} {base : EventSource}, StateChain eventId events day base chain →
      (events.map (·.id eventId)).Nodup → ((base :: chain).map (·.event)).Nodup := by
    intro events chain base h hids
    refine (List.nodup_map_iff_inj_on (h.nodup hids)).mpr fun source hsource other hother heq => ?_
    exact eq_of_id_eq hids (h.mem_iff.mp hsource).1 (h.mem_iff.mp hother).1 (congrArg (fun event : CheckedEvent => eventId event.1) heq)
  have hlist := hnodup h hids
  have hlist' := hnodup h' hids'
  have hchain := hlinked h
  have hchain' := hlinked h'
  simp only [List.map_cons] at hlist hlist' hchain hchain' hiff ⊢
  rw [← hbase] at hlist' hchain' ⊢
  simp only [← hbase] at hiff
  refine congrArg (base.event :: ·) (LinkedRecords.eq_of_isChain hchain hchain' ?_ hlist hlist' fun event => ?_)
  · intro b hb c hc d _ hbd hcd
    obtain ⟨source, hsource, rfl⟩ := List.mem_map.mp (show b ∈ (base :: chain).map (·.event) from hb)
    obtain ⟨other, hother, rfl⟩ := List.mem_map.mp (show c ∈ (base :: chain).map (·.event) from hc)
    have hid : source.id eventId = other.id eventId := (List.cons.inj (hbd.symm.trans hcd)).1
    rw [eq_of_id_eq hids (h.mem_iff.mp hsource).1 (h.mem_iff.mp hother).1 hid]
  · by_cases hne : event = base.event
    · subst hne
      exact iff_of_false (List.nodup_cons.mp hlist).1 (List.nodup_cons.mp hlist').1
    · have hboth := hiff event
      simpa [hne] using hboth

end Chains

end IndiaSwing.CalendarMaterialization
