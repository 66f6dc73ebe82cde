import IndiaSwing.DailyWorkflow

namespace IndiaSwing

open ExceptGuards

/-- The files of one workflow: its specification, its terminal record and its events, in the order
of their sequence numbers. -/
structure LocalDailyPaperWorkflowStore where
  spec : Option DailyPaperWorkflowSpec
  terminal : Option DailyPaperWorkflowTerminal
  events : List DailyPaperWorkflowEvent

namespace LocalDailyPaperWorkflowStore

def empty : LocalDailyPaperWorkflowStore := ⟨none, none, []⟩

end LocalDailyPaperWorkflowStore

/-- What becomes of a create-once write: the file is there and the writer knows, there is no file
and the writer fails, or there is a file and the writer fails all the same. -/
inductive WriteFate
  | durable
  | lost
  | unconfirmed
  deriving DecidableEq, Repr

/-- The checks of one event of a stored chain against its predecessor. -/
def checkEvent (workflowId : ContentId) (previous : Option DailyPaperWorkflowEvent) (sequence : ℕ)
    (event : DailyPaperWorkflowEvent) : Except DailyPaperWorkflowError Unit := do
  raiseIf (event.workflowId ≠ workflowId ∨ event.sequence ≠ sequence ∨
    event.previousEventId ≠ previous.map (·.eventId) ∨
    previous.any (fun earlier => event.occurredAt < earlier.occurredAt))
    (.error "workflow event chain is broken")
  if sequence % 2 = 1 then
    raiseIf (event.status ≠ .started) (.error "workflow attempt chain is broken")
  else
    raiseIf (event.status = .started) (.error "workflow attempt chain is broken")

/-- The loop of `list_events` over the files. -/
def checkChain (workflowId : ContentId) :
    Option DailyPaperWorkflowEvent → ℕ → List DailyPaperWorkflowEvent →
      Except DailyPaperWorkflowError Unit
  | _, _, [] => .ok ()
  | previous, sequence, event :: rest => do
    checkEvent workflowId previous sequence event
    checkChain workflowId (some event) (sequence + 1) rest

section Store

variable (workflowId : ContentId) (store : LocalDailyPaperWorkflowStore)

namespace LocalDailyPaperWorkflowStore

def listEvents : Except DailyPaperWorkflowError (List DailyPaperWorkflowEvent) := do
  checkChain workflowId none 1 store.events
  return store.events

/-- The event that `append_event` writes, if the chain lets it. -/
def nextEvent (status : DailyPaperWorkflowEventStatus) (occurredAt : Instant)
    (reasonCode : Option String) (terminalId : Option ContentId) :
    Except DailyPaperWorkflowError DailyPaperWorkflowEvent := do
  let existing ← store.listEvents workflowId
  raiseIf ((existing.length % 2 = 0) ≠ (status = .started))
    (.error "workflow attempt transition is invalid")
  DailyPaperWorkflowEvent.create
    { workflowId, sequence := existing.length + 1,
      previousEventId := existing.getLast?.map (·.eventId), status, occurredAt, reasonCode, terminalId }

/-- The part of `append_event` under the lock. -/
def writeEvent (fate : WriteFate) (status : DailyPaperWorkflowEventStatus) (occurredAt : Instant)
    (reasonCode : Option String) (terminalId : Option ContentId) :
    Except DailyPaperWorkflowError Unit × LocalDailyPaperWorkflowStore :=
  match store.nextEvent workflowId status occurredAt reasonCode terminalId with
  | .error e => (.error e, store)
  | .ok event =>
    match fate with
    | .durable => (.ok (), { store with events := store.events ++ [event] })
    | .lost => (.error (.error "workflow event store is unavailable"), store)
    | .unconfirmed => (.error (.error "workflow event store is unavailable"),
        { store with events := store.events ++ [event] })

/-- A specification is written once under its own id; the same one again is left as it is. -/
def putSpec (fate : WriteFate) (value : DailyPaperWorkflowSpec) :
    Except DailyPaperWorkflowError DailyPaperWorkflowSpec × LocalDailyPaperWorkflowStore :=
  match store.spec, fate with
  | some stored, _ =>
    if stored ≠ value then (.error (.error "workflow artifact already differs"), store)
    else (.ok stored, store)
  | none, .durable => (.ok value, { store with spec := some value })
  | none, .lost => (.error (.error "workflow store is unavailable"), store)
  | none, .unconfirmed =>
    (.error (.error "workflow store is unavailable"), { store with spec := some value })

def putTerminal (fate : WriteFate) (value : DailyPaperWorkflowTerminal) :
    Except DailyPaperWorkflowError DailyPaperWorkflowTerminal × LocalDailyPaperWorkflowStore :=
  match store.terminal, fate with
  | some stored, _ =>
    if stored ≠ value then (.error (.error "workflow artifact already differs"), store)
    else (.ok stored, store)
  | none, .durable => (.ok value, { store with terminal := some value })
  | none, .lost => (.error (.error "workflow store is unavailable"), store)
  | none, .unconfirmed =>
    (.error (.error "workflow store is unavailable"), { store with terminal := some value })

end LocalDailyPaperWorkflowStore

end Store

/-- The durable `STARTED` events. -/
def attempts (events : List DailyPaperWorkflowEvent) : ℕ :=
  events.countP (·.status = .started)

/-- The last event is a `STARTED` that nothing closes. -/
def Dangling (events : List DailyPaperWorkflowEvent) : Prop :=
  ∃ event, events.getLast? = some event ∧ event.status = .started

/-- No event of the chain is refused by `list_events`. -/
def Readable (workflowId : ContentId) (store : LocalDailyPaperWorkflowStore) : Prop :=
  checkChain workflowId none 1 store.events = .ok ()

instance (workflowId : ContentId) (store : LocalDailyPaperWorkflowStore) :
    Decidable (Readable workflowId store) :=
  inferInstanceAs (Decidable (checkChain workflowId none 1 store.events = .ok ()))

section Lemmas

variable {workflowId : ContentId} {store after : LocalDailyPaperWorkflowStore}
variable {previous : Option DailyPaperWorkflowEvent} {events : List DailyPaperWorkflowEvent}
variable {event : DailyPaperWorkflowEvent} {sequence : ℕ}
variable {status : DailyPaperWorkflowEventStatus} {occurredAt : Instant}
variable {reasonCode : Option String} {terminalId : Option ContentId}

theorem checkEvent_eq_ok : checkEvent workflowId previous sequence event = .ok () ↔
    event.workflowId = workflowId ∧ event.sequence = sequence ∧
      event.previousEventId = previous.map (·.eventId) ∧
      (∀ earlier ∈ previous, earlier.occurredAt ≤ event.occurredAt) ∧
      (event.status = .started ↔ sequence % 2 = 1) := by
  have htimes : ¬previous.any (fun earlier => event.occurredAt < earlier.occurredAt) = true ↔
      ∀ earlier ∈ previous, earlier.occurredAt ≤ event.occurredAt := by
    cases previous <;> simp
  unfold checkEvent
  rw [raiseIf_bind_eq_ok, not_or, not_or, not_or, not_not, not_not, not_not, htimes]
  by_cases hodd : sequence % 2 = 1 <;> simp [hodd, and_assoc]

theorem checkChain_concat (events : List DailyPaperWorkflowEvent)
    (previous : Option DailyPaperWorkflowEvent) (sequence : ℕ) :
    checkChain workflowId previous sequence (events ++ [event]) = .ok () ↔
      checkChain workflowId previous sequence events = .ok () ∧
        checkEvent workflowId (events.getLast?.or previous) (sequence + events.length) event =
          .ok () := by
  induction events generalizing previous sequence with
  | nil =>
    cases h : checkEvent workflowId previous sequence event with
    | error e => simp [checkChain, h]
    | ok u => simp [checkChain, h]
  | cons first rest ih =>
    have hlast : (first :: rest).getLast?.or previous = rest.getLast?.or (some first) := by
      cases h : rest.getLast? with
      | none => simp [List.getLast?_eq_none_iff.mp h]
      | some last => simp [List.getLast?_cons, h]
    have hlength : sequence + (first :: rest).length = sequence + 1 + rest.length := by
      rw [List.length_cons]
      omega
    simp only [List.cons_append, checkChain, bind_eq_ok, ih, hlast, hlength]
    constructor
    · rintro ⟨u, hfirst, hrest, hevent⟩
      exact ⟨⟨u, hfirst, hrest⟩, hevent⟩
    · rintro ⟨⟨u, hfirst, hrest⟩, hevent⟩
      exact ⟨u, hfirst, hrest, hevent⟩

@[simp] theorem not_dangling_nil : ¬Dangling [] := by
  rintro ⟨event, h, -⟩
  cases h

@[simp] theorem dangling_concat : Dangling (events ++ [event]) ↔ event.status = .started := by
  simp [Dangling]

/-- The attempts of a readable chain alternate, so a dangling one has an odd number of events. -/
theorem Readable.dangling_iff (h : Readable workflowId store) :
    Dangling store.events ↔ store.events.length % 2 = 1 := by
  unfold Readable at h
  rcases List.eq_nil_or_concat store.events with heq | ⟨init, last, heq⟩
  · rw [heq]
    simp
  · rw [heq, List.concat_eq_append] at h ⊢
    have hlast := checkEvent_eq_ok.mp ((checkChain_concat init none 1).mp h).2
    rw [dangling_concat, hlast.2.2.2.2, List.length_append, List.length_singleton]
    omega

theorem listEvents_eq_ok {read : List DailyPaperWorkflowEvent} :
    store.listEvents workflowId = .ok read ↔ Readable workflowId store ∧ read = store.events := by
  unfold LocalDailyPaperWorkflowStore.listEvents Readable
  cases checkChain workflowId none 1 store.events with
  | error e => simp
  | ok u => simp [pure_eq_ok, eq_comm]

theorem Readable.listEvents (h : Readable workflowId store) :
    store.listEvents workflowId = .ok store.events :=
  listEvents_eq_ok.mpr ⟨h, rfl⟩

theorem checkChain_error {e : DailyPaperWorkflowError}
    (h : checkChain workflowId previous sequence events = .error e) : e ≠ .retryExhausted := by
  induction events generalizing previous sequence with
  | nil => cases h
  | cons event rest ih =>
    rcases bind_eq_error.mp h with hevent | ⟨_, -, hrest⟩
    · unfold checkEvent at hevent
      rcases raiseIf_bind_eq_error.mp hevent with ⟨-, rfl⟩ | ⟨-, hparity⟩
      · simp
      · split at hparity <;> obtain ⟨-, rfl⟩ := raiseIf_eq_error.mp hparity <;> simp
    · exact ih hrest

theorem listEvents_error {e : DailyPaperWorkflowError}
    (h : store.listEvents workflowId = .error e) : e ≠ .retryExhausted := by
  rcases bind_eq_error.mp h with hchain | ⟨_, -, hpure⟩
  · exact checkChain_error hchain
  · cases hpure

theorem listEvents_eq_error (h : ¬Readable workflowId store) :
    ∃ e, e ≠ .retryExhausted ∧ store.listEvents workflowId = .error e := by
  cases hread : store.listEvents workflowId with
  | error e => exact ⟨e, listEvents_error hread, rfl⟩
  | ok read => exact absurd (listEvents_eq_ok.mp hread).1 h

theorem create_eq_ok {result : DailyPaperWorkflowEvent}
    (h : DailyPaperWorkflowEvent.create event = .ok result) :
    event.reasonCode.all reasonCodeValid = true ∧ result = event := by
  unfold DailyPaperWorkflowEvent.create at h
  obtain ⟨-, h⟩ := raiseIf_bind_eq_ok.mp h
  obtain ⟨hreason, h⟩ := raiseIf_bind_eq_ok.mp h
  refine ⟨?_, ?_⟩
  · cases hcode : event.reasonCode with
    | none => rfl
    | some code => simpa [hcode] using hreason
  · cases hstatus : event.status <;> rw [hstatus] at h <;>
      exact (Except.ok.inj (raiseIf_bind_eq_ok.mp h).2).symm

/-- The event that the chain accepts next carries what the caller gave and links to the last one. -/
theorem nextEvent_eq_ok (h : store.nextEvent workflowId status occurredAt reasonCode terminalId = .ok event) :
    Readable workflowId store ∧ (Dangling store.events ↔ status ≠ .started) ∧
      reasonCode.all reasonCodeValid = true ∧
      event = ⟨workflowId, store.events.length + 1, store.events.getLast?.map (·.eventId), status,
        occurredAt, reasonCode, terminalId⟩ := by
  obtain ⟨existing, hexisting, h⟩ := bind_eq_ok.mp h
  obtain ⟨hread, rfl⟩ := listEvents_eq_ok.mp hexisting
  obtain ⟨hparity, h⟩ := raiseIf_bind_eq_ok.mp h
  obtain ⟨hreason, hevent⟩ := create_eq_ok h
  refine ⟨hread, ?_, hreason, hevent⟩
  have hparity' : store.events.length % 2 = 0 ↔ status = .started := by simpa using hparity
  rw [hread.dangling_iff, Ne, ← hparity']
  omega

theorem nextEvent_of (hread : Readable workflowId store)
    (hdangling : Dangling store.events ↔ status ≠ .started)
    (hvalid : DailyPaperWorkflowEvent.create
      ⟨workflowId, store.events.length + 1, store.events.getLast?.map (·.eventId), status,
        occurredAt, reasonCode, terminalId⟩ = .ok event) :
    store.nextEvent workflowId status occurredAt reasonCode terminalId = .ok event := by
  have hparity : store.events.length % 2 = 0 ↔ status = .started := by
    rw [hread.dangling_iff] at hdangling
    by_cases hstarted : status = .started <;> simp [hstarted] at hdangling ⊢ <;> omega
  unfold LocalDailyPaperWorkflowStore.nextEvent
  rw [hread.listEvents, ok_bind, raiseIf_neg (by simpa using hparity), ok_bind]
  exact hvalid

/-- Only an event from before the last one makes the chain unreadable. -/
theorem readable_append
    (h : store.nextEvent workflowId status occurredAt reasonCode terminalId = .ok event)
    (hevents : after.events = store.events ++ [event]) :
    Readable workflowId after ↔ ∀ last ∈ store.events.getLast?, last.occurredAt ≤ occurredAt := by
  obtain ⟨hread, hdangling, -, rfl⟩ := nextEvent_eq_ok h
  unfold Readable
  rw [hevents, checkChain_concat, checkEvent_eq_ok]
  have hstatus : status = .started ↔ (1 + store.events.length) % 2 = 1 := by
    rw [hread.dangling_iff] at hdangling
    by_cases hstarted : status = .started <;> simp [hstarted] at hdangling ⊢ <;> omega
  constructor
  · rintro ⟨-, -, -, -, htimes, -⟩ last hlast
    refine htimes last ?_
    rw [Option.mem_def.mp hlast]
    rfl
  · intro htimes
    refine ⟨hread, rfl, Nat.add_comm _ _, ?_, ?_, hstatus⟩
    · rw [Option.or_none]
    · rw [Option.or_none]
      exact htimes

@[simp] theorem attempts_nil : attempts [] = 0 := rfl

@[simp] theorem attempts_concat : attempts (events ++ [event]) =
    attempts events + if event.status = .started then 1 else 0 := by
  by_cases h : event.status = .started <;> simp [attempts, h]

/-- The constructor accepts the fields of an event of this status. -/
def EventFieldsValid (status : DailyPaperWorkflowEventStatus) (reasonCode : Option String)
    (terminalId : Option ContentId) : Prop :=
  reasonCode.all reasonCodeValid = true ∧
    match status with
    | .started => reasonCode = none ∧ terminalId = none
    | .completed => reasonCode = none ∧ terminalId ≠ none
    | .rejected | .failed => reasonCode ≠ none ∧ terminalId = none

theorem create_of_fields (hsequence : event.sequence ≠ 0) :
    (∃ result, DailyPaperWorkflowEvent.create event = .ok result) ↔
      EventFieldsValid event.status event.reasonCode event.terminalId := by
  unfold DailyPaperWorkflowEvent.create EventFieldsValid
  have hreason : ¬event.reasonCode.any (!reasonCodeValid ·) = true ↔
      event.reasonCode.all reasonCodeValid = true := by
    cases event.reasonCode <;> simp
  simp only [raiseIf_bind_eq_ok, hreason, hsequence, not_false_iff, true_and, exists_and_left]
  refine and_congr_right fun _ => ?_
  cases event.status <;> simp [raiseIf_bind_eq_ok, pure_eq_ok]

namespace LocalDailyPaperWorkflowStore

/-- `append_event`, which reads the chain again after its lock -/
def appendEvent (workflowId : ContentId) (store : LocalDailyPaperWorkflowStore) (fate : WriteFate)
    (status : DailyPaperWorkflowEventStatus) (occurredAt : Instant) (reasonCode : Option String)
    (terminalId : Option ContentId) :
    Except DailyPaperWorkflowError (Option DailyPaperWorkflowEvent) × LocalDailyPaperWorkflowStore :=
  match store.writeEvent workflowId fate status occurredAt reasonCode terminalId with
  | (.error e, after) => (.error e, after)
  | (.ok (), after) => ((after.listEvents workflowId).map (·.getLast?), after)

end LocalDailyPaperWorkflowStore

open LocalDailyPaperWorkflowStore

/-- An append raises and leaves the chain as it was, or leaves a readable one, exactly when nothing is written, the
writer refuses the event, or the event is not from before the last one. -/
theorem appendEvent_preserves_iff {fate : WriteFate} (hread : Readable workflowId store) :
    ((∃ e, appendEvent workflowId store fate status occurredAt reasonCode terminalId = (.error e, store)) ∨
      Readable workflowId (appendEvent workflowId store fate status occurredAt reasonCode terminalId).2) ↔
      fate = .lost ∨ ¬(Dangling store.events ↔ status ≠ .started) ∨
        ¬EventFieldsValid status reasonCode terminalId ∨
        ∀ last ∈ store.events.getLast?, last.occurredAt ≤ occurredAt := by
  unfold appendEvent writeEvent
  cases hnext : store.nextEvent workflowId status occurredAt reasonCode terminalId with
  | error e =>
    simp only [Prod.mk.injEq, and_true, Except.error.injEq, exists_eq', true_or, true_iff]
    refine .inr ?_
    by_contra hcontra
    simp only [not_or, not_not] at hcontra
    obtain ⟨hdangling, hfields, -⟩ := hcontra
    have hcreated : ∃ event, DailyPaperWorkflowEvent.create ⟨workflowId, store.events.length + 1,
        store.events.getLast?.map (·.eventId), status, occurredAt, reasonCode, terminalId⟩ = .ok event :=
      (create_of_fields (Nat.succ_ne_zero _)).mpr hfields
    obtain ⟨event, hevent⟩ := hcreated
    rw [nextEvent_of hread hdangling hevent] at hnext
    cases hnext
  | ok event =>
    obtain ⟨-, hdangling, -, -⟩ := nextEvent_eq_ok hnext
    have hfields : EventFieldsValid status reasonCode terminalId := by
      obtain ⟨existing, -, hcreated⟩ := bind_eq_ok.mp hnext
      obtain ⟨-, hcreated⟩ := raiseIf_bind_eq_ok.mp hcreated
      exact (create_of_fields (Nat.succ_ne_zero _)).mp ⟨event, hcreated⟩
    have hchanged : ∀ e, ¬(.error e, { store with events := store.events ++ [event] }) =
        ((.error e : Except DailyPaperWorkflowError (Option DailyPaperWorkflowEvent)), store) := by
      intro e h
      have hevents := congrArg (fun pair => pair.2.events.length) h
      simp at hevents
    have happended : Readable workflowId { store with events := store.events ++ [event] } ↔
        ∀ last ∈ store.events.getLast?, last.occurredAt ≤ occurredAt := readable_append hnext rfl
    simp only [hdangling, hfields, not_true_eq_false, false_or]
    cases fate with
    | lost => exact ⟨fun _ => .inl rfl, fun _ => .inl ⟨_, rfl⟩⟩
    | unconfirmed =>
      simp only [reduceCtorEq, false_or, happended]
      refine or_iff_right_of_imp ?_
      rintro ⟨e, h⟩
      obtain rfl := Except.error.inj (congrArg Prod.fst h)
      exact absurd h (hchanged _)
    | durable =>
      simp only [reduceCtorEq, false_or, happended]
      refine or_iff_right_of_imp ?_
      rintro ⟨e, h⟩
      have hevents := congrArg (fun pair => pair.2.events.length) h
      simp at hevents

/-- A failure recorded before its start is written, and then the chain cannot be read any more. -/
theorem backward_clock_breaks_chain :
    Readable (.digest 1) ⟨none, none, [⟨.digest 1, 1, none, .started, 20, none, none⟩]⟩ ∧
      (appendEvent (.digest 1) ⟨none, none, [⟨.digest 1, 1, none, .started, 20, none, none⟩]⟩ .durable .failed 10
        (some "WORKER_FAILED") none).1 = .error (.error "workflow event chain is broken") ∧
      (appendEvent (.digest 1) ⟨none, none, [⟨.digest 1, 1, none, .started, 20, none, none⟩]⟩ .durable .failed 10
        (some "WORKER_FAILED") none).2.events.length = 2 ∧
      ¬Readable (.digest 1) (appendEvent (.digest 1)
        ⟨none, none, [⟨.digest 1, 1, none, .started, 20, none, none⟩]⟩ .durable .failed 10
        (some "WORKER_FAILED") none).2 := by
  decide +kernel

theorem appendEvent_preserves_forward :
    (∃ e, appendEvent (.digest 1) .empty .durable .started 20 none none = (.error e, .empty)) ∨
      Readable (.digest 1) (appendEvent (.digest 1) .empty .durable .started 20 none none).2 := by
  apply (appendEvent_preserves_iff (by decide)).mpr
  exact .inr (.inr (.inr fun last hlast => by cases hlast))

end Lemmas

end IndiaSwing
