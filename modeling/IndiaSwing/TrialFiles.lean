import IndiaSwing.EventFiles
import IndiaSwing.TrialLifecycleStore

namespace IndiaSwing

open CreateOnce
open ExceptGuards

def TrialLifecycleEvent.fileName (event : TrialLifecycleEvent) : EventFileName :=
  (event.sequence, event.eventId)

/-- The stores that the lifecycle reads and the event directory of each trial. -/
structure TrialFiles where
  registry : LocalTrialRegistry
  comparisons : List TrialEvaluationComparisonResult
  aggregates : Option (List TrialFamilyEvaluationAggregate)
  directories : ContentId → Directory EventFileName TrialLifecycleEvent

namespace TrialFiles

variable (files : TrialFiles)

/-- The stores with the events that have been read so far. -/
def withEvents (events : List TrialLifecycleEvent) : TrialStores :=
  ⟨files.registry, events, files.comparisons, files.aggregates⟩

def listEvents (trialId : ContentId) : Except TrialError (List TrialLifecycleEvent) := do
  let registration ← files.registry.get trialId
  match (files.directories trialId).scan EventFileName.sequence with
  | none => throw (.integrity "trial event file set is invalid")
  | some entries =>
    raiseIf (∃ entry ∈ entries, entry.1 ≠ entry.2.fileName)
      (.integrity "trial event filename identity mismatch")
    let _ ← validateTrialHistory registration (entries.map (·.2))
    return entries.map (·.2)

/-- `_reject_contaminated_confirmatory_successor`, which reads the directory of the parent. -/
def rejectContaminated (registration : TrialRegistration) : Except TrialError Unit :=
  match registration.parentTrialId with
  | none => .ok ()
  | some parentId => do
    let parent ← (files.registry.get parentId).mapError
      fun _ => .conflict "successor parent is not registered"
    let parentEvents ← files.listEvents parent.trialId
    raiseIf (parentEvents.any (·.eventType = .holdoutUnsealed) = true ∧
      registration.stage = .confirmatory ∧ registration.holdoutId = parent.holdoutId)
      (.conflict "confirmatory successor cannot reuse its parent's unsealed holdout")

def checkStart (registration : TrialRegistration) (request : TrialEventRequest)
    (existing : List TrialLifecycleEvent) : Except TrialError Unit :=
  if existing = [] ∧ request.eventType = .trialStarted then files.rejectContaminated registration
  else .ok ()

/-- The checks of `append`. -/
def planAppend (request : TrialEventRequest) : Except TrialError (Plan TrialLifecycleEvent) := do
  let registration ← files.registry.get request.trialId
  let outcome ← (files.withEvents []).outcome registration request
  let familyAggregateId ← (files.withEvents []).promotion registration request
  let existing ← files.listEvents request.trialId
  files.checkStart registration request existing
  (files.withEvents existing).confirmPromotion registration request existing
  let event ← TrialLifecycleEvent.create (TrialStores.draft request existing outcome familyAggregateId)
  let _ ← validateTrialHistory registration (existing ++ [event])
  return .write event

def createOnce (request : TrialEventRequest) (event : TrialLifecycleEvent) (killedAfter : ℕ) : TrialFiles :=
  { files with
    directories := Function.update files.directories request.trialId
      ((files.directories request.trialId).killedWrite event.fileName event killedAfter) }

def log : Log TrialFiles TrialEventRequest TrialLifecycleEvent TrialError where
  list files request := files.listEvents request.trialId
  plan := planAppend
  write := createOnce

end TrialFiles

/-- The other writes that appends depend on. -/
inductive TrialStoreChange
  | register (registration : TrialRegistration)
  | persistComparison (comparison : TrialEvaluationComparisonResult)
  | persistAggregate (aggregate : TrialFamilyEvaluationAggregate)

def TrialFiles.change (files : TrialFiles) : TrialStoreChange → TrialFiles
  | .register registration =>
    match files.registry.register registration with
    | .ok (_, registry) => { files with registry }
    | .error _ => files
  | .persistComparison comparison => { files with comparisons := files.comparisons ++ [comparison] }
  | .persistAggregate aggregate => { files with aggregates := files.aggregates.map (· ++ [aggregate]) }

/-- The files of the stores. -/
def TrialStores.files (stores : TrialStores) : TrialFiles where
  registry := stores.registry
  comparisons := stores.comparisons
  aggregates := stores.aggregates
  directories trialId := filesOf TrialLifecycleEvent.fileName (stores.eventsOf trialId)

section Lemmas

variable {stores : TrialStores} {registration : TrialRegistration} {event : TrialLifecycleEvent}
variable {events : List TrialLifecycleEvent} {history : TrialHistory} {request : TrialEventRequest}
variable {killedAfter : ℕ}

theorem TrialLifecycleEvent.fileName_sequence (event : TrialLifecycleEvent) :
    EventFileName.sequence event.fileName = event.sequence := rfl

theorem validateTrialHistory_numbered (h : validateTrialHistory registration events = .ok history) :
    Numbered TrialLifecycleEvent.sequence events := by
  unfold validateTrialHistory at h
  induction events using List.reverseRecOn generalizing history with
  | nil => rfl
  | append_singleton before event ih =>
    obtain ⟨middle, hbefore, hevent⟩ := (validateTrialEvents_concat before 1 .initial).mp h
    refine numbered_concat.mpr ⟨ih hbefore, ?_⟩
    obtain ⟨-, hlinks⟩ := raiseIf_bind_eq_ok.mp (validateTrialEvent_links hevent)
    obtain ⟨hsequence, -⟩ := raiseIf_bind_eq_ok.mp hlinks
    rw [not_not.mp hsequence, Nat.add_comm]

/-- Reading the directory of a valid history gives the history. -/
theorem files_listTrialEvents (hvalid : TrialStoresValid stores) (trialId : ContentId) :
    stores.files.listEvents trialId = stores.listEvents trialId := by
  unfold TrialFiles.listEvents TrialStores.listEvents
  rw [show stores.files.registry = stores.registry from rfl]
  cases hfound : stores.registry.get trialId with
  | error e => rfl
  | ok registration =>
    obtain ⟨hmem, hid⟩ := registry_get_ok.mp hfound
    obtain ⟨history, hhistory⟩ := hvalid.validated registration hmem
    rw [hid] at hhistory
    have hscan := scan_numbered (validateTrialHistory_numbered hhistory) TrialLifecycleEvent.fileName_sequence
    rw [ok_bind, ok_bind]
    show (match (filesOf TrialLifecycleEvent.fileName (stores.eventsOf trialId)).scan _ with
      | none => _
      | some entries => _) = _
    rw [hscan]
    simp [List.map_map, Function.comp_def]

theorem files_rejectContaminated (hvalid : TrialStoresValid stores) (registration : TrialRegistration) :
    stores.files.rejectContaminated registration = stores.rejectContaminated registration := by
  unfold TrialFiles.rejectContaminated TrialStores.rejectContaminated
  cases registration.parentTrialId with
  | none => rfl
  | some parentId =>
    have hread : stores.files.listEvents = stores.listEvents := funext (files_listTrialEvents hvalid)
    rw [hread, show stores.files.registry = stores.registry from rfl]

/-- An append over the files passes its checks exactly if the stores take the event. -/
theorem files_planTrialAppend (hvalid : TrialStoresValid stores) :
    stores.files.planAppend request = (stores.append request).map (.write ·.1) := by
  have hread : stores.files.listEvents = stores.listEvents := funext (files_listTrialEvents hvalid)
  have hregistry : stores.files.registry = stores.registry := rfl
  have houtcome (registration : TrialRegistration) :
      (stores.files.withEvents []).outcome registration request = stores.outcome registration request := rfl
  have hpromotion (registration : TrialRegistration) :
      (stores.files.withEvents []).promotion registration request = stores.promotion registration request := rfl
  have hstart (registration : TrialRegistration) (existing : List TrialLifecycleEvent) :
      stores.files.checkStart registration request existing =
        stores.checkStart registration request existing := by
    unfold TrialFiles.checkStart TrialStores.checkStart
    rw [files_rejectContaminated hvalid]
  have hconfirm (registration : TrialRegistration) (existing : List TrialLifecycleEvent) :
      (stores.files.withEvents existing).confirmPromotion registration request existing =
        stores.confirmPromotion registration request existing := rfl
  unfold TrialFiles.planAppend TrialStores.append
  rw [hread, hregistry]
  simp only [houtcome, hpromotion, hstart, hconfirm]
  show _ = (fun pair : TrialLifecycleEvent × TrialStores => Plan.write pair.1) <$> _
  simp only [map_bind, map_pure]

theorem files_planTrialAppend_write (hvalid : TrialStoresValid stores)
    (h : stores.files.planAppend request = .ok (.write event)) :
    ∃ registration, Appended stores { stores with events := stores.events ++ [event] } request registration
      event ∧ stores.append request = .ok (event, { stores with events := stores.events ++ [event] }) := by
  rw [files_planTrialAppend hvalid] at h
  cases happend : stores.append request with
  | error e =>
    rw [happend] at h
    cases h
  | ok pair =>
    obtain ⟨stored, after⟩ := pair
    rw [happend] at h
    obtain rfl : stored = event := by simpa [Except.map] using h
    obtain ⟨registration, happended⟩ := trialAppend_ok happend
    obtain rfl := happended.written
    exact ⟨registration, happended, rfl⟩

/-- The history that an append found is numbered, and its event has the next number. -/
theorem Appended.numbered {after : TrialStores} (h : Appended stores after request registration event) :
    Numbered TrialLifecycleEvent.sequence (stores.eventsOf request.trialId) ∧
      event.sequence = (stores.eventsOf request.trialId).length + 1 := by
  obtain ⟨history, hhistory⟩ := h.validated
  exact numbered_concat.mp (validateTrialHistory_numbered hhistory)

/-- A finished write of the next event makes the files those of the stores with the event. -/
theorem files_trialCreateOnce (hvalid : TrialStoresValid stores)
    (h : stores.files.planAppend request = .ok (.write event)) (hkilled : 4 ≤ killedAfter) :
    stores.files.createOnce request event killedAfter =
      TrialStores.files { stores with events := stores.events ++ [event] } := by
  obtain ⟨registration, happended, -⟩ := files_planTrialAppend_write hvalid h
  obtain ⟨hnumbered, hnext⟩ := happended.numbered
  have hunused := hnumbered.unused TrialLifecycleEvent.fileName_sequence hnext
  have hwritten : (filesOf TrialLifecycleEvent.fileName (stores.eventsOf request.trialId)).killedWrite
      event.fileName event killedAfter =
        filesOf TrialLifecycleEvent.fileName (stores.eventsOf request.trialId ++ [event]) := by
    rw [killedWrite_finished hunused hkilled, filesOf_concat]
  unfold TrialFiles.createOnce TrialStores.files
  congr 1
  funext trialId
  rw [eventsOf_concat, happended.event_trial]
  by_cases hid : trialId = request.trialId
  · subst hid
    rw [Function.update_self, hwritten, if_pos rfl]
  · rw [Function.update_of_ne hid, if_neg (Ne.symm hid), List.append_nil]

/-- The trial that an append names is registered. -/
def TrialFiles.Registered (files : TrialFiles) (request : TrialEventRequest) : Prop :=
  ∃ registration, files.registry.get request.trialId = .ok registration

/-- The files of valid stores. -/
def TrialFiles.Clean (files : TrialFiles) : Prop :=
  ∃ stores : TrialStores, TrialStoresValid stores ∧ files = stores.files

theorem trialLog_lawful : TrialFiles.log.Lawful TrialFiles.Registered AppendsLast TrialFiles.Clean where
  readable := by
    rintro _ request ⟨stores, hvalid, rfl⟩ ⟨registration, hfound⟩
    obtain ⟨hmem, hid⟩ := registry_get_ok.mp hfound
    refine ⟨stores.eventsOf request.trialId, (files_listTrialEvents hvalid _).trans ?_⟩
    rw [← hid]
    exact hvalid.listEvents hmem
  known := by
    intro files request event h
    obtain ⟨registration, hfound, -⟩ := bind_eq_ok.mp h
    exact ⟨registration, hfound⟩
  unstarted := by
    intro files request event
    show files.createOnce request event 0 = files
    unfold TrialFiles.createOnce
    rw [killedWrite_zero, Function.update_eq_self]
  finished := by
    rintro _ request event killedAfter ⟨stores, hvalid, rfl⟩ h hkilled
    exact (files_trialCreateOnce hvalid h hkilled).trans (files_trialCreateOnce hvalid h le_rfl).symm
  extended := by
    rintro _ request event history ⟨stores, hvalid, rfl⟩ h hlist
    obtain ⟨registration, happended, -⟩ := files_planTrialAppend_write hvalid h
    have hafter := happended.valid hvalid
    have hread : stores.files.listEvents request.trialId = .ok history := hlist
    rw [files_listTrialEvents hvalid] at hread
    obtain rfl := trialListEvents_ok hread
    refine ⟨stores.eventsOf request.trialId ++ [event], ?_, rfl⟩
    show (stores.files.createOnce request event 4).listEvents request.trialId = _
    rw [files_trialCreateOnce hvalid h le_rfl, files_listTrialEvents hafter, ← happended.trial,
      hafter.listEvents happended.registered, eventsOf_concat, happended.event_trial, if_pos happended.trial.symm]
  between := by
    rintro _ request event killedAfter ⟨stores, hvalid, rfl⟩ h hstarted hkilled
    obtain ⟨registration, happended, -⟩ := files_planTrialAppend_write hvalid h
    obtain ⟨hnumbered, hnext⟩ := happended.numbered
    have hunused := hnumbered.unused TrialLifecycleEvent.fileName_sequence hnext
    have hfound : stores.registry.get request.trialId = .ok registration :=
      registry_get_ok.mpr ⟨happended.registered, happended.trial⟩
    refine ⟨.integrity "trial event file set is invalid", ?_⟩
    show (stores.files.createOnce request event killedAfter).listEvents request.trialId = _
    have hscan : ((stores.files.createOnce request event killedAfter).directories request.trialId).scan
        EventFileName.sequence = none := by
      unfold TrialFiles.createOnce
      dsimp only
      rw [Function.update_self]
      exact killedWrite_between hunused hstarted hkilled
    unfold TrialFiles.listEvents
    rw [show (stores.files.createOnce request event killedAfter).registry.get request.trialId =
      .ok registration from hfound, ok_bind, hscan]
    rfl
  kept := by
    rintro _ request event ⟨stores, hvalid, rfl⟩ h
    obtain ⟨registration, happended, -⟩ := files_planTrialAppend_write hvalid h
    exact ⟨_, happended.valid hvalid, files_trialCreateOnce hvalid h le_rfl⟩

theorem change_clean {files : TrialFiles} (h : files.Clean) (change : TrialStoreChange) :
    (files.change change).Clean := by
  obtain ⟨stores, hvalid, rfl⟩ := h
  cases change with
  | register registration =>
    refine ⟨trialStep stores (.register registration), trialStep_valid hvalid _, ?_⟩
    have hregistry : stores.files.registry = stores.registry := rfl
    cases hregister : stores.registry.register registration with
    | error e => simp [TrialFiles.change, trialStep, hregistry, hregister]
    | ok pair => simp [TrialFiles.change, trialStep, hregister, TrialStores.files, TrialStores.eventsOf]
  | persistComparison comparison =>
    exact ⟨trialStep stores (.persistComparison comparison), trialStep_valid hvalid _, rfl⟩
  | persistAggregate aggregate =>
    exact ⟨trialStep stores (.persistAggregate aggregate), trialStep_valid hvalid _, rfl⟩

end Lemmas

end IndiaSwing
