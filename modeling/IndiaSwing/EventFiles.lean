import IndiaSwing.Lib.CreateOnce
import IndiaSwing.LedgerRuns

namespace IndiaSwing

open ActionRuns
open CreateOnce
open ExceptGuards

/-- The name of an event file: the sequence number and the event id. -/
abbrev EventFileName := ℕ × ContentId

def EventFileName.sequence (name : EventFileName) : ℕ := name.1

def PaperTradeEvent.fileName (event : PaperTradeEvent) : EventFileName := (event.sequence, event.eventId)

/-- The registrations of `LocalPaperTradeLedger` and the event directory of each of them. -/
structure PaperTradeLedgerFiles where
  registrations : List PaperTradeRegistration
  directories : Digest → Directory EventFileName PaperTradeEvent

/-- The arguments of `append`. -/
structure PaperEventRequest where
  registrationId : Digest
  occurredAt : Instant
  body : PaperTradeEventBody

namespace PaperTradeLedgerFiles

variable (files : PaperTradeLedgerFiles)

def getRegistration (registrationId : Digest) : Except PaperError PaperTradeRegistration :=
  LocalPaperTradeLedger.getRegistration ⟨files.registrations, fun _ => []⟩ registrationId

def register (value : PaperTradeRegistration) : PaperTradeLedgerFiles :=
  match LocalPaperTradeLedger.registerValue ⟨files.registrations, fun _ => []⟩ value with
  | .ok (_, ledger) => { files with registrations := ledger.registrations }
  | .error _ => files

def listEvents (registrationId : Digest) : Except PaperError (List PaperTradeEvent) := do
  let registration ← files.getRegistration registrationId
  match (files.directories registration.registrationId).scan EventFileName.sequence with
  | none => throw (.integrity "paper event file set is invalid")
  | some entries =>
    raiseIf (∃ entry ∈ entries, entry.1 ≠ entry.2.fileName)
      (.integrity "paper event filename identity differs")
    validatePaperTradeHistory registration (entries.map (·.2))
    return entries.map (·.2)

/-- The checks of `append`. -/
def planAppend (request : PaperEventRequest) : Except PaperError (Plan PaperTradeEvent) := do
  let registration ← files.getRegistration request.registrationId
  let existing ← files.listEvents request.registrationId
  let event := nextEvent registration existing request.occurredAt request.body
  validatePaperTradeHistory registration (existing ++ [event])
  return .write event

/-- `_create_once` in the directory of the registration. -/
def createOnce (request : PaperEventRequest) (event : PaperTradeEvent) (killedAfter : ℕ) :
    PaperTradeLedgerFiles :=
  { files with
    directories := Function.update files.directories request.registrationId
      ((files.directories request.registrationId).killedWrite event.fileName event killedAfter) }

def log : Log PaperTradeLedgerFiles PaperEventRequest PaperTradeEvent PaperError where
  list files request := files.listEvents request.registrationId
  plan := planAppend
  write := createOnce

end PaperTradeLedgerFiles

/-- The files of a ledger. -/
def LocalPaperTradeLedger.files (ledger : LocalPaperTradeLedger) : PaperTradeLedgerFiles where
  registrations := ledger.registrations
  directories registrationId := filesOf PaperTradeEvent.fileName (ledger.events registrationId)

section Ledger

variable {ledger : LocalPaperTradeLedger} {registration : PaperTradeRegistration}
variable {events : List PaperTradeEvent} {event : PaperTradeEvent} {status : PaperTradeStatus}
variable {registrationId : Digest} {request : PaperEventRequest}

theorem PaperTradeEvent.fileName_sequence (event : PaperTradeEvent) :
    EventFileName.sequence event.fileName = event.sequence := rfl

theorem ChainStatus.numbered (h : ChainStatus registration events status) :
    Numbered PaperTradeEvent.sequence events := by
  induction events using List.reverseRecOn generalizing status with
  | nil => rfl
  | append_singleton before event ih =>
    unfold ChainStatus at h
    rw [historyStatus_snoc] at h
    obtain ⟨current, hbefore, hevent⟩ := bind_eq_ok.mp h
    refine numbered_concat.mpr ⟨ih hbefore, ?_⟩
    obtain ⟨-, hlinked⟩ := raiseIf_bind_eq_ok.mp hevent
    obtain ⟨hlinks, -⟩ := raiseIf_bind_eq_ok.mp hlinked
    obtain ⟨hsequence, -⟩ := not_or.mp hlinks
    rw [not_not.mp hsequence, Nat.add_comm]

/-- Reading the directory of a valid chain gives the chain. -/
theorem files_listEvents (hvalid : LedgerValid ledger) (registrationId : Digest) :
    ledger.files.listEvents registrationId = ledger.listEvents registrationId := by
  have hget : ledger.files.getRegistration registrationId = ledger.getRegistration registrationId := rfl
  unfold PaperTradeLedgerFiles.listEvents LocalPaperTradeLedger.listEvents
  rw [hget]
  cases hfound : ledger.getRegistration registrationId with
  | error e => rfl
  | ok registration =>
    obtain ⟨hmem, -⟩ := getRegistration_ok hfound
    obtain ⟨status, hchain⟩ := hvalid.chains registration hmem
    have hscan := scan_numbered hchain.numbered PaperTradeEvent.fileName_sequence
    rw [ok_bind, ok_bind]
    show (match (filesOf PaperTradeEvent.fileName (ledger.events registration.registrationId)).scan _ with
      | none => _
      | some entries => _) = _
    rw [hscan]
    simp [List.map_map, Function.comp_def]

/-- An append over the files passes its checks exactly if the ledger takes the event. -/
theorem files_planAppend (hvalid : LedgerValid ledger) :
    ledger.files.planAppend request =
      (ledger.append request.registrationId request.occurredAt request.body).map (.write ·.1) := by
  have hget : ledger.files.getRegistration request.registrationId =
      ledger.getRegistration request.registrationId := rfl
  unfold PaperTradeLedgerFiles.planAppend LocalPaperTradeLedger.append
  rw [hget, files_listEvents hvalid]
  cases ledger.getRegistration request.registrationId with
  | error e => rfl
  | ok registration =>
    rw [ok_bind, ok_bind]
    cases ledger.listEvents request.registrationId with
    | error e => rfl
    | ok existing =>
      rw [ok_bind, ok_bind]
      cases hhistory : validatePaperTradeHistory registration
          (existing ++ [nextEvent registration existing request.occurredAt request.body]) with
      | error e => simp [hhistory, Except.map]
      | ok u => simp [hhistory, Except.map, pure_eq_ok]

theorem files_planAppend_write (hvalid : LedgerValid ledger)
    (h : ledger.files.planAppend request = .ok (.write event)) :
    ledger.append request.registrationId request.occurredAt request.body =
      .ok (event, ledger.storeEvent request.registrationId event) ∧
    Numbered PaperTradeEvent.sequence (ledger.events request.registrationId) ∧
      event.sequence = (ledger.events request.registrationId).length + 1 := by
  rw [files_planAppend hvalid] at h
  cases happend : ledger.append request.registrationId request.occurredAt request.body with
  | error e =>
    rw [happend] at h
    cases h
  | ok pair =>
    obtain ⟨stored, after⟩ := pair
    rw [happend] at h
    obtain rfl : stored = event := by simpa [Except.map] using h
    obtain ⟨registration, status, next, hfound, hchain, hfits, hevent, rfl⟩ := append_ok happend
    refine ⟨rfl, hchain.numbered, ?_⟩
    rw [hevent]
    rfl

/-- A finished write of the next event makes the files those of the ledger with the event. -/
theorem files_createOnce {killedAfter : ℕ} (hvalid : LedgerValid ledger)
    (h : ledger.files.planAppend request = .ok (.write event)) (hkilled : 4 ≤ killedAfter) :
    ledger.files.createOnce request event killedAfter =
      (ledger.storeEvent request.registrationId event).files := by
  obtain ⟨-, hnumbered, hnext⟩ := files_planAppend_write hvalid h
  have hunused := hnumbered.unused PaperTradeEvent.fileName_sequence hnext
  have hwritten : (filesOf PaperTradeEvent.fileName (ledger.events request.registrationId)).killedWrite
      event.fileName event killedAfter =
        filesOf PaperTradeEvent.fileName (ledger.events request.registrationId ++ [event]) := by
    rw [killedWrite_finished hunused hkilled, filesOf_concat]
  unfold PaperTradeLedgerFiles.createOnce LocalPaperTradeLedger.files
  congr 1
  funext registrationId
  by_cases hid : registrationId = request.registrationId
  · subst hid
    rw [Function.update_self, storeEvent_events, hwritten]
  · rw [Function.update_of_ne hid, storeEvent_events_ne _ hid]

/-- The registration that an append names is registered. -/
def PaperTradeLedgerFiles.Registered (files : PaperTradeLedgerFiles) (request : PaperEventRequest) : Prop :=
  ∃ registration, files.getRegistration request.registrationId = .ok registration

/-- The files of a valid ledger. -/
def PaperTradeLedgerFiles.Clean (files : PaperTradeLedgerFiles) : Prop :=
  ∃ ledger : LocalPaperTradeLedger, LedgerValid ledger ∧ files = ledger.files

def AppendsLast {δ : Type} (history : List δ) (record : δ) (extended : List δ) : Prop :=
  extended = history ++ [record]

theorem ledgerLog_lawful : PaperTradeLedgerFiles.log.Lawful PaperTradeLedgerFiles.Registered AppendsLast
    PaperTradeLedgerFiles.Clean where
  readable := by
    rintro _ request ⟨ledger, hvalid, rfl⟩ ⟨registration, hfound⟩
    have hfound' : ledger.getRegistration request.registrationId = .ok registration := hfound
    obtain ⟨hmem, hid⟩ := getRegistration_ok hfound'
    obtain ⟨status, hchain⟩ := hvalid.chains registration hmem
    refine ⟨ledger.events request.registrationId, (files_listEvents hvalid _).trans ?_⟩
    rw [hid] at hchain
    exact listEvents_of_chain hfound' hchain
  known := by
    intro files request event h
    obtain ⟨registration, hfound, -⟩ := bind_eq_ok.mp h
    exact ⟨registration, hfound⟩
  unstarted := by
    intro files request event
    show files.createOnce request event 0 = files
    unfold PaperTradeLedgerFiles.createOnce
    rw [killedWrite_zero, Function.update_eq_self]
  finished := by
    rintro _ request event killedAfter ⟨ledger, hvalid, rfl⟩ h hkilled
    exact (files_createOnce hvalid h hkilled).trans (files_createOnce hvalid h le_rfl).symm
  extended := by
    rintro _ request event history ⟨ledger, hvalid, rfl⟩ h hlist
    have happend := (files_planAppend_write hvalid h).1
    have hafter : LedgerValid (ledger.storeEvent request.registrationId event) :=
      (LedgerStep.append happend).valid hvalid
    obtain ⟨registration, status, next, hfound, hchain, hfits, hevent, -⟩ := append_ok happend
    have hhistory : history = ledger.events request.registrationId := by
      have hread : ledger.files.listEvents request.registrationId = .ok history := hlist
      rw [files_listEvents hvalid, listEvents_of_chain hfound hchain] at hread
      exact (Except.ok.inj hread).symm
    refine ⟨history ++ [event], ?_, rfl⟩
    show (ledger.files.createOnce request event 4).listEvents request.registrationId = _
    rw [files_createOnce hvalid h le_rfl, files_listEvents hafter, hhistory, ← storeEvent_events]
    have hextended : ChainStatus registration ((ledger.storeEvent request.registrationId event).events
        request.registrationId) next := by
      rw [storeEvent_events, hevent]
      exact (chainStatus_nextEvent hchain).mpr hfits
    exact listEvents_of_chain hfound hextended
  between := by
    rintro _ request event killedAfter ⟨ledger, hvalid, rfl⟩ h hstarted hkilled
    obtain ⟨-, hnumbered, hnext⟩ := files_planAppend_write hvalid h
    have hunused := hnumbered.unused PaperTradeEvent.fileName_sequence hnext
    obtain ⟨registration, hfound, -⟩ := bind_eq_ok.mp h
    have hfound' : ledger.getRegistration request.registrationId = .ok registration := hfound
    refine ⟨.integrity "paper event file set is invalid", ?_⟩
    show (ledger.files.createOnce request event killedAfter).listEvents request.registrationId = _
    have hscan : ((ledger.files.createOnce request event killedAfter).directories
        registration.registrationId).scan EventFileName.sequence = none := by
      rw [(getRegistration_ok hfound').2]
      unfold PaperTradeLedgerFiles.createOnce
      dsimp only
      rw [Function.update_self]
      exact killedWrite_between hunused hstarted hkilled
    unfold PaperTradeLedgerFiles.listEvents
    rw [show (ledger.files.createOnce request event killedAfter).getRegistration request.registrationId =
      .ok registration from hfound', ok_bind, hscan]
    rfl
  kept := by
    rintro _ request event ⟨ledger, hvalid, rfl⟩ h
    exact ⟨_, (LedgerStep.append (files_planAppend_write hvalid h).1).valid hvalid,
      files_createOnce hvalid h le_rfl⟩

theorem register_clean {files : PaperTradeLedgerFiles} (h : files.Clean) (value : PaperTradeRegistration) :
    (files.register value).Clean := by
  obtain ⟨ledger, hvalid, rfl⟩ := h
  have hregister : LocalPaperTradeLedger.registerValue ⟨ledger.registrations, fun _ => []⟩ value =
      (ledger.registerValue value).map fun pair => (pair.1, ⟨pair.2.registrations, fun _ => []⟩) := by
    unfold LocalPaperTradeLedger.registerValue
    cases ledger.registrations.find? (·.registrationId = value.registrationId) with
    | none => rfl
    | some stored => by_cases hsame : stored = value <;> simp [hsame, Except.map]
  unfold PaperTradeLedgerFiles.register
  rw [show ledger.files.registrations = ledger.registrations from rfl, hregister]
  cases hvalue : ledger.registerValue value with
  | error e => exact ⟨ledger, hvalid, rfl⟩
  | ok pair =>
    obtain ⟨stored, after⟩ := pair
    refine ⟨after, (LedgerStep.register hvalue).valid hvalid, ?_⟩
    rcases registerValue_ok hvalue with rfl | ⟨-, rfl⟩ <;> rfl

theorem clean_empty : LocalPaperTradeLedger.empty.files.Clean := ⟨_, ledgerValid_empty, rfl⟩

end Ledger

end IndiaSwing
