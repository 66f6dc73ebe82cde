import IndiaSwing.BackfillPlan
import IndiaSwing.Lib.ActionRuns

namespace IndiaSwing

open ExceptGuards KeySort

namespace Backfill

section Stores

/-- `HistoricalDailyCandleBatch`; the candles and the pages of the response are one content. -/
structure CandleBatch where
  request : DailyRequest
  observedAt : Instant
  providerVersion : String
  candles : ContentId
  deriving DecidableEq, Repr

def CandleBatch.provider (b : CandleBatch) : String := b.request.binding.provider

inductive Payload
  | batch (value : CandleBatch)
  | other (content : ContentId)
  deriving DecidableEq, Repr

def Payload.sha256 : Payload → ContentId
  | .batch b => .ofFields "HistoricalDailyCandleBatch" [b.request.requestId, .int b.observedAt,
      .text b.providerVersion, b.candles]
  | .other content => .ofFields "payload" [content]

/-- A snapshot of the data set of the provider. -/
structure StoredSnapshot where
  selectionKey : ContentId
  provider : String
  providerVersion : String
  observedAt : Instant
  payload : Payload
  deriving DecidableEq, Repr

/-- `snapshot_id` -/
def StoredSnapshot.snapshotId (s : StoredSnapshot) : ContentId :=
  .ofFields "market-snapshot-v2" [s.selectionKey, .text s.provider, .text s.providerVersion, .int s.observedAt,
    s.payload.sha256]

/-- `LocalMarketSnapshotStore.get` -/
def getSnapshot (store : List StoredSnapshot) (snapshotId : ContentId) : Option StoredSnapshot :=
  match store.filter (·.snapshotId = snapshotId) with
  | [stored] => some stored
  | _ => none

/-- `LocalMarketSnapshotStore.put` -/
def putSnapshot (store : List StoredSnapshot) (s : StoredSnapshot) : List StoredSnapshot × StoredSnapshot :=
  match store.find? (·.snapshotId = s.snapshotId) with
  | some stored => (store, stored)
  | none => (store ++ [s], s)

inductive GapClassification
  | emptyProviderResponse
  | providerRequestRejection
  deriving DecidableEq, Repr

/-- `HistoricalBackfillSessionGapEvidence` -/
structure GapEvidence where
  planId : ContentId
  requestId : ContentId
  provider : String
  providerVersion : String
  providerInstrumentId : String
  listingKey : String
  securitySeries : String
  isin : String
  session : SessionDate
  responseObservedAt : Instant
  normalizedResponseSha256 : ContentId
  classification : GapClassification
  deriving DecidableEq, Repr

/-- `HistoricalBackfillCompletion` -/
structure Completion where
  requestId : ContentId
  snapshotId : ContentId
  completedAt : Instant
  recoveredExisting : Bool
  deriving DecidableEq, Repr

/-- `HistoricalBackfillProgress` -/
structure Progress where
  planId : ContentId
  provider : String
  connectorVersion : String
  completions : List Completion
  updatedAt : Instant
  deriving DecidableEq, Repr

def Progress.requestIds (p : Progress) : List ContentId := p.completions.map (·.requestId)

end Stores

section Runner

/-- What a runner is made with: the provider and the version of its connector, and whether it has a gap
store. -/
structure Runner where
  provider : String
  providerVersion : String
  hasGapStore : Bool
  deriving DecidableEq, Repr

/-- The options of a call of `run`. -/
structure RunCall where
  maximumRequests : Option ℕ
  quarantineEmptyResponses : Bool
  quarantineRequestRejections : Bool
  deriving DecidableEq, Repr

def RunCall.quarantineEnabled (call : RunCall) : Bool :=
  call.quarantineEmptyResponses || call.quarantineRequestRejections

/-- What the errors of a provider about one session carry. -/
structure ResponseEvidence where
  provider : String
  providerVersion : String
  providerInstrumentId : String
  session : SessionDate
  observedAt : Instant
  normalizedResponseSha256 : ContentId
  deriving DecidableEq, Repr

/-- What `fetch_historical_daily` and the codec of the store make of a request. -/
inductive ProviderAnswer
  | batch (value : CandleBatch)
  | unsupported
  | empty (evidence : ResponseEvidence) (exact : Bool)
  | rejected (evidence : ResponseEvidence) (exact : Bool)
  | raises
  deriving DecidableEq, Repr

inductive RunError
  | invalidCall
  | connectorMismatch
  | clockBehind
  | provider
  | collection
  | responseLineage
  | gapNeedsOption (classification : GapClassification)
  | safetyCeiling
  | completeAndUnresolved
  | gapDisagreesWithPlan
  | multipleGaps
  | gapConflict
  | progressDisagreesWithPlan
  | progressRegress
  | snapshotUnavailable
  | snapshotLineage
  deriving DecidableEq, Repr

inductive Outcome
  | finished (progress : Progress)
  | failed (error : RunError)
  | killed
  deriving DecidableEq, Repr

/-- A run between two of its writes. -/
structure ActiveRun where
  call : RunCall
  gaps : List GapEvidence
  progress : Progress
  remaining : List DailyRequest
  processed : ℕ
  consecutiveRejections : ℕ
  pending : Option (DailyRequest × StoredSnapshot × Bool)
  deriving DecidableEq, Repr

/-- The stores, the clock, the run that is going on and how the last one ended. -/
structure System where
  snapshots : List StoredSnapshot
  gaps : List GapEvidence
  progress : Option Progress
  clock : Instant
  active : Option ActiveRun
  outcome : Option Outcome
  deriving DecidableEq, Repr

/-- One runner at a time is started, goes on or is killed. The delays are those of the clock; the answer is
that of the provider, if it is asked. -/
inductive Event
  | start (call : RunCall) (gapDelay progressDelay : ℕ)
  | advance (answer : ProviderAnswer) (delay : ℕ)
  | kill
  deriving DecidableEq, Repr

variable {hex : ContentId → String} (runner : Runner) (plan : BackfillPlan hex)

/-- `_now` of a reading of the clock -/
def checkNow (reading notBefore : Instant) : Except RunError Unit :=
  raiseIf (reading < notBefore) .clockBehind

/-- `_verify_gap_lineage` -/
def checkGapLineage (evidence : GapEvidence) (validatedAt : Instant) : Except RunError Unit :=
  match plan.1.requests.find? (·.requestId = evidence.requestId) with
  | none => .error .gapDisagreesWithPlan
  | some request =>
    raiseIf (evidence.planId ≠ plan.1.planId ∨ evidence.provider ≠ plan.1.provider ∨
      evidence.providerVersion ≠ runner.providerVersion ∨
      evidence.providerInstrumentId ≠ request.binding.providerInstrumentId ∨
      evidence.listingKey ≠ request.binding.listingKey ∨
      evidence.securitySeries ≠ request.binding.securitySeries ∨ evidence.isin ≠ request.binding.isin ∨
      evidence.session ∉ request.sessions ∨ evidence.responseObservedAt < request.requestedAt ∨
      validatedAt < evidence.responseObservedAt) .gapDisagreesWithPlan

/-- The option that a stored gap needs. -/
def RunCall.allows (call : RunCall) : GapClassification → Bool
  | .emptyProviderResponse => call.quarantineEmptyResponses
  | .providerRequestRejection => call.quarantineRequestRejections

/-- The loop over the stored gaps. -/
def loadGaps (call : RunCall) (validatedAt : Instant) :
    List GapEvidence → List GapEvidence → Except RunError (List GapEvidence)
  | loaded, [] => .ok loaded
  | loaded, evidence :: rest => do
    checkGapLineage runner plan evidence validatedAt
    raiseIf (call.allows evidence.classification = false) (.gapNeedsOption evidence.classification)
    raiseIf (evidence.requestId ∈ loaded.map (·.requestId)) .multipleGaps
    loadGaps call validatedAt (loaded ++ [evidence]) rest

/-- The gaps that a run honours: those of the store, in the order of their paths, where an option is on. -/
def openGaps (call : RunCall) (reading : Instant) (stored : List GapEvidence) :
    Except RunError (List GapEvidence) := do
  if call.quarantineEnabled then
    checkNow reading plan.1.requestedAt
    loadGaps runner plan call reading [] (sortOn (fun e => toLex (hex e.requestId, e.session)) stored)
  else return []

/-- `save` on top of what is stored -/
def checkSave (existing : Option Progress) (progress : Progress) : Except RunError Unit :=
  match existing with
  | none => .ok ()
  | some old => raiseIf (old.provider ≠ progress.provider ∨ old.connectorVersion ≠ progress.connectorVersion ∨
      progress.updatedAt < old.updatedAt ∨ ∃ c ∈ old.completions, c ∉ progress.completions) .progressRegress

/-- The stored progress, or a first one. -/
def openProgress (existing : Option Progress) (reading : Instant) : Except RunError Progress := do
  match existing with
  | some progress => return progress
  | none =>
    checkNow reading plan.1.requestedAt
    return ⟨plan.1.planId, plan.1.provider, runner.providerVersion, [], reading⟩

/-- `_verify_progress` -/
def checkProgress (progress : Progress) : Except RunError Unit :=
  raiseIf (progress.planId ≠ plan.1.planId ∨ progress.provider ≠ plan.1.provider ∨
    progress.connectorVersion ≠ runner.providerVersion ∨
    ∃ id ∈ progress.requestIds, id ∉ plan.1.requests.map (·.requestId)) .progressDisagreesWithPlan

/-- `is_complete` -/
def isComplete (progress : Progress) : Except RunError Bool := do
  raiseIf (progress.planId ≠ plan.1.planId ∨ progress.provider ≠ plan.1.provider) .progressDisagreesWithPlan
  return decide ((plan.1.requests.map (·.requestId)).toFinset = progress.requestIds.toFinset)

/-- `_require_matching_snapshot` -/
def checkMatching (requestId : ContentId) (stored : StoredSnapshot) (connectorVersion : String) :
    Except RunError Unit :=
  match stored.payload with
  | .other _ => .error .snapshotLineage
  | .batch b => raiseIf (stored.selectionKey ≠ requestId ∨ stored.provider ≠ runner.provider ∨
      stored.providerVersion ≠ connectorVersion ∨ b.request.requestId ≠ requestId ∨
      b.provider ≠ runner.provider ∨ b.providerVersion ≠ connectorVersion) .snapshotLineage

/-- `_verify_stored_completion` -/
def checkStoredCompletion (snapshots : List StoredSnapshot) (connectorVersion : String) (c : Completion) :
    Except RunError Unit :=
  match getSnapshot snapshots c.snapshotId with
  | none => .error .snapshotUnavailable
  | some stored => checkMatching runner c.requestId stored connectorVersion

def Payload.hasVersion (version : String) : Payload → Bool
  | .batch b => b.providerVersion = version
  | .other _ => false

variable (hex) in
/-- `find_by_selection_key`, and the snapshots among them that a run can use -/
def matchingSnapshots (snapshots : List StoredSnapshot) (requestId : ContentId) : List StoredSnapshot :=
  (sortOn (fun s => toLex (s.observedAt, hex s.snapshotId)) (snapshots.filter (·.selectionKey = requestId))).filter
    fun s => s.payload.hasVersion runner.providerVersion

variable (hex) in
/-- `_recover_existing` -/
def recoverExisting (snapshots : List StoredSnapshot) (request : DailyRequest) :
    Except RunError (Option StoredSnapshot) := do
  let found := matchingSnapshots hex runner snapshots request.requestId
  found.forM fun stored => checkMatching runner request.requestId stored runner.providerVersion
  return found.head?

/-- The checks at the start of `run`. -/
def checkCall (call : RunCall) : Except RunError Unit := do
  raiseIf (call.maximumRequests = some 0) .invalidCall
  raiseIf (call.quarantineEnabled = true ∧ runner.hasGapStore = false) .invalidCall
  raiseIf (runner.provider ≠ plan.1.provider ∨ runner.providerVersion = "") .connectorMismatch

/-- The checks of a run between its progress and its loop. -/
def checkStored (snapshots : List StoredSnapshot) (gaps : List GapEvidence) (progress : Progress) :
    Except RunError Unit := do
  checkProgress runner plan progress
  raiseIf (∃ e ∈ gaps, e.requestId ∈ progress.requestIds) .completeAndUnresolved
  progress.completions.forM (checkStoredCompletion runner snapshots progress.connectorVersion)

def System.fail (s : System) (error : RunError) : System :=
  { s with active := none, outcome := some (.failed error) }

def System.finish (s : System) (progress : Progress) : System :=
  { s with active := none, outcome := some (.finished progress) }

def System.goOn (s : System) (a : ActiveRun) : System := { s with active := some a }

/-- `run` up to its loop. -/
def startRun (call : RunCall) (s : System) (gapReading progressReading : Instant) : System :=
  match checkCall runner plan call >>= fun _ => openGaps runner plan call gapReading s.gaps with
  | .error e => s.fail e
  | .ok gaps =>
    match openProgress runner plan s.progress progressReading with
    | .error e => s.fail e
    | .ok progress =>
      let saved := { s with progress := some progress }
      match checkStored runner plan saved.snapshots gaps progress with
      | .error e => saved.fail e
      | .ok () => saved.goOn ⟨call, gaps, progress, plan.1.requests, 0, 0, none⟩

def maximumConsecutiveRejections : ℕ := 3

/-- The refused requests one after the other, with a gap of a class as the last. -/
def ActiveRun.rejectionsAfter (a : ActiveRun) (classification : GapClassification) : ℕ :=
  match classification with
  | .providerRequestRejection => a.consecutiveRejections + 1
  | .emptyProviderResponse => 0

/-- The progress with one more completion. -/
def completedProgress (progress : Progress) (clock : Instant) (request : DailyRequest) (stored : StoredSnapshot)
    (recovered : Bool) : Progress :=
  let completion : Completion := ⟨request.requestId, stored.snapshotId, clock, recovered⟩
  ⟨plan.1.planId, plan.1.provider, runner.providerVersion,
    sortOn (fun c => hex c.requestId) (progress.completions ++ [completion]), clock⟩

/-- The end of the loop body: the completion of a request and the progress with it. -/
def completeRequest (s : System) (a : ActiveRun) (request : DailyRequest) (stored : StoredSnapshot)
    (recovered : Bool) : System :=
  let progress := completedProgress runner plan a.progress s.clock request stored recovered
  match checkNow s.clock stored.observedAt >>= fun _ => checkSave s.progress progress with
  | .error e => s.fail e
  | .ok () => ({ s with progress := some progress }).goOn
      { a with progress := progress, remaining := a.remaining.tail, processed := a.processed + 1,
               consecutiveRejections := 0, pending := none }

/-- The evidence of a response about one session of a request. -/
def gapEvidence (request : DailyRequest) (e : ResponseEvidence) (classification : GapClassification) :
    GapEvidence where
  planId := plan.1.planId
  requestId := request.requestId
  provider := e.provider
  providerVersion := e.providerVersion
  providerInstrumentId := e.providerInstrumentId
  listingKey := request.binding.listingKey
  securitySeries := request.binding.securitySeries
  isin := request.binding.isin
  session := e.session
  responseObservedAt := e.observedAt
  normalizedResponseSha256 := e.normalizedResponseSha256
  classification := classification

/-- `put` of the gap store: one evidence for a request and a session. -/
def putGap (gaps : List GapEvidence) (evidence : GapEvidence) : Except RunError (List GapEvidence) :=
  match gaps.find? fun e => e.requestId = evidence.requestId ∧ e.session = evidence.session with
  | none => .ok (gaps ++ [evidence])
  | some existing => do
    raiseIf (existing ≠ evidence) .gapConflict
    return gaps

/-- `_quarantine_empty` and `_quarantine_rejection` up to the stored gaps -/
def quarantineGap (s : System) (request : DailyRequest) (e : ResponseEvidence) (exact : Bool)
    (classification : GapClassification) : Except RunError (List GapEvidence) := do
  raiseIf (exact = false) .responseLineage
  raiseIf (e.provider ≠ request.binding.provider ∨ e.providerVersion ≠ runner.providerVersion ∨
    e.providerInstrumentId ≠ request.binding.providerInstrumentId ∨ e.session ∉ request.sessions ∨
    e.observedAt < request.requestedAt) .responseLineage
  checkNow s.clock e.observedAt
  putGap s.gaps (gapEvidence plan request e classification)

/-- The branch of an empty response or of a rejection. -/
def quarantine (s : System) (a : ActiveRun) (request : DailyRequest) (e : ResponseEvidence) (exact : Bool)
    (classification : GapClassification) : System :=
  if a.call.allows classification = false then s.fail .provider
  else
    match quarantineGap runner plan s request e exact classification with
    | .error error => s.fail error
    | .ok gaps =>
      let stored := { s with gaps := gaps }
      if maximumConsecutiveRejections ≤ a.rejectionsAfter classification then stored.fail .safetyCeiling
      else stored.goOn { a with remaining := a.remaining.tail, processed := a.processed + 1,
                                consecutiveRejections := a.rejectionsAfter classification }

/-- `collect` of a request, with the answer that the provider has for it -/
def collectRequest (s : System) (a : ActiveRun) (request : DailyRequest) : ProviderAnswer → System
  | .batch b =>
    if b.request.requestId ≠ request.requestId ∨ b.provider ≠ runner.provider ∨
        b.providerVersion ≠ runner.providerVersion then s.fail .collection
    else
      let stored := putSnapshot s.snapshots
        ⟨request.requestId, b.provider, b.providerVersion, b.observedAt, .batch b⟩
      ({ s with snapshots := stored.1 }).goOn { a with pending := some (request, stored.2, false) }
  | .unsupported => s.fail .collection
  | .empty e exact => quarantine runner plan s a request e exact .emptyProviderResponse
  | .rejected e exact => quarantine runner plan s a request e exact .providerRequestRejection
  | .raises => s.fail .provider

/-- The branch of a request with a stored gap. -/
def skipGap (s : System) (a : ActiveRun) (gap : GapEvidence) : System :=
  if maximumConsecutiveRejections ≤ a.rejectionsAfter gap.classification then s.fail .safetyCeiling
  else s.goOn { a with remaining := a.remaining.tail,
                       consecutiveRejections := a.rejectionsAfter gap.classification }

/-- The body of the loop over the requests, up to a snapshot. -/
def nextRequest (s : System) (a : ActiveRun) (answer : ProviderAnswer) : System :=
  match a.remaining with
  | [] => s.finish a.progress
  | request :: rest =>
    if request.requestId ∈ a.progress.requestIds then
      s.goOn { a with remaining := rest, consecutiveRejections := 0 }
    else
      match a.gaps.find? (·.requestId = request.requestId) with
      | some gap => skipGap s a gap
      | none =>
        if a.call.maximumRequests.any (· ≤ a.processed) then s.finish a.progress
        else
          match recoverExisting hex runner s.snapshots request with
          | .error e => s.fail e
          | .ok (some stored) => s.goOn { a with pending := some (request, stored, true) }
          | .ok none => collectRequest runner plan s a request answer

/-- One step of the runner, which makes at most one write. -/
def advanceRun (s : System) (a : ActiveRun) (answer : ProviderAnswer) : System :=
  match a.pending with
  | some (request, stored, recovered) => completeRequest runner plan s a request stored recovered
  | none => nextRequest runner plan s a answer

/-- What an event makes of the system. -/
def step (s : System) (event : Event) : System :=
  match event, s.active with
  | .start call gapDelay progressDelay, none =>
    let read := { s with clock := s.clock + gapDelay + progressDelay, outcome := none }
    startRun runner plan call read (s.clock + gapDelay) read.clock
  | .advance answer delay, some a => advanceRun runner plan { s with clock := s.clock + delay } a answer
  | .kill, some _ => { s with active := none, outcome := some .killed }
  | _, _ => s

end Runner

end Backfill

end IndiaSwing
