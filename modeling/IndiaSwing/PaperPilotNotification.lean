import IndiaSwing.ContentIds
import IndiaSwing.PaperTrades
import IndiaSwing.Lib.ExceptGuards
import IndiaSwing.Lib.ActionRuns
import IndiaSwing.Lib.ObjectStore
import IndiaSwing.Lib.TextPatterns

namespace IndiaSwing

open ExceptGuards ObjectStore TextPatterns

inductive PromotedOperationalRunStatus
  | complete
  | failed
  deriving DecidableEq, Repr

inductive PromotedOperationalDecisionAction
  | paperBuy
  | noTrade
  deriving DecidableEq, Repr

def PromotedOperationalRunStatus.value : PromotedOperationalRunStatus → String
  | .complete => "COMPLETE"
  | .failed => "FAILED"

def PromotedOperationalDecisionAction.value : PromotedOperationalDecisionAction → String
  | .paperBuy => "PAPER_BUY"
  | .noTrade => "NO_TRADE"

/-- A verified advisory, which is for paper only. `evidence` stands for the fields that the
notification does not read. -/
structure PromotedOperationalAdvisoryRecord where
  specId : Digest
  targetSession : SessionDate
  status : PromotedOperationalRunStatus
  action : PromotedOperationalDecisionAction
  advisoryText : String
  evidence : Digest
  deriving DecidableEq

def PromotedOperationalAdvisoryRecord.advisoryId (advisory : PromotedOperationalAdvisoryRecord) :
    ContentId :=
  .ofFields "promoted-operational-advisory"
    [.digest advisory.specId, .int advisory.targetSession, .text advisory.status.value,
      .text advisory.action.value, .text advisory.advisoryText, .digest advisory.evidence]

/-- A verified terminal, which is for paper only. -/
structure PromotedOperationalTerminalRecord where
  specId : Digest
  targetSession : SessionDate
  status : PromotedOperationalRunStatus
  action : PromotedOperationalDecisionAction
  advisoryId : ContentId
  evidence : Digest
  deriving DecidableEq

def PromotedOperationalTerminalRecord.terminalId (terminal : PromotedOperationalTerminalRecord) :
    ContentId :=
  .ofFields "promoted-operational-terminal"
    [.digest terminal.specId, .int terminal.targetSession, .text terminal.status.value,
      .text terminal.action.value, terminal.advisoryId, .digest terminal.evidence]

theorem targetSession_of_terminalId {a b : PromotedOperationalTerminalRecord}
    (h : a.terminalId = b.terminalId) : a.targetSession = b.targetSession := by
  simp only [PromotedOperationalTerminalRecord.terminalId, ContentId.ofFields_inj, List.cons.injEq,
    ContentId.int.injEq] at h
  exact h.2.2.1

/-- The two messages of `PromotedPaperPilotNotificationError`. -/
inductive NotificationError
  | invalid
  | uncertain
  deriving DecidableEq, Repr

def NotificationError.message : NotificationError → String
  | .invalid => "promoted paper-pilot notification is invalid"
  | .uncertain => "promoted paper-pilot notification delivery is uncertain"

def isNotificationBucket (text : String) : Bool :=
  bounded isLowerDigit (fun c => isLowerDigit c || c = '.' || c = '_' || c = '-') isLowerDigit 1 61
    text.toList

/-- What an object name that matches the pattern of state manifests says. -/
structure StateManifestName where
  session : SessionDate
  specId : Digest
  publicationId : ContentId
  deriving DecidableEq

/-- The arguments of a call; `receiptRoot` is where its local receipt store is. -/
structure NotificationRequest where
  bucket : String
  terminal : PromotedOperationalTerminalRecord
  advisory : PromotedOperationalAdvisoryRecord
  statePublicationId : ContentId
  stateManifestObjectName : Option StateManifestName
  stateManifestGeneration : ℤ
  stateManifestSha256 : ContentId
  chatId : String
  receiptRoot : String

/-- The text of a message: the advisory without its last line feeds, and the two audit lines. -/
structure PaperPilotMessage where
  advisoryText : List Char
  terminalId : ContentId
  statePublicationId : ContentId

def PaperPilotMessage.length (message : PaperPilotMessage) : ℕ :=
  message.advisoryText.length + "\n\nPaper-pilot audit:\n".length +
    ("- Terminal ID: ".length + 64 + 1) + ("- State publication ID: ".length + 64 + 1)

def PaperPilotMessage.sha256 (message : PaperPilotMessage) : ContentId :=
  .ofFields "message" [.text (String.ofList message.advisoryText), message.terminalId,
    message.statePublicationId]

def buildPromotedPaperPilotMessage (request : NotificationRequest) :
    Except NotificationError PaperPilotMessage := do
  let terminal := request.terminal
  let advisory := request.advisory
  raiseIf (terminal.advisoryId ≠ advisory.advisoryId ∨ terminal.specId ≠ advisory.specId ∨
    terminal.targetSession ≠ advisory.targetSession ∨ terminal.action ≠ advisory.action ∨
      terminal.status ≠ advisory.status) .invalid
  return ⟨(advisory.advisoryText.toList.reverse.dropWhile (· = '\n')).reverse, terminal.terminalId,
    request.statePublicationId⟩

/-- `TelegramBotConfig.chat_binding_id` -/
def chatBindingId (chatId : String) : ContentId := .ofFields "TELEGRAM" [.text chatId]

/-- `TelegramDeliveryRequest.request_id` -/
def telegramRequestId (deliveryKey : ContentId) (message : PaperPilotMessage) : ContentId :=
  .ofFields "telegram-delivery-request/v1"
    [deliveryKey, message.sha256, .text "SWING_OPERATIONAL_RESULT"]

structure PromotedPaperPilotNotificationClaim where
  targetSession : SessionDate
  operationalRunSpecId : Digest
  terminalId : ContentId
  advisoryId : ContentId
  statePublicationId : ContentId
  stateManifestObjectName : StateManifestName
  stateManifestGeneration : ℤ
  stateManifestSha256 : ContentId
  requestId : ContentId
  messageSha256 : ContentId
  chatBindingId : ContentId
  deriving DecidableEq

def PromotedPaperPilotNotificationClaim.claimId (claim : PromotedPaperPilotNotificationClaim) :
    ContentId :=
  .ofFields "promoted-paper-pilot-notification-claim/v1"
    [.int claim.targetSession, .digest claim.operationalRunSpecId, claim.terminalId, claim.advisoryId,
      claim.statePublicationId, .int claim.stateManifestObjectName.session,
      .digest claim.stateManifestObjectName.specId, claim.stateManifestObjectName.publicationId,
      .int claim.stateManifestGeneration, claim.stateManifestSha256, claim.requestId,
      claim.messageSha256, claim.chatBindingId]

/-- The claim that a call works under, or the reason why it does not start. -/
def claimFor (request : NotificationRequest) :
    Except NotificationError PromotedPaperPilotNotificationClaim := do
  raiseIf (¬isNotificationBucket request.bucket) .invalid
  let message ← buildPromotedPaperPilotMessage request
  raiseIf (4096 < message.length) .uncertain
  let terminal := request.terminal
  raiseIf (request.stateManifestGeneration ≤ 0) .invalid
  match request.stateManifestObjectName with
  | none => throw .invalid
  | some name =>
    raiseIf (name ≠ ⟨terminal.targetSession, terminal.specId, request.statePublicationId⟩) .invalid
    return {
      targetSession := terminal.targetSession
      operationalRunSpecId := terminal.specId
      terminalId := terminal.terminalId
      advisoryId := request.advisory.advisoryId
      statePublicationId := request.statePublicationId
      stateManifestObjectName := name
      stateManifestGeneration := request.stateManifestGeneration
      stateManifestSha256 := request.stateManifestSha256
      requestId := telegramRequestId terminal.terminalId message
      messageSha256 := message.sha256
      chatBindingId := chatBindingId request.chatId }

structure TelegramDeliveryReceipt where
  requestId : ContentId
  deliveryKey : ContentId
  messageSha256 : ContentId
  chatBindingId : ContentId
  telegramMessageId : ℤ
  deliveredAt : Instant
  deriving DecidableEq

structure PromotedPaperPilotNotificationReceipt where
  claimId : ContentId
  terminalId : ContentId
  statePublicationId : ContentId
  telegramReceipt : TelegramDeliveryReceipt
  deriving DecidableEq

inductive NotificationObjectKind
  | claim
  | receipt
  deriving DecidableEq, Repr

/-- The name of a claim or of a receipt, with its bucket. -/
structure NotificationObjectName where
  bucket : String
  targetSession : SessionDate
  terminalId : ContentId
  chatBindingId : ContentId
  kind : NotificationObjectKind
  deriving DecidableEq

def claimObjectName (bucket : String) (claim : PromotedPaperPilotNotificationClaim) :
    NotificationObjectName :=
  ⟨bucket, claim.targetSession, claim.terminalId, claim.chatBindingId, .claim⟩

def receiptObjectName (bucket : String) (claim : PromotedPaperPilotNotificationClaim) :
    NotificationObjectName :=
  { claimObjectName bucket claim with kind := .receipt }

/-- What an object encodes. Both encodings are canonical: what decodes is what was encoded. -/
inductive NotificationPayload
  | claim (value : PromotedPaperPilotNotificationClaim)
  | receipt (value : PromotedPaperPilotNotificationReceipt)
  deriving DecidableEq

structure NotificationObject where
  payload : NotificationPayload
  generation : ℕ
  deriving DecidableEq

/-- What the calls share: the bucket's objects, the local receipt stores, and the requests that the
transport was asked to deliver, each with its call and the claim it was made under. -/
structure NotificationState where
  objects : Objects NotificationObjectName NotificationObject
  localReceipts : Objects (String × ContentId) TelegramDeliveryReceipt
  sends : List (ℕ × NotificationObjectName)

namespace NotificationState

def empty : NotificationState := ⟨fun _ => none, fun _ => none, []⟩

end NotificationState

/-- `_read_optional` -/
def readOptional (fails : Bool) (name : NotificationObjectName)
    (objects : Objects NotificationObjectName NotificationObject) :
    Except NotificationError (Option NotificationObject) := do
  raiseIf (fails = true) .invalid
  return objects name

/-- The receipt is the claim's own. -/
def BoundTo (receipt : PromotedPaperPilotNotificationReceipt)
    (claim : PromotedPaperPilotNotificationClaim) : Prop :=
  receipt.claimId = claim.claimId ∧ receipt.terminalId = claim.terminalId ∧
    receipt.statePublicationId = claim.statePublicationId ∧
    receipt.telegramReceipt.requestId = claim.requestId ∧
    receipt.telegramReceipt.messageSha256 = claim.messageSha256 ∧
    receipt.telegramReceipt.chatBindingId = claim.chatBindingId

instance (receipt : PromotedPaperPilotNotificationReceipt)
    (claim : PromotedPaperPilotNotificationClaim) : Decidable (BoundTo receipt claim) :=
  inferInstanceAs (Decidable (_ ∧ _))

def getReceiptOptional (fails : Bool) (bucket : String)
    (claim : PromotedPaperPilotNotificationClaim)
    (objects : Objects NotificationObjectName NotificationObject) :
    Except NotificationError (Option PromotedPaperPilotNotificationReceipt) := do
  match ← readOptional fails (receiptObjectName bucket claim) objects with
  | none => return none
  | some ⟨.claim _, _⟩ => throw .invalid
  | some ⟨.receipt receipt, _⟩ =>
    raiseIf (¬BoundTo receipt claim) .invalid
    return some receipt

structure CompletedPromotedPaperPilotNotification where
  claim : PromotedPaperPilotNotificationClaim
  receipt : PromotedPaperPilotNotificationReceipt
  replayed : Bool
  deriving DecidableEq

/-- Where a call stands: before which of its storage or network steps. -/
inductive NotificationPhase
  | start
  | createClaim (claim : PromotedPaperPilotNotificationClaim)
  | readBackClaim (claim : PromotedPaperPilotNotificationClaim) (generation : ℕ)
  | claimExists (claim : PromotedPaperPilotNotificationClaim)
  | getLocalReceipt (claim : PromotedPaperPilotNotificationClaim)
  | postJson (claim : PromotedPaperPilotNotificationClaim)
  | putLocalReceipt (claim : PromotedPaperPilotNotificationClaim) (receipt : TelegramDeliveryReceipt)
  | putReceipt (claim : PromotedPaperPilotNotificationClaim)
      (receipt : PromotedPaperPilotNotificationReceipt)
  | readBackReceipt (claim : PromotedPaperPilotNotificationClaim)
      (receipt : PromotedPaperPilotNotificationReceipt) (generation : ℕ)
  | receiptExists (claim : PromotedPaperPilotNotificationClaim)
      (receipt : PromotedPaperPilotNotificationReceipt)
  | compareReceipt (claim : PromotedPaperPilotNotificationClaim)
      (receipt : PromotedPaperPilotNotificationReceipt)
  | confirm (claim : PromotedPaperPilotNotificationClaim)
      (receipt : PromotedPaperPilotNotificationReceipt)
  | returned (completed : CompletedPromotedPaperPilotNotification)
  | raised (error : NotificationError)
  deriving DecidableEq

/-- What the world decides in a step: the fate of an upload and the generation that it would get,
whether a read fails, what the clock says, and the message id in the transport's answer. -/
structure NotificationInput where
  fate : Fate
  generation : ℕ
  readFails : Bool
  clock : Option Instant
  response : Option ℤ

def notificationReceipt (claim : PromotedPaperPilotNotificationClaim)
    (receipt : TelegramDeliveryReceipt) : PromotedPaperPilotNotificationReceipt :=
  ⟨claim.claimId, claim.terminalId, claim.statePublicationId, receipt⟩

/-- The receipt of a message that was sent under a claim. -/
def telegramReceipt (claim : PromotedPaperPilotNotificationClaim) (messageId : ℤ)
    (deliveredAt : Instant) : TelegramDeliveryReceipt :=
  ⟨claim.requestId, claim.terminalId, claim.messageSha256, claim.chatBindingId, messageId, deliveredAt⟩

/-- A stored local receipt answers the request. -/
def Answers (stored : TelegramDeliveryReceipt) (claim : PromotedPaperPilotNotificationClaim) : Prop :=
  stored.requestId = claim.requestId ∧ stored.messageSha256 = claim.messageSha256 ∧
    stored.chatBindingId = claim.chatBindingId

instance (stored : TelegramDeliveryReceipt) (claim : PromotedPaperPilotNotificationClaim) :
    Decidable (Answers stored claim) := inferInstanceAs (Decidable (_ ∧ _))

/-- One step of `deliver_promoted_paper_pilot_notification`. -/
def deliverStep (requests : ℕ → NotificationRequest) (call : ℕ) (input : NotificationInput)
    (state : NotificationState) (phase : NotificationPhase) : NotificationPhase × NotificationState :=
  let request := requests call
  let bucket := request.bucket
  match phase with
  | .start =>
    match claimFor request with
    | .error e => (.raised e, state)
    | .ok claim =>
      match getReceiptOptional input.readFails bucket claim state.objects with
      | .error e => (.raised e, state)
      | .ok none => (.createClaim claim, state)
      | .ok (some existing) => (.returned ⟨claim, existing, true⟩, state)
  | .createClaim claim =>
    let (answer, objects) := upload input.fate (claimObjectName bucket claim)
      ⟨.claim claim, input.generation + 1⟩ state.objects
    (match answer with
      | .created => .readBackClaim claim (input.generation + 1)
      | .conflict => .claimExists claim
      | .failed => .raised .invalid, { state with objects })
  | .readBackClaim claim generation =>
    match readOptional input.readFails (claimObjectName bucket claim) state.objects with
    | .error e => (.raised e, state)
    | .ok observed =>
      (if observed = some ⟨.claim claim, generation⟩ then .getLocalReceipt claim else .raised .invalid,
        state)
  | .claimExists claim =>
    match getReceiptOptional input.readFails bucket claim state.objects with
    | .error e => (.raised e, state)
    | .ok none => (.raised .uncertain, state)
    | .ok (some existing) => (.returned ⟨claim, existing, true⟩, state)
  | .getLocalReceipt claim =>
    if input.readFails then (.raised .uncertain, state)
    else
      match state.localReceipts (request.receiptRoot, claim.terminalId) with
      | none => (.postJson claim, state)
      | some stored =>
        (if Answers stored claim then .putReceipt claim (notificationReceipt claim stored)
          else .raised .uncertain, state)
  | .postJson claim =>
    match input.clock with
    | none => (.raised .uncertain, state)
    | some deliveredAt =>
      (match input.response with
        | none => .raised .uncertain
        | some messageId =>
          if messageId ≤ 0 then .raised .uncertain
          else .putLocalReceipt claim (telegramReceipt claim messageId deliveredAt),
        { state with sends := state.sends ++ [(call, claimObjectName bucket claim)] })
  | .putLocalReceipt claim receipt =>
    let key := (request.receiptRoot, claim.terminalId)
    let (answer, localReceipts) := upload input.fate key receipt state.localReceipts
    (match answer with
      | .created => .putReceipt claim (notificationReceipt claim receipt)
      | .conflict =>
        if state.localReceipts key = some receipt then
          .putReceipt claim (notificationReceipt claim receipt)
        else .raised .uncertain
      | .failed => .raised .uncertain, { state with localReceipts })
  | .putReceipt claim receipt =>
    let (answer, objects) := upload input.fate (receiptObjectName bucket claim)
      ⟨.receipt receipt, input.generation + 1⟩ state.objects
    (match answer with
      | .created => .readBackReceipt claim receipt (input.generation + 1)
      | .conflict => .receiptExists claim receipt
      | .failed => .raised .invalid, { state with objects })
  | .readBackReceipt claim receipt generation =>
    match readOptional input.readFails (receiptObjectName bucket claim) state.objects with
    | .error e => (.raised e, state)
    | .ok observed =>
      (if observed = some ⟨.receipt receipt, generation⟩ then .confirm claim receipt
        else .raised .invalid, state)
  | .receiptExists claim receipt =>
    match getReceiptOptional input.readFails bucket claim state.objects with
    | .error e => (.raised e, state)
    | .ok stored =>
      (if stored = some receipt then .compareReceipt claim receipt else .raised .invalid, state)
  | .compareReceipt claim receipt =>
    match readOptional input.readFails (receiptObjectName bucket claim) state.objects with
    | .error e => (.raised e, state)
    | .ok observed =>
      (if observed.map (·.payload) = some (.receipt receipt) then .confirm claim receipt
        else .raised .invalid, state)
  | .confirm claim receipt =>
    match getReceiptOptional input.readFails bucket claim state.objects with
    | .error e => (.raised e, state)
    | .ok confirmed =>
      (if confirmed = some receipt then .returned ⟨claim, receipt, false⟩ else .raised .uncertain,
        state)
  | .returned completed => (.returned completed, state)
  | .raised e => (.raised e, state)

end IndiaSwing
