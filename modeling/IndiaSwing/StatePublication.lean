import IndiaSwing.Lib.ActionRuns
import IndiaSwing.Lib.ObjectStore
import IndiaSwing.PipelineState

namespace IndiaSwing

open CivilTime JsonText ExceptGuards KeySort ObjectStore TextPatterns

/-- A generation number: positive, in 64 bits with sign. -/
abbrev Generation := {generation : ℕ // 0 < generation ∧ generation ≤ 9223372036854775807}

def maximumPublicationManifestBytes : ℕ := 33554432

/-- Four numbers separated by dots. -/
def isIpShaped (text : List Char) : Bool :=
  (text.splitOn '.').length = 4 && (text.splitOn '.').all fun part =>
    !part.isEmpty && part.all Char.isDigit

/-- Two dots in a row. -/
def hasTwoDots : List Char → Bool
  | '.' :: '.' :: _ => true
  | _ :: rest => hasTwoDots rest
  | [] => false

def isBucketCharacter (c : Char) : Bool := isLowerDigit c || c = '-' || c = '_' || c = '.'

/-- `_validate_bucket` -/
def isStateBucket (text : String) : Bool :=
  bounded isLowerDigit isBucketCharacter isLowerDigit 1 61 text.toList &&
    !hasTwoDots text.toList && !isIpShaped text.toList

/-- The name of an object of the bucket. -/
inductive StateObjectName
  | blob (sha256 : Sha256Text)
  | inventory (marketSession : CivilDate) (runId inventoryId : Sha256Text)
  | publication (marketSession : CivilDate) (runId publicationId : Sha256Text)
  deriving DecidableEq

def StateObjectName.text : StateObjectName → String
  | .blob sha256 =>
    "state/v1/blobs/" ++ String.ofList (sha256.1.toList.take 2) ++ "/" ++ sha256.1
  | .inventory marketSession runId inventoryId =>
    "state/v1/inventories/" ++ canonicalDate marketSession ++ "/" ++ runId.1 ++ "/" ++ inventoryId.1 ++
      ".json"
  | .publication marketSession runId publicationId =>
    "state/v1/publications/" ++ canonicalDate marketSession ++ "/" ++ runId.1 ++ "/" ++
      publicationId.1 ++ ".json"

structure PublishedStateObject where
  objectName : StateObjectName
  generation : Generation
  byteCount : ℕ
  sha256 : Sha256Text
  deriving DecidableEq

/-- `_published_object_body` -/
def publishedObjectTree (value : PublishedStateObject) : List (String × Json) :=
  [("byte_count", .number value.byteCount), ("generation", .number value.generation.1),
    ("object_name", .string value.objectName.text), ("sha256", .string value.sha256.1)]

structure StateManifestFields where
  bucket : String
  runId : Sha256Text
  previousRunId : Option Sha256Text
  marketSession : CivilDate
  cutoff : Instant
  inventoryId : Sha256Text
  inventoryObject : PublishedStateObject
  blobObjects : List PublishedStateObject

/-- `_validate_manifest_state` -/
def validateStateManifest (manifest : StateManifestFields) : Except String Unit := do
  raiseIf (¬isStateBucket manifest.bucket) "bucket name is invalid"
  raiseIf (manifest.inventoryObject.byteCount = 0) "published state object is invalid"
  raiseIf (manifest.inventoryObject.objectName ≠
      .inventory manifest.marketSession manifest.runId manifest.inventoryId)
    "pipeline state publication manifest inventory object name is invalid"
  raiseIf (∃ blob ∈ manifest.blobObjects, blob.byteCount = 0) "published state object is invalid"
  raiseIf (¬manifest.blobObjects.Pairwise fun a b => a.sha256.1 < b.sha256.1)
    "pipeline state publication manifest blob objects are not canonically ordered"
  raiseIf (∃ blob ∈ manifest.blobObjects, blob.objectName ≠ .blob blob.sha256)
    "pipeline state publication manifest blob object name is invalid"

abbrev PipelineStatePublicationManifest :=
  {manifest : StateManifestFields // validateStateManifest manifest = .ok ()}

/-- `_manifest_body` without its id -/
def stateManifestTree (manifest : StateManifestFields) : List (String × Json) :=
  [("blob_objects", .array (manifest.blobObjects.map fun blob => .object (publishedObjectTree blob))),
    ("bucket", .string manifest.bucket),
    ("cutoff", .string (datetimeIsoformat manifest.cutoff)),
    ("inventory_id", .string manifest.inventoryId.1),
    ("inventory_object", .object (publishedObjectTree manifest.inventoryObject)),
    ("market_session", .string (canonicalDate manifest.marketSession)),
    ("previous_run_id", optionalText manifest.previousRunId),
    ("run_id", .string manifest.runId.1),
    ("schema_version", .number 1)]

/-- What the bucket holds under a name. -/
structure StateObject where
  bytes : List UInt8
  generation : Generation

abbrev StateBucket := Objects StateObjectName StateObject

/-- What the world decides in a step: the fate of an upload and the generation that it would get, and
whether a read fails, local or remote. -/
structure PublicationInput where
  fate : Fate
  generation : Generation
  readFails : Bool

/-- A write of a call. -/
structure StateWrite where
  objectName : StateObjectName
  contentBytes : List UInt8
  maximumBytes : ℕ

/-- Where `create_or_verify` stands. -/
inductive WriterStep
  | upload
  | reload
  | download (generation : Generation)

inductive WriterOutcome
  | goesOn (step : WriterStep)
  | published (value : PublishedStateObject)
  | failed

section Publication

variable (hexdigest : List UInt8 → Sha256Text)

def StateWrite.record (write : StateWrite) (generation : Generation) : PublishedStateObject :=
  ⟨write.objectName, generation, write.contentBytes.length, hexdigest write.contentBytes⟩

/-- One step of `create_or_verify`. The checks of `_create_or_verify_checked` compare the record with
what it was made of. -/
def createOrVerify (input : PublicationInput) (write : StateWrite) (step : WriterStep)
    (bucket : StateBucket) : WriterOutcome × StateBucket :=
  if write.contentBytes = [] ∨ write.maximumBytes < write.contentBytes.length then (.failed, bucket)
  else
    match step with
    | .upload =>
      let (answer, bucket) :=
        upload input.fate write.objectName ⟨write.contentBytes, input.generation⟩ bucket
      (match answer with
        | .created => .published (write.record hexdigest input.generation)
        | .conflict => .goesOn .reload
        | .failed => .failed, bucket)
    | .reload =>
      if input.readFails then (.failed, bucket)
      else
        match bucket write.objectName with
        | none => (.failed, bucket)
        | some object => (.goesOn (.download object.generation), bucket)
    | .download generation =>
      if input.readFails then (.failed, bucket)
      else
        match bucket write.objectName with
        | none => (.failed, bucket)
        | some object =>
          (if object.generation = generation ∧
              object.bytes.take (write.maximumBytes + 1) = write.contentBytes then
            .published (write.record hexdigest generation)
          else .failed, bucket)

def publicationId (manifest : StateManifestFields) : Sha256Text :=
  hexdigest (stateJsonBytes (stateManifestTree manifest))

def encodedStateManifest (manifest : StateManifestFields) : List UInt8 :=
  stateJsonBytes
    (("publication_id", .string (publicationId hexdigest manifest).1) :: stateManifestTree manifest)

/-- `encode_pipeline_state_publication_manifest` -/
def encodePublicationManifest (manifest : PipelineStatePublicationManifest) :
    Except String (List UInt8) := do
  raiseIf (maximumPublicationManifestBytes < (encodedStateManifest hexdigest manifest.1).length)
    "pipeline state publication manifest exceeds the encoded-byte ceiling"
  return encodedStateManifest hexdigest manifest.1

/-- The arguments of `publish_pipeline_state`. -/
structure PublicationRequest where
  run : DailyPipelineRunBinding
  inventory : PipelineStateInventory
  roots : PipelineStateRoots
  bucket : String

/-- The checks before the first write, with the bytes of the inventory. -/
def preparePublication (request : PublicationRequest) : Except String (List UInt8) := do
  raiseIf (¬isStateBucket request.bucket) "bucket name is invalid"
  match encodePipelineStateInventory hexdigest request.inventory with
  | .error _ => throw "supplied inventory content identity verification failed"
  | .ok supplied =>
    match buildPipelineStateInventory hexdigest request.run request.roots >>=
        encodePipelineStateInventory hexdigest with
    | .error _ => throw "pipeline state could not be rebuilt from the supplied run and roots"
    | .ok rebuilt =>
      raiseIf (rebuilt ≠ supplied) "rebuilt pipeline state does not match the supplied inventory"
      return supplied

/-- The order in which the entries are published. -/
def entriesInPublicationOrder (request : PublicationRequest) : List PipelineStateEntry :=
  sortOn (fun entry => [entry.sha256.1, entry.rootName.value, entry.relativePath])
    request.inventory.1.entries

/-- The hashes of the entries, each once, in their order. -/
def uniqueHashes (request : PublicationRequest) : List Sha256Text :=
  sortOn (·.1) (request.inventory.1.entries.map (·.sha256)).dedup

def blobWrite (entry : PipelineStateEntry) (payload : List UInt8) : StateWrite :=
  ⟨.blob entry.sha256, payload, maximumFileBytes⟩

def inventoryObjectName (request : PublicationRequest) : StateObjectName :=
  .inventory request.inventory.1.marketSession request.inventory.1.runId
    (inventoryId hexdigest request.inventory.1)

def inventoryWrite (request : PublicationRequest) : StateWrite :=
  ⟨inventoryObjectName hexdigest request, encodedInventory hexdigest request.inventory.1,
    maximumEncodedBytes⟩

def manifestFields (request : PublicationRequest) (inventoryObject : PublishedStateObject)
    (blobObjects : List PublishedStateObject) : StateManifestFields where
  bucket := request.bucket
  runId := request.inventory.1.runId
  previousRunId := request.inventory.1.previousRunId
  marketSession := request.inventory.1.marketSession
  cutoff := request.inventory.1.cutoff
  inventoryId := inventoryId hexdigest request.inventory.1
  inventoryObject := inventoryObject
  blobObjects := blobObjects

def publicationObjectName (manifest : StateManifestFields) : StateObjectName :=
  .publication manifest.marketSession manifest.runId (publicationId hexdigest manifest)

def manifestWrite (manifest : PipelineStatePublicationManifest) : StateWrite :=
  ⟨publicationObjectName hexdigest manifest.1, encodedStateManifest hexdigest manifest.1,
    maximumPublicationManifestBytes⟩

structure CompletedPipelineStatePublication where
  manifest : PipelineStatePublicationManifest
  publicationObject : PublishedStateObject

/-- Where a call stands. -/
inductive PublicationPhase
  | start
  | entries (uploadedByHash : List (Sha256Text × PublishedStateObject))
      (todo : List PipelineStateEntry)
  | blob (uploadedByHash : List (Sha256Text × PublishedStateObject)) (entry : PipelineStateEntry)
      (todo : List PipelineStateEntry) (payload : List UInt8) (step : WriterStep)
  | inventory (blobObjects : List PublishedStateObject) (step : WriterStep)
  | manifest (manifest : PipelineStatePublicationManifest) (step : WriterStep)
  | returned (completed : CompletedPipelineStatePublication)
  | raised (message : String)

/-- Goes on within a write, or with what comes after it. -/
def afterWrite (within : WriterStep → PublicationPhase) (next : PublishedStateObject → PublicationPhase)
    (outcome : WriterOutcome × StateBucket) : PublicationPhase × StateBucket :=
  (match outcome.1 with
    | .goesOn step => within step
    | .published value => next value
    | .failed => .raised "state object writer failed", outcome.2)

/-- The local file of an entry, read again and compared with it. -/
def readEntry (request : PublicationRequest) (input : PublicationInput) (entry : PipelineStateEntry) :
    Except String (List UInt8) := do
  raiseIf (input.readFails = true) "local pipeline state file could not be read safely"
  match (request.roots.file entry.rootName entry.relativePath).bind readStableRegularFile with
  | none => .error "local pipeline state file could not be read safely"
  | some payload =>
    raiseIf (payload.length ≠ entry.byteCount)
      "local pipeline state file content does not match the inventory"
    raiseIf (hexdigest payload ≠ entry.sha256)
      "local pipeline state file content does not match the inventory"
    return payload

/-- The manifest is built, and encoded, before it is written. -/
def startManifest (request : PublicationRequest) (blobObjects : List PublishedStateObject)
    (inventoryObject : PublishedStateObject) : PublicationPhase :=
  match (do
    let manifest ← Checked.build validateStateManifest
      (manifestFields hexdigest request inventoryObject blobObjects)
    let _ ← encodePublicationManifest hexdigest manifest
    return manifest : Except String PipelineStatePublicationManifest) with
  | .error message => .raised message
  | .ok manifest => .manifest manifest .upload

/-- One step of `publish_pipeline_state`. -/
def publishStep (request : PublicationRequest) (_call : ℕ) (input : PublicationInput)
    (bucket : StateBucket) (phase : PublicationPhase) : PublicationPhase × StateBucket :=
  match phase with
  | .start =>
    match preparePublication hexdigest request with
    | .error message => (.raised message, bucket)
    | .ok _ => (.entries [] (entriesInPublicationOrder request), bucket)
  | .entries uploadedByHash [] =>
    (if ∀ hash ∈ uniqueHashes request, (uploadedByHash.lookup hash).isSome then
      .inventory ((uniqueHashes request).filterMap fun hash => uploadedByHash.lookup hash) .upload
    else .raised "published blob set does not match the inventory", bucket)
  | .entries uploadedByHash (entry :: todo) =>
    (match readEntry hexdigest request input entry with
      | .error message => .raised message
      | .ok payload =>
        if (uploadedByHash.lookup entry.sha256).isSome then .entries uploadedByHash todo
        else .blob uploadedByHash entry todo payload .upload, bucket)
  | .blob uploadedByHash entry todo payload step =>
    afterWrite (.blob uploadedByHash entry todo payload)
      (fun value => .entries ((entry.sha256, value) :: uploadedByHash) todo)
      (createOrVerify hexdigest input (blobWrite entry payload) step bucket)
  | .inventory blobObjects step =>
    afterWrite (.inventory blobObjects) (startManifest hexdigest request blobObjects)
      (createOrVerify hexdigest input (inventoryWrite hexdigest request) step bucket)
  | .manifest manifest step =>
    afterWrite (.manifest manifest) (fun value => .returned ⟨manifest, value⟩)
      (createOrVerify hexdigest input (manifestWrite hexdigest manifest) step bucket)
  | .returned completed => (.returned completed, bucket)
  | .raised message => (.raised message, bucket)

end Publication

end IndiaSwing
