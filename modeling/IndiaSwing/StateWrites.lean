import IndiaSwing.StateManifests
import IndiaSwing.StatePublicationInputs

namespace IndiaSwing

open CivilTime JsonText ExceptGuards KeySort ObjectStore Interleaving

variable {hexdigest : List UInt8 → Sha256Text} {request : PublicationRequest}
variable {bucket later : StateBucket} {name : StateObjectName} {value other : PublishedStateObject}
variable {input : PublicationInput} {write : StateWrite} {step : WriterStep}

section Records

/-- The bucket holds the object that the record describes. -/
def Recorded (hexdigest : List UInt8 → Sha256Text) (bucket : StateBucket)
    (value : PublishedStateObject) : Prop :=
  ∃ bytes, bucket value.objectName = some ⟨bytes, value.generation⟩ ∧
    value.byteCount = bytes.length ∧ value.sha256 = hexdigest bytes

theorem Recorded.mono (h : Recorded hexdigest bucket value) (hextends : Extends later bucket) :
    Recorded hexdigest later value := by
  obtain ⟨bytes, hobject, hrest⟩ := h
  exact ⟨bytes, hextends _ _ hobject, hrest⟩

/-- A bucket has one record for each name. -/
theorem Recorded.eq (h : Recorded hexdigest bucket value) (h' : Recorded hexdigest bucket other)
    (hname : value.objectName = other.objectName) : value = other := by
  obtain ⟨bytes, hobject, hcount, hsha⟩ := h
  obtain ⟨bytes', hobject', hcount', hsha'⟩ := h'
  rw [hname, hobject', Option.some.injEq, StateObject.mk.injEq] at hobject
  obtain ⟨rfl, hgeneration⟩ := hobject
  cases value
  cases other
  rw [PublishedStateObject.mk.injEq]
  exact ⟨hname, hgeneration.symm, hcount.trans hcount'.symm, hsha.trans hsha'.symm⟩

end Records

section Writer

/-- A download that is short enough was not cut off. -/
theorem eq_of_take_fits {bytes content : List UInt8} {limit : ℕ} (h : bytes.take (limit + 1) = content)
    (hfits : content.length ≤ limit) : bytes = content := by
  have hlength := congrArg List.length h
  rw [List.length_take] at hlength
  rwa [List.take_of_length_le (by omega)] at h

theorem createOrVerify_extends (hexdigest : List UInt8 → Sha256Text) (input : PublicationInput)
    (write : StateWrite) (step : WriterStep) (bucket : StateBucket) :
    Extends (createOrVerify hexdigest input write step bucket).2 bucket := by
  unfold createOrVerify
  split
  next => exact Extends.refl bucket
  next =>
    cases step with
    | upload => exact upload_extends _ _ _ _
    | reload =>
      dsimp only
      split
      · exact Extends.refl bucket
      · split <;> exact Extends.refl bucket
    | download generation =>
      dsimp only
      split
      · exact Extends.refl bucket
      · split <;> exact Extends.refl bucket

/-- A write adds its own object and no other. -/
theorem createOrVerify_object {object : StateObject}
    (h : (createOrVerify hexdigest input write step bucket).2 name = some object) :
    bucket name = some object ∨ (write.objectName = name ∧ write.contentBytes = object.bytes) := by
  unfold createOrVerify at h
  split at h
  next => exact .inl h
  next =>
    cases step with
    | upload =>
      rcases upload_eq_some h with hold | ⟨rfl, -, rfl⟩
      · exact .inl hold
      · exact .inr ⟨rfl, rfl⟩
    | reload =>
      dsimp only at h
      split at h
      · exact .inl h
      · split at h <;> exact .inl h
    | download generation =>
      dsimp only at h
      split at h
      · exact .inl h
      · split at h <;> exact .inl h

/-- A write that was published is in the bucket, with the content and the generation of its record. -/
theorem createOrVerify_published
    (h : (createOrVerify hexdigest input write step bucket).1 = .published value) :
    (createOrVerify hexdigest input write step bucket).2 write.objectName =
        some ⟨write.contentBytes, value.generation⟩ ∧
      value = write.record hexdigest value.generation := by
  unfold createOrVerify at h ⊢
  split at h
  next => cases h
  next hfits =>
    rw [if_neg hfits]
    cases step with
    | upload =>
      dsimp only at h ⊢
      split at h
      next hcreated =>
        obtain rfl := WriterOutcome.published.inj h
        exact ⟨(upload_created hcreated).2, rfl⟩
      next => cases h
      next => cases h
    | reload =>
      dsimp only at h
      split at h
      · cases h
      · split at h <;> cases h
    | download generation =>
      dsimp only at h ⊢
      split at h
      · cases h
      next hread =>
        rw [if_neg hread]
        split at h
        · cases h
        next object hobject =>
          dsimp only at h ⊢
          split at h
          next hsame =>
            obtain rfl := WriterOutcome.published.inj h
            obtain ⟨rfl, hbytes⟩ := hsame
            have hcontent := eq_of_take_fits hbytes (not_lt.mp (not_or.mp hfits).2)
            exact ⟨by rw [hobject, ← hcontent]; rfl, rfl⟩
          next => cases h

/-- Where the writer stands after its upload, if nothing failed. -/
def WriterReady (bucket : StateBucket) (write : StateWrite) : WriterStep → Prop
  | .upload => True
  | .reload => (bucket write.objectName).isSome
  | .download generation => ∃ object, bucket write.objectName = some object ∧ object.generation = generation

def WriterStep.rank : WriterStep → ℕ
  | .upload => 2
  | .reload => 1
  | .download _ => 0

theorem WriterReady.mono (h : WriterReady bucket write step) (hextends : Extends later bucket) :
    WriterReady later write step := by
  cases step with
  | upload => trivial
  | reload => exact hextends.isSome h
  | download generation =>
    obtain ⟨object, hobject, hgeneration⟩ := h
    exact ⟨object, hextends _ _ hobject, hgeneration⟩

/-- Nothing fails in the step. -/
structure PublicationInput.WithoutFailure (input : PublicationInput) : Prop where
  answered : input.fate = .answered
  reads : input.readFails = false

/-- Where what stands under the name is what is written, a write without failures goes on and ends. -/
theorem createOrVerify_progress (hexdigest : List UInt8 → Sha256Text) (hinput : input.WithoutFailure) (hready : WriterReady bucket write step)
    (hcontent : write.contentBytes ≠ []) (hlength : write.contentBytes.length ≤ write.maximumBytes)
    (hsame : ∀ object, bucket write.objectName = some object → object.bytes = write.contentBytes) :
    (∃ later, (createOrVerify hexdigest input write step bucket).1 = .goesOn later ∧
      later.rank < step.rank ∧ WriterReady (createOrVerify hexdigest input write step bucket).2 write later) ∨
    ∃ value, (createOrVerify hexdigest input write step bucket).1 = .published value := by
  have hfits : ¬(write.contentBytes = [] ∨ write.maximumBytes < write.contentBytes.length) := by
    rw [not_or, not_lt]
    exact ⟨hcontent, hlength⟩
  unfold createOrVerify
  rw [if_neg hfits]
  cases step with
  | upload =>
    rw [hinput.answered]
    cases hobject : bucket write.objectName with
    | none => exact .inr ⟨write.record hexdigest input.generation, by simp [upload, hobject]⟩
    | some object =>
      refine .inl ⟨.reload, by simp [upload, hobject], by decide, ?_⟩
      exact create_isSome write.objectName _ bucket
  | reload =>
    obtain ⟨object, hobject⟩ := Option.isSome_iff_exists.mp hready
    simp only [hinput.reads, Bool.false_eq_true, if_false, hobject]
    exact .inl ⟨_, rfl, Nat.zero_lt_one, object, hobject, rfl⟩
  | download generation =>
    obtain ⟨object, hobject, hgeneration⟩ := hready
    have hbytes := hsame object hobject
    have htake : object.bytes.take (write.maximumBytes + 1) = write.contentBytes := by
      rw [hbytes, List.take_of_length_le (by omega)]
    simp only [hinput.reads, Bool.false_eq_true, if_false, hobject]
    rw [if_pos ⟨hgeneration, htake⟩]
    exact .inr ⟨_, rfl⟩

end Writer

section Writes

variable {manifest otherManifest : StateManifestFields} {blobs otherBlobs : List PublishedStateObject}

/-- The records of the blobs of an inventory. -/
structure BlobObjects (hexdigest : List UInt8 → Sha256Text) (request : PublicationRequest)
    (bucket : StateBucket) (blobs : List PublishedStateObject) : Prop where
  hashes : blobs.map (·.sha256) = uniqueHashes request
  named : ∀ blob ∈ blobs, blob.objectName = .blob blob.sha256
  recorded : ∀ blob ∈ blobs, Recorded hexdigest bucket blob

theorem BlobObjects.mono (h : BlobObjects hexdigest request bucket blobs)
    (hextends : Extends later bucket) : BlobObjects hexdigest request later blobs :=
  ⟨h.hashes, h.named, fun blob hblob => (h.recorded blob hblob).mono hextends⟩

theorem BlobObjects.eq (h : BlobObjects hexdigest request bucket blobs)
    (h' : BlobObjects hexdigest request bucket otherBlobs) : blobs = otherBlobs := by
  let P : PublishedStateObject → Prop := fun blob =>
    blob.objectName = .blob blob.sha256 ∧ Recorded hexdigest bucket blob
  have hinj : ∀ a b, P a → P b → a.sha256 = b.sha256 → a = b := by
    intro a b ha hb hsha
    exact ha.2.eq hb.2 (by rw [ha.1, hb.1, hsha])
  exact eq_of_map_eq hinj (fun a ha => ⟨h.named a ha, h.recorded a ha⟩)
    (fun b hb => ⟨h'.named b hb, h'.recorded b hb⟩) (h.hashes.trans h'.hashes.symm)

/-- The manifest of the inventory in a bucket that holds all that it names. -/
structure IsManifest (hexdigest : List UInt8 → Sha256Text) (request : PublicationRequest)
    (bucket : StateBucket) (manifest : StateManifestFields) : Prop where
  fields : manifest = manifestFields hexdigest request manifest.inventoryObject manifest.blobObjects
  inventoryName : manifest.inventoryObject.objectName = inventoryObjectName hexdigest request
  inventoryRecorded : Recorded hexdigest bucket manifest.inventoryObject
  blobs : BlobObjects hexdigest request bucket manifest.blobObjects

theorem IsManifest.mono (h : IsManifest hexdigest request bucket manifest)
    (hextends : Extends later bucket) : IsManifest hexdigest request later manifest :=
  ⟨h.fields, h.inventoryName, h.inventoryRecorded.mono hextends, h.blobs.mono hextends⟩

/-- A bucket has one manifest of the inventory. -/
theorem IsManifest.eq (h : IsManifest hexdigest request bucket manifest)
    (h' : IsManifest hexdigest request bucket otherManifest) : manifest = otherManifest := by
  have hinventory := h.inventoryRecorded.eq h'.inventoryRecorded (h.inventoryName.trans h'.inventoryName.symm)
  rw [h.fields, h'.fields, hinventory, h.blobs.eq h'.blobs]

/-- The writes that a call makes in a bucket. -/
inductive WriteOf (hexdigest : List UInt8 → Sha256Text) (request : PublicationRequest)
    (bucket : StateBucket) : StateWrite → Prop
  | blob (entry : PipelineStateEntry) (payload : List UInt8)
      (h : blobContent request entry.sha256 = some payload) :
      WriteOf hexdigest request bucket (blobWrite entry payload)
  | inventory (h : Prepared hexdigest request) :
      WriteOf hexdigest request bucket (inventoryWrite hexdigest request)
  | manifest (manifest : PipelineStatePublicationManifest)
      (h : IsManifest hexdigest request bucket manifest.1)
      (hfits : (encodedStateManifest hexdigest manifest.1).length ≤ maximumPublicationManifestBytes) :
      WriteOf hexdigest request bucket (manifestWrite hexdigest manifest)

variable {otherWrite : StateWrite}

theorem WriteOf.mono (h : WriteOf hexdigest request bucket write) (hextends : Extends later bucket) :
    WriteOf hexdigest request later write := by
  cases h with
  | blob entry payload h => exact .blob entry payload h
  | inventory h => exact .inventory h
  | manifest manifest h hfits => exact .manifest manifest (h.mono hextends) hfits

/-- What is written under a name is the same in every write. -/
theorem WriteOf.content_eq (h : WriteOf hexdigest request bucket write)
    (h' : WriteOf hexdigest request bucket otherWrite) (hname : write.objectName = otherWrite.objectName) :
    write.contentBytes = otherWrite.contentBytes := by
  cases h with
  | blob entry payload h =>
    cases h' with
    | blob other content h' =>
      have hsha : entry.sha256 = other.sha256 := StateObjectName.blob.inj hname
      rw [hsha, h'] at h
      exact (Option.some.inj h).symm
    | inventory h' => cases hname
    | manifest manifest h' hfits => cases hname
  | inventory h =>
    cases h' with
    | blob other content h' => cases hname
    | inventory h' => rfl
    | manifest manifest h' hfits => cases hname
  | manifest manifest h hfits =>
    cases h' with
    | blob other content h' => cases hname
    | inventory h' => cases hname
    | manifest other h' hfits' =>
      show encodedStateManifest hexdigest manifest.1 = encodedStateManifest hexdigest other.1
      rw [h.eq h']

theorem stateJsonBytes_ne_nil (entries : List (String × Json)) : stateJsonBytes entries ≠ [] := by
  intro h
  have hempty : Utf8Text.encode (dumps (.object entries) ++ "\n") = Utf8Text.encode "" := h
  have htext := congrArg String.toList (Utf8Text.encode_injective hempty)
  rw [String.toList_append] at htext
  exact absurd (List.append_eq_nil_iff.mp htext).2 (by decide)

theorem WriteOf.fits (h : WriteOf hexdigest request bucket write) :
    write.contentBytes ≠ [] ∧ write.contentBytes.length ≤ write.maximumBytes := by
  cases h with
  | blob entry payload h => exact blobContent_fits h
  | inventory h => exact ⟨stateJsonBytes_ne_nil _, h.inventory_fits⟩
  | manifest manifest h hfits => exact ⟨stateJsonBytes_ne_nil _, hfits⟩

theorem WriteOf.maximum (h : WriteOf hexdigest request bucket write) :
    write.maximumBytes ≤ maximumFileBytes := by
  cases h with
  | blob entry payload h => exact le_rfl
  | inventory h => exact (by decide : maximumEncodedBytes ≤ maximumFileBytes)
  | manifest manifest h hfits => exact (by decide : maximumPublicationManifestBytes ≤ maximumFileBytes)

/-- Every object of the bucket was written by a call. -/
def Faithful (hexdigest : List UInt8 → Sha256Text) (request : PublicationRequest)
    (bucket : StateBucket) : Prop :=
  ∀ name object, bucket name = some object → ∃ write, WriteOf hexdigest request bucket write ∧
    write.objectName = name ∧ write.contentBytes = object.bytes

theorem Faithful.createOrVerify (h : Faithful hexdigest request bucket)
    (hwrite : WriteOf hexdigest request bucket write) (input : PublicationInput) (step : WriterStep) :
    Faithful hexdigest request (createOrVerify hexdigest input write step bucket).2 := by
  have hextends := createOrVerify_extends hexdigest input write step bucket
  intro name object hobject
  rcases createOrVerify_object hobject with hold | ⟨hname, hbytes⟩
  · obtain ⟨old, hwritten, hname, hbytes⟩ := h name object hold
    exact ⟨old, hwritten.mono hextends, hname, hbytes⟩
  · exact ⟨write, hwrite.mono hextends, hname, hbytes⟩

/-- What stands under the name of a write is what is written. -/
theorem Faithful.same (h : Faithful hexdigest request bucket)
    (hwrite : WriteOf hexdigest request bucket write) :
    ∀ object, bucket write.objectName = some object → object.bytes = write.contentBytes := by
  intro object hobject
  obtain ⟨old, hold, hname, hbytes⟩ := h _ object hobject
  rw [← hbytes, hold.content_eq hwrite hname]

theorem Faithful.byteCount (h : Faithful hexdigest request bucket)
    (hvalue : Recorded hexdigest bucket value) :
    value.byteCount ≠ 0 ∧ value.byteCount ≤ maximumFileBytes := by
  obtain ⟨bytes, hobject, hcount, -⟩ := hvalue
  obtain ⟨write, hwrite, -, hbytes⟩ := h _ _ hobject
  have hbytes' : write.contentBytes = bytes := hbytes
  obtain ⟨hcontent, hlength⟩ := hwrite.fits
  rw [hbytes'] at hcontent hlength
  rw [hcount]
  exact ⟨fun hzero => hcontent (List.length_eq_zero_iff.mp hzero), hlength.trans hwrite.maximum⟩

/-- The manifest of the inventory passes its checks. -/
theorem IsManifest.valid (hprepared : Prepared hexdigest request) (hbucket : Faithful hexdigest request bucket)
    (h : IsManifest hexdigest request bucket manifest) : validateStateManifest manifest = .ok () := by
  have hname := h.inventoryName
  have hcount := (hbucket.byteCount h.inventoryRecorded).1
  have hcounts : ¬∃ blob ∈ manifest.blobObjects, blob.byteCount = 0 := by
    rintro ⟨blob, hblob, hzero⟩
    exact (hbucket.byteCount (h.blobs.recorded blob hblob)).1 hzero
  have hnames : ¬∃ blob ∈ manifest.blobObjects, blob.objectName ≠ .blob blob.sha256 := by
    rintro ⟨blob, hblob, hne⟩
    exact hne (h.blobs.named blob hblob)
  have hordered : manifest.blobObjects.Pairwise fun a b => a.sha256.1 < b.sha256.1 := by
    have hhashes := uniqueHashes_ordered request
    rw [← h.blobs.hashes, List.pairwise_map] at hhashes
    exact hhashes
  have hfields := h.fields
  have hbucketName : isStateBucket manifest.bucket = true := by
    rw [hfields]
    exact hprepared.bucket
  have hinventoryName : manifest.inventoryObject.objectName =
      .inventory manifest.marketSession manifest.runId manifest.inventoryId := by
    rw [hname, hfields]
    rfl
  unfold validateStateManifest
  rw [raiseIf_neg (not_not.mpr hbucketName), ok_bind, raiseIf_neg hcount, ok_bind,
    raiseIf_neg (not_not.mpr hinventoryName), ok_bind, raiseIf_neg hcounts, ok_bind,
    raiseIf_neg (not_not.mpr hordered), ok_bind, raiseIf_neg hnames]

/-- The manifest of the inventory is short enough. -/
theorem IsManifest.fits (hprepared : Prepared hexdigest request) (hbucket : Faithful hexdigest request bucket)
    (h : IsManifest hexdigest request bucket manifest) :
    (encodedStateManifest hexdigest manifest).length ≤ maximumPublicationManifestBytes := by
  have hfields := h.fields
  have hbucketName : isStateBucket manifest.bucket = true := by
    rw [hfields]
    exact hprepared.bucket
  have hinventoryName : manifest.inventoryObject.objectName =
      .inventory manifest.marketSession manifest.runId manifest.inventoryId := by
    rw [h.inventoryName, hfields]
    rfl
  have hlimit : ∀ value, Recorded hexdigest bucket value → value.byteCount < 10 ^ 9 := by
    intro value hvalue
    exact (hbucket.byteCount hvalue).2.trans_lt (by decide)
  have hsize := stateManifest_size hbucketName (publicationId hexdigest manifest)
    (hlimit _ h.inventoryRecorded) hinventoryName fun blob hblob =>
      ⟨hlimit blob (h.blobs.recorded blob hblob), h.blobs.named blob hblob⟩
  have hlength := length_encode_line_le
    (stateManifest_plain hbucketName (publicationId hexdigest manifest))
  have hblobs : manifest.blobObjects.length ≤ maximumIncludedFiles := by
    rw [← List.length_map (·.sha256), h.blobs.hashes]
    exact length_uniqueHashes_le request
  unfold encodedStateManifest stateJsonBytes
  unfold maximumIncludedFiles at hblobs
  unfold maximumPublicationManifestBytes
  omega

end Writes

end IndiaSwing
