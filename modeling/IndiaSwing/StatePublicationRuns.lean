import IndiaSwing.StateWrites

namespace IndiaSwing

open CivilTime JsonText ExceptGuards KeySort ObjectStore Interleaving ActionRuns

variable {hexdigest : List UInt8 → Sha256Text} {request : PublicationRequest}
variable {bucket later : StateBucket} {input : PublicationInput} {call : ℕ}
variable {uploaded : List (Sha256Text × PublishedStateObject)} {todo : List PipelineStateEntry}
variable {entry : PipelineStateEntry} {value : PublishedStateObject} {phase : PublicationPhase}

section Progress

/-- How far the entries are published: what is looked up is what was done. -/
structure Progress (hexdigest : List UInt8 → Sha256Text) (request : PublicationRequest)
    (bucket : StateBucket) (uploaded : List (Sha256Text × PublishedStateObject))
    (todo : List PipelineStateEntry) : Prop where
  prepared : Prepared hexdigest request
  split : ∃ done, entriesInPublicationOrder request = done ++ todo ∧
    ∀ hash, (uploaded.lookup hash).isSome ↔ ∃ entry ∈ done, entry.sha256 = hash
  recorded : ∀ hash value, uploaded.lookup hash = some value → value.objectName = .blob hash ∧
    value.sha256 = hash ∧ Recorded hexdigest bucket value

theorem Progress.mono (h : Progress hexdigest request bucket uploaded todo)
    (hextends : Extends later bucket) : Progress hexdigest request later uploaded todo := by
  refine ⟨h.prepared, h.split, fun hash value hvalue => ?_⟩
  obtain ⟨hname, hsha, hrecorded⟩ := h.recorded hash value hvalue
  exact ⟨hname, hsha, hrecorded.mono hextends⟩

theorem Progress.start (h : Prepared hexdigest request) :
    Progress hexdigest request bucket [] (entriesInPublicationOrder request) :=
  ⟨h, ⟨[], rfl, fun hash => by simp⟩, fun hash value hvalue => by cases hvalue⟩

/-- An entry whose hash is published is done. -/
theorem Progress.skip (h : Progress hexdigest request bucket uploaded (entry :: todo))
    (hold : (uploaded.lookup entry.sha256).isSome) : Progress hexdigest request bucket uploaded todo := by
  obtain ⟨done, horder, hdone⟩ := h.split
  refine ⟨h.prepared, ⟨done ++ [entry], by rw [horder, List.append_assoc]; rfl, fun hash => ?_⟩, h.recorded⟩
  rw [hdone hash]
  constructor
  · rintro ⟨other, hother, hhash⟩
    exact ⟨other, List.mem_append_left _ hother, hhash⟩
  · rintro ⟨other, hother, hhash⟩
    rcases List.mem_append.mp hother with hother | hother
    · exact ⟨other, hother, hhash⟩
    · obtain rfl := List.mem_singleton.mp hother
      rw [← hhash]
      exact (hdone _).mp hold

/-- An entry is done once its hash is published. -/
theorem Progress.add (h : Progress hexdigest request bucket uploaded (entry :: todo))
    (hname : value.objectName = .blob entry.sha256) (hsha : value.sha256 = entry.sha256)
    (hrecorded : Recorded hexdigest bucket value) :
    Progress hexdigest request bucket ((entry.sha256, value) :: uploaded) todo := by
  obtain ⟨done, horder, hdone⟩ := h.split
  refine ⟨h.prepared, ⟨done ++ [entry], by rw [horder, List.append_assoc]; rfl, fun hash => ?_⟩,
    fun hash other hother => ?_⟩
  · rw [List.lookup_cons]
    by_cases hhash : hash = entry.sha256
    · subst hhash
      simp only [beq_self_eq_true, Option.isSome_some, true_iff]
      exact ⟨entry, List.mem_append_right _ List.mem_cons_self, rfl⟩
    · rw [beq_eq_false_iff_ne.mpr hhash, hdone hash]
      constructor
      · rintro ⟨other, hother, heq⟩
        exact ⟨other, List.mem_append_left _ hother, heq⟩
      · rintro ⟨other, hother, heq⟩
        rcases List.mem_append.mp hother with hother | hother
        · exact ⟨other, hother, heq⟩
        · rw [List.mem_singleton.mp hother] at heq
          exact absurd heq.symm hhash
  · rw [List.lookup_cons] at hother
    by_cases hhash : hash = entry.sha256
    · subst hhash
      rw [beq_self_eq_true] at hother
      obtain rfl := Option.some.inj hother
      exact ⟨hname, hsha, hrecorded⟩
    · rw [beq_eq_false_iff_ne.mpr hhash] at hother
      exact h.recorded hash other hother

/-- The file of an entry whose hash is not published is what its hash publishes. -/
theorem Progress.blobContent (h : Progress hexdigest request bucket uploaded (entry :: todo))
    (hnew : uploaded.lookup entry.sha256 = none) :
    blobContent request entry.sha256 = localBytes request entry := by
  obtain ⟨done, horder, hdone⟩ := h.split
  have hnone : done.find? (·.sha256 = entry.sha256) = none := by
    rw [List.find?_eq_none]
    intro other hother hhash
    have hsome := (hdone entry.sha256).mpr ⟨other, hother, of_decide_eq_true hhash⟩
    rw [hnew] at hsome
    cases hsome
  unfold IndiaSwing.blobContent
  rw [horder, List.find?_append, hnone, Option.none_or, List.find?_cons]
  simp

theorem Progress.finished (h : Progress hexdigest request bucket uploaded []) :
    ∀ hash ∈ uniqueHashes request, (uploaded.lookup hash).isSome := by
  obtain ⟨done, horder, hdone⟩ := h.split
  rw [List.append_nil] at horder
  intro hash hhash
  rw [hdone, ← horder]
  exact mem_uniqueHashes.mp hhash

/-- The records of all entries, in the order of their hashes. -/
theorem Progress.blobs (h : Progress hexdigest request bucket uploaded []) :
    BlobObjects hexdigest request bucket
      ((uniqueHashes request).filterMap fun hash => uploaded.lookup hash) := by
  have hfinished := h.finished
  have hmem : ∀ blob ∈ (uniqueHashes request).filterMap fun hash => uploaded.lookup hash,
      ∃ hash, uploaded.lookup hash = some blob := by
    intro blob hblob
    obtain ⟨hash, -, hlookup⟩ := List.mem_filterMap.mp hblob
    exact ⟨hash, hlookup⟩
  refine ⟨?_, fun blob hblob => ?_, fun blob hblob => ?_⟩
  · generalize uniqueHashes request = hashes at hfinished
    clear hmem
    induction hashes with
    | nil => rfl
    | cons hash hashes ih =>
      obtain ⟨value, hvalue⟩ := Option.isSome_iff_exists.mp (hfinished hash List.mem_cons_self)
      have hrest := ih fun other hother => hfinished other (List.mem_cons_of_mem _ hother)
      rw [List.filterMap_cons, hvalue, List.map_cons, hrest, (h.recorded hash value hvalue).2.1]
  · obtain ⟨hash, hlookup⟩ := hmem blob hblob
    obtain ⟨hname, hsha, -⟩ := h.recorded hash blob hlookup
    rw [hname, hsha]
  · obtain ⟨hash, hlookup⟩ := hmem blob hblob
    exact (h.recorded hash blob hlookup).2.2

end Progress

section Positions

variable {write : StateWrite} {step : WriterStep}

/-- Where a call may stand. -/
inductive Position (hexdigest : List UInt8 → Sha256Text) (request : PublicationRequest)
    (bucket : StateBucket) : PublicationPhase → Prop
  | start : Position hexdigest request bucket .start
  | entries {uploaded : List (Sha256Text × PublishedStateObject)} {todo : List PipelineStateEntry}
      (h : Progress hexdigest request bucket uploaded todo) :
      Position hexdigest request bucket (.entries uploaded todo)
  | blob {uploaded : List (Sha256Text × PublishedStateObject)} {entry : PipelineStateEntry}
      {todo : List PipelineStateEntry} (payload : List UInt8) (step : WriterStep)
      (h : Progress hexdigest request bucket uploaded (entry :: todo))
      (hcontent : blobContent request entry.sha256 = some payload)
      (hdigest : hexdigest payload = entry.sha256) :
      Position hexdigest request bucket (.blob uploaded entry todo payload step)
  | inventory (blobObjects : List PublishedStateObject) (step : WriterStep)
      (hprepared : Prepared hexdigest request)
      (h : BlobObjects hexdigest request bucket blobObjects) :
      Position hexdigest request bucket (.inventory blobObjects step)
  | manifest (manifest : PipelineStatePublicationManifest) (step : WriterStep)
      (h : IsManifest hexdigest request bucket manifest.1)
      (hfits : (encodedStateManifest hexdigest manifest.1).length ≤ maximumPublicationManifestBytes) :
      Position hexdigest request bucket (.manifest manifest step)
  | returned (completed : CompletedPipelineStatePublication)
      (h : bucket (manifestWrite hexdigest completed.manifest).objectName =
        some ⟨(manifestWrite hexdigest completed.manifest).contentBytes,
          completed.publicationObject.generation⟩)
      (hrecord : completed.publicationObject = (manifestWrite hexdigest completed.manifest).record
        hexdigest completed.publicationObject.generation) :
      Position hexdigest request bucket (.returned completed)
  | raised (message : String) : Position hexdigest request bucket (.raised message)

theorem Position.mono (h : Position hexdigest request bucket phase) (hextends : Extends later bucket) :
    Position hexdigest request later phase := by
  cases h with
  | start => exact .start
  | entries h => exact .entries (h.mono hextends)
  | blob payload step h hcontent hdigest => exact .blob payload step (h.mono hextends) hcontent hdigest
  | inventory blobObjects step hprepared h => exact .inventory blobObjects step hprepared (h.mono hextends)
  | manifest manifest step h hfits => exact .manifest manifest step (h.mono hextends) hfits
  | returned completed h hrecord => exact .returned completed (hextends _ _ h) hrecord
  | raised message => exact .raised message

/-- What a step keeps. -/
structure Kept (hexdigest : List UInt8 → Sha256Text) (request : PublicationRequest)
    (bucket : StateBucket) (next : PublicationPhase × StateBucket) : Prop where
  extends_ : Extends next.2 bucket
  faithful : Faithful hexdigest request next.2
  position : Position hexdigest request next.2 next.1

theorem Kept.same (hbucket : Faithful hexdigest request bucket)
    (hposition : Position hexdigest request bucket phase) :
    Kept hexdigest request bucket (phase, bucket) := ⟨Extends.refl bucket, hbucket, hposition⟩

/-- A writer step keeps what the phase within the write and the phase after it ask for. -/
theorem afterWrite_kept {within : WriterStep → PublicationPhase}
    {next : PublishedStateObject → PublicationPhase} (hbucket : Faithful hexdigest request bucket)
    (hwrite : WriteOf hexdigest request bucket write)
    (hwithin : ∀ later step, Extends later bucket → Position hexdigest request later (within step))
    (hnext : ∀ later value, Extends later bucket → Faithful hexdigest request later →
      later write.objectName = some ⟨write.contentBytes, value.generation⟩ →
      value = write.record hexdigest value.generation → Position hexdigest request later (next value)) :
    Kept hexdigest request bucket
      (afterWrite within next (createOrVerify hexdigest input write step bucket)) := by
  have hextends := createOrVerify_extends hexdigest input write step bucket
  have hfaithful := hbucket.createOrVerify hwrite input step
  refine ⟨hextends, hfaithful, ?_⟩
  unfold afterWrite
  dsimp only
  split
  next step' _ => exact hwithin _ step' hextends
  next value hpublished =>
    obtain ⟨hobject, hrecord⟩ := createOrVerify_published hpublished
    exact hnext _ value hextends hfaithful hobject hrecord
  next => exact .raised _

/-- The record of a write is of what the bucket holds. -/
theorem recorded_write (hobject : bucket write.objectName = some ⟨write.contentBytes, value.generation⟩)
    (hrecord : value = write.record hexdigest value.generation) : Recorded hexdigest bucket value := by
  refine ⟨write.contentBytes, ?_, ?_, ?_⟩
  · rw [hrecord]
    exact hobject
  · rw [hrecord]
    rfl
  · rw [hrecord]
    rfl

theorem startManifest_eq {blobObjects : List PublishedStateObject}
    (h : validateStateManifest (manifestFields hexdigest request value blobObjects) = .ok ())
    (hfits : (encodedStateManifest hexdigest (manifestFields hexdigest request value blobObjects)).length ≤
      maximumPublicationManifestBytes) :
    startManifest hexdigest request blobObjects value = .manifest ⟨_, h⟩ .upload := by
  unfold startManifest
  rw [Checked.build_of_ok h, ok_bind, encodePublicationManifest, raiseIf_neg (not_lt.mpr hfits)]
  rfl

theorem startManifest_position {blobObjects : List PublishedStateObject}
    (hprepared : Prepared hexdigest request) (hbucket : Faithful hexdigest request bucket)
    (hblobs : BlobObjects hexdigest request bucket blobObjects)
    (hname : value.objectName = inventoryObjectName hexdigest request)
    (hrecorded : Recorded hexdigest bucket value) :
    Position hexdigest request bucket (startManifest hexdigest request blobObjects value) ∧
      ∃ manifest, startManifest hexdigest request blobObjects value = .manifest manifest .upload := by
  have hmanifest : IsManifest hexdigest request bucket
      (manifestFields hexdigest request value blobObjects) := ⟨rfl, hname, hrecorded, hblobs⟩
  have hvalid := hmanifest.valid hprepared hbucket
  have hfits := hmanifest.fits hprepared hbucket
  rw [startManifest_eq hvalid hfits]
  exact ⟨.manifest ⟨_, hvalid⟩ .upload hmanifest hfits, _, rfl⟩

/-- One step of a call keeps all objects, adds only what the calls write, and stands where it may. -/
theorem publishStep_kept (call : ℕ) (input : PublicationInput) (hbucket : Faithful hexdigest request bucket)
    (hposition : Position hexdigest request bucket phase) :
    Kept hexdigest request bucket (publishStep hexdigest request call input bucket phase) := by
  cases hposition with
  | start =>
    unfold publishStep
    dsimp only
    split
    next => exact .same hbucket (.raised _)
    next supplied hprepare => exact .same hbucket (.entries (.start ⟨supplied, hprepare⟩))
  | @entries uploaded todo h =>
    cases todo with
    | nil =>
      unfold publishStep
      dsimp only
      rw [if_pos h.finished]
      exact .same hbucket (.inventory _ _ h.prepared h.blobs)
    | cons entry todo =>
      unfold publishStep
      refine .same hbucket ?_
      split
      next => exact .raised _
      next payload hread =>
        obtain ⟨hlocal, hdigest⟩ := readEntry_eq_ok hread
        split
        next hold => exact .entries (h.skip hold)
        next hnew =>
          have hcontent := h.blobContent (Option.not_isSome_iff_eq_none.mp hnew)
          exact .blob payload .upload h (hcontent.trans hlocal) hdigest
  | @blob uploaded entry todo payload step h hcontent hdigest =>
    unfold publishStep
    refine afterWrite_kept hbucket (.blob entry payload hcontent)
      (fun later step hextends => .blob payload step (h.mono hextends) hcontent hdigest)
      fun later value hextends _ hobject hrecord => ?_
    have hname : value.objectName = .blob entry.sha256 := by
      rw [hrecord]
      rfl
    have hsha : value.sha256 = entry.sha256 := by
      rw [hrecord]
      exact hdigest
    exact .entries ((h.mono hextends).add hname hsha (recorded_write hobject hrecord))
  | inventory blobObjects step hprepared h =>
    unfold publishStep
    refine afterWrite_kept hbucket (.inventory hprepared)
      (fun later step hextends => .inventory blobObjects step hprepared (h.mono hextends))
      fun later value hextends hfaithful hobject hrecord => ?_
    have hname : value.objectName = inventoryObjectName hexdigest request := by
      rw [hrecord]
      rfl
    exact (startManifest_position hprepared hfaithful (h.mono hextends) hname
      (recorded_write hobject hrecord)).1
  | manifest manifest step h hfits =>
    unfold publishStep
    refine afterWrite_kept hbucket (.manifest manifest h hfits)
      (fun later step hextends => .manifest manifest step (h.mono hextends) hfits)
      fun later value _ _ hobject hrecord => ?_
    exact .returned ⟨manifest, value⟩ hobject hrecord
  | returned completed h hrecord => exact .same hbucket (.returned completed h hrecord)
  | raised message => exact .same hbucket (.raised message)

theorem publishStep_stable (hexdigest : List UInt8 → Sha256Text) (request : PublicationRequest) :
    Stable (publishStep hexdigest request) (Faithful hexdigest request)
      fun _ => Position hexdigest request where
  shared _ _ _ _ hbucket hposition := (publishStep_kept _ _ hbucket hposition).faithful
  own _ _ _ _ hbucket hposition := (publishStep_kept _ _ hbucket hposition).position
  others _ _ _ _ _ _ _ hbucket hposition hother :=
    hother.mono (publishStep_kept _ _ hbucket hposition).extends_

end Positions

section Completion

variable {write : StateWrite} {step : WriterStep} {turns : List (Turn PublicationInput)}

/-- Where a call may stand that saw no failure. -/
def Smooth (hexdigest : List UInt8 → Sha256Text) (request : PublicationRequest) (bucket : StateBucket) :
    PublicationPhase → Prop
  | .blob _ entry _ payload step => WriterReady bucket (blobWrite entry payload) step
  | .inventory _ step => WriterReady bucket (inventoryWrite hexdigest request) step
  | .manifest manifest step => WriterReady bucket (manifestWrite hexdigest manifest) step
  | .raised _ => False
  | .start | .entries _ _ | .returned _ => True

theorem Smooth.mono (h : Smooth hexdigest request bucket phase) (hextends : Extends later bucket) :
    Smooth hexdigest request later phase := by
  cases phase with
  | blob uploaded entry todo payload step => exact WriterReady.mono h hextends
  | inventory blobObjects step => exact WriterReady.mono h hextends
  | manifest manifest step => exact WriterReady.mono h hextends
  | raised message => exact h
  | start => trivial
  | entries uploaded todo => trivial
  | returned completed => trivial

/-- How many steps a call has before it at most. -/
def PublicationPhase.rank (request : PublicationRequest) : PublicationPhase → ℕ
  | .start => 8 + 4 * request.inventory.1.entries.length
  | .entries _ todo => 7 + 4 * todo.length
  | .blob _ _ todo _ step => 8 + 4 * todo.length + step.rank
  | .inventory _ step => 4 + step.rank
  | .manifest _ step => 1 + step.rank
  | .returned _ | .raised _ => 0

/-- A step of a call that saw no failure, without a failure. -/
def Advances (hexdigest : List UInt8 → Sha256Text) (request : PublicationRequest)
    (phase : PublicationPhase) (next : PublicationPhase × StateBucket) : Prop :=
  Smooth hexdigest request next.2 next.1 ∧ next.1.rank request ≤ phase.rank request - 1

theorem afterWrite_advances {within : WriterStep → PublicationPhase}
    {next : PublishedStateObject → PublicationPhase} (hinput : input.WithoutFailure)
    (hbucket : Faithful hexdigest request bucket) (hwrite : WriteOf hexdigest request bucket write)
    (hready : WriterReady bucket write step)
    (hwithin : ∀ bucket step, WriterReady bucket write step → Smooth hexdigest request bucket (within step))
    (hrank : ∀ later, later.rank < step.rank → (within later).rank request ≤ (within step).rank request - 1)
    (hnext : ∀ later value, Extends later bucket → Faithful hexdigest request later →
      later write.objectName = some ⟨write.contentBytes, value.generation⟩ →
      value = write.record hexdigest value.generation →
      Advances hexdigest request (within step) (next value, later)) :
    Advances hexdigest request (within step)
      (afterWrite within next (createOrVerify hexdigest input write step bucket)) := by
  have hextends := createOrVerify_extends hexdigest input write step bucket
  have hfaithful := hbucket.createOrVerify hwrite input step
  obtain ⟨hcontent, hlength⟩ := hwrite.fits
  unfold afterWrite
  rcases createOrVerify_progress hexdigest hinput hready hcontent hlength
    (hbucket.same hwrite) with ⟨later, heq, hless, hlater⟩ | ⟨value, heq⟩
  · rw [heq]
    exact ⟨hwithin _ later hlater, hrank later hless⟩
  · obtain ⟨hobject, hrecord⟩ := createOrVerify_published heq
    have hadvance := hnext _ value hextends hfaithful hobject hrecord
    rw [heq]
    exact hadvance

/-- A step without a failure brings a call nearer to its end. -/
theorem publishStep_advances (call : ℕ) (hprepared : Prepared hexdigest request) (hinput : input.WithoutFailure)
    (hbucket : Faithful hexdigest request bucket) (hposition : Position hexdigest request bucket phase)
    (hsmooth : Smooth hexdigest request bucket phase) :
    Advances hexdigest request phase (publishStep hexdigest request call input bucket phase) := by
  cases hposition with
  | start =>
    obtain ⟨supplied, hprepare⟩ := hprepared
    have hlength : (entriesInPublicationOrder request).length = request.inventory.1.entries.length :=
      (perm_sortOn _ _).length_eq
    unfold publishStep
    simp only [hprepare]
    refine ⟨trivial, ?_⟩
    simp only [PublicationPhase.rank, hlength]
    omega
  | @entries uploaded todo h =>
    cases todo with
    | nil =>
      unfold publishStep
      dsimp only
      rw [if_pos h.finished]
      refine ⟨trivial, ?_⟩
      simp [PublicationPhase.rank, WriterStep.rank]
    | cons entry todo =>
      obtain ⟨done, horder, -⟩ := h.split
      have hentry : entry ∈ entriesInPublicationOrder request := by
        rw [horder]
        exact List.mem_append_right _ List.mem_cons_self
      obtain ⟨payload, hread⟩ := hprepared.readEntry hentry hinput.reads
      unfold publishStep
      simp only [hread]
      split
      next =>
        refine ⟨trivial, ?_⟩
        simp only [PublicationPhase.rank, List.length_cons]
        omega
      next =>
        refine ⟨trivial, ?_⟩
        simp only [PublicationPhase.rank, WriterStep.rank, List.length_cons]
        omega
  | @blob uploaded entry todo payload step h hcontent hdigest =>
    unfold publishStep
    refine afterWrite_advances hinput hbucket (.blob entry payload hcontent) hsmooth
      (fun _ _ hready => hready) (fun later hless => ?_) fun later value _ _ _ _ => ⟨trivial, ?_⟩
    · simp only [PublicationPhase.rank]
      omega
    · simp only [PublicationPhase.rank]
      omega
  | inventory blobObjects step _ h =>
    unfold publishStep
    refine afterWrite_advances hinput hbucket (.inventory hprepared) hsmooth
      (fun _ _ hready => hready) (fun later hless => ?_) fun later value hextends hfaithful hobject hrecord => ?_
    · simp only [PublicationPhase.rank]
      omega
    · have hname : value.objectName = inventoryObjectName hexdigest request := by
        rw [hrecord]
        rfl
      obtain ⟨manifest, hstart⟩ := (startManifest_position hprepared hfaithful (h.mono hextends) hname
        (recorded_write hobject hrecord)).2
      rw [hstart]
      refine ⟨trivial, ?_⟩
      simp only [PublicationPhase.rank, WriterStep.rank]
      omega
  | manifest manifest step h hfits =>
    unfold publishStep
    refine afterWrite_advances hinput hbucket (.manifest manifest h hfits) hsmooth
      (fun _ _ hready => hready) (fun later hless => ?_) fun later value _ _ _ _ => ⟨trivial, ?_⟩
    · simp only [PublicationPhase.rank]
      omega
    · exact Nat.zero_le _
  | returned completed h hrecord => exact ⟨trivial, Nat.zero_le _⟩
  | raised message => exact absurd hsmooth id

/-- The empty bucket, and calls that have not started. -/
def noPublication : System StateBucket PublicationPhase := ⟨fun _ => none, fun _ => .start⟩

theorem noPublication_holds (hexdigest : List UInt8 → Sha256Text) (request : PublicationRequest) :
    Holds (Faithful hexdigest request) (fun _ => Position hexdigest request) noPublication :=
  ⟨fun _ _ hobject => absurd hobject (Option.some_ne_none _).symm, fun _ => .start⟩

theorem publications_hold (hexdigest : List UInt8 → Sha256Text) (request : PublicationRequest)
    (turns : List (Turn PublicationInput)) :
    Holds (Faithful hexdigest request) (fun _ => Position hexdigest request)
      (runTurns (publishStep hexdigest request) noPublication turns) :=
  (publishStep_stable hexdigest request).run (noPublication_holds hexdigest request) turns

/-- Whatever the other calls do, every turn without a failure brings a call nearer to its end. -/
theorem publications_advance (hprepared : Prepared hexdigest request)
    (hturns : ∀ turn ∈ turns, turn.call = call → turn.input.WithoutFailure) :
    let system := runTurns (publishStep hexdigest request) noPublication turns
    Smooth hexdigest request system.shared (system.calls call) ∧
      (system.calls call).rank request ≤
        PublicationPhase.start.rank request - (turns.filter (·.call = call)).length := by
  induction turns using List.reverseRecOn with
  | nil => exact ⟨trivial, by simp [runTurns, noPublication]⟩
  | append_singleton turns turn ih =>
    obtain ⟨hsmooth, hrank⟩ := ih fun other hother => hturns other (List.mem_append_left _ hother)
    obtain ⟨hbucket, hpositions⟩ := publications_hold hexdigest request turns
    unfold runTurns at hsmooth hrank hbucket hpositions ⊢
    rw [run_concat]
    dsimp only
    by_cases hcall : turn.call = call
    · subst hcall
      have hinput := hturns turn (List.mem_append_right _ List.mem_cons_self) rfl
      have hnext := publishStep_advances turn.call hprepared hinput hbucket (hpositions _) hsmooth
      rw [turn_calls_self, turn_shared, List.filter_append, List.length_append]
      refine ⟨hnext.1, ?_⟩
      have hdown := hnext.2
      simp only [List.filter_cons, decide_true, if_true, List.filter_nil, List.length_singleton]
      omega
    · have hkept := publishStep_kept turn.call turn.input hbucket (hpositions turn.call)
      rw [turn_calls_other (Ne.symm hcall), turn_shared, List.filter_append, List.length_append]
      refine ⟨hsmooth.mono hkept.extends_, ?_⟩
      simpa [List.filter_cons, hcall] using hrank

end Completion

section Convergence

variable {name other : StateObjectName} {object otherObject : StateObject}

def StateObjectName.isPublication : StateObjectName → Bool
  | .publication _ _ _ => true
  | _ => false

/-- A stored publication, with the manifest that it holds: everything that the manifest names stands in
the bucket as the manifest records it, and is what the inventory and the local files have. -/
structure StoredPublication (hexdigest : List UInt8 → Sha256Text) (request : PublicationRequest)
    (bucket : StateBucket) (name : StateObjectName) (object : StateObject)
    (manifest : StateManifestFields) : Prop where
  isManifest : IsManifest hexdigest request bucket manifest
  named : publicationObjectName hexdigest manifest = name
  encoded : encodedStateManifest hexdigest manifest = object.bytes
  inventory : bucket manifest.inventoryObject.objectName =
    some ⟨encodedInventory hexdigest request.inventory.1, manifest.inventoryObject.generation⟩
  blobs : ∀ blob ∈ manifest.blobObjects, ∃ content, blobContent request blob.sha256 = some content ∧
    bucket blob.objectName = some ⟨content, blob.generation⟩

theorem Faithful.inventory (h : Faithful hexdigest request bucket)
    (hobject : bucket (inventoryObjectName hexdigest request) = some object) :
    object.bytes = encodedInventory hexdigest request.inventory.1 := by
  obtain ⟨write, hwrite, hname, hbytes⟩ := h _ _ hobject
  cases hwrite with
  | blob entry payload h => cases hname
  | inventory h => exact hbytes.symm
  | manifest manifest h hfits => cases hname

theorem Faithful.blob {hash : Sha256Text} (h : Faithful hexdigest request bucket)
    (hobject : bucket (.blob hash) = some object) : blobContent request hash = some object.bytes := by
  obtain ⟨write, hwrite, hname, hbytes⟩ := h _ _ hobject
  cases hwrite with
  | blob entry payload h =>
    have hsha : entry.sha256 = hash := StateObjectName.blob.inj hname
    rw [← hsha, h, ← hbytes]
    rfl
  | inventory h => cases hname
  | manifest manifest h hfits => cases hname

theorem Faithful.publication (h : Faithful hexdigest request bucket) (hname : name.isPublication = true)
    (hobject : bucket name = some object) :
    ∃ manifest, StoredPublication hexdigest request bucket name object manifest := by
  obtain ⟨write, hwrite, rfl, hbytes⟩ := h _ _ hobject
  cases hwrite with
  | blob entry payload h => cases hname
  | inventory h => cases hname
  | manifest manifest hmanifest _ =>
    refine ⟨manifest.1, hmanifest, rfl, hbytes, ?_, fun blob hblob => ?_⟩
    · obtain ⟨bytes, hinventory, -⟩ := hmanifest.inventoryRecorded
      have hcontent := hinventory
      rw [hmanifest.inventoryName] at hcontent
      rw [hinventory, ← h.inventory hcontent]
    · obtain ⟨bytes, hstored, -⟩ := hmanifest.blobs.recorded blob hblob
      have hcontent := hstored
      rw [hmanifest.blobs.named blob hblob] at hcontent
      exact ⟨bytes, h.blob hcontent, hstored⟩

/-- Publications are one object. -/
theorem Faithful.single (h : Faithful hexdigest request bucket) (hname : name.isPublication = true)
    (hother : other.isPublication = true) (hobject : bucket name = some object)
    (hotherObject : bucket other = some otherObject) : name = other ∧ object = otherObject := by
  obtain ⟨manifest, hstored⟩ := h.publication hname hobject
  obtain ⟨manifest', hstored'⟩ := h.publication hother hotherObject
  have hsame : name = other := by
    rw [← hstored.named, ← hstored'.named, hstored.isManifest.eq hstored'.isManifest]
  rw [hsame, hotherObject] at hobject
  exact ⟨hsame, (Option.some.inj hobject).symm⟩

/-- A call with as many turns as it needs returns the publication that the bucket holds. -/
theorem publication_returned {turns : List (Turn PublicationInput)} {call : ℕ}
    (hprepared : Prepared hexdigest request)
    (hturns : ∀ turn ∈ turns, turn.call = call → turn.input.WithoutFailure)
    (hcount : 8 + 4 * request.inventory.1.entries.length ≤ (turns.filter (·.call = call)).length) :
    let system := runTurns (publishStep hexdigest request) noPublication turns
    ∃ completed, system.calls call = .returned completed ∧
      system.shared (publicationObjectName hexdigest completed.manifest.1) =
        some ⟨encodedStateManifest hexdigest completed.manifest.1, completed.publicationObject.generation⟩ := by
  obtain ⟨hsmooth, hrank⟩ := publications_advance hprepared hturns
  have hposition := (publications_hold hexdigest request turns).2 call
  dsimp only at hsmooth hrank hposition ⊢
  generalize (runTurns (publishStep hexdigest request) noPublication turns).calls call = phase at *
  have hzero : phase.rank request = 0 := by
    have hstart : PublicationPhase.start.rank request = 8 + 4 * request.inventory.1.entries.length := rfl
    rw [hstart, Nat.sub_eq_zero_of_le hcount] at hrank
    exact Nat.le_zero.mp hrank
  cases hposition with
  | returned completed h hrecord => exact ⟨completed, rfl, h⟩
  | raised message => exact absurd hsmooth id
  | start => simp [PublicationPhase.rank] at hzero
  | entries h => simp [PublicationPhase.rank] at hzero
  | blob payload step h hcontent hdigest => simp [PublicationPhase.rank] at hzero
  | inventory blobObjects step hprepared h => simp [PublicationPhase.rank] at hzero
  | manifest manifest step h hfits => simp [PublicationPhase.rank] at hzero

/-- However the calls take turns and fail: what is published is complete, there is one publication, and
a call whose turns see no failure comes to its end and returns it. -/
theorem publications_converge (hexdigest : List UInt8 → Sha256Text) (request : PublicationRequest)
    (turns : List (Turn PublicationInput)) :
    let system := runTurns (publishStep hexdigest request) noPublication turns
    (∀ name object, name.isPublication = true → system.shared name = some object →
      ∃ manifest, StoredPublication hexdigest request system.shared name object manifest) ∧
    (∀ name other object otherObject, name.isPublication = true → other.isPublication = true →
      system.shared name = some object → system.shared other = some otherObject →
      name = other ∧ object = otherObject) ∧
    (Prepared hexdigest request → ∀ call,
      (∀ turn ∈ turns, turn.call = call → turn.input.WithoutFailure) →
      8 + 4 * request.inventory.1.entries.length ≤ (turns.filter (·.call = call)).length →
      ∃ completed, system.calls call = .returned completed ∧
        system.shared (publicationObjectName hexdigest completed.manifest.1) =
          some ⟨encodedStateManifest hexdigest completed.manifest.1,
            completed.publicationObject.generation⟩) := by
  have hbucket := (publications_hold hexdigest request turns).1
  refine ⟨fun name object hname hobject => hbucket.publication hname hobject, ?_, ?_⟩
  · intro name other object otherObject hname hother hobject hotherObject
    exact hbucket.single hname hother hobject hotherObject
  · intro hprepared call hturns hcount
    exact publication_returned hprepared hturns hcount

end Convergence

end IndiaSwing
