import IndiaSwing.Lib.JsonSize
import IndiaSwing.StatePublication

namespace IndiaSwing

open CivilTime JsonText ExceptGuards KeySort ObjectStore TextPatterns DigitText

section PlainTexts

variable {c : Char} {text : String} {chars : List Char}

theorem plainChar_of_isDigit (h : c.isDigit = true) : PlainChar c := by
  simp only [Char.isDigit, Bool.and_eq_true, decide_eq_true_eq] at h
  have hlow : 48 ≤ c.toNat := h.1
  have hhigh : c.toNat ≤ 57 := h.2
  refine plainChar_of_range (by omega) (by omega) ?_
  rintro rfl
  exact absurd hhigh (by decide)

theorem plainChar_of_isLower (h : isLower c = true) : PlainChar c := by
  simp only [isLower, Bool.and_eq_true, decide_eq_true_eq] at h
  have hlow : 97 ≤ c.toNat := h.1
  have hhigh : c.toNat ≤ 122 := h.2
  refine plainChar_of_range (by omega) (by omega) ?_
  rintro rfl
  exact absurd hlow (by decide)

theorem plainChar_of_isHex (h : isHex c = true) : PlainChar c := by
  rcases Bool.or_eq_true_iff.mp h with hdigit | hletter
  · exact plainChar_of_isDigit hdigit
  · simp only [Bool.and_eq_true, decide_eq_true_eq] at hletter
    refine plainChar_of_isLower ?_
    simp only [isLower, Bool.and_eq_true, decide_eq_true_eq]
    exact ⟨hletter.1, hletter.2.trans (by decide)⟩

theorem plainChar_of_isBucketCharacter (h : isBucketCharacter c = true) : PlainChar c := by
  simp only [isBucketCharacter, isLowerDigit, Bool.or_eq_true, decide_eq_true_eq] at h
  rcases h with ((((hlower | hdigit) | rfl) | rfl) | rfl)
  · exact plainChar_of_isLower hlower
  · exact plainChar_of_isDigit hdigit
  · decide
  · decide
  · decide

theorem plainChar_isoformat (d : CivilDate) : ∀ c ∈ d.isoformat, PlainChar c := by
  intro c hc
  simp only [CivilDate.isoformat, List.mem_append, List.mem_cons] at hc
  rcases hc with hyear | rfl | hmonth | rfl | hday
  · exact plainChar_of_isDigit (isDigit_of_mem_padded hyear)
  · decide
  · exact plainChar_of_isDigit (isDigit_of_mem_padded hmonth)
  · decide
  · exact plainChar_of_isDigit (isDigit_of_mem_padded hday)

theorem plainChar_instant (t : Instant) : ∀ c ∈ t.isoformat, PlainChar c := by
  intro c hc
  simp only [Instant.isoformat, Instant.clock, List.mem_append, List.mem_cons] at hc
  rcases hc with hdate | rfl | hhour | rfl | hminute | rfl | hsecond | rfl | hmicrosecond
  · exact plainChar_isoformat _ c hdate
  · decide
  · exact plainChar_of_isDigit (isDigit_of_mem_padded hhour)
  · decide
  · exact plainChar_of_isDigit (isDigit_of_mem_padded hminute)
  · decide
  · exact plainChar_of_isDigit (isDigit_of_mem_padded hsecond)
  · decide
  · exact plainChar_of_isDigit (isDigit_of_mem_padded hmicrosecond)

theorem plainText_canonicalDate (d : CivilDate) : PlainText (canonicalDate d) :=
  plainText_ofList (plainChar_isoformat d)

theorem length_canonicalDate (d : CivilDate) : (canonicalDate d).toList.length = 10 := by
  rw [canonicalDate, String.toList_ofList, d.length_isoformat]

theorem plainText_datetimeIsoformat (t : Instant) : PlainText (datetimeIsoformat t) := by
  refine plainText_ofList fun c hc => ?_
  rcases List.mem_append.mp hc with hc | hc
  · split at hc
    · exact plainChar_instant t c (List.mem_of_mem_take hc)
    · exact plainChar_instant t c hc
  · have hzone : PlainText "+00:00" := by decide
    exact hzone c hc

theorem length_datetimeIsoformat (t : Instant) : (datetimeIsoformat t).toList.length ≤ 32 := by
  have hlength := t.length_isoformat
  rw [datetimeIsoformat, String.toList_ofList, List.length_append]
  split
  · rw [List.length_take]
    simp only [List.length_cons, List.length_nil]
    omega
  · simp only [List.length_cons, List.length_nil]
    omega

theorem plainText_sha256 (sha256 : Sha256Text) : PlainText sha256.1 := by
  have h := sha256.2
  simp only [isSha256, Bool.and_eq_true, List.all_eq_true] at h
  exact fun c hc => plainChar_of_isHex (h.2 c hc)

theorem length_sha256 (sha256 : Sha256Text) : sha256.1.toList.length = 64 := by
  have h := sha256.2
  simp only [isSha256, Bool.and_eq_true, decide_eq_true_eq] at h
  exact h.1

theorem bounded_length {first middle last : Char → Bool} {low high : ℕ}
    (h : bounded first middle last low high chars = true) : chars.length ≤ high + 2 := by
  cases chars with
  | nil => cases h
  | cons c rest =>
    simp only [bounded, Bool.and_eq_true, decide_eq_true_eq, List.length_dropLast] at h
    rw [List.length_cons]
    omega

theorem bounded_forall {first middle last : Char → Bool} {low high : ℕ}
    (h : bounded first middle last low high chars = true) :
    ∀ c ∈ chars, first c = true ∨ middle c = true ∨ last c = true := by
  cases chars with
  | nil => cases h
  | cons d rest =>
    simp only [bounded, Bool.and_eq_true, List.all_eq_true] at h
    obtain ⟨⟨⟨⟨hfirst, hlast⟩, hmiddle⟩, -⟩, -⟩ := h
    intro c hc
    rcases List.mem_cons.mp hc with rfl | hc
    · exact .inl hfirst
    · cases hend : rest.getLast? with
      | none => rw [hend] at hlast; cases hlast
      | some e =>
        rw [hend] at hlast
        have hrest : rest = rest.dropLast ++ [e] := (List.dropLast_append_getLast? e hend).symm
        rw [hrest, List.mem_append, List.mem_singleton] at hc
        rcases hc with hc | rfl
        · exact .inr (.inl (hmiddle c hc))
        · exact .inr (.inr hlast)

theorem isBucketCharacter_of_isLowerDigit (h : isLowerDigit c = true) : isBucketCharacter c = true := by
  simp [isBucketCharacter, h]

theorem plainText_bucket (h : isStateBucket text = true) : PlainText text := by
  simp only [isStateBucket, Bool.and_eq_true] at h
  intro c hc
  refine plainChar_of_isBucketCharacter ?_
  rcases bounded_forall h.1.1 c hc with hfirst | hmiddle | hlast
  · exact isBucketCharacter_of_isLowerDigit hfirst
  · exact hmiddle
  · exact isBucketCharacter_of_isLowerDigit hlast

theorem length_bucket (h : isStateBucket text = true) : text.toList.length ≤ 63 := by
  simp only [isStateBucket, Bool.and_eq_true] at h
  exact bounded_length h.1.1

end PlainTexts

section Sizes

variable {value : PublishedStateObject} {name : StateObjectName} {manifest : StateManifestFields}

theorem plainText_dated {head : String} (hhead : PlainText head) (marketSession : CivilDate)
    (runId id : Sha256Text) :
    PlainText (head ++ canonicalDate marketSession ++ "/" ++ runId.1 ++ "/" ++ id.1 ++ ".json") := by
  have hslash : PlainText "/" := by decide
  have hending : PlainText ".json" := by decide
  have hrun := ((hhead.append (plainText_canonicalDate marketSession)).append hslash).append
    (plainText_sha256 runId)
  exact ((hrun.append hslash).append (plainText_sha256 id)).append hending

theorem plainText_objectName (name : StateObjectName) : PlainText name.text := by
  cases name with
  | blob sha256 =>
    have hhead : PlainText "state/v1/blobs/" := by decide
    have hslash : PlainText "/" := by decide
    have hshard : PlainText (String.ofList (sha256.1.toList.take 2)) :=
      plainText_ofList fun c hc => plainText_sha256 sha256 c (List.mem_of_mem_take hc)
    exact ((hhead.append hshard).append hslash).append (plainText_sha256 sha256)
  | inventory marketSession runId inventoryId =>
    exact plainText_dated (by decide) marketSession runId inventoryId
  | publication marketSession runId publicationId =>
    exact plainText_dated (by decide) marketSession runId publicationId

theorem length_blobName (sha256 : Sha256Text) : (StateObjectName.blob sha256).text.toList.length = 82 := by
  have hhead : "state/v1/blobs/".toList.length = 15 := by decide
  have hslash : "/".toList.length = 1 := by decide
  show ("state/v1/blobs/" ++ String.ofList (sha256.1.toList.take 2) ++ "/" ++ sha256.1).toList.length = 82
  simp only [String.toList_append, List.length_append, String.toList_ofList, List.length_take,
    length_sha256, hhead, hslash]
  rfl

theorem length_inventoryName (marketSession : CivilDate) (runId inventoryId : Sha256Text) :
    (StateObjectName.inventory marketSession runId inventoryId).text.toList.length = 166 := by
  have hhead : "state/v1/inventories/".toList.length = 21 := by decide
  have hslash : "/".toList.length = 1 := by decide
  have hending : ".json".toList.length = 5 := by decide
  show ("state/v1/inventories/" ++ canonicalDate marketSession ++ "/" ++ runId.1 ++ "/" ++
    inventoryId.1 ++ ".json").toList.length = 166
  simp only [String.toList_append, List.length_append, length_sha256, length_canonicalDate, hhead,
    hslash, hending]

theorem length_renderNumber_le {n k : ℕ} (hk : 0 < k) (h : n < 10 ^ k) :
    (renderNumber (n : ℤ)).length ≤ k := (Nat.length_toDigits_le_iff (by decide) hk).mpr h

theorem publishedObject_size (hcount : value.byteCount < 10 ^ 9) :
    size (.object (publishedObjectTree value)) ≤ 151 + value.objectName.text.toList.length := by
  have hnumber := length_renderNumber_le (by decide) hcount
  have hgeneration : (renderNumber (value.generation.1 : ℤ)).length ≤ 19 :=
    length_renderNumber_le (by decide) (value.generation.2.2.trans_lt (by decide))
  simp only [publishedObjectTree, size, sizeEntries, length_sha256]
  simp
  omega

theorem publishedObject_plain (value : PublishedStateObject) :
    Plain (.object (publishedObjectTree value)) := by
  simp only [publishedObjectTree, Plain, PlainEntries, and_true]
  exact ⟨by decide, trivial, by decide, trivial, by decide, plainText_objectName _, by decide,
    plainText_sha256 _⟩

theorem optionalText_size (text : Option Sha256Text) : size (optionalText text) ≤ 66 := by
  cases text with
  | none => simp [optionalText, size]
  | some text => simp [optionalText, size, length_sha256]

theorem optionalText_plain (text : Option Sha256Text) : Plain (optionalText text) := by
  cases text with
  | none => trivial
  | some text => exact plainText_sha256 text

theorem stateManifest_plain (hbucket : isStateBucket manifest.bucket = true) (id : Sha256Text) :
    Plain (.object (("publication_id", .string id.1) :: stateManifestTree manifest)) := by
  have hblobs : PlainItems (manifest.blobObjects.map fun blob => .object (publishedObjectTree blob)) := by
    rw [plainItems_iff]
    intro item hitem
    obtain ⟨blob, -, rfl⟩ := List.mem_map.mp hitem
    exact publishedObject_plain blob
  have hobject := publishedObject_plain manifest.inventoryObject
  simp only [stateManifestTree, Plain, PlainEntries, and_true] at hobject ⊢
  exact ⟨by decide, plainText_sha256 id, by decide, hblobs, by decide, plainText_bucket hbucket,
    by decide, plainText_datetimeIsoformat _, by decide, plainText_sha256 _, by decide, hobject,
    by decide, plainText_canonicalDate _, by decide, optionalText_plain _, by decide,
    plainText_sha256 _, by decide⟩

/-- What the manifest of an inventory takes, with as many blobs as an inventory has entries. -/
theorem stateManifest_size (hbucket : isStateBucket manifest.bucket = true) (id : Sha256Text)
    (hinventory : manifest.inventoryObject.byteCount < 10 ^ 9)
    (hname : manifest.inventoryObject.objectName =
      .inventory manifest.marketSession manifest.runId manifest.inventoryId)
    (hblobs : ∀ blob ∈ manifest.blobObjects, blob.byteCount < 10 ^ 9 ∧ blob.objectName = .blob blob.sha256) :
    size (.object (("publication_id", .string id.1) :: stateManifestTree manifest)) ≤
      1000 + 234 * manifest.blobObjects.length := by
  have hitems : sizeItems (manifest.blobObjects.map fun blob => .object (publishedObjectTree blob)) ≤
      234 * manifest.blobObjects.length := by
    have hone : ∀ blob ∈ manifest.blobObjects, size (.object (publishedObjectTree blob)) + 1 ≤ 234 := by
      intro blob hblob
      obtain ⟨hcount, hblobName⟩ := hblobs blob hblob
      have hsize := publishedObject_size hcount
      rw [hblobName, length_blobName] at hsize
      exact Nat.succ_le_succ hsize
    generalize manifest.blobObjects = blobObjects at hone ⊢
    induction blobObjects with
    | nil => exact le_rfl
    | cons blob blobObjects ih =>
      have hblob := hone blob List.mem_cons_self
      have hrest := ih fun other hother => hone other (List.mem_cons_of_mem _ hother)
      rw [List.map_cons, sizeItems, List.length_cons]
      omega
  have hobject := publishedObject_size hinventory
  rw [hname, length_inventoryName] at hobject
  have hbucketLength := length_bucket hbucket
  have hcutoff := length_datetimeIsoformat manifest.cutoff
  have hprevious := optionalText_size manifest.previousRunId
  rw [size] at hobject
  simp only [stateManifestTree, size, sizeEntries, length_sha256, length_canonicalDate]
  have hversion : (renderNumber 1).length = 1 := by decide
  rw [hversion]
  simp at hobject ⊢
  omega

end Sizes

end IndiaSwing
