import IndiaSwing.ArmingRoundTrip

namespace IndiaSwing

open CivilTime ExceptGuards

section Binding

variable {ctx : IdentityContext}

/-- An equal manifest id means equal contents and an equal wire form. -/
def IdentityCoversWire (m n : ManifestFields ctx) : Prop :=
  manifestId m = manifestId n → (AgreesElsewhere m n ∧ SameSecretReferences m n) ∧
    encodeQualityPilotArmingManifest m = encodeQualityPilotArmingManifest n

theorem identityCoversWire_iff (hdigest : Function.Injective ctx.hexdigest)
    (m n : QualityPilotArmingManifest ctx) :
    IdentityCoversWire m.1 n.1 ↔ (AgreesElsewhere m.1 n.1 → SameSecretReferences m.1 n.1) := by
  constructor
  · intro h hagrees
    exact (h ((manifestId_eq_iff hdigest m.2 n.2).mpr hagrees)).1.2
  · intro h hid
    have hagrees := (manifestId_eq_iff hdigest m.2 n.2).mp hid
    refine ⟨⟨hagrees, h hagrees⟩, ?_⟩
    unfold encodeQualityPilotArmingManifest
    rw [manifestTree_eq hdigest m.2 n.2 hagrees (h hagrees)]

/-- The id of a manifest covers its wire form against another just when the two do not differ in their
secret references alone; decoding undoes encoding. -/
theorem armingManifest_identity_covers_iff (hdigest : Function.Injective ctx.hexdigest) :
    (∀ m n : QualityPilotArmingManifest ctx, IdentityCoversWire m.1 n.1 ↔
      (AgreesElsewhere m.1 n.1 → SameSecretReferences m.1 n.1)) ∧
    ∀ (m : QualityPilotArmingManifest ctx) (bytes : List UInt8),
      encodeQualityPilotArmingManifest m.1 = .ok bytes →
        ∃ n, decodeQualityPilotArmingManifest ctx bytes m.1.runbook = .ok n ∧
          n.1.runbook = m.1.runbook ∧ AgreesElsewhere n.1 m.1 ∧ SameSecretReferences n.1 m.1 := by
  refine ⟨identityCoversWire_iff hdigest, fun m bytes h => ?_⟩
  obtain ⟨hagrees, hreferences⟩ := agrees_inWireOrder m.1
  exact ⟨_, decode_encode_manifest hdigest m h, rfl, hagrees, hreferences⟩

def otherVersion (r : SecretReferenceFields) : SecretReferenceFields :=
  { r with version := if r.version = "1" then "2" else "1" }

theorem validate_otherVersion {r : SecretReferenceFields} (h : validateSecretReference r = .ok ()) :
    validateSecretReference (otherVersion r) = .ok () := by
  have hversion : isSecretVersion (otherVersion r).version = true := by
    have hone : isSecretVersion "1" = true := by decide
    have htwo : isSecretVersion "2" = true := by decide
    unfold otherVersion
    split
    · exact htwo
    · exact hone
  unfold validateSecretReference at h ⊢
  obtain ⟨hid, -⟩ := raiseIf_bind_eq_ok.mp h
  exact raiseIf_bind_eq_ok.mpr ⟨hid, raiseIf_neg (not_not.mpr hversion)⟩

/-- Every manifest shares its id with one that has another secret version. -/
theorem exists_other_secretReferences (m : QualityPilotArmingManifest ctx) :
    ∃ n : QualityPilotArmingManifest ctx, AgreesElsewhere m.1 n.1 ∧ ¬SameSecretReferences m.1 n.1 := by
  cases hreferences : m.1.secretReferences with
  | nil =>
    have hvalid := m.2
    unfold validateManifest at hvalid
    simp only [raiseIf_bind_eq_ok, hreferences, List.length_nil] at hvalid
    obtain ⟨-, -, -, -, -, -, -, -, -, -, -, hlength, -⟩ := hvalid
    exact absurd (by decide) hlength
  | cons r rest =>
    let r' : QualityPilotArmingSecretReference := ⟨otherVersion r.1, validate_otherVersion r.2⟩
    let n : ManifestFields ctx := { m.1 with secretReferences := r' :: rest }
    have hkinds : n.secretReferences.map (·.1.kind) = m.1.secretReferences.map (·.1.kind) := by
      rw [hreferences]
      rfl
    have hlength : n.secretReferences.length = m.1.secretReferences.length := by
      rw [hreferences]
      rfl
    have hvalid : validateManifest n = .ok () := by
      rw [← m.2]
      unfold validateManifest
      rw [hkinds, hlength]
    refine ⟨⟨n, hvalid⟩, ⟨rfl, rfl, rfl, rfl, rfl, rfl, rfl, rfl, rfl, rfl, rfl, rfl, fun _ => Iff.rfl, rfl⟩, ?_⟩
    intro hsame
    have hmem : r' ∈ m.1.secretReferences := (hsame r').mpr List.mem_cons_self
    have hmem' : r ∈ m.1.secretReferences := hreferences ▸ List.mem_cons_self
    have heq : r' = r := List.inj_on_of_nodup_map (nodup_of_validateManifest m.2).2 hmem hmem' rfl
    have hversion : (otherVersion r.1).version = r.1.version := congrArg (·.1.version) heq
    unfold otherVersion at hversion
    by_cases hone : r.1.version = "1"
    · simp [hone] at hversion
    · rw [if_neg hone] at hversion
      exact hone hversion.symm

end Binding

section Sample

def sampleSession (i : Fin 20) : CivilDate := ⟨739000 + i, by omega, by omega⟩

def sampleClock : ScheduledWindowKind → ℕ × ℕ
  | .catalogPreopen => (525, 540)
  | .quote0920 => (560, 565)
  | .quoteClose => (940, 960)
  | .ohlcvClose => (975, 1080)

/-- A minute of a day in India. -/
def sampleInstant (i : Fin 20) (minute : ℕ) : Instant where
  microseconds := (738998 + i) * 86400000000 + (66600000000 + minute % 1440 * 60000000)
  inRange := by
    unfold microsecondsPerDay
    omega

def sampleId (n : ℕ) : String := String.ofList (DigitText.padded 64 n)

def sampleWindow (i : Fin 20) (kind : ScheduledWindowKind) : WindowFields where
  pilotRunId := sampleId 0
  marketSession := sampleSession i
  windowKind := kind
  endpointFamily := kind.endpointFamily
  opensAt := sampleInstant i (sampleClock kind).1
  closesAt := sampleInstant i (sampleClock kind).2
  protocolSha256 := pilotProtocolSha256

theorem isSha256_sampleId {n : ℕ} (h : n < 10 ^ 64) : isSha256 (sampleId n) = true := by
  have hlength : (sampleId n).toList.length = 64 := by
    rw [sampleId, String.toList_ofList]
    exact DigitText.length_padded (by decide) h
  have hhex : (sampleId n).toList.all TextPatterns.isHex = true := by
    rw [sampleId, String.toList_ofList, List.all_eq_true]
    intro c hc
    have hdigit := DigitText.isDigit_of_mem_padded hc
    simp [TextPatterns.isHex, hdigit]
  simp [isSha256, hlength, hhex]

theorem sampleId_injective : Function.Injective sampleId := by
  intro n m h
  exact DigitText.padded_injective (String.ofList_injective h)

theorem validate_sampleWindow (i : Fin 20) (kind : ScheduledWindowKind) :
    validateWindow (sampleWindow i kind) = .ok () := by
  have htimes : ∀ kind ∈ ScheduledWindowKind.order, ∀ i : Fin 20,
      ¬(sampleWindow i kind).closesAt.microseconds < (sampleWindow i kind).opensAt.microseconds ∧
      (indiaTime (sampleWindow i kind).opensAt).map (·.date) = some (sampleWindow i kind).marketSession ∧
      (indiaTime (sampleWindow i kind).closesAt).map (·.date) = some (sampleWindow i kind).marketSession := by
    decide +kernel
  have hkind : kind ∈ ScheduledWindowKind.order := by cases kind <;> decide
  obtain ⟨horder, hopens, hcloses⟩ := htimes kind hkind i
  have hpilot : isSha256 (sampleWindow i kind).pilotRunId = true := isSha256_sampleId (by decide)
  have hprotocol : (sampleWindow i kind).protocolSha256 = pilotProtocolSha256 := rfl
  have hfamily : (sampleWindow i kind).windowKind.endpointFamily = (sampleWindow i kind).endpointFamily := rfl
  unfold validateWindow
  rw [raiseIf_neg (not_not.mpr hpilot), ok_bind, raiseIf_neg (not_not.mpr hprotocol), ok_bind,
    raiseIf_neg horder, ok_bind, raiseIf_neg (not_not.mpr hopens), ok_bind,
    raiseIf_neg (not_not.mpr hcloses), ok_bind, raiseIf_neg (not_not.mpr hfamily)]

def sampleCampaign : CampaignFields where
  pilotRunId := sampleId 0
  protocolSha256 := pilotProtocolSha256
  confirmedSessions := (List.finRange 20).map sampleSession
  calendarDecisionIds := (List.range 20).map sampleId

theorem validate_sampleCampaign : validateCampaign sampleCampaign = .ok () := by
  have hids : ∀ id ∈ sampleCampaign.calendarDecisionIds, isSha256 id = true := by
    intro id hid
    obtain ⟨n, hn, rfl⟩ := List.mem_map.mp hid
    have hlt := List.mem_range.mp hn
    exact isSha256_sampleId (by omega)
  have hnodup : sampleCampaign.calendarDecisionIds.Nodup := List.nodup_range.map sampleId_injective
  have hsessions : (sampleCampaign.confirmedSessions.map (·.ordinal)).Pairwise (· < ·) := by decide
  have hcount : sampleCampaign.confirmedSessions.length = confirmedSessionCount := by decide
  have hcount' : sampleCampaign.calendarDecisionIds.length = confirmedSessionCount := by decide
  have hpilot : isSha256 sampleCampaign.pilotRunId = true := isSha256_sampleId (by decide)
  have hprotocol : sampleCampaign.protocolSha256 = pilotProtocolSha256 := rfl
  unfold validateCampaign
  rw [raiseIf_neg (not_not.mpr hpilot), ok_bind, raiseIf_neg (not_not.mpr hprotocol), ok_bind,
    raiseIf_neg (not_or.mpr ⟨not_not.mpr hcount, not_not.mpr hsessions⟩), ok_bind]
  exact raiseIf_neg (not_or.mpr ⟨not_not.mpr hcount', not_not.mpr ⟨List.all_eq_true.mpr hids, hnodup⟩⟩)

def sampleWindows : List ObservationWindowSpec :=
  (List.finRange 20).flatMap fun i =>
    ScheduledWindowKind.order.map fun kind => ⟨sampleWindow i kind, validate_sampleWindow i kind⟩

def sampleRunbook : RunbookFields where
  campaign := ⟨sampleCampaign, validate_sampleCampaign⟩
  providerVersion := "3.0"
  bucket := "pilot-bucket"
  windows := sampleWindows

theorem validate_sampleRunbook : validateRunbook plainContext sampleRunbook = .ok () := by
  have hplaces : ∀ k < 80, ∀ window ∈ sampleWindows[k]?,
      some window.1.marketSession = sampleCampaign.confirmedSessions[k / 4]? ∧
      some window.1.windowKind = ScheduledWindowKind.order[k % 4]? ∧
      isWindowInsideAuthorizedSchedule window.1 = true := by
    decide +kernel
  have hlength : sampleWindows.length = 80 := by decide
  have hwindows : ∀ window ∈ sampleWindows, ∃ i kind, window.1 = sampleWindow i kind := by
    intro window hwindow
    obtain ⟨i, -, hmem⟩ := List.mem_flatMap.mp hwindow
    obtain ⟨kind, -, rfl⟩ := List.mem_map.mp hmem
    exact ⟨i, kind, rfl⟩
  have hplace : ∀ k, ∀ window ∈ sampleWindows[k]?, InPlace sampleCampaign (0 + k) window.1 := by
    intro k window hmem
    obtain ⟨hk, -⟩ := List.getElem?_eq_some_iff.mp hmem
    obtain ⟨hsession, hkind, hscheduled⟩ := hplaces k (hlength ▸ hk) window hmem
    obtain ⟨i, kind, heq⟩ := hwindows window (List.mem_of_getElem? hmem)
    rw [Nat.zero_add]
    exact ⟨hsession, hkind, by rw [heq]; rfl, by rw [heq]; rfl, hscheduled⟩
  have hnodup : (sampleWindows.map (·.1)).Nodup := by
    have hkeys : (sampleWindows.map fun window => (window.1.marketSession.ordinal, window.1.windowKind)).Nodup := by
      decide +kernel
    refine List.Nodup.of_map (fun w : WindowFields => (w.marketSession.ordinal, w.windowKind)) ?_
    rw [List.map_map]
    exact hkeys
  have hcount : sampleRunbook.windows.length = confirmedSessionCount * 4 := hlength
  unfold validateRunbook
  rw [raiseIf_neg (by decide), ok_bind, raiseIf_neg (by decide), ok_bind,
    raiseIf_neg (not_not.mpr hcount), ok_bind]
  exact validateRunbookWindows_of_inPlace plainContext_injective hplace hnodup fun _ _ => List.not_mem_nil

theorem validate_sampleReference (kind : QualityPilotArmingSecretKind) :
    validateSecretReference { kind := kind, secretId := "pilot-secret", version := "1" } = .ok () := by
  cases kind <;> exact ok_of_toOption (by decide)

def sampleCron : QualityPilotArmingScheduleLane → String
  | .catalogPreopen => "50 8 * * 1-5"
  | .quote0920 => "20 9 * * 1-5"
  | .quoteClose => "45 15 * * 1-5"
  | .ohlcvClose => "30 16 * * 1-5"

theorem validate_sampleSchedule (lane : QualityPilotArmingScheduleLane) :
    validateSchedule { lane := lane, cronExpression := sampleCron lane } = .ok () := by
  cases lane <;> exact ok_of_toOption (by decide +kernel)

def sampleManifestFields : ManifestFields plainContext where
  runbook := ⟨sampleRunbook, validate_sampleRunbook⟩
  imageReference := String.ofList ("registry/pilot@sha256:".toList ++ DigitText.padded 64 0)
  codeSha256 := sampleId 0
  environmentSha256 := sampleId 0
  gcpProjectId := "pilot-project"
  gcpRegion := "asia-south1"
  gcpJobName := "pilot-job"
  runtimeServiceAccountEmail := "runtime@pilot-project.iam.gserviceaccount.com"
  schedulerServiceAccountEmail := "scheduler@pilot-project.iam.gserviceaccount.com"
  schedules := QualityPilotArmingScheduleLane.all.map fun lane => ⟨_, validate_sampleSchedule lane⟩
  secretReferences := QualityPilotArmingSecretKind.all.map fun kind => ⟨_, validate_sampleReference kind⟩
  timeoutSeconds := 600

def sampleManifest : QualityPilotArmingManifest plainContext :=
  ⟨sampleManifestFields, ok_of_toOption (by decide +kernel)⟩

/-- The identity of the sample against itself, and its wire form. -/
theorem armingManifest_identity_covers_sample :
    IdentityCoversWire sampleManifest.1 sampleManifest.1 ↔
      (AgreesElsewhere sampleManifest.1 sampleManifest.1 →
        SameSecretReferences sampleManifest.1 sampleManifest.1) :=
  (armingManifest_identity_covers_iff plainContext_injective).1 sampleManifest sampleManifest

/-- The id of the sample does not cover its secret references. -/
theorem not_all_identities_cover :
    ¬∀ m n : QualityPilotArmingManifest plainContext, IdentityCoversWire m.1 n.1 := by
  intro h
  obtain ⟨n, hagrees, hother⟩ := exists_other_secretReferences sampleManifest
  exact hother ((h sampleManifest n) ((manifestId_eq_iff plainContext_injective sampleManifest.2 n.2).mpr hagrees)).1.2

end Sample

end IndiaSwing
