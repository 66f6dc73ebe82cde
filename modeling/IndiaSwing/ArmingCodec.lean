import IndiaSwing.Arming
import IndiaSwing.Lib.JsonRecord
import IndiaSwing.IdentityOrder

namespace IndiaSwing

open JsonText ExceptGuards KeySort

section Encoding

variable {ctx : IdentityContext}

def maximumManifestBytes : ℕ := 64 * 1024

def scheduleTree (s : ScheduleFields) : List (String × Json) :=
  [("lane", .string s.lane.value), ("cron_expression", .string s.cronExpression)]

def secretReferenceTree (r : SecretReferenceFields) : List (String × Json) :=
  [("kind", .string r.kind.value), ("secret_id", .string r.secretId), ("version", .string r.version)]

/-- The schedules in the order of their lanes' values. -/
def schedulesByLane (m : ManifestFields ctx) : List QualityPilotArmingSchedule :=
  sortOn (fun s => s.1.lane.value) m.schedules

/-- The secret references in the order of their kinds' values. -/
def secretReferencesByKind (m : ManifestFields ctx) : List QualityPilotArmingSecretReference :=
  sortOn (fun r => r.1.kind.value) m.secretReferences

/-- `_manifest_tree` -/
def manifestTree (m : ManifestFields ctx) : List (String × Json) :=
  [("schema_version", .string "quality_pilot_arming_manifest_v1"),
    ("runbook_id", .string (runbookId ctx m.runbook.1)),
    ("pilot_run_id", .string m.runbook.1.campaign.1.pilotRunId),
    ("protocol_sha256", .string m.runbook.1.campaign.1.protocolSha256),
    ("bucket", .string m.runbook.1.bucket),
    ("image_reference", .string m.imageReference),
    ("code_sha256", .string m.codeSha256),
    ("environment_sha256", .string m.environmentSha256),
    ("gcp_project_id", .string m.gcpProjectId),
    ("gcp_region", .string m.gcpRegion),
    ("gcp_job_name", .string m.gcpJobName),
    ("runtime_service_account_email", .string m.runtimeServiceAccountEmail),
    ("scheduler_service_account_email", .string m.schedulerServiceAccountEmail),
    ("schedules", .array ((schedulesByLane m).map fun s => .object (scheduleTree s.1))),
    ("secret_references", .array ((secretReferencesByKind m).map fun r => .object (secretReferenceTree r.1))),
    ("timeout_seconds", .number m.timeoutSeconds),
    ("tasks", .number 1),
    ("parallelism", .number 1),
    ("max_retries", .number 0),
    ("armed", .bool false),
    ("manifest_id", .string (manifestId m))]

/-- `_canonical_json_bytes` -/
def canonicalJsonBytes (tree : Json) : List UInt8 := Utf8Text.encode (dumps tree ++ "\n")

/-- `encode_quality_pilot_arming_manifest`. A manifest that was built passes its own verification. -/
def encodeQualityPilotArmingManifest (m : ManifestFields ctx) : Except String (List UInt8) := do
  let encoded := canonicalJsonBytes (.object (manifestTree m))
  raiseIf (maximumManifestBytes < encoded.length) "arming manifest encoding exceeds its bounded size"
  return encoded

end Encoding

section Decoding

variable (ctx : IdentityContext)

/-- `_parse_json` -/
def parseArmingJson (content : List UInt8) (maximumBytes : ℕ) : Except String Json := do
  raiseIf (content = [] ∨ maximumBytes < content.length) "arming input content size is invalid"
  match Utf8Text.decode content with
  | none => .error "arming input content is not strict UTF-8"
  | some text =>
    match loads text with
    | .error .float => .error "arming input rejects float literals"
    | .error .constant => .error "arming input rejects NaN/Infinity literals"
    | .error .duplicateKey => .error "arming input contains a duplicate key"
    | .error .syntax_ => .error "arming input content is not valid JSON"
    | .ok (.object entries) => .ok (.object entries)
    | .ok _ => .error "arming input root must be an exact object"

/-- `_text` -/
def textField (message : String) : Json → Except String String
  | .string value => if value = "" then .error message else .ok value
  | _ => .error message

/-- `_integer` -/
def integerField (minimum : ℤ) (message : String) : Json → Except String ℤ
  | .number value => if value < minimum then .error message else .ok value
  | _ => .error message

/-- A value that `==` takes for an integer. -/
def equalsInteger (n : ℤ) : Json → Bool
  | .number value => value = n
  | .bool value => (if value then 1 else 0) = n
  | _ => false

def isText (text : String) : Json → Bool
  | .string value => value = text
  | _ => false

def isFalse : Json → Bool
  | .bool value => !value
  | _ => false

def QualityPilotArmingScheduleLane.ofJson (json : Json) : Option QualityPilotArmingScheduleLane :=
  QualityPilotArmingScheduleLane.all.find? fun lane => isText lane.value json

def QualityPilotArmingSecretKind.ofJson (json : Json) : Option QualityPilotArmingSecretKind :=
  QualityPilotArmingSecretKind.all.find? fun kind => isText kind.value json

def decodeSchedule (json : Json) : Except String QualityPilotArmingSchedule := do
  let entry ← exactDict ["lane", "cron_expression"] "arming manifest schedule entry is invalid" json
  match QualityPilotArmingScheduleLane.ofJson (item entry "lane") with
  | none => .error "arming manifest schedule lane is invalid"
  | some lane => do
    let cronExpression ← textField "arming manifest cron expression is invalid" (item entry "cron_expression")
    Checked.build validateSchedule { lane, cronExpression }

def decodeSecretReference (json : Json) : Except String QualityPilotArmingSecretReference := do
  let entry ← exactDict ["kind", "secret_id", "version"]
    "arming manifest secret reference entry is invalid" json
  match QualityPilotArmingSecretKind.ofJson (item entry "kind") with
  | none => .error "arming manifest secret reference kind is invalid"
  | some kind => do
    let secretId ← textField "arming manifest secret id is invalid" (item entry "secret_id")
    let version ← textField "arming manifest secret version is invalid" (item entry "version")
    Checked.build validateSecretReference { kind, secretId, version }

def manifestKeys : List String :=
  ["schema_version", "runbook_id", "pilot_run_id", "protocol_sha256", "bucket", "image_reference",
    "code_sha256", "environment_sha256", "gcp_project_id", "gcp_region", "gcp_job_name",
    "runtime_service_account_email", "scheduler_service_account_email", "schedules", "secret_references",
    "timeout_seconds", "tasks", "parallelism", "max_retries", "armed", "manifest_id"]

/-- The manifest of a record, against a runbook. -/
def manifestOfRecord (runbook : QualityPilotInvocationRunbook ctx) (record : List (String × Json)) :
    Except String (QualityPilotArmingManifest ctx) := do
  raiseIf (¬isText "quality_pilot_arming_manifest_v1" (item record "schema_version"))
    "arming manifest wire schema is invalid"
  raiseIf (¬(isText (runbookId ctx runbook.1) (item record "runbook_id") ∧
      isText runbook.1.campaign.1.pilotRunId (item record "pilot_run_id") ∧
      isText runbook.1.campaign.1.protocolSha256 (item record "protocol_sha256") ∧
      isText runbook.1.bucket (item record "bucket")))
    "arming manifest disagrees with its separately supplied runbook"
  let scheduleItems ← exactList "arming manifest schedules are invalid" (item record "schedules")
  let schedules ← scheduleItems.mapM decodeSchedule
  let referenceItems ← exactList "arming manifest secret references are invalid"
    (item record "secret_references")
  let secretReferences ← referenceItems.mapM decodeSecretReference
  raiseIf (¬(equalsInteger 1 (item record "tasks") ∧ equalsInteger 1 (item record "parallelism") ∧
      equalsInteger 0 (item record "max_retries") ∧ isFalse (item record "armed")))
    "arming manifest fixed posture fields disagree with their required values"
  let imageReference ← textField "arming manifest image reference is invalid" (item record "image_reference")
  let codeSha256 ← textField "arming manifest code digest is invalid" (item record "code_sha256")
  let environmentSha256 ← textField "arming manifest environment digest is invalid"
    (item record "environment_sha256")
  let gcpProjectId ← textField "arming manifest project id is invalid" (item record "gcp_project_id")
  let gcpRegion ← textField "arming manifest region is invalid" (item record "gcp_region")
  let gcpJobName ← textField "arming manifest job name is invalid" (item record "gcp_job_name")
  let runtimeServiceAccountEmail ← textField "arming manifest runtime service account is invalid"
    (item record "runtime_service_account_email")
  let schedulerServiceAccountEmail ← textField "arming manifest scheduler service account is invalid"
    (item record "scheduler_service_account_email")
  let timeoutSeconds ← integerField 60 "arming manifest timeout is invalid" (item record "timeout_seconds")
  Checked.build validateManifest
    { runbook, imageReference, codeSha256, environmentSha256, gcpProjectId, gcpRegion, gcpJobName,
      runtimeServiceAccountEmail, schedulerServiceAccountEmail, schedules, secretReferences, timeoutSeconds }

/-- `decode_quality_pilot_arming_manifest` -/
def decodeQualityPilotArmingManifest (content : List UInt8) (runbook : QualityPilotInvocationRunbook ctx) :
    Except String (QualityPilotArmingManifest ctx) := do
  let root ← parseArmingJson content maximumManifestBytes
  let record ← exactDict manifestKeys "arming manifest wire shape is invalid" root
  let manifest ← manifestOfRecord ctx runbook record
  raiseIf (¬isText (manifestId manifest.1) (item record "manifest_id")) "arming manifest wire identity failed"
  let encoded ← encodeQualityPilotArmingManifest manifest.1
  raiseIf (encoded ≠ content) "arming manifest wire identity failed"
  return manifest

end Decoding

end IndiaSwing

namespace IndiaSwing

open JsonText KeySort

section Records

variable {ctx : IdentityContext}

/-- The entries of a record that its identity has. -/
def visibleRecord (entries : List (String × IdentityValue)) : List (String × IdentityValue) :=
  entries.filter fun entry => !isSensitiveAttribute entry.1

theorem visibleEntries_record (entries : List (String × IdentityValue)) :
    visibleEntries ctx (entries.map fun entry => (.str entry.1, entry.2)) =
      (visibleRecord entries).map fun entry => (.str entry.1, entry.2) := by
  induction entries with
  | nil => rfl
  | cons entry entries ih =>
    unfold visibleEntries visibleRecord at ih ⊢
    rw [List.map_cons, List.filter_cons, ih, List.filter_cons]
    by_cases hname : isSensitiveAttribute entry.1 = true
    · simp [sensitiveKey, keyText, hname]
    · simp [sensitiveKey, keyText, hname]

theorem contentId_inj (hdigest : Function.Injective ctx.hexdigest) {value other : IdentityValue} :
    contentId ctx value = contentId ctx other ↔ canonicalIdentity ctx value = canonicalIdentity ctx other := by
  rw [← canonicalIdentityJson_inj]
  exact ⟨fun h => Utf8Text.encode_injective (hdigest h), fun h => by unfold contentId; rw [h]⟩

/-- Records with the same distinct names have one content id just when the entries that the identity has
have one canonical identity each. -/
theorem contentId_record_iff (hdigest : Function.Injective ctx.hexdigest)
    {entries others : List (String × IdentityValue)} (hnames : entries.map (·.1) = others.map (·.1))
    (hnodup : (entries.map (·.1)).Nodup) :
    contentId ctx (record entries) = contentId ctx (record others) ↔
      (visibleRecord entries).map (canonicalField ctx) = (visibleRecord others).map (canonicalField ctx) := by
  have hcanonical (entries : List (String × IdentityValue)) :
      (visibleEntries ctx (entries.map fun entry => (.str entry.1, entry.2))).map (canonicalEntry ctx) =
        ((visibleRecord entries).map (canonicalField ctx)).map fun field => (.string field.1, field.2) := by
    rw [visibleEntries_record, List.map_map, List.map_map]
    rfl
  have hinj : Function.Injective fun field : String × Json => (Json.string field.1, field.2) := by
    rintro ⟨name, value⟩ ⟨name', value'⟩ h
    simpa using h
  have hvisible (entries : List (String × IdentityValue)) :
      ((visibleRecord entries).map (canonicalField ctx)).map (·.1) =
        (entries.map (·.1)).filter fun name => !isSensitiveAttribute name := by
    rw [visibleRecord, List.map_map, List.filter_map]
    rfl
  rw [contentId_inj hdigest]
  unfold record
  rw [canonical_mapping, canonical_mapping, hcanonical, hcanonical]
  constructor
  · intro h
    simp only [Json.object.injEq, List.cons.injEq, Prod.mk.injEq, Json.array.injEq, true_and, and_true] at h
    have hperm := perm_of_sortOn_eq _ (pairJson_injective.list_map h)
    have hperm' := (List.map_perm_map_iff hinj).mp hperm
    refine eq_of_perm_of_keys ?_ ?_ hperm'
    · rw [hvisible, hvisible, hnames]
    · rw [hvisible]
      exact hnodup.filter _
  · intro h
    rw [h]

end Records

section Agreement

variable {ctx : IdentityContext}

/-- The manifests agree on their runbooks' identities, deployment fields, schedules and timeout. -/
structure AgreesElsewhere (m n : ManifestFields ctx) : Prop where
  runbook_id : runbookId ctx m.runbook.1 = runbookId ctx n.runbook.1
  pilot_run_id : m.runbook.1.campaign.1.pilotRunId = n.runbook.1.campaign.1.pilotRunId
  protocol_sha256 : m.runbook.1.campaign.1.protocolSha256 = n.runbook.1.campaign.1.protocolSha256
  bucket : m.runbook.1.bucket = n.runbook.1.bucket
  image_reference : m.imageReference = n.imageReference
  code_sha256 : m.codeSha256 = n.codeSha256
  environment_sha256 : m.environmentSha256 = n.environmentSha256
  gcp_project_id : m.gcpProjectId = n.gcpProjectId
  gcp_region : m.gcpRegion = n.gcpRegion
  gcp_job_name : m.gcpJobName = n.gcpJobName
  runtime_service_account_email : m.runtimeServiceAccountEmail = n.runtimeServiceAccountEmail
  scheduler_service_account_email : m.schedulerServiceAccountEmail = n.schedulerServiceAccountEmail
  schedules : ∀ s, s ∈ m.schedules ↔ s ∈ n.schedules
  timeout_seconds : m.timeoutSeconds = n.timeoutSeconds

/-- The manifests have the same set of secret references. -/
def SameSecretReferences (m n : ManifestFields ctx) : Prop :=
  ∀ r, r ∈ m.secretReferences ↔ r ∈ n.secretReferences

/-- What validation gives about the two collections of a manifest. -/
theorem nodup_of_validateManifest {m : ManifestFields ctx} (h : validateManifest m = .ok ()) :
    (m.schedules.map (·.1.lane)).Nodup ∧ (m.secretReferences.map (·.1.kind)).Nodup := by
  unfold validateManifest at h
  simp only [ExceptGuards.raiseIf_bind_eq_ok, ExceptGuards.raiseIf_eq_ok, not_not] at h
  obtain ⟨-, -, -, -, -, -, -, -, -, hlanes, -, -, hkinds⟩ := h
  exact ⟨hlanes.2, hkinds.2⟩

theorem perm_of_mem_iff {α β : Type*} {f : α → β} {values others : List α} (h : (values.map f).Nodup)
    (h' : (others.map f).Nodup) : (∀ a, a ∈ values ↔ a ∈ others) ↔ values.Perm others :=
  ⟨fun hmem => (List.perm_ext_iff_of_nodup (List.Nodup.of_map f h) (List.Nodup.of_map f h')).mpr hmem,
    fun hperm _ => hperm.mem_iff⟩

theorem lane_value_injective : Function.Injective QualityPilotArmingScheduleLane.value := by
  intro a b h
  cases a <;> cases b <;> first | rfl | (exact absurd h (by decide))

theorem kind_value_injective : Function.Injective QualityPilotArmingSecretKind.value := by
  intro a b h
  cases a <;> cases b <;> first | rfl | (exact absurd h (by decide))

theorem sortedSchedules_eq_iff {m n : ManifestFields ctx} :
    sortedSchedules m = sortedSchedules n ↔ m.schedules.Perm n.schedules := by
  have hinj : Function.Injective fun s : QualityPilotArmingSchedule => (s.1.lane.value, s.1.cronExpression) := by
    rintro ⟨⟨lane, cron⟩, hs⟩ ⟨⟨lane', cron'⟩, hs'⟩ h
    obtain ⟨hlane, hcron⟩ := Prod.mk.inj h
    cases lane_value_injective hlane
    cases hcron
    rfl
  unfold sortedSchedules
  rw [sortOn_inj toLex.injective, List.map_perm_map_iff hinj]

theorem manifestMaterial_names (m : ManifestFields ctx) : (manifestMaterial m).map (·.1) =
    ["schema", "runbook_id", "pilot_run_id", "protocol_sha256", "bucket", "image_reference", "code_sha256",
      "environment_sha256", "gcp_project_id", "gcp_region", "gcp_job_name", "runtime_service_account_email",
      "scheduler_service_account_email", "schedules", "secret_references", "timeout_seconds", "tasks",
      "parallelism", "max_retries", "armed"] := rfl

/-- The name-based erasure takes the secret references out of the material. -/
theorem visible_manifestMaterial (m : ManifestFields ctx) :
    visibleRecord (manifestMaterial m) = (manifestMaterial m).eraseIdx 14 := by
  have hnames : ∀ name ∈ ["schema", "runbook_id", "pilot_run_id", "protocol_sha256", "bucket",
      "image_reference", "code_sha256", "environment_sha256", "gcp_project_id", "gcp_region", "gcp_job_name",
      "runtime_service_account_email", "scheduler_service_account_email", "schedules", "timeout_seconds",
      "tasks", "parallelism", "max_retries", "armed"], isSensitiveAttribute name = false := by
    decide +kernel
  have hsecret : isSensitiveAttribute "secret_references" = true := by decide +kernel
  simp only [List.forall_mem_cons] at hnames
  simp [visibleRecord, manifestMaterial, hnames, hsecret]

theorem canonical_scheduleTuples {pairs others : List (String × String)} :
    canonicalIdentity ctx (.tuple (pairs.map fun pair => .tuple [.str pair.1, .str pair.2])) =
        canonicalIdentity ctx (.tuple (others.map fun pair => .tuple [.str pair.1, .str pair.2])) ↔
      pairs = others := by
  have hinj : Function.Injective fun pair : String × String =>
      canonicalIdentity ctx (.tuple [.str pair.1, .str pair.2]) := by
    rintro ⟨lane, cron⟩ ⟨lane', cron'⟩ h
    simpa using h
  rw [canonical_tuple, canonical_tuple, List.map_map, List.map_map]
  simp only [Json.object.injEq, List.cons.injEq, Prod.mk.injEq, Json.array.injEq, true_and, and_true]
  exact hinj.list_map.eq_iff

/-- The content id of a manifest fixes all of it but its secret references, and they have no part in it. -/
theorem manifestId_eq_iff (hdigest : Function.Injective ctx.hexdigest) {m n : ManifestFields ctx}
    (hm : validateManifest m = .ok ()) (hn : validateManifest n = .ok ()) :
    manifestId m = manifestId n ↔ AgreesElsewhere m n := by
  have hnodup : ((manifestMaterial m).map (·.1)).Nodup := by
    rw [manifestMaterial_names]
    decide
  have hschedules := (perm_of_mem_iff (nodup_of_validateManifest hm).1 (nodup_of_validateManifest hn).1).trans
    (sortedSchedules_eq_iff (m := m) (n := n)).symm
  unfold manifestId
  rw [contentId_record_iff hdigest (by rw [manifestMaterial_names, manifestMaterial_names]) hnodup,
    visible_manifestMaterial, visible_manifestMaterial]
  simp only [manifestMaterial, List.eraseIdx, List.map_cons, List.map_nil, canonicalField, List.cons.injEq,
    Prod.mk.injEq, true_and, and_true, canonical_str, canonical_int, Json.string.injEq, Json.number.injEq,
    canonical_scheduleTuples]
  constructor
  · rintro ⟨hrunbook, hpilot, hprotocol, hbucket, himage, hcode, henvironment, hproject, hregion, hjob,
      hruntime, hscheduler, hschedule, htimeout⟩
    exact ⟨hrunbook, hpilot, hprotocol, hbucket, himage, hcode, henvironment, hproject, hregion, hjob,
      hruntime, hscheduler, hschedules.mpr hschedule, htimeout⟩
  · intro h
    exact ⟨h.runbook_id, h.pilot_run_id, h.protocol_sha256, h.bucket, h.image_reference, h.code_sha256,
      h.environment_sha256, h.gcp_project_id, h.gcp_region, h.gcp_job_name, h.runtime_service_account_email,
      h.scheduler_service_account_email, hschedules.mp h.schedules, h.timeout_seconds⟩

end Agreement

end IndiaSwing
