import Mathlib.Data.Prod.Lex
import IndiaSwing.PilotWindows

namespace IndiaSwing

open CivilTime ExceptGuards TextPatterns KeySort

section SecretReferences

inductive QualityPilotArmingSecretKind
  | kiteApiKey | kiteAccessToken | runbook
  deriving DecidableEq, Repr

namespace QualityPilotArmingSecretKind

def value : QualityPilotArmingSecretKind → String
  | .kiteApiKey => "KITE_API_KEY"
  | .kiteAccessToken => "KITE_ACCESS_TOKEN"
  | .runbook => "RUNBOOK"

def all : List QualityPilotArmingSecretKind := [.kiteApiKey, .kiteAccessToken, .runbook]

end QualityPilotArmingSecretKind

structure SecretReferenceFields where
  kind : QualityPilotArmingSecretKind
  secretId : String
  version : String
  deriving DecidableEq

/-- `_SECRET_ID_PATTERN` -/
def isSecretId (text : String) : Bool :=
  match text.toList with
  | [] => false
  | c :: rest =>
    c.isAlpha && rest.all (fun c => c.isAlphanum || c = '-' || c = '_') && rest.length ≤ 254

/-- `_SECRET_VERSION_PATTERN` -/
def isSecretVersion (text : String) : Bool :=
  match text.toList with
  | [] => false
  | c :: rest => c.isDigit && c ≠ '0' && rest.all (·.isDigit) && rest.length ≤ 9

/-- `QualityPilotArmingSecretReference.__post_init__` -/
def validateSecretReference (r : SecretReferenceFields) : Except String Unit := do
  raiseIf (¬isSecretId r.secretId) "arming secret reference id is invalid"
  raiseIf (¬isSecretVersion r.version) "arming secret reference version must be a canonical positive integer string"

abbrev QualityPilotArmingSecretReference :=
  {r : SecretReferenceFields // validateSecretReference r = .ok ()}

end SecretReferences

section Schedules

inductive QualityPilotArmingScheduleLane
  | catalogPreopen | quote0920 | quoteClose | ohlcvClose
  deriving DecidableEq, Repr

namespace QualityPilotArmingScheduleLane

/-- `_LANE_TO_WINDOW_KIND` -/
def windowKind : QualityPilotArmingScheduleLane → ScheduledWindowKind
  | .catalogPreopen => .catalogPreopen
  | .quote0920 => .quote0920
  | .quoteClose => .quoteClose
  | .ohlcvClose => .ohlcvClose

def value : QualityPilotArmingScheduleLane → String
  | .catalogPreopen => "CATALOG_PREOPEN"
  | .quote0920 => "QUOTE_0920"
  | .quoteClose => "QUOTE_CLOSE"
  | .ohlcvClose => "OHLCV_CLOSE"

def all : List QualityPilotArmingScheduleLane := [.catalogPreopen, .quote0920, .quoteClose, .ohlcvClose]

end QualityPilotArmingScheduleLane

/-- One or two digits, and after a hyphen one or two more. -/
def isCronRange (text : List Char) : Bool :=
  let digits (part : List Char) : Bool := part.all (·.isDigit) && 1 ≤ part.length && part.length ≤ 2
  match text.splitOn '-' with
  | [single] => digits single
  | [low, high] => digits low && digits high
  | _ => false

/-- `_CRON_FIELD_PATTERN` -/
def isCronField (text : List Char) : Bool := text = ['*'] || (text.splitOn ',').all isCronRange

/-- `_parse_cron_minute_hour`: the hour and the minute. A digit that is no decimal digit is refused like
other text. -/
def parseCronMinuteHour (cronExpression : String) : Except String (ℕ × ℕ) :=
  match cronExpression.toList.splitOn ' ' with
  | [minuteField, hourField, dayField, monthField, weekdayField] =>
    match decimalNumber minuteField, decimalNumber hourField with
    | some minute, some hour => do
      raiseIf (59 < minute ∨ 23 < hour) "arming schedule cron minute/hour is out of range"
      raiseIf (dayField ≠ ['*'] ∨ monthField ≠ ['*'])
        "arming schedule cron day-of-month/month must be exactly '*'"
      raiseIf (¬isCronField weekdayField) "arming schedule cron weekday field is invalid"
      return (hour, minute)
    | _, _ => .error "arming schedule cron minute/hour must be single exact integers"
  | _ => .error "arming schedule cron expression must have exactly 5 fields"

structure ScheduleFields where
  lane : QualityPilotArmingScheduleLane
  cronExpression : String
  deriving DecidableEq

def validateSchedule (s : ScheduleFields) : Except String Unit := do
  let _ ← parseCronMinuteHour s.cronExpression

abbrev QualityPilotArmingSchedule := {s : ScheduleFields // validateSchedule s = .ok ()}

/-- The window of one minute from an Indian time of day on, on the day of a window. -/
def cronProbe (reference : WindowFields) (hour minute : ℕ) : Option WindowFields := do
  let opens ← indiaTime reference.opensAt
  if h : clockTime hour minute < microsecondsPerDay then do
    let probeOpens := opens.withTime (clockTime hour minute) h
    let probeCloses ← probeOpens.shift 60000000
    let opensAt ← probeOpens.shift (-istOffset)
    let closesAt ← probeCloses.shift (-istOffset)
    some { reference with opensAt, closesAt }
  else none

/-- `_cron_is_safely_inside_gate` -/
def cronIsSafelyInsideGate (lane : QualityPilotArmingScheduleLane) (cronExpression : String)
    (runbook : RunbookFields) : Bool :=
  match parseCronMinuteHour cronExpression, runbook.campaign.1.confirmedSessions with
  | .ok (hour, minute), probeSession :: _ =>
    match runbook.windows.find? fun window =>
      window.1.marketSession = probeSession && window.1.windowKind = lane.windowKind with
    | none => false
    | some reference =>
      match cronProbe reference.1 hour minute with
      | none => false
      | some probe =>
        match validateWindow probe with
        | .ok () => isWindowInsideAuthorizedSchedule probe
        | .error _ => false
  | _, _ => false

end Schedules

section Manifest

/-- `_IMAGE_DIGEST_PATTERN` -/
def isImageReference (text : String) : Bool :=
  let name := text.toList.takeWhile (· ≠ '@')
  let digest := text.toList.dropWhile (· ≠ '@')
  name ≠ [] && name.all (fun c => !isSpace c) &&
    ['@', 's', 'h', 'a', '2', '5', '6', ':'] <+: digest && digest.length = 72 && (digest.drop 8).all isHex

/-- `_PROJECT_PATTERN` -/
def isProject (text : List Char) : Bool :=
  bounded isLower (fun c => isLowerDigit c || c = '-') isLowerDigit 4 28 text

/-- `_REGION_PATTERN` -/
def isRegion (text : List Char) : Bool :=
  match text.splitOn '-' with
  | [area, place] =>
    area ≠ [] && area.all isLower && place.dropLast ≠ [] && place.dropLast.all isLower &&
      place.getLast?.any (·.isDigit)
  | _ => false

/-- `_JOB_PATTERN` -/
def isJob (text : List Char) : Bool :=
  bounded isLower (fun c => isLowerDigit c || c = '-') isLowerDigit 0 61 text

/-- `_SERVICE_ACCOUNT_PATTERN` -/
def isServiceAccount (text : List Char) : Bool :=
  match text.splitOn '@' with
  | [account, domain] =>
    isJob account && isProject (domain.takeWhile (· ≠ '.')) &&
      domain.dropWhile (· ≠ '.') = ".iam.gserviceaccount.com".toList
  | _ => false

structure ManifestFields (ctx : IdentityContext) where
  runbook : QualityPilotInvocationRunbook ctx
  imageReference : String
  codeSha256 : String
  environmentSha256 : String
  gcpProjectId : String
  gcpRegion : String
  gcpJobName : String
  runtimeServiceAccountEmail : String
  schedulerServiceAccountEmail : String
  schedules : List QualityPilotArmingSchedule
  secretReferences : List QualityPilotArmingSecretReference
  timeoutSeconds : ℤ

variable {ctx : IdentityContext}

/-- `QualityPilotArmingManifest._validate` -/
def validateManifest (m : ManifestFields ctx) : Except String Unit := do
  raiseIf (¬isImageReference m.imageReference)
    "arming manifest image reference must be an exact digest-pinned reference"
  raiseIf (¬(isSha256 m.codeSha256 ∧ isSha256 m.environmentSha256))
    "arming manifest code/environment digests are invalid"
  raiseIf (¬isProject m.gcpProjectId.toList) "arming manifest GCP project id is invalid"
  raiseIf (¬isRegion m.gcpRegion.toList) "arming manifest GCP region is invalid"
  raiseIf (¬isJob m.gcpJobName.toList) "arming manifest GCP job name is invalid"
  raiseIf (¬isServiceAccount m.runtimeServiceAccountEmail.toList)
    "arming manifest runtime service account is invalid"
  raiseIf (¬isServiceAccount m.schedulerServiceAccountEmail.toList)
    "arming manifest scheduler service account is invalid"
  raiseIf (¬(60 ≤ m.timeoutSeconds ∧ m.timeoutSeconds ≤ 3600)) "arming manifest timeout is invalid"
  raiseIf (m.schedules.length ≠ QualityPilotArmingScheduleLane.all.length)
    "arming manifest must carry exactly one schedule per fixed lane"
  raiseIf (¬((∀ lane ∈ QualityPilotArmingScheduleLane.all, lane ∈ m.schedules.map (·.1.lane)) ∧
      (m.schedules.map (·.1.lane)).Nodup))
    "arming manifest schedule lanes must be the four fixed unique lanes"
  raiseIf (¬∀ s ∈ m.schedules, cronIsSafelyInsideGate s.1.lane s.1.cronExpression m.runbook.1)
    "arming manifest schedule cron does not fall safely inside its accepted window"
  raiseIf (m.secretReferences.length ≠ QualityPilotArmingSecretKind.all.length)
    "arming manifest must carry exactly one secret reference per fixed kind"
  raiseIf (¬((∀ kind ∈ QualityPilotArmingSecretKind.all, kind ∈ m.secretReferences.map (·.1.kind)) ∧
      (m.secretReferences.map (·.1.kind)).Nodup))
    "arming manifest secret references must cover the three fixed kinds exactly once"

abbrev QualityPilotArmingManifest (ctx : IdentityContext) :=
  {m : ManifestFields ctx // validateManifest m = .ok ()}

/-- `sorted` of the lanes' values with their cron expressions -/
def sortedSchedules (m : ManifestFields ctx) : List (String × String) :=
  sortOn (fun pair => toLex pair) (m.schedules.map fun s => (s.1.lane.value, s.1.cronExpression))

/-- `sorted` of the kinds' values with their secret ids and versions -/
def sortedSecretReferences (m : ManifestFields ctx) : List (String × String × String) :=
  sortOn (fun triple => toLex (triple.1, toLex triple.2))
    (m.secretReferences.map fun r => (r.1.kind.value, r.1.secretId, r.1.version))

/-- The material of `QualityPilotArmingManifest._calculated_id` -/
def manifestMaterial (m : ManifestFields ctx) : List (String × IdentityValue) :=
  [("schema", .str "quality_pilot_arming_manifest_v1"),
    ("runbook_id", .str (runbookId ctx m.runbook.1)),
    ("pilot_run_id", .str m.runbook.1.campaign.1.pilotRunId),
    ("protocol_sha256", .str m.runbook.1.campaign.1.protocolSha256),
    ("bucket", .str m.runbook.1.bucket),
    ("image_reference", .str m.imageReference),
    ("code_sha256", .str m.codeSha256),
    ("environment_sha256", .str m.environmentSha256),
    ("gcp_project_id", .str m.gcpProjectId),
    ("gcp_region", .str m.gcpRegion),
    ("gcp_job_name", .str m.gcpJobName),
    ("runtime_service_account_email", .str m.runtimeServiceAccountEmail),
    ("scheduler_service_account_email", .str m.schedulerServiceAccountEmail),
    ("schedules", .tuple ((sortedSchedules m).map fun pair => .tuple [.str pair.1, .str pair.2])),
    ("secret_references", .tuple ((sortedSecretReferences m).map fun triple =>
      .tuple [.str triple.1, .str triple.2.1, .str triple.2.2])),
    ("timeout_seconds", .int m.timeoutSeconds),
    ("tasks", .int 1),
    ("parallelism", .int 1),
    ("max_retries", .int 0),
    ("armed", .bool false)]

/-- `QualityPilotArmingManifest.manifest_id` -/
def manifestId (m : ManifestFields ctx) : String := contentId ctx (record (manifestMaterial m))

end Manifest

end IndiaSwing
