import IndiaSwing.Identity
import IndiaSwing.Lib.Checked
import IndiaSwing.Lib.ExceptGuards
import IndiaSwing.Lib.JsonRecord
import IndiaSwing.Lib.TextPatterns
import IndiaSwing.Lib.Utf8Text

namespace IndiaSwing

open CivilTime JsonText ExceptGuards TextPatterns

section Identities

def pilotProtocolSha256 : String := "b29e34fdc3f62134034fbf032cf67d39ce06acd5082f9d1de680fcac2260f8e5"

def isSha256 (text : String) : Bool := text.toList.length = 64 && text.toList.all isHex

/-- `content_id` at length 64, which is the whole of a digest. -/
def contentId (ctx : IdentityContext) (material : IdentityValue) : String :=
  ctx.hexdigest (Utf8Text.encode (canonicalIdentityJson ctx material))

/-- A mapping with text keys. -/
def record (entries : List (String × IdentityValue)) : IdentityValue :=
  .mapping (entries.map fun entry => (.str entry.1, entry.2))

def postureNames : List String :=
  ["quality_only", "counts_toward_o0", "counts_toward_clean_accumulation", "research_partition_eligible",
    "training_eligible", "feature_eligible", "label_eligible", "signal_eligible", "paper_trade_eligible",
    "notification_eligible", "execution_eligible", "capital_eligible"]

def posture : IdentityValue :=
  record (postureNames.map fun name => (name, .bool (name = "quality_only")))

end Identities

section Kinds

inductive EndpointFamily
  | catalog | fullQuote | dailyOhlcv
  deriving DecidableEq, Repr

def EndpointFamily.value : EndpointFamily → String
  | .catalog => "CATALOG"
  | .fullQuote => "FULL_QUOTE"
  | .dailyOhlcv => "DAILY_OHLCV"

inductive ScheduledWindowKind
  | catalogPreopen | quote0920 | quoteClose | ohlcvClose
  deriving DecidableEq, Repr

namespace ScheduledWindowKind

def value : ScheduledWindowKind → String
  | .catalogPreopen => "CATALOG_PREOPEN"
  | .quote0920 => "QUOTE_0920"
  | .quoteClose => "QUOTE_CLOSE"
  | .ohlcvClose => "OHLCV_CLOSE"

/-- `_WINDOW_KIND_ORDER` -/
def order : List ScheduledWindowKind := [.catalogPreopen, .quote0920, .quoteClose, .ohlcvClose]

def endpointFamily : ScheduledWindowKind → EndpointFamily
  | .catalogPreopen => .catalog
  | .quote0920 => .fullQuote
  | .quoteClose => .fullQuote
  | .ohlcvClose => .dailyOhlcv

end ScheduledWindowKind

end Kinds

section Windows

/-- The offset of India Standard Time. -/
def istOffset : ℤ := 19800000000

/-- The Indian wall clock at a moment, if it is in range. -/
def indiaTime (t : Instant) : Option Instant := t.shift istOffset

structure WindowFields where
  pilotRunId : String
  marketSession : CivilDate
  windowKind : ScheduledWindowKind
  endpointFamily : EndpointFamily
  opensAt : Instant
  closesAt : Instant
  protocolSha256 : String
  deriving DecidableEq

/-- `ObservationWindowSpec._validate` -/
def validateWindow (w : WindowFields) : Except String Unit := do
  raiseIf (¬isSha256 w.pilotRunId) "observation window pilot run id is invalid"
  raiseIf (w.protocolSha256 ≠ pilotProtocolSha256) "observation window protocol hash is invalid"
  raiseIf (w.closesAt.microseconds < w.opensAt.microseconds)
    "observation window opens_at must not be after closes_at"
  raiseIf ((indiaTime w.opensAt).map (·.date) ≠ some w.marketSession)
    "observation window opens_at does not map to its market session"
  raiseIf ((indiaTime w.closesAt).map (·.date) ≠ some w.marketSession)
    "observation window closes_at does not map to its market session"
  raiseIf (w.windowKind.endpointFamily ≠ w.endpointFamily)
    "observation window kind and endpoint family do not pair"

abbrev ObservationWindowSpec := {w : WindowFields // validateWindow w = .ok ()}

def canonicalDatetime (t : Instant) : String := String.ofList (t.isoformat ++ ['Z'])

def canonicalDate (d : CivilDate) : String := String.ofList d.isoformat

def windowTree (w : WindowFields) : List (String × Json) :=
  [("closes_at", .string (canonicalDatetime w.closesAt)),
    ("endpoint_family", .string w.endpointFamily.value),
    ("market_session", .string (canonicalDate w.marketSession)),
    ("opens_at", .string (canonicalDatetime w.opensAt)),
    ("pilot_run_id", .string w.pilotRunId),
    ("protocol_sha256", .string w.protocolSha256),
    ("window_kind", .string w.windowKind.value)]

/-- `ObservationWindowSpec.window_id` -/
def windowId (ctx : IdentityContext) (w : WindowFields) : String :=
  ctx.hexdigest (Utf8Text.encode (dumps (.object (windowTree w))))

/-- A time of day in microseconds. -/
def clockTime (hour minute : ℕ) : ℕ := (hour * 60 + minute) * 60000000

/-- `is_window_inside_authorized_schedule` -/
def isWindowInsideAuthorizedSchedule (w : WindowFields) : Bool :=
  match indiaTime w.opensAt, indiaTime w.closesAt with
  | some opensAt, some closesAt =>
    let opens := opensAt.timeOfDay
    let closes := closesAt.timeOfDay
    opens < closes &&
      match w.windowKind with
      | .catalogPreopen => clockTime 8 45 ≤ opens && closes ≤ clockTime 9 0
      | .quote0920 => opens = clockTime 9 20 && closes ≤ clockTime 9 25
      | .quoteClose => clockTime 15 40 ≤ opens && closes ≤ clockTime 16 0
      | .ohlcvClose => clockTime 16 15 ≤ opens && closes ≤ clockTime 18 0
  | _, _ => false

variable {ctx : IdentityContext} {w w' : WindowFields}

theorem canonicalDatetime_injective : Function.Injective canonicalDatetime := by
  intro t u h
  exact Instant.isoformat_injective (List.append_cancel_right (String.ofList_injective h))

theorem canonicalDate_injective : Function.Injective canonicalDate := by
  intro d e h
  exact CivilDate.isoformat_injective (String.ofList_injective h)

theorem EndpointFamily.value_injective : Function.Injective EndpointFamily.value := by
  intro a b h
  cases a <;> cases b <;> first | rfl | (exact absurd h (by decide))

theorem ScheduledWindowKind.value_injective : Function.Injective ScheduledWindowKind.value := by
  intro a b h
  cases a <;> cases b <;> first | rfl | (exact absurd h (by decide))

theorem windowTree_names (w : WindowFields) : (windowTree w).map (·.1) =
    ["closes_at", "endpoint_family", "market_session", "opens_at", "pilot_run_id", "protocol_sha256",
      "window_kind"] := rfl

theorem nodup_windowTree (w : WindowFields) : ((windowTree w).map (·.1)).Nodup := by
  rw [windowTree_names]
  decide

theorem distinct_windowTree (w : WindowFields) : Distinct (.object (windowTree w)) :=
  ⟨nodup_windowTree w, trivial, trivial, trivial, trivial, trivial, trivial, trivial, trivial⟩

/-- Windows with one tree are one window. -/
theorem windowTree_inj (h : sortKeys (.object (windowTree w)) = sortKeys (.object (windowTree w'))) :
    w = w' := by
  have hitem := item_eq_of_sortKeys (nodup_windowTree w) (nodup_windowTree w') h
  have hcloses := hitem "closes_at"
  have hfamily := hitem "endpoint_family"
  have hsession := hitem "market_session"
  have hopens := hitem "opens_at"
  have hpilot := hitem "pilot_run_id"
  have hprotocol := hitem "protocol_sha256"
  have hkind := hitem "window_kind"
  simp only [item, windowTree, List.lookup_cons, String.reduceBEq, Option.getD_some, sortKeys_string,
    Json.string.injEq] at hcloses hfamily hsession hopens hpilot hprotocol hkind
  cases w
  cases w'
  cases canonicalDatetime_injective hcloses
  cases EndpointFamily.value_injective hfamily
  cases canonicalDate_injective hsession
  cases canonicalDatetime_injective hopens
  cases hpilot
  cases hprotocol
  cases ScheduledWindowKind.value_injective hkind
  rfl

theorem windowId_inj (hdigest : Function.Injective ctx.hexdigest) :
    windowId ctx w = windowId ctx w' ↔ w = w' := by
  constructor
  · intro h
    have hdumps := Utf8Text.encode_injective (hdigest h)
    exact windowTree_inj ((dumps_inj (distinct_windowTree w) (distinct_windowTree w')).mp hdumps)
  · rintro rfl
    rfl

end Windows

end IndiaSwing

namespace IndiaSwing

open CivilTime ExceptGuards TextPatterns

section Campaign

def confirmedSessionCount : ℕ := 20

structure CampaignFields where
  pilotRunId : String
  protocolSha256 : String
  confirmedSessions : List CivilDate
  calendarDecisionIds : List String

/-- `QualityPilotCampaignSpec._validate` -/
def validateCampaign (c : CampaignFields) : Except String Unit := do
  raiseIf (¬isSha256 c.pilotRunId) "campaign pilot run id is invalid"
  raiseIf (c.protocolSha256 ≠ pilotProtocolSha256) "campaign protocol hash is invalid"
  raiseIf (c.confirmedSessions.length ≠ confirmedSessionCount ∨
      ¬(c.confirmedSessions.map (·.ordinal)).Pairwise (· < ·))
    "campaign confirmed_sessions must be exactly 20 strictly increasing unique dates"
  raiseIf (c.calendarDecisionIds.length ≠ confirmedSessionCount ∨
      ¬(c.calendarDecisionIds.all isSha256 ∧ c.calendarDecisionIds.Nodup))
    "campaign calendar_decision_ids must be exactly 20 unique lowercase sha256 ids"

abbrev QualityPilotCampaignSpec := {c : CampaignFields // validateCampaign c = .ok ()}

/-- `QualityPilotCampaignSpec.campaign_id` -/
def campaignId (ctx : IdentityContext) (c : CampaignFields) : String :=
  contentId ctx (record [("schema", .str "quality_pilot_campaign_v1"),
    ("pilot_run_id", .str c.pilotRunId),
    ("protocol_sha256", .str c.protocolSha256),
    ("confirmed_sessions", .tuple (c.confirmedSessions.map .date)),
    ("calendar_decision_ids", .tuple (c.calendarDecisionIds.map .str)),
    ("posture", posture)])

end Campaign

section Runbook

structure RunbookFields where
  campaign : QualityPilotCampaignSpec
  providerVersion : String
  bucket : String
  windows : List ObservationWindowSpec

/-- `_BUCKET_PATTERN` -/
def isBucket (text : String) : Bool :=
  bounded isLowerDigit (fun c => isLowerDigit c || c = '-' || c = '_' || c = '.') isLowerDigit 1 61 text.toList

/-- The windows from an index on: each in the place of its session and kind, in its schedule, seen once. -/
def validateRunbookWindows (ctx : IdentityContext) (c : CampaignFields) :
    ℕ → List String → List ObservationWindowSpec → Except String Unit
  | _, _, [] => .ok ()
  | index, seen, window :: rest => do
    raiseIf (some window.1.marketSession ≠ c.confirmedSessions[index / 4]?)
      "invocation runbook window session is out of canonical order"
    raiseIf (some window.1.windowKind ≠ ScheduledWindowKind.order[index % 4]?)
      "invocation runbook window kind is out of canonical order"
    raiseIf (window.1.pilotRunId ≠ c.pilotRunId)
      "invocation runbook window pilot run id disagrees with the campaign"
    raiseIf (window.1.protocolSha256 ≠ c.protocolSha256)
      "invocation runbook window protocol disagrees with the campaign"
    raiseIf (¬isWindowInsideAuthorizedSchedule window.1)
      "invocation runbook window falls outside its authorized schedule gate"
    raiseIf (windowId ctx window.1 ∈ seen) "invocation runbook contains a duplicate window"
    validateRunbookWindows ctx c (index + 1) (windowId ctx window.1 :: seen) rest

/-- `QualityPilotInvocationRunbook._validate` -/
def validateRunbook (ctx : IdentityContext) (r : RunbookFields) : Except String Unit := do
  raiseIf (r.providerVersion.toList = [] ∨ 128 < r.providerVersion.toList.length)
    "invocation runbook provider version is invalid"
  raiseIf (¬isBucket r.bucket) "invocation control plane bucket is invalid"
  raiseIf (r.windows.length ≠ confirmedSessionCount * 4) "invocation runbook window count is invalid"
  validateRunbookWindows ctx r.campaign.1 0 [] r.windows

abbrev QualityPilotInvocationRunbook (ctx : IdentityContext) :=
  {r : RunbookFields // validateRunbook ctx r = .ok ()}

/-- `QualityPilotInvocationRunbook.runbook_id` -/
def runbookId (ctx : IdentityContext) (r : RunbookFields) : String :=
  contentId ctx (record [("schema", .str "quality_pilot_invocation_runbook_v1"),
    ("campaign_id", .str (campaignId ctx r.campaign.1)),
    ("provider_version", .str r.providerVersion),
    ("bucket", .str r.bucket),
    ("window_ids", .tuple (r.windows.map fun window => .str (windowId ctx window.1))),
    ("posture", posture)])

/-- The place that a window has in the canonical order of a campaign's windows. -/
structure InPlace (c : CampaignFields) (index : ℕ) (w : WindowFields) : Prop where
  session : some w.marketSession = c.confirmedSessions[index / 4]?
  kind : some w.windowKind = ScheduledWindowKind.order[index % 4]?
  pilot_run_id : w.pilotRunId = c.pilotRunId
  protocol_sha256 : w.protocolSha256 = c.protocolSha256
  scheduled : isWindowInsideAuthorizedSchedule w = true

/-- Distinct windows, each in its place, pass. -/
theorem validateRunbookWindows_of_inPlace {ctx : IdentityContext} (hdigest : Function.Injective ctx.hexdigest)
    {c : CampaignFields} {index : ℕ} {seen : List String} {windows : List ObservationWindowSpec}
    (hplace : ∀ k, ∀ window ∈ windows[k]?, InPlace c (index + k) window.1)
    (hnodup : (windows.map (·.1)).Nodup) (hnew : ∀ window ∈ windows, windowId ctx window.1 ∉ seen) :
    validateRunbookWindows ctx c index seen windows = .ok () := by
  induction windows generalizing index seen with
  | nil => rfl
  | cons window rest ih =>
    obtain ⟨hfirst, hrest⟩ := List.nodup_cons.mp hnodup
    have hwindow : InPlace c index window.1 := hplace 0 window rfl
    have htail : ∀ k, ∀ window ∈ rest[k]?, InPlace c (index + 1 + k) window.1 := by
      intro k window hmem
      have hnext := hplace (k + 1) window (by rwa [List.getElem?_cons_succ])
      rwa [show index + (k + 1) = index + 1 + k by omega] at hnext
    have hunseen : ∀ other ∈ rest, windowId ctx other.1 ∉ windowId ctx window.1 :: seen := by
      intro other hother hmem
      rcases List.mem_cons.mp hmem with heq | hmem
      · have hsame : other.1 = window.1 := (windowId_inj hdigest).mp heq
        exact hfirst (List.mem_map.mpr ⟨other, hother, hsame⟩)
      · exact hnew other (List.mem_cons_of_mem _ hother) hmem
    unfold validateRunbookWindows
    rw [raiseIf_neg (not_not.mpr hwindow.session), ok_bind, raiseIf_neg (not_not.mpr hwindow.kind), ok_bind,
      raiseIf_neg (not_not.mpr hwindow.pilot_run_id), ok_bind,
      raiseIf_neg (not_not.mpr hwindow.protocol_sha256), ok_bind,
      raiseIf_neg (not_not.mpr hwindow.scheduled), ok_bind,
      raiseIf_neg (hnew window List.mem_cons_self), ok_bind]
    exact ih htail hrest hunseen

end Runbook

end IndiaSwing
