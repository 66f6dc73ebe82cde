import Mathlib.Data.Finset.Dedup
import Mathlib.Data.Prod.Lex
import Mathlib.Data.String.Basic
import IndiaSwing.ContentIds
import IndiaSwing.Timestamps
import IndiaSwing.Lib.Checked
import IndiaSwing.Lib.ExceptGuards
import IndiaSwing.Lib.KeySort

namespace IndiaSwing

open ExceptGuards KeySort

namespace Backfill

section Requests

/-- A provider key bound to one listing over an interval, as `HistoricalInstrumentBinding`. -/
structure InstrumentBinding where
  provider : String
  providerInstrumentId : String
  listingKey : String
  securitySeries : String
  isin : String
  validFrom : SessionDate
  validThrough : SessionDate
  sourceSnapshotIds : List ContentId
  deriving DecidableEq, Repr

/-- `binding_id` -/
def InstrumentBinding.bindingId (b : InstrumentBinding) : ContentId :=
  .ofFields "HistoricalInstrumentBinding" [.text b.provider, .text b.providerInstrumentId, .text "NSE",
    .text b.listingKey, .text b.securitySeries, .text b.isin, .int b.validFrom, .int b.validThrough,
    .list b.sourceSnapshotIds]

/-- `HistoricalDailyRequest` -/
structure DailyRequest where
  binding : InstrumentBinding
  sessions : List SessionDate
  requestedAt : Instant
  deriving DecidableEq, Repr

/-- `request_id` -/
def DailyRequest.requestId (r : DailyRequest) : ContentId :=
  .ofFields "historical-daily-request/v1" [r.binding.bindingId, .list (r.sessions.map .int), .int r.requestedAt]

def DailyRequest.firstSession (r : DailyRequest) : SessionDate := r.sessions.head?.getD 0

def DailyRequest.lastSession (r : DailyRequest) : SessionDate := r.sessions.getLast?.getD 0

def maximumHistoricalSessions : ℕ := 10000

/-- `HistoricalInstrumentBinding._validate` and `HistoricalDailyRequest._validate`, on texts of the right
form -/
def DailyRequest.check (r : DailyRequest) : Except String Unit := do
  raiseIf (r.binding.validThrough < r.binding.validFrom) "binding validity interval is reversed"
  raiseIf (r.binding.sourceSnapshotIds = [] ∨ ¬r.binding.sourceSnapshotIds.Nodup)
    "source_snapshot_ids must be a non-empty sorted unique SHA-256 tuple"
  raiseIf (r.sessions = [] ∨ maximumHistoricalSessions < r.sessions.length ∨ ¬r.sessions.Pairwise (· < ·))
    "sessions must be a non-empty sorted unique bounded exact-date tuple"
  raiseIf (r.firstSession < r.binding.validFrom ∨ r.binding.validThrough < r.lastSession)
    "requested sessions exceed the listing binding interval"
  raiseIf (Instant.istDate r.requestedAt ≤ r.lastSession)
    "historical requests cannot include the current or a future session"

end Requests

section Issues

inductive IssueCode
  | missingSecurityMasterVintage
  | nonSessionSecurityMaster
  | conflictingIdentity
  | unvalidatedIdentifier
  | deletedSecurity
  | ineligibleNormalMarket
  | providerKeyUnavailable
  | providerCatalogAbsent
  | ambiguousProviderKey
  | unsupportedListingLane
  deriving DecidableEq, Repr

def IssueCode.value : IssueCode → String
  | .missingSecurityMasterVintage => "MISSING_SECURITY_MASTER_VINTAGE"
  | .nonSessionSecurityMaster => "NON_SESSION_SECURITY_MASTER"
  | .conflictingIdentity => "CONFLICTING_IDENTITY"
  | .unvalidatedIdentifier => "UNVALIDATED_IDENTIFIER"
  | .deletedSecurity => "DELETED_SECURITY"
  | .ineligibleNormalMarket => "INELIGIBLE_NORMAL_MARKET"
  | .providerKeyUnavailable => "PROVIDER_KEY_UNAVAILABLE"
  | .providerCatalogAbsent => "PROVIDER_CATALOG_ABSENT"
  | .ambiguousProviderKey => "AMBIGUOUS_PROVIDER_KEY"
  | .unsupportedListingLane => "UNSUPPORTED_LISTING_LANE"

/-- `HistoricalBackfillIssue` -/
structure Issue where
  code : IssueCode
  affectedDates : List SessionDate
  observationIds : List ContentId
  deriving DecidableEq, Repr

/-- `issue_id` -/
def Issue.issueId (i : Issue) : ContentId :=
  .ofFields "historical-backfill-plan/v2" [.text i.code.value, .list (i.affectedDates.map .int),
    .list i.observationIds]

end Issues

section Plans

variable (hex : ContentId → String)

/-- The fields of a `HistoricalBackfillPlan`. -/
structure PlanFields where
  provider : String
  resolverVersion : String
  identityRegistryId : ContentId
  calendarSnapshotId : ContentId
  coverageStart : SessionDate
  coverageEnd : SessionDate
  requestedAt : Instant
  requests : List DailyRequest
  issues : List Issue
  identitySnapshotId : Option ContentId
  deriving DecidableEq, Repr

/-- `_request_sort_key` -/
def requestSortKey (r : DailyRequest) :
    SessionDate ×ₗ String ×ₗ String ×ₗ String ×ₗ String ×ₗ String :=
  toLex (r.firstSession, toLex (r.binding.listingKey, toLex (r.binding.securitySeries, toLex (r.binding.isin,
    toLex (r.binding.providerInstrumentId, hex r.requestId)))))

/-- The pairs of a provider key and a session that a request covers. -/
def DailyRequest.providerSessions (r : DailyRequest) : List (String × SessionDate) :=
  r.sessions.map fun session => (r.binding.providerInstrumentId, session)

/-- `HistoricalBackfillPlan.__post_init__` -/
def PlanFields.check (p : PlanFields) : Except String Unit := do
  raiseIf (p.coverageEnd < p.coverageStart) "plan coverage interval is reversed"
  raiseIf (p.requests ≠ sortOn (requestSortKey hex) p.requests) "plan requests must be deterministically sorted"
  raiseIf (¬(p.requests.map (·.requestId)).Nodup) "plan request IDs must be unique"
  raiseIf (∃ r ∈ p.requests, r.binding.provider ≠ p.provider ∨ r.requestedAt ≠ p.requestedAt ∨
    r.firstSession < p.coverageStart ∨ p.coverageEnd < r.lastSession)
    "historical request disagrees with its plan"
  raiseIf (¬(p.requests.flatMap (·.providerSessions)).Nodup)
    "provider instrument/session occurs in multiple plan requests"
  raiseIf (p.issues ≠ sortOn (fun i => hex i.issueId) p.issues ∨ ¬(p.issues.map (·.issueId)).Nodup)
    "plan issues must be sorted and unique"
  raiseIf (∃ i ∈ p.issues, i.affectedDates.head?.any (· < p.coverageStart) = true ∨
    i.affectedDates.getLast?.any (p.coverageEnd < ·) = true)
    "plan issue lies outside requested coverage"

/-- `HistoricalBackfillPlan` -/
abbrev BackfillPlan := { p : PlanFields // p.check hex = .ok () }

/-- `plan_id` -/
def PlanFields.planId (p : PlanFields) : ContentId :=
  .ofFields "HistoricalBackfillPlan" [.text p.provider, .text p.resolverVersion, p.identityRegistryId,
    p.calendarSnapshotId, .int p.coverageStart, .int p.coverageEnd, .int p.requestedAt,
    .list (p.requests.map (·.requestId)), .list (p.issues.map (·.issueId)), .option id p.identitySnapshotId]

/-- What the check of a plan says about its requests. -/
structure PlanRequests (p : PlanFields) : Prop where
  ids : (p.requests.map (·.requestId)).Nodup
  provider : ∀ r ∈ p.requests, r.binding.provider = p.provider
  requestedAt : ∀ r ∈ p.requests, r.requestedAt = p.requestedAt
  providerSessions : (p.requests.flatMap (·.providerSessions)).Nodup

variable {hex}

theorem BackfillPlan.planRequests (plan : BackfillPlan hex) : PlanRequests plan.1 := by
  have h := plan.2
  unfold PlanFields.check at h
  obtain ⟨-, h⟩ := raiseIf_bind_eq_ok.mp h
  obtain ⟨-, h⟩ := raiseIf_bind_eq_ok.mp h
  obtain ⟨hids, h⟩ := raiseIf_bind_eq_ok.mp h
  obtain ⟨hrequests, h⟩ := raiseIf_bind_eq_ok.mp h
  obtain ⟨hsessions, -⟩ := raiseIf_bind_eq_ok.mp h
  have heach : ∀ r ∈ plan.1.requests, r.binding.provider = plan.1.provider ∧ r.requestedAt = plan.1.requestedAt := by
    intro r hr
    by_contra hne
    rw [not_and_or] at hne
    refine hrequests ⟨r, hr, ?_⟩
    rcases hne with hne | hne
    · exact .inl hne
    · exact .inr (.inl hne)
  exact ⟨not_not.mp hids, fun r hr => (heach r hr).1, fun r hr => (heach r hr).2, not_not.mp hsessions⟩

end Plans

end Backfill

end IndiaSwing
