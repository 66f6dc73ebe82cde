import IndiaSwing.IdentityRegistry
import IndiaSwing.Lib.DecimalRange

namespace IndiaSwing.CorporateActions

open ExceptGuards KeySort
open IdentityRegistry (ReferenceReadiness)

/-- The errors of the corporate actions and of their bridge, and what Python raises. -/
inductive CorporateActionError
  | integrity (message : String)
  | priceAdjustment (message : String)
  | bridge (message : String)
  | decimal (signal : DecimalSignal)
  | assertion
  | keyError
  | indexError
  deriving DecidableEq, Repr

section Events

inductive CorporateActionType
  | split | bonus | cashDividend | rights | merger | demerger | symbolChange | isinChange | delisting | buyback
  deriving DecidableEq, Repr

inductive CorporateActionStatus
  | confirmed | cancelled
  deriving DecidableEq, Repr

/-- The fields of a `CorporateActionEvent`. -/
structure CorporateActionEventFields where
  stableInstrumentId : ContentId
  stableListingId : Option ContentId
  actionType : CorporateActionType
  status : CorporateActionStatus
  effectiveSession : SessionDate
  announcementTime : Instant
  knowledgeTime : Instant
  sourceArtifactId : ContentId
  sourceRowId : ContentId
  preActionShares : Option ℚ
  postActionShares : Option ℚ
  cashAmountPerShare : Option ℚ
  currency : Option String
  supersedesEventId : Option ContentId
  deriving DecidableEq

/-- `_positive_decimal` -/
def checkPositive (value : Option ℚ) (name : String) : Except CorporateActionError Unit :=
  raiseIf (¬∃ v ∈ value, 0 < v) (.integrity (name ++ " must be a positive Decimal"))

namespace CorporateActionEventFields

variable (e : CorporateActionEventFields)

/-- A split or a bonus changes the number of shares. -/
def changesShares : Bool := e.actionType = .split || e.actionType = .bonus

/-- Some of the terms are supplied. -/
def suppliesTerms : Prop :=
  e.preActionShares ≠ none ∨ e.postActionShares ≠ none ∨ e.cashAmountPerShare ≠ none ∨ e.currency ≠ none

instance : Decidable e.suppliesTerms := inferInstanceAs (Decidable (_ ∨ _ ∨ _ ∨ _))

/-- The terms fit the status and the type. -/
def checkTerms : Except CorporateActionError Unit :=
  if e.status = .cancelled then do
    raiseIf (e.supersedesEventId = none)
      (.integrity "a cancellation must supersede an earlier corporate-action event")
    raiseIf e.suppliesTerms (.integrity "a cancellation must not repeat superseded economic terms")
  else if e.changesShares then do
    checkPositive e.preActionShares "pre_action_shares"
    checkPositive e.postActionShares "post_action_shares"
    raiseIf (e.preActionShares = e.postActionShares)
      (.integrity "share action must change the outstanding share ratio")
    raiseIf (e.cashAmountPerShare ≠ none ∨ e.currency ≠ none)
      (.integrity "split and bonus events cannot carry cash terms")
  else if e.actionType = .cashDividend then do
    checkPositive e.cashAmountPerShare "cash_amount_per_share"
    raiseIf (e.currency ≠ some "INR") (.integrity "cash dividends currently require canonical INR terms")
    raiseIf (e.preActionShares ≠ none ∨ e.postActionShares ≠ none)
      (.integrity "cash dividends cannot carry share-ratio terms")
  else raiseIf e.suppliesTerms (.integrity "complex actions require a future action-specific terms contract")

/-- `CorporateActionEvent.__post_init__` -/
def check : Except CorporateActionError Unit := do
  raiseIf (e.knowledgeTime < e.announcementTime)
    (.integrity "corporate action cannot be known before its announcement")
  e.checkTerms

/-- The names of the types and the states, as they enter the identity. -/
def typeValue : CorporateActionType → String
  | .split => "SPLIT"
  | .bonus => "BONUS"
  | .cashDividend => "CASH_DIVIDEND"
  | .rights => "RIGHTS"
  | .merger => "MERGER"
  | .demerger => "DEMERGER"
  | .symbolChange => "SYMBOL_CHANGE"
  | .isinChange => "ISIN_CHANGE"
  | .delisting => "DELISTING"
  | .buyback => "BUYBACK"

def statusValue : CorporateActionStatus → String
  | .confirmed => "CONFIRMED"
  | .cancelled => "CANCELLED"

/-- `event_id` -/
def eventId : ContentId :=
  .ofFields "corporate-action-event/v1" [e.stableInstrumentId, .option id e.stableListingId,
    .text (typeValue e.actionType), .text (statusValue e.status), .int e.effectiveSession, .int e.announcementTime,
    .int e.knowledgeTime, e.sourceArtifactId, e.sourceRowId, .option .decimal e.preActionShares,
    .option .decimal e.postActionShares, .option .decimal e.cashAmountPerShare, .option .text e.currency,
    .option id e.supersedesEventId]

/-- `automatic_raw_price_factor` -/
def automaticRawPriceFactor (ctx : RangedContext) : Except CorporateActionError (Option ℚ) :=
  if e.status = .confirmed ∧ e.changesShares then
    match e.preActionShares, e.postActionShares with
    | some pre, some post => ((ctx.div pre post).map some).mapError .decimal
    | _, _ => .error .assertion
  else .ok none

end CorporateActionEventFields

abbrev CorporateActionEvent := { e : CorporateActionEventFields // e.check = .ok () }

end Events

section Snapshots

/-- The fields of a `CorporateActionSnapshot`. -/
structure CorporateActionSnapshotFields where
  cutoff : Instant
  coverageStart : SessionDate
  coverageEnd : SessionDate
  sourceArtifactIds : List ContentId
  events : List CorporateActionEvent
  readiness : ReferenceReadiness
  complete : Bool
  actionable : Bool
  reasonCodes : List String

namespace CorporateActionSnapshotFields

variable (hex : ContentId → String) (s : CorporateActionSnapshotFields)

/-- The order of the events. -/
def eventKey (e : CorporateActionEvent) : Lex (Instant × Lex (SessionDate × String)) :=
  toLex (e.1.knowledgeTime, toLex (e.1.effectiveSession, hex e.1.eventId))

/-- An amendment names an earlier event of its instrument that no other one amends. -/
def checkAmendment (superseded : List ContentId) (e : CorporateActionEvent) (targetId : ContentId) :
    Except CorporateActionError ContentId :=
  match s.events.find? (·.1.eventId = targetId) with
  | none => .error (.integrity "corporate-action amendment target is absent")
  | some target => do
    raiseIf (e.1.knowledgeTime ≤ target.1.knowledgeTime ∨ target.1.stableInstrumentId ≠ e.1.stableInstrumentId)
      (.integrity "corporate-action amendment lineage is inconsistent")
    raiseIf (target.1.eventId ∈ superseded)
      (.integrity "one corporate-action event cannot have competing amendments")
    return target.1.eventId

/-- The loop over the events, with the events amended so far. -/
def checkEvents : List ContentId → List CorporateActionEvent → Except CorporateActionError Unit
  | _, [] => .ok ()
  | superseded, e :: events => do
    raiseIf (s.cutoff < e.1.knowledgeTime)
      (.integrity "snapshot contains corporate-action evidence known after its cutoff")
    raiseIf (e.1.sourceArtifactId ∉ s.sourceArtifactIds)
      (.integrity "corporate-action event source is absent from snapshot lineage")
    raiseIf (¬(s.coverageStart ≤ e.1.effectiveSession ∧ e.1.effectiveSession ≤ s.coverageEnd))
      (.integrity "corporate-action event lies outside snapshot coverage")
    match e.1.supersedesEventId with
    | none => checkEvents superseded events
    | some targetId => do
      let amended ← s.checkAmendment superseded e targetId
      checkEvents (amended :: superseded) events

/-- `CorporateActionSnapshot.__post_init__` -/
def check : Except CorporateActionError Unit := do
  raiseIf (s.coverageEnd < s.coverageStart) (.integrity "corporate-action coverage interval must be positive")
  raiseIf (s.sourceArtifactIds = [] ∨ s.sourceArtifactIds ≠ sortOn hex s.sourceArtifactIds.dedup)
    (.integrity "source artifact IDs must be non-empty, sorted, and unique")
  raiseIf (s.events ≠ sortOn (eventKey hex) s.events)
    (.integrity "corporate-action events must be exact and knowledge-time ordered")
  raiseIf (¬(s.events.map (·.1.eventId)).Nodup) (.integrity "corporate-action event IDs must be unique")
  s.checkEvents [] s.events
  raiseIf (s.reasonCodes ≠ sortOn id s.reasonCodes.dedup) (.integrity "reason codes must be sorted and unique")
  raiseIf (s.actionable ∧ (¬s.complete ∨ s.reasonCodes ≠ [] ∨ s.readiness = .collectionOnly))
    (.integrity "actionable corporate actions must be complete, unblocked, and verified")
  raiseIf (¬s.actionable ∧ s.reasonCodes = [])
    (.integrity "non-actionable corporate-action snapshots require reason codes")

/-- `active_events` -/
def activeEvents : List CorporateActionEvent :=
  s.events.filter fun e =>
    decide (e.1.eventId ∉ s.events.filterMap (·.1.supersedesEventId)) && decide (e.1.status = .confirmed)

def readinessValue : ReferenceReadiness → String
  | .collectionOnly => "COLLECTION_ONLY"
  | .pointInTimeVerified => "POINT_IN_TIME_VERIFIED"
  | .syntheticTest => "SYNTHETIC_TEST"

/-- `snapshot_id` -/
def snapshotId : ContentId :=
  .ofFields "corporate-action-snapshot/v1" [.int s.cutoff, .int s.coverageStart, .int s.coverageEnd,
    .list s.sourceArtifactIds, .list (s.events.map (·.1.eventId)), .text (readinessValue s.readiness),
    .int s.complete.toNat, .int s.actionable.toNat, .list (s.reasonCodes.map .text)]

end CorporateActionSnapshotFields

abbrev CorporateActionSnapshot (hex : ContentId → String) :=
  { s : CorporateActionSnapshotFields // s.check hex = .ok () }

end Snapshots

section Amendments

variable {hex : ContentId → String} {s : CorporateActionSnapshotFields} {e : CorporateActionEvent}

theorem checkEvents_amends {superseded : List ContentId} {events : List CorporateActionEvent}
    (h : s.checkEvents superseded events = .ok ()) :
    ∀ e ∈ events, ∀ targetId ∈ e.1.supersedesEventId, ∃ target ∈ s.events,
      target.1.eventId = targetId ∧ target.1.stableInstrumentId = e.1.stableInstrumentId := by
  induction events generalizing superseded with
  | nil => exact fun e he => absurd he List.not_mem_nil
  | cons e events ih =>
    unfold CorporateActionSnapshotFields.checkEvents at h
    obtain ⟨-, h⟩ := raiseIf_bind_eq_ok.mp h
    obtain ⟨-, h⟩ := raiseIf_bind_eq_ok.mp h
    obtain ⟨-, h⟩ := raiseIf_bind_eq_ok.mp h
    intro e' he' targetId htarget
    cases hsupersedes : e.1.supersedesEventId with
    | none =>
      rw [hsupersedes] at h
      rcases List.mem_cons.mp he' with rfl | he'
      · rw [hsupersedes] at htarget
        cases htarget
      · exact ih h e' he' targetId htarget
    | some amendedId =>
      rw [hsupersedes] at h
      obtain ⟨amended, hamended, h⟩ := bind_eq_ok.mp h
      rcases List.mem_cons.mp he' with rfl | he'
      · rw [hsupersedes] at htarget
        obtain rfl := Option.some.inj htarget
        unfold CorporateActionSnapshotFields.checkAmendment at hamended
        cases hfind : s.events.find? (·.1.eventId = amendedId) with
        | none =>
          rw [hfind] at hamended
          cases hamended
        | some target =>
          rw [hfind] at hamended
          obtain ⟨hlineage, -⟩ := raiseIf_bind_eq_ok.mp hamended
          have hid := List.find?_some hfind
          exact ⟨target, List.mem_of_find?_eq_some hfind, of_decide_eq_true hid, not_not.mp (not_or.mp hlineage).2⟩
      · exact ih h e' he' targetId htarget

theorem snapshot_amends (h : s.check hex = .ok ()) : (s.events.map (·.1.eventId)).Nodup ∧
    ∀ e ∈ s.events, ∀ targetId ∈ e.1.supersedesEventId, ∃ target ∈ s.events,
      target.1.eventId = targetId ∧ target.1.stableInstrumentId = e.1.stableInstrumentId := by
  unfold CorporateActionSnapshotFields.check at h
  obtain ⟨-, h⟩ := raiseIf_bind_eq_ok.mp h
  obtain ⟨-, h⟩ := raiseIf_bind_eq_ok.mp h
  obtain ⟨-, h⟩ := raiseIf_bind_eq_ok.mp h
  obtain ⟨hnodup, h⟩ := raiseIf_bind_eq_ok.mp h
  obtain ⟨_, hevents, -⟩ := bind_eq_ok.mp h
  exact ⟨not_not.mp hnodup, checkEvents_amends hevents⟩

/-- Only an event of the same instrument amends an event. -/
theorem amender_instrument (h : s.check hex = .ok ()) (he : e ∈ s.events) {amender : CorporateActionEvent}
    (hamender : amender ∈ s.events) (hid : amender.1.supersedesEventId = some e.1.eventId) :
    amender.1.stableInstrumentId = e.1.stableInstrumentId := by
  obtain ⟨hnodup, hamends⟩ := snapshot_amends h
  obtain ⟨target, htarget, hsame, hinstrument⟩ := hamends amender hamender _ hid
  have heq : target = e := List.inj_on_of_nodup_map hnodup htarget he hsame
  rw [← hinstrument, heq]

/-- The active events of an instrument are read off its own events alone. -/
theorem activeEvents_instrument (h : s.check hex = .ok ()) (instrument : ContentId) :
    s.activeEvents.filter (·.1.stableInstrumentId = instrument) =
      (s.events.filter (·.1.stableInstrumentId = instrument)).filter fun e =>
        decide (e.1.eventId ∉ (s.events.filter (·.1.stableInstrumentId = instrument)).filterMap (·.1.supersedesEventId)) &&
          decide (e.1.status = .confirmed) := by
  unfold CorporateActionSnapshotFields.activeEvents
  rw [List.filter_comm]
  refine List.filter_congr fun e he => ?_
  obtain ⟨hmem, hinstrument⟩ := List.mem_filter.mp he
  have hiff : e.1.eventId ∈ s.events.filterMap (·.1.supersedesEventId) ↔
      e.1.eventId ∈ (s.events.filter (·.1.stableInstrumentId = instrument)).filterMap (·.1.supersedesEventId) := by
    simp only [List.mem_filterMap, List.mem_filter, decide_eq_true_eq]
    constructor
    · rintro ⟨amender, hamender, hid⟩
      exact ⟨amender, ⟨hamender, (amender_instrument h hmem hamender hid).trans (of_decide_eq_true hinstrument)⟩, hid⟩
    · rintro ⟨amender, ⟨hamender, -⟩, hid⟩
      exact ⟨amender, hamender, hid⟩
  simp only [hiff]

end Amendments

end IndiaSwing.CorporateActions
