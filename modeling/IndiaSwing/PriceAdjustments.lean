import IndiaSwing.CorporateActions

namespace IndiaSwing.CorporateActions

open ExceptGuards KeySort
open IdentityRegistry (ReferenceReadiness)

def CorporateActionError.graph : CorporateActionError := .bridge "promoted corporate-action bridge graph is invalid"

def CorporateActionError.future : CorporateActionError :=
  .bridge "promoted corporate-action bridge contains future-known evidence"

def CorporateActionError.engine : CorporateActionError :=
  .bridge "promoted corporate-action adjustment engine failed closed"

section Histories

/-- A `HistoricalEvaluationCorpusBar`. -/
@[ext] structure CorpusBar where
  barId : ContentId
  session : SessionDate
  open_ : ℚ
  high : ℚ
  low : ℚ
  close : ℚ
  volume : ℕ
  observedAt : Instant
  open_pos : 0 < open_
  low_pos : 0 < low
  close_pos : 0 < close
  high_bound : max (max open_ low) close ≤ high
  low_bound : low ≤ min (min open_ high) close

instance : DecidableEq CorpusBar := fun _ _ => decidable_of_iff _ CorpusBar.ext_iff.symm

inductive StableListingObservationStatus
  | rawBarObserved
  | barNotObservedNoStateInference
  | barIdentityConflict
  | universeRowNotPresentNoStateInference
  | sessionSnapshotMissingNoStateInference
  deriving DecidableEq, Repr

/-- A `PromotedStableListingHistoryObservation`: an observed bar is one of its session. -/
structure StableListingObservation where
  marketSession : SessionDate
  status : StableListingObservationStatus
  bar : Option CorpusBar
  observed : status = .rawBarObserved → ∃ b ∈ bar, b.session = marketSession

/-- A `PromotedStableListingHistory`: observations in the order of their sessions. -/
structure StableListingHistory where
  stableInstrumentId : ContentId
  stableListingId : ContentId
  observations : List StableListingObservation
  nonempty : observations ≠ []
  sessions : (observations.map (·.marketSession)).Pairwise (· < ·)

namespace StableListingHistory

variable (h : StableListingHistory)

/-- `raw_bar_count` -/
def rawBarCount : ℕ := h.observations.countP (·.status = .rawBarObserved)

/-- `identity_conflict_count` -/
def identityConflictCount : ℕ := h.observations.countP (·.status = .barIdentityConflict)

/-- `gap_count` -/
def gapCount : ℕ := h.observations.length - h.rawBarCount - h.identityConflictCount

/-- The bars that the observations carry. -/
def sourceBars : List CorpusBar := h.observations.filterMap (·.bar)

end StableListingHistory

/-- What the bridge reads of a `VerifiedPromotedSessionTickSnapshot`: its session and its universe. -/
structure SessionTickSnapshot where
  marketSession : SessionDate
  universeId : ContentId
  universeKnowledgeTime : Instant

/-- A `VerifiedPromotedStableListingHistoryPanel`: every history observes every session, and what it observes was
known in a tick snapshot of the session. -/
structure StableListingHistoryPanel where
  knowledgeTime : Instant
  sessions : List SessionDate
  tickSnapshots : List SessionTickSnapshot
  histories : List StableListingHistory
  sessions_ne : sessions ≠ []
  aligned : ∀ history ∈ histories, history.observations.map (·.marketSession) = sessions
  snapshots : ∀ history ∈ histories, ∀ o ∈ history.observations, o.status = .rawBarObserved →
    ∃ snapshot ∈ tickSnapshots, snapshot.marketSession = o.marketSession
  universesKnown : ∀ snapshot ∈ tickSnapshots, snapshot.universeKnowledgeTime ≤ knowledgeTime
  barsKnown : ∀ history ∈ histories, ∀ o ∈ history.observations, ∀ b ∈ o.bar, b.observedAt ≤ knowledgeTime

end Histories

section Factors

variable (ctx : RangedContext)

/-- The active events of an instrument after the first session of a history and up to the signal. -/
def relevantEvents (s : CorporateActionSnapshotFields) (instrument : ContentId) (historyStart signalSession : SessionDate) :
    List CorporateActionEvent :=
  s.activeEvents.filter fun e =>
    e.1.stableInstrumentId = instrument && decide (historyStart < e.1.effectiveSession ∧ e.1.effectiveSession ≤ signalSession)

/-- The event belongs to another listing, or changes no shares. -/
def needsReview (listing : ContentId) (e : CorporateActionEvent) : Bool :=
  decide (e.1.stableListingId ≠ none ∧ e.1.stableListingId ≠ some listing) || !e.1.changesShares

/-- The conditions of `any` in `_history_has_manual_action`, for one event. -/
def isManual (listing : ContentId) (e : CorporateActionEvent) : Except CorporateActionError Bool := do
  if needsReview listing e then return true
  let factor ← e.1.automaticRawPriceFactor ctx
  return factor.isNone

/-- `any` of the events, which stops at the first manual one. -/
def anyManual (listing : ContentId) : List CorporateActionEvent → Except CorporateActionError Bool
  | [] => .ok false
  | e :: events => do
    let manual ← isManual ctx listing e
    if manual then return true
    anyManual listing events

/-- The loop of `select_automatic_adjustment_events`. -/
def checkAutomatic (listing : ContentId) (e : CorporateActionEvent) : Except CorporateActionError Unit := do
  raiseIf (e.1.stableListingId ≠ none ∧ e.1.stableListingId ≠ some listing)
    (.priceAdjustment "corporate action belongs to another listing")
  raiseIf (e.1.changesShares = false) (.priceAdjustment "corporate action requires an unsupported adjustment")
  let factor ← e.1.automaticRawPriceFactor ctx
  raiseIf (factor = none) (.priceAdjustment "corporate action has no safe automatic factor")

/-- `select_automatic_adjustment_events` -/
def selectAutomaticAdjustmentEvents (s : CorporateActionSnapshotFields) (instrument listing : ContentId)
    (historyStart signalSession : SessionDate) : Except CorporateActionError (List CorporateActionEvent) := do
  raiseIf (signalSession < historyStart) (.priceAdjustment "adjustment session boundaries are invalid")
  let relevant := relevantEvents s instrument historyStart signalSession
  relevant.forM (checkAutomatic ctx listing)
  return relevant

/-- The loop over the factors of the applied events. -/
def multiplyFactors : ℚ → List CorporateActionEvent → Except CorporateActionError ℚ
  | priceFactor, [] => .ok priceFactor
  | priceFactor, e :: events => do
    let factor ← e.1.automaticRawPriceFactor ctx
    match factor with
    | none => .error (.priceAdjustment "corporate action has no safe automatic factor")
    | some factor => do
      let product ← (ctx.mul priceFactor factor).mapError .decimal
      multiplyFactors product events

/-- The events that take effect after a session. -/
def appliedEvents (events : List CorporateActionEvent) (session : SessionDate) : List CorporateActionEvent :=
  events.filter fun e => session < e.1.effectiveSession

/-- `corporate_action_factors_for_session` -/
def corporateActionFactorsForSession (hex : ContentId → String) (events : List CorporateActionEvent)
    (session : SessionDate) : Except CorporateActionError (ℚ × ℚ × List ContentId) := do
  let priceFactor ← multiplyFactors ctx 1 (appliedEvents events session)
  let volumeFactor ← (ctx.div 1 priceFactor).mapError .decimal
  return (priceFactor, volumeFactor, sortOn hex ((appliedEvents events session).map (·.1.eventId)))

end Factors

section Bars

/-- A `StableRawBarBinding`. -/
structure StableRawBarBinding where
  marketSession : SessionDate
  rawBarId : ContentId
  stableInstrumentId : ContentId
  stableListingId : ContentId
  identitySnapshotId : ContentId
  knowledgeTime : Instant

/-- `binding_id` -/
def StableRawBarBinding.bindingId (b : StableRawBarBinding) : ContentId :=
  .ofFields "StableRawBarBinding" [.int b.marketSession, b.rawBarId, b.stableInstrumentId, b.stableListingId,
    b.identitySnapshotId, .int b.knowledgeTime]

/-- The fields of a `PromotedCorporateActionAdjustedCorpusBar`. -/
structure AdjustedCorpusBarFields where
  sourceBar : CorpusBar
  stableInstrumentId : ContentId
  stableListingId : ContentId
  identityBindingId : ContentId
  corporateActionSnapshotId : ContentId
  priceFactor : ℚ
  volumeFactor : ℚ
  adjustedOpen : ℚ
  adjustedHigh : ℚ
  adjustedLow : ℚ
  adjustedClose : ℚ
  adjustedVolume : ℚ
  appliedEventIds : List ContentId
  knowledgeTime : Instant

variable (ctx : RangedContext) (hex : ContentId → String)

namespace AdjustedCorpusBarFields

variable (b : AdjustedCorpusBarFields)

/-- `self.adjusted_open != self.source_bar.open * self.price_factor` and its like. -/
def recheck (value : ℚ) (again : Except DecimalSignal ℚ) : Except CorporateActionError Unit := do
  let recomputed ← again.mapError .decimal
  raiseIf (value ≠ recomputed) .graph

/-- `PromotedCorporateActionAdjustedCorpusBar.__post_init__` -/
def check : Except CorporateActionError Unit := do
  raiseIf (∃ value ∈ [b.priceFactor, b.volumeFactor, b.adjustedOpen, b.adjustedHigh, b.adjustedLow, b.adjustedClose,
    b.adjustedVolume], value < 0) .graph
  raiseIf (b.priceFactor ≤ 0 ∨ b.volumeFactor ≤ 0 ∨ b.adjustedOpen ≤ 0 ∨ b.adjustedHigh ≤ 0 ∨ b.adjustedLow ≤ 0 ∨
    b.adjustedClose ≤ 0 ∨ b.adjustedHigh < max (max b.adjustedOpen b.adjustedLow) b.adjustedClose ∨
    min (min b.adjustedOpen b.adjustedHigh) b.adjustedClose < b.adjustedLow) .graph
  recheck b.volumeFactor (ctx.div 1 b.priceFactor)
  recheck b.adjustedOpen (ctx.mul b.sourceBar.open_ b.priceFactor)
  recheck b.adjustedHigh (ctx.mul b.sourceBar.high b.priceFactor)
  recheck b.adjustedLow (ctx.mul b.sourceBar.low b.priceFactor)
  recheck b.adjustedClose (ctx.mul b.sourceBar.close b.priceFactor)
  recheck b.adjustedVolume (ctx.mul b.sourceBar.volume b.volumeFactor)
  raiseIf (b.appliedEventIds ≠ sortOn hex b.appliedEventIds.dedup) .graph
  raiseIf (b.knowledgeTime < b.sourceBar.observedAt) .graph

end AdjustedCorpusBarFields

abbrev AdjustedCorpusBar := { b : AdjustedCorpusBarFields // b.check ctx hex = .ok () }

/-- `_adjusted_corpus_bar` -/
def adjustedCorpusBar (bar : CorpusBar) (binding : StableRawBarBinding) (instrument listing snapshotId : ContentId)
    (factors : ℚ × ℚ × List ContentId) (knowledgeTime : Instant) :
    Except CorporateActionError (AdjustedCorpusBar ctx hex) := do
  let adjustedOpen ← (ctx.mul bar.open_ factors.1).mapError .decimal
  let adjustedHigh ← (ctx.mul bar.high factors.1).mapError .decimal
  let adjustedLow ← (ctx.mul bar.low factors.1).mapError .decimal
  let adjustedClose ← (ctx.mul bar.close factors.1).mapError .decimal
  let adjustedVolume ← (ctx.mul bar.volume factors.2.1).mapError .decimal
  Checked.build (AdjustedCorpusBarFields.check ctx hex) {
    sourceBar := bar
    stableInstrumentId := instrument
    stableListingId := listing
    identityBindingId := binding.bindingId
    corporateActionSnapshotId := snapshotId
    priceFactor := factors.1
    volumeFactor := factors.2.1
    adjustedOpen, adjustedHigh, adjustedLow, adjustedClose, adjustedVolume
    appliedEventIds := factors.2.2
    knowledgeTime }

/-- The fields of a `PromotedCorporateActionAdjustedHistory`. -/
structure AdjustedHistoryFields where
  stableInstrumentId : ContentId
  stableListingId : ContentId
  signalSession : SessionDate
  cutoff : Instant
  corporateActionSnapshotId : ContentId
  bars : List (AdjustedCorpusBar ctx hex)

variable {ctx hex}

/-- `PromotedCorporateActionAdjustedHistory.__post_init__` -/
def AdjustedHistoryFields.check (h : AdjustedHistoryFields ctx hex) : Except CorporateActionError Unit := do
  raiseIf (h.bars = [] ∨ ¬(h.bars.map (·.1.sourceBar.session)).Pairwise (· < ·) ∨
    (h.bars.map (·.1.sourceBar.session)).getLast? ≠ some h.signalSession) .graph
  h.bars.forM fun bar => raiseIf (bar.1.stableInstrumentId ≠ h.stableInstrumentId ∨
    bar.1.stableListingId ≠ h.stableListingId ∨ bar.1.corporateActionSnapshotId ≠ h.corporateActionSnapshotId ∨
    h.cutoff < bar.1.knowledgeTime) .graph

end Bars

section Results

inductive AdjustmentStatus
  | adjustedHistoryBuiltCollectionOnly
  | rawHistoryGapBlocked
  | rawHistoryIdentityConflictBlocked
  | corporateActionEvidenceNotActionable
  | corporateActionCoverageIncomplete
  | corporateActionManualReviewRequired
  deriving DecidableEq, Repr

variable (ctx : RangedContext) (hex : ContentId → String)

abbrev AdjustedHistory := { h : AdjustedHistoryFields ctx hex // h.check = .ok () }

/-- The fields of a `PromotedCorporateActionAdjustmentResult`. -/
structure AdjustmentResultFields where
  sourceHistory : StableListingHistory
  status : AdjustmentStatus
  identityBindings : List StableRawBarBinding
  adjustedHistory : Option (AdjustedHistory ctx hex)

variable {ctx hex}

/-- Each bar of a built history has its binding and comes from its source bar. -/
def checkLineage (sourceBars : List CorpusBar) (bindings : List StableRawBarBinding)
    (bars : List (AdjustedCorpusBar ctx hex)) : Except CorporateActionError Unit :=
  raiseIf (sourceBars.length ≠ bindings.length ∨ sourceBars.length ≠ bars.length ∨
    ∃ entry ∈ (sourceBars.zip bindings).zip bars, entry.1.2.rawBarId ≠ entry.1.1.barId ∨
      entry.2.1.sourceBar.barId ≠ entry.1.1.barId ∨ entry.2.1.identityBindingId ≠ entry.1.2.bindingId) .graph

/-- `PromotedCorporateActionAdjustmentResult.__post_init__` -/
def AdjustmentResultFields.check (r : AdjustmentResultFields ctx hex) : Except CorporateActionError Unit :=
  if r.status = .adjustedHistoryBuiltCollectionOnly then
    match r.adjustedHistory with
    | none => .error .graph
    | some adjusted => do
      raiseIf (r.identityBindings = [] ∨ adjusted.1.stableInstrumentId ≠ r.sourceHistory.stableInstrumentId ∨
        adjusted.1.stableListingId ≠ r.sourceHistory.stableListingId ∨
        r.identityBindings.length ≠ r.sourceHistory.rawBarCount) .graph
      checkLineage r.sourceHistory.sourceBars r.identityBindings adjusted.1.bars
  else raiseIf (r.identityBindings ≠ [] ∨ r.adjustedHistory.isSome = true) .graph

variable (ctx hex) in
abbrev AdjustmentResult := { r : AdjustmentResultFields ctx hex // r.check = .ok () }

variable (ctx hex) in
/-- `_result` of a blocked history. -/
def blockedResult (history : StableListingHistory) (status : AdjustmentStatus) :
    Except CorporateActionError (AdjustmentResult ctx hex) :=
  Checked.build AdjustmentResultFields.check ⟨history, status, [], none⟩

/-- `_global_blocker` -/
def globalBlocker (panel : StableListingHistoryPanel) (s : CorporateActionSnapshotFields) : Option AdjustmentStatus :=
  if ¬s.complete ∨ ¬s.actionable ∨ s.readiness = .collectionOnly then some .corporateActionEvidenceNotActionable
  else if (∃ session ∈ panel.sessions.head?, session < s.coverageStart) ∨
      ∃ session ∈ panel.sessions.getLast?, s.coverageEnd < session then
    some .corporateActionCoverageIncomplete
  else none

/-- A `StableRawBarBinding` of the universe of the bar's session. -/
def identityBinding (panel : StableListingHistoryPanel) (history : StableListingHistory) (bar : CorpusBar) :
    Except CorporateActionError StableRawBarBinding :=
  match panel.tickSnapshots.find? (·.marketSession = bar.session) with
  | none => .error .keyError
  | some snapshot => .ok ⟨bar.session, bar.barId, history.stableInstrumentId, history.stableListingId,
      snapshot.universeId, snapshot.universeKnowledgeTime⟩

/-- A `PriceAdjustmentError` fails the bridge closed; other errors pass. -/
def CorporateActionError.failClosed : CorporateActionError → CorporateActionError
  | .priceAdjustment _ => .engine
  | e => e

variable (ctx hex)

/-- The bars of the `try` of `_successful_result`. -/
def adjustBars (s : CorporateActionSnapshotFields) (history : StableListingHistory) (events : List CorporateActionEvent)
    (entry : CorpusBar × StableRawBarBinding) : Except CorporateActionError (AdjustedCorpusBar ctx hex) := do
  let factors ← corporateActionFactorsForSession ctx hex events entry.1.session
  adjustedCorpusBar ctx hex entry.1 entry.2 history.stableInstrumentId history.stableListingId s.snapshotId factors
    (max (max entry.1.observedAt entry.2.knowledgeTime) s.cutoff)

/-- The `try` of `_successful_result`. -/
def adjustHistory (s : CorporateActionSnapshotFields) (history : StableListingHistory) (cutoff : Instant)
    (signalSession : SessionDate) (bindings : List StableRawBarBinding) :
    Except CorporateActionError (AdjustedHistory ctx hex) :=
  match history.sourceBars.head? with
  | none => .error .indexError
  | some first => do
    let events ← selectAutomaticAdjustmentEvents ctx s history.stableInstrumentId history.stableListingId
      first.session signalSession
    let bars ← (history.sourceBars.zip bindings).mapM (adjustBars ctx hex s history events)
    Checked.build AdjustedHistoryFields.check
      ⟨history.stableInstrumentId, history.stableListingId, signalSession, cutoff, s.snapshotId, bars⟩

/-- `_successful_result` -/
def successfulResult (panel : StableListingHistoryPanel) (s : CorporateActionSnapshotFields)
    (history : StableListingHistory) (cutoff : Instant) (signalSession : SessionDate) :
    Except CorporateActionError (AdjustmentResult ctx hex) := do
  raiseIf (history.sourceBars.length ≠ history.observations.length) .graph
  let bindings ← history.sourceBars.mapM (identityBinding panel history)
  let adjusted ← (adjustHistory ctx hex s history cutoff signalSession bindings).mapError .failClosed
  Checked.build AdjustmentResultFields.check
    ⟨history, .adjustedHistoryBuiltCollectionOnly, bindings, some adjusted⟩

/-- `_history_has_manual_action` -/
def historyHasManualAction (s : CorporateActionSnapshotFields) (history : StableListingHistory)
    (signalSession : SessionDate) : Except CorporateActionError Bool :=
  match history.observations.head? with
  | none => .error .indexError
  | some first => anyManual ctx history.stableListingId
      (relevantEvents s history.stableInstrumentId first.marketSession signalSession)

/-- One round of the loop of `_build_facts`. -/
def buildAdjustment (panel : StableListingHistoryPanel) (s : CorporateActionSnapshotFields) (cutoff : Instant)
    (signalSession : SessionDate) (history : StableListingHistory) :
    Except CorporateActionError (AdjustmentResult ctx hex) :=
  if history.identityConflictCount ≠ 0 then blockedResult ctx hex history .rawHistoryIdentityConflictBlocked
  else if history.gapCount ≠ 0 then blockedResult ctx hex history .rawHistoryGapBlocked
  else
    match globalBlocker panel s with
    | some status => blockedResult ctx hex history status
    | none => do
      let manual ← historyHasManualAction ctx s history signalSession
      if manual then blockedResult ctx hex history .corporateActionManualReviewRequired
      else do
        raiseIf (∃ o ∈ history.observations, o.status ≠ .rawBarObserved) .graph
        successfulResult ctx hex panel s history cutoff signalSession

structure BridgeFacts where
  cutoff : Instant
  signalSession : SessionDate
  knowledgeTime : Instant
  results : List (AdjustmentResult ctx hex)
  resolvedHistoriesAdjustmentComplete : Bool

/-- `_build_facts` -/
def buildBridgeFacts (panel : StableListingHistoryPanel) (s : CorporateActionSnapshot hex) (cutoff : Instant) :
    Except CorporateActionError (BridgeFacts ctx hex) := do
  raiseIf (cutoff < panel.knowledgeTime ∨ cutoff < s.1.cutoff) .future
  match panel.sessions.getLast? with
  | none => .error (.bridge "promoted corporate-action bridge input is invalid")
  | some signalSession => do
    let results ← panel.histories.mapM (buildAdjustment ctx hex panel s.1 cutoff signalSession)
    return ⟨cutoff, signalSession, max panel.knowledgeTime s.1.cutoff, results,
      !results.isEmpty && results.all (·.1.status = .adjustedHistoryBuiltCollectionOnly)⟩

end Results

end IndiaSwing.CorporateActions
