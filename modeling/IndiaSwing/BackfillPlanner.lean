import IndiaSwing.BackfillPlan
import IndiaSwing.CalendarMaterialization
import IndiaSwing.IdentityRegistry
import IndiaSwing.Lib.ConsecutiveRuns

/-! The plan that `market_data/backfill.py` makes of an identity registry, and the adjudicated identities that it
takes into account. -/

namespace IndiaSwing

open ExceptGuards KeySort Grouping TextPatterns IdentityRegistry ConsecutiveRuns

variable (hex : ContentId → String)

namespace IdentityRegistry

section Adjudication

inductive IdentityAdjudicationRequirement
  | authorizedSourceProvenance
  | reportDateVerification
  | adjacentVintageObservation
  | validatedIdentifier
  | officialContinuityConfirmation
  | officialListingLifecycle
  | officialListingStatus
  | officialConflictResolution
  deriving DecidableEq, Repr

def IdentityAdjudicationRequirement.value : IdentityAdjudicationRequirement → String
  | authorizedSourceProvenance => "AUTHORIZED_SOURCE_PROVENANCE"
  | reportDateVerification => "REPORT_DATE_VERIFICATION"
  | adjacentVintageObservation => "ADJACENT_VINTAGE_OBSERVATION"
  | validatedIdentifier => "VALIDATED_IDENTIFIER"
  | officialContinuityConfirmation => "OFFICIAL_CONTINUITY_CONFIRMATION"
  | officialListingLifecycle => "OFFICIAL_LISTING_LIFECYCLE"
  | officialListingStatus => "OFFICIAL_LISTING_STATUS"
  | officialConflictResolution => "OFFICIAL_CONFLICT_RESOLUTION"

def IdentityCandidateStatus.value : IdentityCandidateStatus → String
  | .singleVintage => "SINGLE_VINTAGE"
  | .candidateContinuity => "CANDIDATE_CONTINUITY"
  | .unresolvedIdentifier => "UNRESOLVED_IDENTIFIER"
  | .conflict => "CONFLICT"

/-- The requirement that the status of a candidate adds in `_requirements_for`. -/
def statusRequirement : IdentityCandidateStatus → IdentityAdjudicationRequirement
  | .singleVintage => .officialListingStatus
  | .unresolvedIdentifier => .validatedIdentifier
  | .candidateContinuity => .officialContinuityConfirmation
  | .conflict => .officialConflictResolution

/-- `_requirements_for` -/
def requirementsFor (status : IdentityCandidateStatus) (observedDateCount : ℕ) (transitionChanged hasDeleteFlag : Bool) :
    Except String (List IdentityAdjudicationRequirement) := do
  raiseIf (observedDateCount = 0) "identity candidate must contain a positive observed-date count"
  let values : List IdentityAdjudicationRequirement := [.authorizedSourceProvenance, .reportDateVerification] ++
    (if observedDateCount < 2 then [.adjacentVintageObservation] else []) ++ [statusRequirement status] ++
    (if transitionChanged then [.officialListingLifecycle] else []) ++
    (if hasDeleteFlag then [.officialListingStatus] else [])
  return sortOn (·.value) values.dedup

structure IdentityAdjudicationCase where
  candidateId : ContentId
  basis : IdentityCandidateBasis
  candidateStatus : IdentityCandidateStatus
  observationClaims : List (ContentId × SessionDate)
  transitionIds : List ContentId
  conflictIds : List ContentId
  requirements : List IdentityAdjudicationRequirement

/-- `IdentityAdjudicationCase.__post_init__` -/
def IdentityAdjudicationCase.check (case : IdentityAdjudicationCase) : Except String Unit := do
  raiseIf (case.observationClaims = [] ∨ case.observationClaims ≠ sortOn (hex ·.1) case.observationClaims)
    "observation claims must be a non-empty observation-ID-ordered tuple"
  raiseIf (¬(case.observationClaims.map (·.1)).Nodup) "observation claims cannot repeat an observation"
  raiseIf (sortedIds hex case.transitionIds ≠ case.transitionIds) "adjudication transition_ids must be sorted and unique"
  raiseIf (sortedIds hex case.conflictIds ≠ case.conflictIds) "adjudication conflict_ids must be sorted and unique"
  raiseIf (case.requirements = [] ∨ case.requirements ≠ sortOn (·.value) case.requirements.dedup)
    "adjudication requirements must be sorted, unique, and non-empty"
  raiseIf (.authorizedSourceProvenance ∉ case.requirements ∨ .reportDateVerification ∉ case.requirements)
    "every adjudication case requires source and report-date verification"

/-- `case_id` -/
def IdentityAdjudicationCase.caseId (case : IdentityAdjudicationCase) : ContentId :=
  .ofFields "identity-adjudication-queue/v1" [case.candidateId, .text case.basis.value,
    .text case.candidateStatus.value, .list (case.observationClaims.map fun claim => .pair claim.1 (.int claim.2)),
    .list case.transitionIds, .list case.conflictIds, .list (case.requirements.map (.text ·.value))]

variable {hex}

/-- The case of one candidate in `_build_adjudication_cases`. -/
def adjudicationCase (registry : RegistryFields hex) (candidate : IdentityContinuityCandidate hex) :
    Except String IdentityAdjudicationCase := do
  let observations ← candidate.1.observationIds.mapM (requireObservation registry.observations)
  let transitions := registry.transitions.filter (·.1.candidateId = candidate.1.candidateId)
  let conflicts := registry.conflicts.filter fun conflict =>
    candidate.1.observationIds.any (· ∈ conflict.1.observationIds)
  let changed := transitions.any fun transition => transition.1.symbolChanged || transition.1.seriesChanged ||
    transition.1.financialInstrumentIdChanged || transition.1.instrumentNameChanged
  let requirements ← requirementsFor candidate.1.status (observations.map (·.1.claimedReportDate)).dedup.length
    changed (observations.any (·.1.deleteFlag = "Y"))
  let case : IdentityAdjudicationCase :=
    { candidateId := candidate.1.candidateId
      basis := candidate.1.basis
      candidateStatus := candidate.1.status
      observationClaims := sortOn (hex ·.1) (observations.map fun o => (o.1.observationId, o.1.claimedReportDate))
      transitionIds := sortOn hex (transitions.map (·.1.transitionId))
      conflictIds := sortOn hex (conflicts.map (·.1.conflictId))
      requirements := requirements }
  case.check hex
  return case

/-- `_build_adjudication_cases` -/
def buildAdjudicationCases (registry : RegistryFields hex) : Except String (List IdentityAdjudicationCase) := do
  let cases ← registry.candidates.mapM (adjudicationCase registry)
  return sortOn (hex ·.candidateId) cases

/-- `registry_id` -/
def RegistryFields.registryId (registry : RegistryFields hex) : ContentId :=
  .ofFields "nse-cm-identity-registry/v1" [.int registry.cutoff, .int registry.knowledgeTime,
    .list (registry.sourceManifests.map (·.manifestId)), .list (registry.observations.map (·.1.observationId)),
    .list (registry.candidates.map fun candidate => .pair candidate.1.candidateId (.text candidate.1.status.value)),
    .list (registry.transitions.map (·.1.transitionId)), .list (registry.conflicts.map (·.1.conflictId))]

/-- `queue_id` of the cases of a registry. -/
def queueId (registry : RegistryFields hex) (cases : List IdentityAdjudicationCase) : ContentId :=
  .ofFields "identity-adjudication-queue/v1" [registry.registryId, .int registry.cutoff, .int registry.knowledgeTime,
    .list (registry.sourceManifests.map (·.artifactId)), .list (registry.sourceManifests.map (·.manifestId)),
    .list (cases.map (·.caseId))]

/-- `build_identity_adjudication_queue`, as its cases. -/
def buildIdentityAdjudicationQueue (registry : RegistryFields hex) : Except String (List IdentityAdjudicationCase) := do
  let cases ← buildAdjudicationCases registry
  raiseIf (registry.sourceManifests = [] ∨ ¬(registry.sourceManifests.map (·.artifactId)).Nodup)
    "adjudication source_artifact_ids must be non-empty and unique"
  raiseIf (¬(registry.sourceManifests.map (·.manifestId)).Nodup)
    "adjudication source_manifest_ids must be non-empty and unique"
  raiseIf (cases = []) "adjudication cases must be a non-empty candidate-ordered exact tuple"
  raiseIf (¬(cases.map (·.candidateId)).Nodup) "adjudication queue contains duplicate candidates"
  return cases

/-- `CandidateIdentityResolution` -/
structure CandidateIdentityResolution where
  candidateId : ContentId
  requiredRequirements : List IdentityAdjudicationRequirement
  acceptedDecisionIds : List ContentId
  rejectedDecisionIds : List ContentId
  missingRequirements : List IdentityAdjudicationRequirement
  blockerCodes : List String
  stableInstrumentId : Option ContentId

/-- `EffectiveStableListingObservation` -/
structure EffectiveStableListingObservation where
  candidateId : ContentId
  sourceObservationId : ContentId
  stableInstrumentId : ContentId
  stableListingId : ContentId
  effectiveOn : SessionDate
  symbol : String
  series : String
  isin : String
  deriving DecidableEq

/-- `AdjudicatedIdentitySnapshot` -/
structure AdjudicatedIdentitySnapshot where
  snapshotId : ContentId
  sourceRegistryId : ContentId
  sourceQueueId : ContentId
  policyVersion : String
  cutoff : Instant
  knowledgeTime : Instant
  evidenceArtifactIds : List ContentId
  reviewBundleIds : List ContentId
  resolutions : List CandidateIdentityResolution
  listingObservations : List EffectiveStableListingObservation

def stableInstrumentId (isin : String) : ContentId :=
  .ofFields "nse-cm-stable-instrument-by-validated-isin/v1" [.text "NSE", .text "CM", .text isin]

def stableListingId (isin series : String) : ContentId :=
  .ofFields "nse-cm-stable-listing-by-instrument-series/v1"
    [stableInstrumentId isin, .text "NSE", .text "CM", .text series]

def adjudicatedIdentityPolicyVersion : String := "all-requirements-accepted-reviewed-identifier-corrections/v2"

/-- The last candidate that holds an observation, as a dictionary finds it. -/
def candidateOf (registry : RegistryFields hex) (id : ContentId) : Option (IdentityContinuityCandidate hex) :=
  registry.candidates.reverse.find? fun candidate => id ∈ candidate.1.observationIds

end Adjudication

end IdentityRegistry

namespace Backfill

section Resolver

/-- What a call of a resolver ends in: a value of the right type, one of another type, or an exception. -/
inductive Answer (α : Type)
  | value (a : α)
  | other
  | raised
  deriving Repr

/-- `ProviderInstrumentResolver` with the attributes it may lack. -/
structure ProviderInstrumentResolver where
  provider : Answer String
  resolverVersion : Answer String
  -- an aware time, or something else
  knowledgeTime : Option (Option Instant)
  resolve : IdentityObservation → Answer String
  resolveIsin : Option (String → Answer String)
  catalogContains : Option (IdentityObservation → Answer Bool)
  catalogContainsIsin : Option (String → Answer Bool)

end Resolver

section Texts

/-- `[A-Z0-9]` -/
def isCapital (c : Char) : Bool := c.isUpper || c.isDigit

/-- `[A-Z0-9][A-Z0-9&\-]{0,31}` -/
def isTicker (text : List Char) : Bool :=
  text.head?.any isCapital && text.length ≤ 32 && text.tail.all fun c => isCapital c || c = '&' || c = '-'

/-- `LISTING_KEY_PATTERN` -/
def isListingKey (text : List Char) : Bool := text.take 4 = "NSE:".toList && isTicker (text.drop 4)

example : isListingKey "NSE:M&M".toList ∧ ¬isListingKey "NSE:&M".toList := by decide +kernel

/-- `NSE_SECURITY_SERIES_PATTERN` -/
def isSecuritySeries (text : List Char) : Bool := text ≠ [] && text.length ≤ 8 && text.all isCapital

/-- `NSE_EQUITY_ISIN_PATTERN` -/
def isEquityIsin (text : List Char) : Bool :=
  text.length = 12 && text.take 3 = "INE".toList && (text.drop 3).all isCapital

/-- `MARKET_DATA_PROVIDER_PATTERN` -/
def isProvider (text : List Char) : Bool :=
  text.head?.any Char.isUpper && 2 ≤ text.length && text.length ≤ 32 && text.tail.all fun c => isCapital c || c = '_'

/-- `_CANONICAL_TEXT` -/
def isCanonicalText (text : List Char) : Bool :=
  text.head?.any Char.isAlphanum && text.length ≤ 128 &&
    text.tail.all fun c => c.isAlphanum || c ∈ "._/@:+-".toList

/-- The checks that the planner makes of a provider key. -/
def isProviderKey (key : String) : Bool := key ≠ "" && stripText key.toList = key.toList && key.length ≤ 128

/-- The texts of a binding in `HistoricalInstrumentBinding._validate` -/
def InstrumentBinding.checkTexts (binding : InstrumentBinding) : Except String Unit := do
  raiseIf (¬isProvider binding.provider.toList) "provider must be canonical uppercase provider text"
  raiseIf (¬isProviderKey binding.providerInstrumentId ∨ binding.providerInstrumentId.toList.any (·.toNat < 32))
    "provider_instrument_id must be bounded canonical text"
  raiseIf (¬isListingKey binding.listingKey.toList) "listing_key must be canonical NSE:TRADINGSYMBOL text"
  raiseIf (¬isSecuritySeries binding.securitySeries.toList) "security_series must be canonical NSE series text"
  raiseIf (¬isEquityIsin binding.isin.toList) "isin must be a canonical Indian equity ISIN"

end Texts

section Inputs

structure MarketEligibility where
  status : ℤ
  eligible : Bool

/-- A row of a security master with its eligibility on the normal market, `market_eligibility[0]`. -/
structure SecurityMasterRecord where
  record : NseCmSecurityRecord
  normalMarket : MarketEligibility

/-- A stored security master whose provenance was verified. -/
structure SecurityMasterSource where
  manifest : ReferenceArtifactManifest
  records : List SecurityMasterRecord

structure PinnedCalendar where
  snapshotId : ContentId
  exchange : String
  segment : String
  snapshot : CalendarMaterialization.CheckedSnapshot

/-- The arguments of `build_historical_backfill_plan`. -/
structure PlanInputs where
  registry : CrossVintageIdentityRegistry hex
  securityMasterSources : List SecurityMasterSource
  calendar : PinnedCalendar
  resolver : ProviderInstrumentResolver
  coverageStart : SessionDate
  coverageEnd : SessionDate
  requestedAt : Instant
  identitySnapshot : Option AdjudicatedIdentitySnapshot

variable {hex}

/-- `source_record_by_observation[observation.observation_id]` -/
def sourceRecord (sources : List SecurityMasterSource) (observation : IdentityObservation) :
    Option SecurityMasterRecord := do
  let source ← lastUnder (·.manifest.artifactId) sources observation.1.sourceArtifactId
  lastUnder (·.record.sourceRecordId) source.records observation.1.sourceRecordId

/-- Whether the row of an observation still says what the observation does. -/
def recordAgrees (observation : IdentityObservation) (record : NseCmSecurityRecord) : Bool :=
  record.normalizedRowSha256 = observation.1.normalizedRowSha256 &&
    record.financialInstrumentId = observation.1.financialInstrumentId &&
    record.tickerSymbol = observation.1.tickerSymbol && record.securitySeries = observation.1.securitySeries &&
    record.instrumentName = observation.1.instrumentName &&
    record.rawSourceIdentifier = observation.1.rawSourceIdentifier &&
    record.validatedIsin = observation.1.validatedIsin && record.deleteFlag = observation.1.deleteFlag

/-- The lineage of the sources, and the bounds of the coverage. -/
def PlanInputs.checkSources (i : PlanInputs hex) : Except String Unit := do
  raiseIf (i.securityMasterSources = []) "security_master_sources must be a non-empty exact artifact tuple"
  raiseIf (i.securityMasterSources.map (·.manifest) ≠ i.registry.1.sourceManifests)
    "security-master source lineage disagrees with the identity registry"
  raiseIf (∃ observation ∈ i.registry.1.observations,
      ¬(sourceRecord i.securityMasterSources observation).any fun row => recordAgrees observation row.record)
    "security-master source record disagrees with identity observation"
  raiseIf ((i.calendar.exchange, i.calendar.segment) ≠ ("NSE", "CM")) "historical backfill calendar must be NSE CM"
  raiseIf (i.coverageEnd < i.coverageStart ∨ i.coverageStart < i.calendar.snapshot.1.coverageStart ∨
      i.calendar.snapshot.1.coverageEnd < i.coverageEnd)
    "historical backfill coverage is outside the pinned calendar"
  raiseIf (i.requestedAt < i.registry.1.cutoff ∨ i.requestedAt < i.calendar.snapshot.1.cutoff)
    "historical backfill input was not known at requested_at"
  raiseIf (Instant.istDate i.requestedAt ≤ i.coverageEnd)
    "historical backfill coverage cannot include current or future dates"

/-- Whether a resolution says what its case asks for. -/
def resolutionAgrees (cases : List IdentityAdjudicationCase) (resolution : CandidateIdentityResolution) : Bool :=
  (lastUnder (·.candidateId) cases resolution.candidateId).any fun case =>
    resolution.requiredRequirements = case.requirements &&
      (resolution.acceptedDecisionIds.length : ℤ) =
        (case.requirements.length : ℤ) - resolution.missingRequirements.length &&
      !(resolution.rejectedDecisionIds ≠ [] && resolution.stableInstrumentId.isSome)

/-- Whether an adjudicated listing says what its observation and its resolution do. -/
def listingAgrees (registry : RegistryFields hex) (snapshot : AdjudicatedIdentitySnapshot)
    (listing : EffectiveStableListingObservation) : Bool :=
  match lastUnder (·.1.observationId) registry.observations listing.sourceObservationId,
    lastUnder (·.1.candidateId) registry.candidates listing.candidateId,
    lastUnder (·.candidateId) snapshot.resolutions listing.candidateId with
  | some observation, some candidate, some resolution =>
    candidateIdOf registry.candidates listing.sourceObservationId = some listing.candidateId &&
      resolution.blockerCodes = [] && resolution.missingRequirements = [] && resolution.rejectedDecisionIds = [] &&
      resolution.acceptedDecisionIds.length = resolution.requiredRequirements.length &&
      resolution.stableInstrumentId = some listing.stableInstrumentId &&
      listing.stableInstrumentId = stableInstrumentId listing.isin &&
      listing.stableListingId = stableListingId listing.isin listing.series &&
      observation.1.claimedReportDate = listing.effectiveOn && observation.1.tickerSymbol = listing.symbol &&
      observation.1.securitySeries = listing.series &&
      ((candidate.1.basis = .validatedIsin && candidate.1.status ≠ .conflict) ||
        (snapshot.policyVersion = adjudicatedIdentityPolicyVersion && snapshot.evidenceArtifactIds ≠ [] &&
          snapshot.reviewBundleIds ≠ []))
  | _, _, _ => false

/-- The checks of an adjudicated snapshot against the registry that it is of. -/
def PlanInputs.checkSnapshot (i : PlanInputs hex) (snapshot : AdjudicatedIdentitySnapshot) : Except String Unit := do
  raiseIf (snapshot.sourceRegistryId ≠ i.registry.1.registryId ∨ i.requestedAt < snapshot.cutoff ∨
      i.requestedAt < snapshot.knowledgeTime ∨
      sortedIds hex (snapshot.resolutions.map (·.candidateId)) ≠ sortedIds hex (i.registry.1.candidates.map (·.1.candidateId)))
    "adjudicated identity snapshot lineage is incompatible with the plan"
  let cases ← buildIdentityAdjudicationQueue i.registry.1
  raiseIf (snapshot.sourceQueueId ≠ queueId i.registry.1 cases) "adjudicated identity snapshot targets another queue"
  raiseIf (∃ resolution ∈ snapshot.resolutions, ¬resolutionAgrees cases resolution)
    "adjudicated identity resolution disagrees with its queue"
  raiseIf ((∃ listing ∈ snapshot.listingObservations, ¬listingAgrees i.registry.1 snapshot listing) ∨
      ¬(snapshot.listingObservations.map (·.sourceObservationId)).Nodup)
    "adjudicated listing evidence disagrees with the identity registry"

/-- The provider and the version of a resolver. -/
def PlanInputs.resolverMetadata (i : PlanInputs hex) : Except String (String × String) :=
  match i.resolver.provider, i.resolver.resolverVersion with
  | .raised, _ => .error "historical provider resolver metadata is unavailable"
  | _, .raised => .error "historical provider resolver metadata is unavailable"
  | .other, _ => .error "provider must be canonical uppercase provider text"
  | .value provider, version => do
    raiseIf (¬isProvider provider.toList) "provider must be canonical uppercase provider text"
    match version with
    | .value text =>
      if isCanonicalText text.toList then return (provider, text)
      else .error "historical provider resolver version is invalid"
    | _ => .error "historical provider resolver version is invalid"

def PlanInputs.checkResolverTime (i : PlanInputs hex) : Except String Unit :=
  match i.resolver.knowledgeTime with
  | none => .ok ()
  | some none => .error "historical provider resolver knowledge time is invalid"
  | some (some time) => raiseIf (i.requestedAt < time) "historical provider resolver was not known at requested_at"

def PlanInputs.checkIdentities (i : PlanInputs hex) : Except String Unit :=
  match i.identitySnapshot with
  | none => .ok ()
  | some snapshot => i.checkSnapshot snapshot

/-- The checks that come before the plan is made. -/
def PlanInputs.check (i : PlanInputs hex) : Except String (String × String) := do
  i.checkSources
  i.checkIdentities
  let metadata ← i.resolverMetadata
  i.checkResolverTime
  return metadata

end Inputs

section Observations

variable {hex} (i : PlanInputs hex)

/-- The sessions of the coverage. -/
def PlanInputs.sessions : List SessionDate :=
  ((i.calendar.snapshot.1.days.filter fun value =>
    i.coverageStart ≤ value.1.day ∧ value.1.day ≤ i.coverageEnd).filter (·.1.isSession)).map (·.1.day)

/-- The dates of the security masters in the coverage. -/
def PlanInputs.manifestDates : List SessionDate :=
  (i.registry.1.sourceManifests.map (·.claimedReportDate)).filter fun value =>
    i.coverageStart ≤ value ∧ value ≤ i.coverageEnd

/-- `observations_by_date.get(session, ())` -/
def PlanInputs.observationsOn (session : SessionDate) : List IdentityObservation :=
  if session ∈ i.manifestDates then i.registry.1.observations.filter (·.1.claimedReportDate = session) else []

/-- `adjudicated_by_observation.get(observation.observation_id)` -/
def PlanInputs.adjudicated (observation : IdentityObservation) : Option EffectiveStableListingObservation :=
  i.identitySnapshot.bind fun snapshot =>
    lastUnder (·.sourceObservationId) snapshot.listingObservations observation.1.observationId

/-- A status of 6 on the normal market, and eligible there. -/
def PlanInputs.tradesNormally (observation : IdentityObservation) : Bool :=
  (sourceRecord i.securityMasterSources observation).any fun row =>
    row.normalMarket.status = 6 && row.normalMarket.eligible

/-- The series that the swing system trades. -/
def supportedSwingSecuritySeries : List String := ["EQ", "SM"]

def supportedLane (observation : IdentityObservation) : Bool :=
  observation.1.securitySeries ∈ supportedSwingSecuritySeries && isTicker observation.1.tickerSymbol.toList

/-- The observations of a session that are compared for conflicts. -/
def PlanInputs.eligibleOn (session : SessionDate) : List IdentityObservation :=
  (i.observationsOn session).filter fun observation =>
    observation.1.deleteFlag = "N" && i.tradesNormally observation && supportedLane observation

/-- `hard_conflicts_by_session` of one session. -/
def PlanInputs.hardConflicts (session : SessionDate) : List ContentId :=
  let eligible := i.eligibleOn session
  let repeated := ((groupsBy (fun o : IdentityObservation => (o.1.validatedIsin, o.1.securitySeries))
    (eligible.filter (·.1.validatedIsin.isSome))).map (·.2)).filter (1 < ·.length)
  (repeated ++ reusedAcrossIdentifiers (·.1.financialInstrumentId) eligible ++
    reusedAcrossIdentifiers (·.1.listingKey) eligible).flatten.map (·.1.observationId)

/-- The ISIN that an observation is taken to be of. -/
def PlanInputs.effectiveIsin (observation : IdentityObservation) : Option String :=
  match i.adjudicated observation with
  | some listing => some listing.isin
  | none => observation.1.validatedIsin

/-- The provider key, from the observation itself or from the ISIN that was adjudicated. -/
def PlanInputs.providerKey (observation : IdentityObservation) (isin : String) : Answer String :=
  if some isin = observation.1.validatedIsin then i.resolver.resolve observation
  else match i.resolver.resolveIsin with
    | none => .raised
    | some resolveIsin => resolveIsin isin

/-- Whether the catalog of the resolver has the instrument, if it has a catalog. -/
def PlanInputs.catalogAnswer (observation : IdentityObservation) (isin : String) : Option (Answer Bool) :=
  i.resolver.catalogContains.map fun catalogContains =>
    if some isin = observation.1.validatedIsin then catalogContains observation
    else match i.resolver.catalogContainsIsin with
      | none => .raised
      | some containsIsin => containsIsin isin

/-- An observation with its provider key and ISIN. -/
structure Resolved where
  observation : IdentityObservation
  providerKey : String
  isin : String
  -- the catalog lacks the instrument, which is only reported
  absent : Bool
  deriving DecidableEq

def Resolved.session (r : Resolved) : SessionDate := r.observation.1.claimedReportDate

/-- What the planner makes of one observation: an issue that excludes it, or its provider key. -/
def PlanInputs.judge (observation : IdentityObservation) : Except IssueCode Resolved := do
  raiseIf (observation.1.deleteFlag ≠ "N") .deletedSecurity
  raiseIf (¬supportedLane observation) .unsupportedListingLane
  raiseIf (¬i.tradesNormally observation) .ineligibleNormalMarket
  raiseIf (observation.1.observationId ∈ i.hardConflicts observation.1.claimedReportDate ∧
    i.adjudicated observation = none) .conflictingIdentity
  match i.effectiveIsin observation with
  | none => .error .unvalidatedIdentifier
  | some isin => do
    raiseIf ((candidateOf i.registry.1 observation.1.observationId).all (·.1.basis ≠ .validatedIsin) ∧
      i.adjudicated observation = none) .unvalidatedIdentifier
    raiseIf (¬isEquityIsin isin.toList ∨ ¬isSecuritySeries observation.1.securitySeries.toList) .unsupportedListingLane
    match i.providerKey observation isin with
    | .value key => do
      raiseIf (¬isProviderKey key) .providerKeyUnavailable
      match i.catalogAnswer observation isin with
      | none => return ⟨observation, key, isin, false⟩
      | some (.value present) => return ⟨observation, key, isin, !present⟩
      | some _ => .error .providerKeyUnavailable
    | _ => .error .providerKeyUnavailable

/-- The observations of the sessions, in the order in which they are judged. -/
def PlanInputs.observed : List IdentityObservation := i.sessions.flatMap i.observationsOn

/-- `_issue` of one observation. -/
def observationIssue (code : IssueCode) (observation : IdentityObservation) : Issue :=
  ⟨code, [observation.1.claimedReportDate], [observation.1.observationId]⟩

/-- The issue that judging an observation leaves, if any. -/
def PlanInputs.judgeIssue (observation : IdentityObservation) : Option Issue :=
  match i.judge observation with
  | .error code => some (observationIssue code observation)
  | .ok r => if r.absent then some (observationIssue .providerCatalogAbsent observation) else none

def PlanInputs.resolved : List Resolved := i.observed.filterMap fun observation => (i.judge observation).toOption

/-- The observations that an issue excluded. -/
def PlanInputs.rejected : List ContentId :=
  (i.observed.filter fun observation => (i.judge observation).toOption.isNone).map (·.1.observationId)

end Observations

section Planning

variable {hex} (i : PlanInputs hex)

/-- What the pass over the provider keys has come to. -/
structure Acceptance where
  accepted : List Resolved
  issues : List Issue
  rejected : List ContentId

/-- A provider key that several observations of a session have is ambiguous. -/
def acceptGroup (st : Acceptance) (group : (SessionDate × String) × List Resolved) : Acceptance :=
  match group.2 with
  | [r] => if r.observation.1.observationId ∈ st.rejected then st else { st with accepted := st.accepted ++ [r] }
  | values =>
    { st with
      issues := st.issues ++ [⟨.ambiguousProviderKey, [group.1.1], sortOn hex (values.map (·.observation.1.observationId))⟩]
      rejected := st.rejected ++ values.map (·.observation.1.observationId) }

def groupOrder (group : (SessionDate × String) × List Resolved) : SessionDate ×ₗ String := toLex group.1

/-- `resolved`, keyed by the session and the provider key, in the order of the keys. -/
def PlanInputs.keyGroups : List ((SessionDate × String) × List Resolved) :=
  sortOn groupOrder (groupsBy (fun r : Resolved => (r.session, r.providerKey)) i.resolved)

def PlanInputs.acceptance : Acceptance := i.keyGroups.foldl (@acceptGroup hex) ⟨[], [], i.rejected⟩

/-- The issues of the sessions without a security master, and of the security masters without a session. -/
def PlanInputs.coverageIssues : List Issue :=
  (runs i.sessions (i.sessions.filter (· ∉ i.manifestDates))).map (fun run => ⟨.missingSecurityMasterVintage, run, []⟩) ++
    (sortOn id (i.manifestDates.filter (· ∉ i.sessions))).map fun value => ⟨.nonSessionSecurityMaster, [value], []⟩

/-- `issues`, keyed by their ids. -/
def PlanInputs.issues : List Issue :=
  (i.coverageIssues ++ i.observed.filterMap i.judgeIssue ++ i.acceptance.issues).dedup

/-- A lane: a candidate under one ticker, series, ISIN and provider key. -/
abbrev Lane := Option ContentId × String × String × String × String

def PlanInputs.laneOf (r : Resolved) : Lane :=
  ((candidateOf i.registry.1 r.observation.1.observationId).map (·.1.candidateId), r.observation.1.tickerSymbol,
    r.observation.1.securitySeries, r.isin, r.providerKey)

variable (hex) in
def laneOrder (lane : Lane × List Resolved) : String ×ₗ String ×ₗ String ×ₗ String ×ₗ String :=
  toLex ((lane.1.1.map hex).getD "", toLex (lane.1.2.1, toLex (lane.1.2.2.1, toLex (lane.1.2.2.2.1, lane.1.2.2.2.2))))

def PlanInputs.lanes : List (Lane × List Resolved) :=
  sortOn (laneOrder hex) (groupsBy i.laneOf i.acceptance.accepted)

/-- The sessions of a lane. -/
def laneSessions (values : List Resolved) : List SessionDate := sortOn id (values.map (·.session)).dedup

/-- The request for one run of a lane. -/
def PlanInputs.request (provider : String) (lane : Lane × List Resolved) (run : List SessionDate) : DailyRequest where
  binding :=
    { provider := provider
      providerInstrumentId := lane.1.2.2.2.2
      listingKey := "NSE:" ++ lane.1.2.1
      securitySeries := lane.1.2.2.1
      isin := lane.1.2.2.2.1
      validFrom := run.head?.getD 0
      validThrough := run.getLast?.getD 0
      sourceSnapshotIds := sortedIds hex ([i.registry.1.registryId, i.calendar.snapshotId] ++
        (i.identitySnapshot.map (·.snapshotId)).toList ++
        run.filterMap fun session => (lastUnder (·.session) lane.2 session).map (·.observation.1.sourceArtifactId)) }
  sessions := run
  requestedAt := i.requestedAt

def PlanInputs.requests (provider : String) : List DailyRequest :=
  i.lanes.flatMap fun lane => (runs i.sessions (laneSessions lane.2)).map (i.request provider lane)

/-- The checks that `HistoricalInstrumentBinding` and `HistoricalDailyRequest` make. -/
def DailyRequest.checkAll (request : DailyRequest) : Except String Unit := do
  request.binding.checkTexts
  request.check

/-- The fields of the plan. -/
def PlanInputs.planFields (provider resolverVersion : String) : PlanFields where
  provider := provider
  resolverVersion := resolverVersion
  identityRegistryId := i.registry.1.registryId
  calendarSnapshotId := i.calendar.snapshotId
  coverageStart := i.coverageStart
  coverageEnd := i.coverageEnd
  requestedAt := i.requestedAt
  requests := sortOn (requestSortKey hex) (i.requests provider)
  issues := sortOn (fun issue => hex issue.issueId) i.issues
  identitySnapshotId := i.identitySnapshot.map (·.snapshotId)

theorem planFields_requests (provider resolverVersion : String) :
    ((i.planFields provider resolverVersion).requests).Perm (i.requests provider) := by
  unfold PlanInputs.planFields
  dsimp only
  exact perm_sortOn _ _

theorem planFields_issues (provider resolverVersion : String) :
    ((i.planFields provider resolverVersion).issues).Perm i.issues := by
  unfold PlanInputs.planFields
  dsimp only
  exact perm_sortOn _ _

theorem planFields_sorted (provider resolverVersion : String) :
    sortOn (requestSortKey hex) (i.planFields provider resolverVersion).requests =
        (i.planFields provider resolverVersion).requests ∧
      sortOn (fun issue => hex issue.issueId) (i.planFields provider resolverVersion).issues =
        (i.planFields provider resolverVersion).issues := by
  unfold PlanInputs.planFields
  dsimp only
  exact ⟨sortOn_of_pairwise _ (sortOn_pairwise _ _), sortOn_of_pairwise _ (sortOn_pairwise _ _)⟩

/-- `build_historical_backfill_plan` -/
def buildHistoricalBackfillPlan : Except String (BackfillPlan hex) := do
  let (provider, resolverVersion) ← i.check
  (i.requests provider).forM DailyRequest.checkAll
  Checked.build (PlanFields.check hex) (i.planFields provider resolverVersion)

end Planning

end Backfill

end IndiaSwing
