import IndiaSwing.ContentIds
import IndiaSwing.Timestamps
import IndiaSwing.Lib.Checked
import IndiaSwing.Lib.ExceptGuards
import IndiaSwing.Lib.Grouping
import IndiaSwing.Lib.TextPatterns
import Mathlib.Data.Prod.Lex

namespace IndiaSwing

open ExceptGuards KeySort Grouping TextPatterns

namespace IdentityRegistry

section Sources

inductive SourceRowDisposition
  | retainedUnverifiedEquity | excludedNonEquity | excludedTestSecurity | excludedAlternativeVenue
  deriving DecidableEq, Repr

inductive ReferenceReadiness
  | collectionOnly | pointInTimeVerified | syntheticTest
  deriving DecidableEq, Repr

structure NseCmSecurityRecord where
  sourceRowNumber : ℕ
  sourceRecordId : ContentId
  normalizedRowSha256 : ContentId
  financialInstrumentId : ℤ
  tickerSymbol : String
  securitySeries : String
  instrumentName : String
  rawSourceIdentifier : String
  validatedIsin : Option String
  deleteFlag : String
  disposition : SourceRowDisposition

structure ReferenceArtifactManifest where
  manifestId : ContentId
  artifactId : ContentId
  readiness : ReferenceReadiness
  claimedReportDate : SessionDate
  validatedAt : Instant
  retainedUnverifiedEquityCount : ℕ
  deriving DecidableEq

/-- A stored artifact as `verify_stored_reference_provenance` leaves it: its records are those that the
parser numbers from the second row on, and its manifest counts the retained ones. -/
structure StoredReferenceArtifact where
  manifest : ReferenceArtifactManifest
  records : List NseCmSecurityRecord
  rowNumbers : records.map (·.sourceRowNumber) = List.range' 2 records.length
  recordIds : ∀ record ∈ records, record.sourceRecordId = .ofFields "nse-cm-mii-security"
    [.int manifest.claimedReportDate, .int record.sourceRowNumber, record.normalizedRowSha256]
  retained : manifest.retainedUnverifiedEquityCount =
    (records.filter (·.disposition = .retainedUnverifiedEquity)).length

end Sources

section Observations

/-- `[A-Z]{2}[A-Z0-9]{9}[0-9]` -/
def isIsin (text : List Char) : Bool :=
  text.length = 12 && (text.take 2).all Char.isUpper &&
    ((text.drop 2).take 9).all (fun c => c.isUpper || c.isDigit) && (text.drop 11).all Char.isDigit

/-- `_required_source_text` -/
def isSourceText (text : String) : Bool := text ≠ "" && text.toList.all fun c => 32 ≤ c.toNat

/-- `_required_text` -/
def isRequiredText (text : String) : Bool := isSourceText text && stripText text.toList = text.toList

structure ObservationFields where
  sourceArtifactId : ContentId
  sourceManifestId : ContentId
  sourceRecordId : ContentId
  normalizedRowSha256 : ContentId
  claimedReportDate : SessionDate
  knowledgeTime : Instant
  financialInstrumentId : ℤ
  tickerSymbol : String
  securitySeries : String
  instrumentName : String
  rawSourceIdentifier : String
  validatedIsin : Option String
  deleteFlag : String
  deriving DecidableEq

/-- `IdentityObservation.__post_init__` -/
def validateObservation (observation : ObservationFields) : Except String Unit := do
  raiseIf (observation.financialInstrumentId ≤ 0) "financial_instrument_id must be positive"
  raiseIf (¬isRequiredText observation.tickerSymbol) "ticker_symbol must be canonical non-empty text"
  raiseIf (¬isRequiredText observation.securitySeries) "security_series must be canonical non-empty text"
  raiseIf (¬isRequiredText observation.rawSourceIdentifier)
    "raw_source_identifier must be canonical non-empty text"
  raiseIf (¬isSourceText observation.instrumentName) "instrument_name must be non-empty source text"
  raiseIf (¬isNormalizedUpper observation.tickerSymbol) "ticker_symbol must be normalized uppercase text"
  raiseIf (¬isNormalizedUpper observation.securitySeries)
    "security_series must be normalized uppercase text"
  raiseIf (∃ isin ∈ observation.validatedIsin, ¬isIsin isin.toList ∨ isin ≠ observation.rawSourceIdentifier)
    "validated_isin must be the exact validated source identifier"
  raiseIf (observation.deleteFlag ∉ ["N", "Y"]) "delete_flag must be N or Y"

abbrev IdentityObservation := {observation : ObservationFields // validateObservation observation = .ok ()}

def ObservationFields.listingKey (observation : ObservationFields) : String :=
  "NSE:CM:" ++ observation.tickerSymbol ++ ":" ++ observation.securitySeries

def ObservationFields.identifierKey (observation : ObservationFields) : String :=
  (observation.validatedIsin.filter (· ≠ "")).getD observation.rawSourceIdentifier

def ObservationFields.observationId (observation : ObservationFields) : ContentId :=
  .ofFields "nse-cm-identity-candidates/positive-only-v1"
    [observation.sourceArtifactId, observation.sourceManifestId, observation.sourceRecordId,
      observation.normalizedRowSha256, .int observation.claimedReportDate,
      .int observation.knowledgeTime, .int observation.financialInstrumentId,
      .text observation.tickerSymbol, .text observation.securitySeries,
      .text observation.instrumentName, .text observation.rawSourceIdentifier,
      .option .text observation.validatedIsin, .text observation.deleteFlag]

/-- The fields of `_observation` -/
def observationFields (source : StoredReferenceArtifact) (record : NseCmSecurityRecord) :
    ObservationFields where
  sourceArtifactId := source.manifest.artifactId
  sourceManifestId := source.manifest.manifestId
  sourceRecordId := record.sourceRecordId
  normalizedRowSha256 := record.normalizedRowSha256
  claimedReportDate := source.manifest.claimedReportDate
  knowledgeTime := source.manifest.validatedAt
  financialInstrumentId := record.financialInstrumentId
  tickerSymbol := record.tickerSymbol
  securitySeries := record.securitySeries
  instrumentName := record.instrumentName
  rawSourceIdentifier := record.rawSourceIdentifier
  validatedIsin := record.validatedIsin
  deleteFlag := record.deleteFlag

end Observations

/-! Ids are put into the order of their digests, which `hex` gives. -/
variable (hex : ContentId → String)

section Graph

inductive IdentityConflictType
  | duplicateSeriesWithinIsinVintage | financialIdReusedAcrossIdentifiers
  | listingKeyReusedAcrossIdentifiers
  deriving DecidableEq, Repr

def IdentityConflictType.value : IdentityConflictType → String
  | duplicateSeriesWithinIsinVintage => "DUPLICATE_SERIES_WITHIN_ISIN_VINTAGE"
  | financialIdReusedAcrossIdentifiers => "FINANCIAL_ID_REUSED_ACROSS_IDENTIFIERS"
  | listingKeyReusedAcrossIdentifiers => "LISTING_KEY_REUSED_ACROSS_IDENTIFIERS"

/-- `tuple(sorted(set(ids)))` -/
def sortedIds (ids : List ContentId) : List ContentId := sortOn hex ids.dedup

structure ConflictFields where
  conflictType : IdentityConflictType
  observationIds : List ContentId
  deriving DecidableEq

/-- `IdentityConflict.__post_init__` -/
def validateConflict (conflict : ConflictFields) : Except String Unit :=
  raiseIf (conflict.observationIds.length < 2 ∨ sortedIds hex conflict.observationIds ≠ conflict.observationIds)
    "conflict observation IDs must be sorted, unique, and plural"

abbrev IdentityConflict := {conflict : ConflictFields // validateConflict hex conflict = .ok ()}

def ConflictFields.conflictId (conflict : ConflictFields) : ContentId :=
  .ofFields "nse-cm-identity-candidates/positive-only-v1"
    [.text conflict.conflictType.value, .list conflict.observationIds]

inductive IdentityCandidateBasis
  | validatedIsin | unvalidatedSourceIdentifier
  deriving DecidableEq, Repr

def IdentityCandidateBasis.value : IdentityCandidateBasis → String
  | validatedIsin => "VALIDATED_ISIN"
  | unvalidatedSourceIdentifier => "UNVALIDATED_SOURCE_IDENTIFIER"

inductive IdentityCandidateStatus
  | singleVintage | candidateContinuity | unresolvedIdentifier | conflict
  deriving DecidableEq, Repr

structure CandidateFields where
  basis : IdentityCandidateBasis
  validatedIsin : Option String
  rawSourceIdentifier : Option String
  observationIds : List ContentId
  status : IdentityCandidateStatus
  deriving DecidableEq

/-- `IdentityContinuityCandidate.__post_init__` -/
def validateCandidate (candidate : CandidateFields) : Except String Unit := do
  raiseIf (candidate.observationIds = [] ∨ sortedIds hex candidate.observationIds ≠ candidate.observationIds)
    "candidate observation IDs must be sorted and unique"
  match candidate.basis with
  | .validatedIsin =>
    raiseIf (¬candidate.validatedIsin.any (fun isin => isIsin isin.toList) ∨
        candidate.rawSourceIdentifier ≠ none ∨ candidate.status = .unresolvedIdentifier)
      "validated-ISIN candidate shape is invalid"
  | .unvalidatedSourceIdentifier =>
    raiseIf (candidate.validatedIsin ≠ none ∨ ¬candidate.rawSourceIdentifier.any (· ≠ "") ∨
        candidate.observationIds.length ≠ 1 ∨
        candidate.status ∉ [IdentityCandidateStatus.unresolvedIdentifier, .conflict])
      "unvalidated-identifier candidate shape is invalid"

abbrev IdentityContinuityCandidate := {candidate : CandidateFields // validateCandidate hex candidate = .ok ()}

/-- The status of a candidate is no part of its id. -/
def CandidateFields.candidateId (candidate : CandidateFields) : ContentId :=
  .ofFields "nse-cm-identity-candidates/positive-only-v1"
    [.text candidate.basis.value, .option .text candidate.validatedIsin,
      .option .text candidate.rawSourceIdentifier, .list candidate.observationIds]

structure TransitionFields where
  candidateId : ContentId
  previousObservationId : ContentId
  currentObservationId : ContentId
  previousClaimedReportDate : SessionDate
  currentClaimedReportDate : SessionDate
  symbolChanged : Bool
  seriesChanged : Bool
  financialInstrumentIdChanged : Bool
  instrumentNameChanged : Bool
  deriving DecidableEq

/-- `IdentityCandidateTransition.__post_init__` -/
def validateTransition (transition : TransitionFields) : Except String Unit :=
  raiseIf (transition.currentClaimedReportDate ≤ transition.previousClaimedReportDate)
    "candidate transition dates must be strictly increasing"

abbrev IdentityCandidateTransition :=
  {transition : TransitionFields // validateTransition transition = .ok ()}

def boolText (value : Bool) : ContentId := .text (if value then "true" else "false")

def TransitionFields.transitionId (transition : TransitionFields) : ContentId :=
  .ofFields "nse-cm-identity-candidates/positive-only-v1"
    [transition.candidateId, transition.previousObservationId, transition.currentObservationId,
      .int transition.previousClaimedReportDate, .int transition.currentClaimedReportDate,
      boolText transition.symbolChanged, boolText transition.seriesChanged,
      boolText transition.financialInstrumentIdChanged, boolText transition.instrumentNameChanged]

/-- The rows of an ISIN that share their date and series. -/
def repeatedSeries (observations : List IdentityObservation) : List (List IdentityObservation) :=
  ((groupsBy (fun o : IdentityObservation => (o.1.validatedIsin, o.1.claimedReportDate, o.1.securitySeries))
    (observations.filter (·.1.validatedIsin.isSome))).map (·.2)).filter (1 < ·.length)

/-- The observations under one key that have several identifiers. -/
def reusedAcrossIdentifiers {κ : Type} [DecidableEq κ] (key : IdentityObservation → κ)
    (observations : List IdentityObservation) : List (List IdentityObservation) :=
  ((groupsBy key observations).map (·.2)).filter
    fun values => 1 < (values.map (·.1.identifierKey)).dedup.length

/-- The groups that `_build_conflicts` makes conflicts of. -/
def conflictGroups (observations : List IdentityObservation) :
    List (IdentityConflictType × List IdentityObservation) :=
  (repeatedSeries observations).map (.duplicateSeriesWithinIsinVintage, ·) ++
    (reusedAcrossIdentifiers (·.1.financialInstrumentId) observations).map
      (.financialIdReusedAcrossIdentifiers, ·) ++
    (reusedAcrossIdentifiers (·.1.listingKey) observations).map (.listingKeyReusedAcrossIdentifiers, ·)

/-- The fields of `_conflict` -/
def conflictFields (group : IdentityConflictType × List IdentityObservation) : ConflictFields :=
  ⟨group.1, sortedIds hex (group.2.map (·.1.observationId))⟩

/-- `_build_conflicts`: equal ids are of equal conflicts. -/
def buildConflicts (observations : List IdentityObservation) : Except String (List (IdentityConflict hex)) := do
  let conflicts ← (conflictGroups observations).mapM fun group =>
    Checked.build (validateConflict hex) (conflictFields hex group)
  return sortOn (hex ·.1.conflictId) conflicts.dedup

/-- The candidate of an ISIN. -/
def isinCandidateFields (conflicted : List ContentId) (group : Option String × List IdentityObservation) :
    CandidateFields where
  basis := .validatedIsin
  validatedIsin := group.1
  rawSourceIdentifier := none
  observationIds := sortOn hex (group.2.map (·.1.observationId))
  status :=
    if (sortOn hex (group.2.map (·.1.observationId))).any (· ∈ conflicted) then .conflict
    else if (group.2.map (·.1.claimedReportDate)).dedup.length = 1 then .singleVintage
    else .candidateContinuity

/-- The candidate of an observation without a valid ISIN. -/
def unvalidatedCandidateFields (conflicted : List ContentId) (observation : IdentityObservation) :
    CandidateFields where
  basis := .unvalidatedSourceIdentifier
  validatedIsin := none
  rawSourceIdentifier := some observation.1.rawSourceIdentifier
  observationIds := [observation.1.observationId]
  status := if observation.1.observationId ∈ conflicted then .conflict else .unresolvedIdentifier

/-- `_build_candidates` -/
def buildCandidates (observations : List IdentityObservation) (conflicts : List (IdentityConflict hex)) :
    Except String (List (IdentityContinuityCandidate hex)) := do
  let conflicted := conflicts.flatMap (·.1.observationIds)
  let byIsin ← (groupsBy (·.1.validatedIsin) (observations.filter (·.1.validatedIsin.isSome))).mapM
    fun group => Checked.build (validateCandidate hex) (isinCandidateFields hex conflicted group)
  let unvalidated ← (observations.filter (·.1.validatedIsin.isNone)).mapM
    fun observation => Checked.build (validateCandidate hex) (unvalidatedCandidateFields conflicted observation)
  return sortOn (hex ·.1.candidateId) (byIsin ++ unvalidated)

/-- `_adjacent_listing_pairs` -/
def adjacentListingPairs (previous current : List IdentityObservation) :
    List (IdentityObservation × IdentityObservation) :=
  let byListing := pairUniqueBy (·.1.observationId) (·.1.listingKey) id previous current
  let byInstrument := pairUniqueBy (·.1.observationId) (·.1.financialInstrumentId) toString
    byListing.previous byListing.current
  let bySeries := pairUniqueBy (·.1.observationId) (·.1.securitySeries) id
    byInstrument.previous byInstrument.current
  let pairs := byListing.pairs ++ byInstrument.pairs ++ bySeries.pairs
  match bySeries.previous, bySeries.current with
  | [previous], [current] => pairs ++ [(previous, current)]
  | _, _ => pairs

def transitionFields (candidateId : ContentId) (pair : IdentityObservation × IdentityObservation) :
    TransitionFields where
  candidateId := candidateId
  previousObservationId := pair.1.1.observationId
  currentObservationId := pair.2.1.observationId
  previousClaimedReportDate := pair.1.1.claimedReportDate
  currentClaimedReportDate := pair.2.1.claimedReportDate
  symbolChanged := pair.1.1.tickerSymbol ≠ pair.2.1.tickerSymbol
  seriesChanged := pair.1.1.securitySeries ≠ pair.2.1.securitySeries
  financialInstrumentIdChanged := pair.1.1.financialInstrumentId ≠ pair.2.1.financialInstrumentId
  instrumentNameChanged := pair.1.1.instrumentName ≠ pair.2.1.instrumentName

/-- The dates that some observations are of. -/
def observedDates (members : List IdentityObservation) : List SessionDate :=
  sortOn id (members.map (·.1.claimedReportDate)).dedup

/-- The pairs of the observations of one candidate, date by date. -/
def datePairs (members : List IdentityObservation) : List (IdentityObservation × IdentityObservation) :=
  ((observedDates members).zip (observedDates members).tail).flatMap fun step =>
    adjacentListingPairs (members.filter (·.1.claimedReportDate = step.1))
      (members.filter (·.1.claimedReportDate = step.2))

/-- `observations_by_id[observation_id]` -/
def requireObservation (observations : List IdentityObservation) (id : ContentId) :
    Except String IdentityObservation :=
  match lastUnder (·.1.observationId) observations id with
  | none => .error "KeyError"
  | some observation => .ok observation

/-- The transitions of one candidate. -/
def candidateTransitions (observations : List IdentityObservation) (candidate : IdentityContinuityCandidate hex) :
    Except String (List IdentityCandidateTransition) :=
  if candidate.1.basis ≠ .validatedIsin ∨ candidate.1.status ≠ .candidateContinuity then .ok []
  else do
    let members ← candidate.1.observationIds.mapM (requireObservation observations)
    (datePairs members).mapM fun pair =>
      Checked.build validateTransition (transitionFields candidate.1.candidateId pair)

/-- `_build_transitions` -/
def buildTransitions (observations : List IdentityObservation)
    (candidates : List (IdentityContinuityCandidate hex)) : Except String (List IdentityCandidateTransition) := do
  let transitions ← candidates.mapM (candidateTransitions hex observations)
  return sortOn (hex ·.1.transitionId) transitions.flatten

end Graph

section Registry

structure RegistryFields where
  cutoff : Instant
  knowledgeTime : Instant
  sourceManifests : List ReferenceArtifactManifest
  observations : List IdentityObservation
  candidates : List (IdentityContinuityCandidate hex)
  transitions : List IdentityCandidateTransition
  conflicts : List (IdentityConflict hex)

def manifestKey (manifest : ReferenceArtifactManifest) : SessionDate ×ₗ String :=
  toLex (manifest.claimedReportDate, hex manifest.artifactId)

/-- `max(...)` of the validation times, if there are any. -/
def latestValidation (manifests : List ReferenceArtifactManifest) : Option Instant :=
  (manifests.map (·.validatedAt)).max?

variable {hex}

/-- The checks of the sources of a registry. -/
def validateSourceManifests (registry : RegistryFields hex) : Except String Unit := do
  raiseIf (registry.cutoff < registry.knowledgeTime) "registry knowledge_time cannot follow cutoff"
  raiseIf (registry.sourceManifests = []) "source_manifests must be non-empty exact manifests"
  raiseIf (registry.sourceManifests ≠ sortOn (manifestKey hex) registry.sourceManifests)
    "source manifests must use claimed-date order"
  raiseIf (¬(registry.sourceManifests.map (·.artifactId)).Nodup) "source artifact IDs must be unique"
  raiseIf (¬(registry.sourceManifests.map (·.claimedReportDate)).Nodup)
    "one source artifact is required per claimed report date"
  raiseIf (latestValidation registry.sourceManifests ≠ some registry.knowledgeTime)
    "registry knowledge_time must equal latest source validation"
  raiseIf (∃ manifest ∈ registry.sourceManifests, registry.cutoff < manifest.validatedAt)
    "registry source is known after cutoff"

/-- The values of a group are sorted by their ids, each of which occurs once. -/
def SortedUnique (hex : ContentId → String) (ids : List ContentId) : Prop := ids = sortedIds hex ids

instance (ids : List ContentId) : Decidable (SortedUnique hex ids) := by
  unfold SortedUnique
  infer_instance

/-- The order of each group, and the lineage of each observation. -/
def validateObservations (registry : RegistryFields hex) : Except String Unit := do
  raiseIf (¬SortedUnique hex (registry.observations.map (·.1.observationId)))
    "registry observation_id values must be sorted and unique"
  raiseIf (¬SortedUnique hex (registry.candidates.map (·.1.candidateId)))
    "registry candidate_id values must be sorted and unique"
  raiseIf (¬SortedUnique hex (registry.transitions.map (·.1.transitionId)))
    "registry transition_id values must be sorted and unique"
  raiseIf (¬SortedUnique hex (registry.conflicts.map (·.1.conflictId)))
    "registry conflict_id values must be sorted and unique"
  raiseIf (registry.observations = []) "registry must contain retained equity observations"
  raiseIf (∃ observation ∈ registry.observations,
      ¬(lastUnder (·.artifactId) registry.sourceManifests observation.1.sourceArtifactId).any fun manifest =>
        observation.1.sourceManifestId = manifest.manifestId &&
          observation.1.claimedReportDate = manifest.claimedReportDate &&
            observation.1.knowledgeTime = manifest.validatedAt)
    "observation lineage disagrees with its source manifest"
  raiseIf (∃ manifest ∈ registry.sourceManifests,
      (registry.observations.filter (·.1.sourceArtifactId = manifest.artifactId)).length ≠
        manifest.retainedUnverifiedEquityCount)
    "every retained master row must own one identity observation"

/-- The last candidate that an observation belongs to. -/
def candidateIdOf (candidates : List (IdentityContinuityCandidate hex)) (id : ContentId) :
    Option ContentId :=
  (candidates.reverse.find? fun candidate => id ∈ candidate.1.observationIds).map (·.1.candidateId)

/-- A transition joins two observations of its candidate, and says what changed. -/
def transitionAgrees (registry : RegistryFields hex) (transition : TransitionFields) : Bool :=
  match lastUnder (·.1.candidateId) registry.candidates transition.candidateId,
    lastUnder (·.1.observationId) registry.observations transition.previousObservationId,
    lastUnder (·.1.observationId) registry.observations transition.currentObservationId with
  | some candidate, some previous, some current =>
    candidateIdOf registry.candidates previous.1.observationId = some candidate.1.candidateId &&
      candidateIdOf registry.candidates current.1.observationId = some candidate.1.candidateId &&
        transition = transitionFields transition.candidateId (previous, current)
  | _, _, _ => false

/-- A candidate holds its own observations, and has the status that they and the conflicts give it. -/
def validateCandidateLineage (registry : RegistryFields hex) (conflicted : List ContentId)
    (candidate : IdentityContinuityCandidate hex) : Except String Unit := do
  let touchesConflict := candidate.1.observationIds.any (· ∈ conflicted)
  raiseIf (touchesConflict ≠ decide (candidate.1.status = .conflict))
    "candidate conflict status disagrees with conflict lineage"
  let observations := candidate.1.observationIds.filterMap (lastUnder (·.1.observationId) registry.observations)
  match candidate.1.basis with
  | .validatedIsin => do
    raiseIf (∃ observation ∈ observations, observation.1.validatedIsin ≠ candidate.1.validatedIsin)
      "ISIN candidate contains unrelated observations"
    raiseIf (candidate.1.status ≠
        if touchesConflict then .conflict
        else if (observations.map (·.1.claimedReportDate)).dedup.length = 1 then .singleVintage
        else .candidateContinuity)
      "ISIN candidate status disagrees with vintage coverage"
  | .unvalidatedSourceIdentifier =>
    raiseIf (observations.length ≠ 1 ∨ ∃ observation ∈ observations, observation.1.validatedIsin ≠ none ∨
        some observation.1.rawSourceIdentifier ≠ candidate.1.rawSourceIdentifier)
      "unvalidated candidate contains unrelated observations"

/-- The checks of the graph of a registry. -/
def validateGraph (registry : RegistryFields hex) : Except String Unit := do
  -- two lists of ids agree once they are sorted
  raiseIf (¬(registry.candidates.flatMap (·.1.observationIds)).Perm
      (registry.observations.map (·.1.observationId)))
    "every observation must belong to exactly one candidate"
  raiseIf (∃ transition ∈ registry.transitions, ¬transitionAgrees registry transition.1)
    "transition lineage disagrees with its candidate observations"
  raiseIf (∃ conflict ∈ registry.conflicts, ∃ id ∈ conflict.1.observationIds,
      id ∉ registry.observations.map (·.1.observationId))
    "conflict references an unknown observation"
  registry.candidates.forM
    (validateCandidateLineage registry (registry.conflicts.flatMap (·.1.observationIds)))

/-- `CrossVintageIdentityRegistry.__post_init__` -/
def validateRegistry (registry : RegistryFields hex) : Except String Unit := do
  validateSourceManifests registry
  validateObservations registry
  validateGraph registry

variable (hex)

abbrev CrossVintageIdentityRegistry :=
  {registry : RegistryFields hex // validateRegistry registry = .ok ()}

/-- The checks of one source. -/
def checkSource (cutoff : Instant) (source : StoredReferenceArtifact) : Except String Unit := do
  raiseIf (source.manifest.readiness ≠ .collectionOnly) "identity source must remain collection-only"
  raiseIf (cutoff < source.manifest.validatedAt) "identity source is known after the requested cutoff"

def checkSources (sources : List StoredReferenceArtifact) (cutoff : Instant) : Except String Unit := do
  raiseIf (sources = []) "sources must be a non-empty exact artifact tuple"
  sources.forM (checkSource cutoff)
  raiseIf (¬(sources.map (·.manifest.artifactId)).Nodup) "duplicate identity source artifact"
  raiseIf (¬(sources.map (·.manifest.claimedReportDate)).Nodup)
    "identity sources contain an ambiguous claimed report date"

/-- The rows of the sources that are retained. -/
def retainedRows (sources : List StoredReferenceArtifact) :
    List (StoredReferenceArtifact × NseCmSecurityRecord) :=
  sources.flatMap fun source =>
    (source.records.filter (·.disposition = .retainedUnverifiedEquity)).map fun record => (source, record)

/-- The sources in the order of their dates, and their observations in the order of their ids. -/
def sourceObservations (sources : List StoredReferenceArtifact) (cutoff : Instant) :
    Except String (List StoredReferenceArtifact × List IdentityObservation) := do
  checkSources sources cutoff
  let orderedSources := sortOn (fun source => manifestKey hex source.manifest) sources
  let observations ← (retainedRows orderedSources).mapM fun row =>
    Checked.build validateObservation (observationFields row.1 row.2)
  raiseIf (observations = []) "identity sources contain no retained equity observations"
  return (orderedSources, sortOn (hex ·.1.observationId) observations)

/-- `materialize_cross_vintage_identity_registry` -/
def materializeCrossVintageIdentityRegistry (sources : List StoredReferenceArtifact) (cutoff : Instant) :
    Except String (CrossVintageIdentityRegistry hex) := do
  let (orderedSources, observations) ← sourceObservations hex sources cutoff
  let conflicts ← buildConflicts hex observations
  let candidates ← buildCandidates hex observations conflicts
  let transitions ← buildTransitions hex observations candidates
  match latestValidation (orderedSources.map (·.manifest)) with
  | none => .error "max() arg is an empty sequence"
  | some knowledgeTime =>
    Checked.build validateRegistry
      { cutoff := cutoff
        knowledgeTime := knowledgeTime
        sourceManifests := orderedSources.map (·.manifest)
        observations := observations
        candidates := candidates
        transitions := transitions
        conflicts := conflicts }

end Registry

end IdentityRegistry

end IndiaSwing
