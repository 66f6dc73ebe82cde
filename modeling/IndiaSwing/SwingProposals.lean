import Mathlib.Data.Prod.Lex
import Mathlib.Data.String.Basic
import IndiaSwing.Lib.KeySort
import IndiaSwing.SwingSignals

namespace IndiaSwing.Signals

open Decision ExceptGuards Grouping KeySort TextPatterns

/-- `_subject_key` -/
abbrev SubjectKey := String × String

/-- `tuple(sorted(keys))` -/
def sortedKeys (keys : List SubjectKey) : List SubjectKey := sortOn toLex keys

section Universe

/-- A universe whose listings are those of its own market. -/
abbrev VerifiedUniverse := { u : UniverseSnapshot // u.verifyContentIdentity = .ok () ∧
  ∀ entry ∈ u.entries, entry.listing.exchange = u.exchange ∧ entry.listing.segment = u.segment }

def entryKey (entry : UniverseEntry) : SubjectKey := (entry.listing.instrumentId, entry.listing.listingId)

/-- The parts of a `SwingInputAssembly` that the batches read. -/
structure SwingInputAssembly where
  assemblyId : ContentId
  stableIdentitySnapshotId : ContentId
  stableInstrumentId : String
  stableListingId : String
  signalSession : SessionDate
  cutoff : Instant
  rawArtifactIds : List ContentId
  universeSnapshotIds : List ContentId
  corporateActionSnapshotId : ContentId
  history : InstrumentSwingHistory
  readiness : ReferenceReadiness
  deriving DecidableEq

def SwingInputAssembly.key (a : SwingInputAssembly) : SubjectKey := (a.stableInstrumentId, a.stableListingId)

/-- The fields of a `SwingUniverseVeto`. -/
structure SwingUniverseVetoFields where
  stableInstrumentId : String
  stableListingId : String
  tradingsymbol : String
  disposition : UniverseDisposition
  reasonCodes : List String
  deriving DecidableEq, Repr

namespace SwingUniverseVetoFields

variable (v : SwingUniverseVetoFields)

def key : SubjectKey := (v.stableInstrumentId, v.stableListingId)

/-- `SwingUniverseVeto.__post_init__` -/
def check : Except SignalError Unit := do
  raiseIf (v.tradingsymbol = "" ∨ ¬isNormalizedUpper v.tradingsymbol)
    (.universeBatch "veto tradingsymbol must be normalized uppercase text")
  raiseIf (v.disposition = .actionable) (.universeBatch "actionable entries cannot be vetoed")
  raiseIf (v.reasonCodes = [] ∨ v.reasonCodes ≠ v.reasonCodes.dedup.insertionSort (· ≤ ·))
    (.universeBatch "veto reason codes must be a non-empty sorted unique tuple")

end SwingUniverseVetoFields

abbrev SwingUniverseVeto := { v : SwingUniverseVetoFields // v.check = .ok () }

/-- The fields of a `SwingUniverseInputBatch`. -/
structure SwingUniverseInputBatchFields where
  currentUniverse : VerifiedUniverse
  universeSnapshotId : ContentId
  signalSession : SessionDate
  cutoff : Instant
  readiness : ReferenceReadiness
  assemblies : List SwingInputAssembly
  vetoes : List SwingUniverseVeto
  scopedSubjectCount : ℕ
  actionableSubjectCount : ℕ
  vetoSubjectCount : ℕ

namespace SwingUniverseInputBatchFields

variable (b : SwingUniverseInputBatchFields)

def entries : List UniverseEntry := b.currentUniverse.1.entries

def actionableEntries : List UniverseEntry := b.entries.filter (·.disposition = .actionable)

def vetoEntries : List UniverseEntry := b.entries.filter (¬·.disposition = .actionable)

/-- The entry of a subject in a dictionary by key. -/
def entryOf (entries : List UniverseEntry) (key : SubjectKey) : Except SignalError UniverseEntry :=
  (lastUnder entryKey entries key).elim (.error (.python "KeyError")) .ok

/-- The checks of one assembly against its entry and against the first assembly. -/
def checkAssembly (anchor a : SwingInputAssembly) : Except SignalError Unit := do
  let entry ← entryOf b.actionableEntries a.key
  raiseIf (a.signalSession ≠ b.signalSession ∨ a.cutoff ≠ b.cutoff ∨ a.readiness ≠ b.readiness ∨
    a.universeSnapshotIds.getLast? ≠ some b.universeSnapshotId)
    (.universeBatch "assembly lineage differs from the current universe")
  raiseIf (¬withinSessions entry.listing.validFrom entry.listing.validToExclusive a.signalSession)
    (.universeBatch "current listing is not valid on the signal session")
  raiseIf (a.stableIdentitySnapshotId ≠ anchor.stableIdentitySnapshotId ∨ a.rawArtifactIds ≠ anchor.rawArtifactIds ∨
    a.universeSnapshotIds ≠ anchor.universeSnapshotIds ∨
    a.corporateActionSnapshotId ≠ anchor.corporateActionSnapshotId)
    (.universeBatch "assemblies do not share exact engine lineage")

/-- The checks of one veto against its entry. -/
def checkVeto (v : SwingUniverseVeto) : Except SignalError Unit := do
  let entry ← entryOf b.vetoEntries v.1.key
  raiseIf (v.1.disposition ≠ entry.disposition ∨ v.1.reasonCodes ≠ entry.reasonCodes ∨
    v.1.tradingsymbol ≠ entry.listing.tradingsymbol)
    (.universeBatch "veto content differs from the current universe entry")

/-- `SwingUniverseInputBatch.__post_init__` -/
def check : Except SignalError Unit := do
  raiseIf (b.readiness = .collectionOnly) (.universeBatch "collection-only universe cannot enter the batch engine")
  raiseIf (b.currentUniverse.1.snapshotId ≠ b.universeSnapshotId)
    (.universeBatch "universe snapshot ID does not match the batch lineage")
  raiseIf (b.currentUniverse.1.marketSession ≠ b.signalSession)
    (.universeBatch "signal session does not match the current universe")
  raiseIf (b.currentUniverse.1.cutoff ≠ b.cutoff) (.universeBatch "cutoff does not match the current universe")
  raiseIf (b.currentUniverse.1.readiness ≠ b.readiness)
    (.universeBatch "readiness does not match the current universe")
  raiseIf (¬(b.entries.map entryKey).Nodup) (.universeBatch "current universe contains a duplicate subject key")
  let assemblyKeys : List SubjectKey := b.assemblies.map (·.key)
  raiseIf (¬assemblyKeys.Nodup) (.universeBatch "assemblies contain a duplicate subject")
  raiseIf (assemblyKeys ≠ sortedKeys assemblyKeys)
    (.universeBatch "assemblies must be canonically ordered by subject")
  raiseIf (assemblyKeys ≠ sortedKeys (b.actionableEntries.map entryKey))
    (.universeBatch "assembled subjects do not exactly cover the actionable universe")
  b.assemblies.forM fun a => b.checkAssembly (b.assemblies.headD a) a
  let vetoKeys : List SubjectKey := b.vetoes.map (·.1.key)
  raiseIf (¬vetoKeys.Nodup) (.universeBatch "vetoes contain a duplicate subject")
  raiseIf (vetoKeys ≠ sortedKeys vetoKeys) (.universeBatch "vetoes must be canonically ordered by subject")
  raiseIf (vetoKeys ≠ sortedKeys (b.vetoEntries.map entryKey))
    (.universeBatch "derived vetoes do not exactly cover the non-actionable universe")
  b.vetoes.forM b.checkVeto
  raiseIf (b.scopedSubjectCount ≠ b.entries.length ∨ b.actionableSubjectCount ≠ b.assemblies.length ∨
    b.vetoSubjectCount ≠ b.vetoes.length ∨
    b.scopedSubjectCount ≠ b.actionableSubjectCount + b.vetoSubjectCount)
    (.universeBatch "batch subject counts are inconsistent")

end SwingUniverseInputBatchFields

abbrev SwingUniverseInputBatch := { b : SwingUniverseInputBatchFields // b.check = .ok () }

end Universe

section Proposals

/-- The fields of a `SwingTechnicalProposal`. -/
structure SwingTechnicalProposalFields where
  assembly : SwingInputAssembly
  universeEntry : UniverseEntry
  universeSnapshotId : ContentId
  calendar : Decision.CalendarSnapshot
  config : DeterministicSwingSignalConfig
  metrics : SwingTechnicalMetrics
  levels : SwingTradeLevels
  entryWindow : SwingNextEntryWindow
  readiness : ReferenceReadiness
  evidenceIds : List String
  deriving DecidableEq

namespace SwingTechnicalProposalFields

variable (p : SwingTechnicalProposalFields)

def key : SubjectKey := p.assembly.key

def symbol : String := p.universeEntry.listing.tradingsymbol

/-- The part of `_verify` before the kernels are run again. -/
def checkBindings : Except SignalError Unit := do
  (p.calendar.verifyContentIdentity).mapError .calendar
  let entry := p.universeEntry
  raiseIf (p.assembly.stableInstrumentId ≠ entry.listing.instrumentId ∨
    p.assembly.stableListingId ≠ entry.listing.listingId)
    (.proposalBatch "assembly subject does not match the universe entry")
  raiseIf (entry.disposition ≠ .actionable) (.proposalBatch "only actionable entries can receive a proposal")
  raiseIf (¬withinSessions entry.listing.validFrom entry.listing.validToExclusive p.assembly.signalSession)
    (.proposalBatch "universe entry is not valid on the signal session")
  raiseIf (p.assembly.universeSnapshotIds.getLast? ≠ some p.universeSnapshotId)
    (.proposalBatch "assembly final universe snapshot does not match the proposal batch universe")
  raiseIf (p.readiness ≠ p.assembly.readiness) (.proposalBatch "readiness does not match the bound assembly")
  raiseIf (p.calendar.exchange ≠ entry.listing.exchange ∨ p.calendar.segment ≠ entry.listing.segment)
    (.proposalBatch "calendar market differs from the bound universe entry")
  raiseIf (p.assembly.cutoff < p.calendar.cutoff) (.proposalBatch "calendar postdates the bound assembly cutoff")
  let _ ← (p.calendar.requireSession p.assembly.signalSession).mapError fun _ =>
    SignalError.proposalBatch "calendar does not contain the assembly signal session"

/-- The part of `_verify` that runs the kernels again. -/
def checkReplay : Except SignalError Unit := do
  let history := p.assembly.history
  let replayedMetrics ← calculateSwingTechnicalMetrics history p.config
  raiseIf (replayedMetrics.1.metricsId ≠ p.metrics.1.metricsId)
    (.proposalBatch "metrics do not replay from the bound assembly")
  let current ← barFromEnd 1 history.1.bars
  let replayedLevels ← calculateSwingTradeLevels current.1.close history.1.tickSize p.metrics.1.atr
    p.config.1.baseRoundTripCostBps p.config
  raiseIf (replayedLevels.1.levelsId ≠ p.levels.1.levelsId)
    (.proposalBatch "levels do not replay from the bound assembly")
  let replayedWindow ← calculateNextEntryWindow p.calendar p.assembly.signalSession p.config
  raiseIf (replayedWindow.1.windowId ≠ p.entryWindow.1.windowId)
    (.proposalBatch "entry window does not replay from bound inputs")
  raiseIf (p.evidenceIds ≠ p.metrics.1.evidenceIds ++ [history.1.tickEvidenceId, history.1.adjustmentEvidenceId])
    (.proposalBatch "evidence IDs do not replay from bound inputs")

/-- `_verify` -/
def check : Except SignalError Unit := do
  p.checkBindings
  p.checkReplay

/-- `proposal_id` -/
def proposalId : ContentId :=
  .ofFields "swing-technical-proposal/v1" [p.assembly.assemblyId, p.universeEntry.identity, p.universeSnapshotId,
    p.calendar.identity, p.config.1.configId, p.metrics.1.metricsId, p.levels.1.levelsId, p.entryWindow.1.windowId,
    .text p.readiness.value, .list (p.evidenceIds.map .text)]

end SwingTechnicalProposalFields

abbrev SwingTechnicalProposal := { p : SwingTechnicalProposalFields // p.check = .ok () }

end Proposals

section Batch

/-- The fields of a `SwingProposalBatch`. -/
structure SwingProposalBatchFields where
  universeBatch : SwingUniverseInputBatch
  calendar : Decision.CalendarSnapshot
  config : DeterministicSwingSignalConfig
  proposals : List SwingTechnicalProposal
  vetoes : List SwingUniverseVeto
  scopedSubjectCount : ℕ
  proposalSubjectCount : ℕ
  vetoSubjectCount : ℕ

namespace SwingProposalBatchFields

variable (b : SwingProposalBatchFields)

/-- The lineage of the calendar. -/
def checkCalendar : Except SignalError Unit := do
  let «universe» : UniverseSnapshot := b.universeBatch.1.currentUniverse.1
  (b.calendar.verifyContentIdentity).mapError .calendar
  raiseIf (b.calendar.snapshotId ≠ «universe».calendarSnapshotId)
    (.proposalBatch "calendar snapshot differs from the current universe lineage")
  raiseIf (b.calendar.exchange ≠ «universe».exchange ∨ b.calendar.segment ≠ «universe».segment)
    (.proposalBatch "calendar market differs from the current universe")
  raiseIf (b.universeBatch.1.cutoff < b.calendar.cutoff)
    (.proposalBatch "calendar postdates the universe batch cutoff")
  raiseIf (b.calendar.readiness ≠ b.universeBatch.1.readiness)
    (.proposalBatch "calendar readiness differs from the universe batch")
  let _ ← (b.calendar.requireSession b.universeBatch.1.signalSession).mapError fun _ =>
    SignalError.proposalBatch "calendar does not contain the universe signal session"

/-- The checks of one proposal against the batch. -/
def checkProposal (assembly : SwingInputAssembly) (p : SwingTechnicalProposal) : Except SignalError Unit := do
  raiseIf (p.1.assembly.assemblyId ≠ assembly.assemblyId)
    (.proposalBatch "proposal is not bound to the universe batch's own assembly")
  raiseIf (lastUnder entryKey b.universeBatch.1.entries p.1.key ≠ some p.1.universeEntry)
    (.proposalBatch "proposal universe entry differs from the current universe")
  raiseIf (p.1.universeSnapshotId ≠ b.universeBatch.1.universeSnapshotId)
    (.proposalBatch "proposal universe snapshot differs from the universe batch")
  raiseIf (p.1.calendar.snapshotId ≠ b.calendar.snapshotId)
    (.proposalBatch "proposal calendar differs from the proposal batch calendar")
  raiseIf (p.1.config.1.configId ≠ b.config.1.configId)
    (.proposalBatch "proposal config differs from the proposal batch config")

/-- `_verify_coverage` -/
def check : Except SignalError Unit := do
  b.checkCalendar
  b.proposals.forM (·.1.check)
  let proposalKeys : List SubjectKey := b.proposals.map (·.1.key)
  raiseIf (¬proposalKeys.Nodup) (.proposalBatch "proposals contain a duplicate subject")
  raiseIf (proposalKeys ≠ sortedKeys proposalKeys)
    (.proposalBatch "proposals must be canonically ordered by subject")
  raiseIf (proposalKeys ≠ b.universeBatch.1.assemblies.map (·.key))
    (.proposalBatch "proposals do not exactly cover the universe batch assemblies")
  (b.universeBatch.1.assemblies.zip b.proposals).forM fun (assembly, p) => b.checkProposal assembly p
  raiseIf (b.vetoes ≠ b.universeBatch.1.vetoes)
    (.proposalBatch "vetoes must exactly and unchangedly match the universe batch")
  raiseIf (b.scopedSubjectCount ≠ b.universeBatch.1.scopedSubjectCount ∨
    b.proposalSubjectCount ≠ b.proposals.length ∨ b.vetoSubjectCount ≠ b.vetoes.length ∨
    b.scopedSubjectCount ≠ b.proposalSubjectCount + b.vetoSubjectCount)
    (.proposalBatch "batch subject counts are inconsistent")

end SwingProposalBatchFields

abbrev SwingProposalBatch := { b : SwingProposalBatchFields // b.check = .ok () }

variable (batch : SwingUniverseInputBatch) (calendar : Decision.CalendarSnapshot) (config : DeterministicSwingSignalConfig)

/-- The body of the loop of `assemble_swing_proposal_batch`. -/
def assembleProposal (assembly : SwingInputAssembly) : Except SignalError SwingTechnicalProposal := do
  let entry ← SwingUniverseInputBatchFields.entryOf batch.1.entries assembly.key
  let history := assembly.history
  let metrics ← calculateSwingTechnicalMetrics history config
  let current ← barFromEnd 1 history.1.bars
  let levels ← calculateSwingTradeLevels current.1.close history.1.tickSize metrics.1.atr
    config.1.baseRoundTripCostBps config
  let entryWindow ← calculateNextEntryWindow calendar assembly.signalSession config
  Checked.build SwingTechnicalProposalFields.check
    { assembly := assembly
      universeEntry := entry
      universeSnapshotId := batch.1.universeSnapshotId
      calendar := calendar
      config := config
      metrics := metrics
      levels := levels
      entryWindow := entryWindow
      readiness := assembly.readiness
      evidenceIds := metrics.1.evidenceIds ++ [history.1.tickEvidenceId, history.1.adjustmentEvidenceId] }

/-- `assemble_swing_proposal_batch` -/
def assembleSwingProposalBatch (config : Option DeterministicSwingSignalConfig) :
    Except SignalError SwingProposalBatch := do
  (calendar.verifyContentIdentity).mapError .calendar
  let config := config.getD defaultSwingSignalConfig
  let proposals ← batch.1.assemblies.mapM (assembleProposal batch calendar config)
  Checked.build SwingProposalBatchFields.check
    { universeBatch := batch
      calendar := calendar
      config := config
      proposals := proposals
      vetoes := batch.1.vetoes
      scopedSubjectCount := batch.1.scopedSubjectCount
      proposalSubjectCount := proposals.length
      vetoSubjectCount := batch.1.vetoes.length }

end Batch

end IndiaSwing.Signals
