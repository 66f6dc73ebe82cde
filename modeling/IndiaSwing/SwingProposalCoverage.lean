import IndiaSwing.SwingProposals
import IndiaSwing.SwingSignalSteps

namespace IndiaSwing.Signals

open Decision ExceptGuards Grouping KeySort

section UniverseBatches

variable {batch : SwingUniverseInputBatch} {calendar : Decision.CalendarSnapshot} {config : DeterministicSwingSignalConfig}
  {assembly : SwingInputAssembly} {proposal : SwingTechnicalProposal}

/-- What the checks of an assembly of a universe batch establish. -/
structure AssemblyFacts (b : SwingUniverseInputBatchFields) (a : SwingInputAssembly) : Prop where
  entry : ∃ entry ∈ b.actionableEntries, entryKey entry = a.key ∧
    withinSessions entry.listing.validFrom entry.listing.validToExclusive a.signalSession
  session : a.signalSession = b.signalSession
  cutoff : a.cutoff = b.cutoff
  readiness : a.readiness = b.readiness
  «universe» : a.universeSnapshotIds.getLast? = some b.universeSnapshotId

/-- What the checks of a universe batch establish. -/
structure UniverseBatchFacts (b : SwingUniverseInputBatchFields) : Prop where
  snapshotId : b.currentUniverse.1.snapshotId = b.universeSnapshotId
  entries : (b.entries.map entryKey).Nodup
  nodup : (b.assemblies.map (·.key)).Nodup
  sorted : b.assemblies.map (·.key) = sortedKeys (b.assemblies.map (·.key))
  actionable : b.assemblies.map (·.key) = sortedKeys (b.actionableEntries.map entryKey)
  assemblies : ∀ a ∈ b.assemblies, AssemblyFacts b a
  vetoes : b.vetoes.map (·.1.key) = sortedKeys (b.vetoEntries.map entryKey)
  counts : b.scopedSubjectCount = b.assemblies.length + b.vetoes.length

theorem assemblyFacts {b : SwingUniverseInputBatchFields} {anchor a : SwingInputAssembly}
    (h : b.checkAssembly anchor a = .ok ()) : AssemblyFacts b a := by
  obtain ⟨entry, hentry, h⟩ := bind_eq_ok.mp h
  obtain ⟨hlineage, h⟩ := raiseIf_bind_eq_ok.mp h
  obtain ⟨hvalid, -⟩ := raiseIf_bind_eq_ok.mp h
  have hfound : lastUnder entryKey b.actionableEntries a.key = some entry := by
    unfold SwingUniverseInputBatchFields.entryOf at hentry
    cases hlast : lastUnder entryKey b.actionableEntries a.key with
    | none =>
      rw [hlast] at hentry
      cases hentry
    | some found =>
      rw [hlast] at hentry
      exact congrArg some (Except.ok.inj hentry)
  obtain ⟨hmem, hkey⟩ := lastUnder_some hfound
  simp only [not_or, not_not] at hlineage
  obtain ⟨hsession, hcutoff, hreadiness, huniverse⟩ := hlineage
  exact ⟨⟨entry, hmem, hkey, not_not.mp hvalid⟩, hsession, hcutoff, hreadiness, huniverse⟩

theorem universeBatchFacts (batch : SwingUniverseInputBatch) : UniverseBatchFacts batch.1 := by
  obtain ⟨-, h⟩ := raiseIf_bind_eq_ok.mp batch.2
  obtain ⟨hsnapshot, h⟩ := raiseIf_bind_eq_ok.mp h
  obtain ⟨-, h⟩ := raiseIf_bind_eq_ok.mp h
  obtain ⟨-, h⟩ := raiseIf_bind_eq_ok.mp h
  obtain ⟨-, h⟩ := raiseIf_bind_eq_ok.mp h
  obtain ⟨hentries, h⟩ := raiseIf_bind_eq_ok.mp h
  obtain ⟨hnodup, h⟩ := raiseIf_bind_eq_ok.mp h
  obtain ⟨hsorted, h⟩ := raiseIf_bind_eq_ok.mp h
  obtain ⟨hactionable, h⟩ := raiseIf_bind_eq_ok.mp h
  obtain ⟨_, hassemblies, h⟩ := bind_eq_ok.mp h
  obtain ⟨-, h⟩ := raiseIf_bind_eq_ok.mp h
  obtain ⟨-, h⟩ := raiseIf_bind_eq_ok.mp h
  obtain ⟨hvetoes, h⟩ := raiseIf_bind_eq_ok.mp h
  obtain ⟨_, -, hcounts⟩ := bind_eq_ok.mp h
  have hcounts' := raiseIf_eq_ok.mp hcounts
  simp only [not_or, not_not] at hcounts'
  obtain ⟨-, hactionables, hvetoCount, hscoped⟩ := hcounts'
  refine ⟨not_not.mp hsnapshot, not_not.mp hentries, not_not.mp hnodup, not_not.mp hsorted, not_not.mp hactionable, ?_,
    not_not.mp hvetoes, ?_⟩
  · intro a ha
    exact assemblyFacts (forM_eq_ok.mp hassemblies a ha)
  · rw [hscoped, hactionables, hvetoCount]

/-- The assemblies and the vetoes of a batch cover the entries of its universe. -/
theorem assemblies_vetoes_perm (batch : SwingUniverseInputBatch) :
    (batch.1.assemblies.map (·.key) ++ batch.1.vetoes.map (·.1.key)).Perm (batch.1.entries.map entryKey) := by
  have hfacts := universeBatchFacts batch
  rw [hfacts.actionable, hfacts.vetoes]
  have hsplit : (batch.1.actionableEntries ++ batch.1.vetoEntries).Perm batch.1.entries := by
    have hvetoEntries : batch.1.vetoEntries = batch.1.entries.filter fun entry => !decide (entry.disposition = .actionable) :=
      List.filter_congr fun entry _ => decide_not
    unfold SwingUniverseInputBatchFields.actionableEntries
    rw [hvetoEntries]
    exact List.filter_append_perm _ _
  refine ((perm_sortOn _ _).append (perm_sortOn _ _)).trans ?_
  rw [← List.map_append]
  exact hsplit.map entryKey

/-- The lineage checks of a calendar against a batch, and its room for the entry window and the holding boundary. -/
structure CalendarFits (batch : SwingUniverseInputBatch) (calendar : Decision.CalendarSnapshot)
    (config : DeterministicSwingSignalConfig) : Prop where
  identity : calendar.verifyContentIdentity = .ok ()
  snapshotId : calendar.snapshotId = batch.1.currentUniverse.1.calendarSnapshotId
  market : calendar.exchange = batch.1.currentUniverse.1.exchange ∧ calendar.segment = batch.1.currentUniverse.1.segment
  cutoff : calendar.cutoff ≤ batch.1.cutoff
  readiness : calendar.readiness = batch.1.readiness
  session : ∃ day, calendar.requireSession batch.1.signalSession = .ok day
  room : ∃ window, calculateNextEntryWindow calendar batch.1.signalSession config = .ok window

/-- A subject that the kernels accept: its bars have a range, its last close is on the tick grid, and a tick remains at
its ATR stop. -/
def Proposable (config : DeterministicSwingSignalConfig) (history : InstrumentSwingHistory) : Prop :=
  Ranged config history.1.bars ∧ ∃ atr current, averageTrueRange config history.1.bars = .ok atr ∧
    barFromEnd 1 history.1.bars = .ok current ∧ Levelled config current.1.close history.1.tickSize atr

/-- The messages with which the kernels refuse a subject. -/
def kernelRefusals : List String :=
  ["ATR must be positive", "signal close is not tick-aligned", "ATR stop is non-positive"]

/-- What binds a proposal to its assembly. -/
structure Proposes (batch : SwingUniverseInputBatch) (calendar : Decision.CalendarSnapshot) (config : DeterministicSwingSignalConfig)
    (assembly : SwingInputAssembly) (p : SwingTechnicalProposal) : Prop where
  assembly : p.1.assembly = assembly
  entry : lastUnder entryKey batch.1.entries p.1.key = some p.1.universeEntry
  snapshotId : p.1.universeSnapshotId = batch.1.universeSnapshotId
  calendar : p.1.calendar = calendar
  config : p.1.config = config

/-- The entry of an assembly of the batch. -/
theorem entry_of_assembly (hassembly : assembly ∈ batch.1.assemblies) :
    ∃ entry ∈ batch.1.entries, entryKey entry = assembly.key ∧ entry.disposition = .actionable ∧
      withinSessions entry.listing.validFrom entry.listing.validToExclusive assembly.signalSession ∧
      lastUnder entryKey batch.1.entries assembly.key = some entry := by
  have hfacts := universeBatchFacts batch
  obtain ⟨entry, hentry, hkey, hvalid⟩ := (hfacts.assemblies assembly hassembly).entry
  obtain ⟨hmem, hactionable⟩ := List.mem_filter.mp hentry
  refine ⟨entry, hmem, hkey, of_decide_eq_true hactionable, hvalid, ?_⟩
  rw [← hkey]
  exact lastUnder_name hfacts.entries hmem

/-- A proposal of the kernels' own results passes its checks. -/
theorem proposal_check {p : SwingTechnicalProposalFields} {window : SwingNextEntryWindow} {entry : UniverseEntry}
    {current : AsOfSwingBar} (hcalendar : CalendarFits batch calendar config)
    (hassembly : p.assembly ∈ batch.1.assemblies) (hentry : lastUnder entryKey batch.1.entries p.assembly.key = some entry)
    (hp : p.universeEntry = entry ∧ p.universeSnapshotId = batch.1.universeSnapshotId ∧ p.calendar = calendar ∧
      p.config = config ∧ p.entryWindow = window ∧ p.readiness = p.assembly.readiness)
    (hmetrics : calculateSwingTechnicalMetrics p.assembly.history config = .ok p.metrics)
    (hcurrent : barFromEnd 1 p.assembly.history.1.bars = .ok current)
    (hlevels : calculateSwingTradeLevels current.1.close p.assembly.history.1.tickSize p.metrics.1.atr
      config.1.baseRoundTripCostBps config = .ok p.levels)
    (hwindow : calculateNextEntryWindow calendar batch.1.signalSession config = .ok window)
    (hevidence : p.evidenceIds = p.metrics.1.evidenceIds ++
      [p.assembly.history.1.tickEvidenceId, p.assembly.history.1.adjustmentEvidenceId]) : p.check = .ok () := by
  obtain ⟨hpEntry, hpSnapshot, hpCalendar, hpConfig, hpWindow, hpReadiness⟩ := hp
  have hfacts := (universeBatchFacts batch).assemblies _ hassembly
  obtain ⟨found, hmem, hkey, hactionable, hvalid, hfound⟩ := entry_of_assembly hassembly
  obtain rfl : found = entry := Option.some.inj (hfound.symm.trans hentry)
  obtain ⟨hexchange, hsegment⟩ := batch.1.currentUniverse.2.2 found hmem
  obtain ⟨day, hday⟩ := hcalendar.session
  have hbindings : p.checkBindings = .ok () := by
    have hinstrument : p.assembly.stableInstrumentId = found.listing.instrumentId := (Prod.mk.inj hkey).1.symm
    have hlisting : p.assembly.stableListingId = found.listing.listingId := (Prod.mk.inj hkey).2.symm
    have hmarket : ¬(calendar.exchange ≠ found.listing.exchange ∨ calendar.segment ≠ found.listing.segment) := by
      rw [hexchange, hsegment, hcalendar.market.1, hcalendar.market.2]
      simp
    have hcutoff : ¬p.assembly.cutoff < calendar.cutoff := by
      rw [hfacts.cutoff]
      exact not_lt.mpr hcalendar.cutoff
    have hsubject : ¬(p.assembly.stableInstrumentId ≠ found.listing.instrumentId ∨
        p.assembly.stableListingId ≠ found.listing.listingId) := by
      rintro (h | h)
      · exact h hinstrument
      · exact h hlisting
    unfold SwingTechnicalProposalFields.checkBindings
    dsimp only
    rw [hpEntry, hpSnapshot, hpCalendar, hpReadiness, hcalendar.identity]
    show (do
      raiseIf _ _
      raiseIf _ _
      raiseIf _ _
      raiseIf _ _
      raiseIf _ _
      raiseIf _ _
      raiseIf _ _
      let _ ← (calendar.requireSession p.assembly.signalSession).mapError _) = Except.ok ()
    rw [raiseIf_neg hsubject, ok_bind, raiseIf_neg (not_not.mpr hactionable), ok_bind,
      raiseIf_neg (not_not.mpr hvalid), ok_bind, raiseIf_neg (not_not.mpr hfacts.«universe»), ok_bind,
      raiseIf_neg (not_not.mpr rfl), ok_bind, raiseIf_neg hmarket, ok_bind, raiseIf_neg hcutoff, ok_bind,
      hfacts.session, hday]
    rfl
  have hreplay : p.checkReplay = .ok () := by
    unfold SwingTechnicalProposalFields.checkReplay
    dsimp only
    rw [hpConfig, hpCalendar, hpWindow, hmetrics, ok_bind, raiseIf_neg (not_not.mpr rfl), ok_bind, hcurrent, ok_bind, hlevels,
      ok_bind, raiseIf_neg (not_not.mpr rfl), ok_bind, hfacts.session, hwindow, ok_bind, raiseIf_neg (not_not.mpr rfl),
      ok_bind, raiseIf_neg (not_not.mpr hevidence)]
  unfold SwingTechnicalProposalFields.check
  rw [hbindings, ok_bind, hreplay]

/-- An assembly of the batch receives its proposal, or the kernels refuse it. -/
theorem assembleProposal_cases (hcalendar : CalendarFits batch calendar config) (htrend : config.1.trendLookbackSessions ≠ 1)
    (hassembly : assembly ∈ batch.1.assemblies)
    (hlength : config.1.minimumHistorySessions ≤ assembly.history.1.bars.length) :
    (Proposable config assembly.history ∧ ∃ p, assembleProposal batch calendar config assembly = .ok p ∧
      Proposes batch calendar config assembly p) ∨
    (¬Proposable config assembly.history ∧ ∃ e, assembleProposal batch calendar config assembly = .error e ∧
      ∃ message ∈ kernelRefusals, e = .signal message) := by
  obtain ⟨entry, -, -, -, -, hentry⟩ := entry_of_assembly hassembly
  have hfacts := (universeBatchFacts batch).assemblies _ hassembly
  obtain ⟨window, hwindow⟩ := hcalendar.room
  obtain ⟨current, -, hcurrent⟩ := barFromEnd_ok one_pos (List.length_pos_iff.mpr (historyFacts assembly.history).bars)
  unfold assembleProposal SwingUniverseInputBatchFields.entryOf
  dsimp only
  rw [hentry, Option.elim_some, ok_bind]
  rcases metrics_cases htrend hlength with ⟨hranged, metrics, hmetrics, hmetricsFacts⟩ | ⟨hflat, hmetrics⟩
  · rw [hmetrics, ok_bind, hcurrent, ok_bind]
    have hcost : 0 ≤ config.1.baseRoundTripCostBps := (configFacts config).cost.le
    rcases levels_cases (close_pos current) (historyFacts assembly.history).tick hmetricsFacts.atr hcost with
      ⟨hlevelled, levels, hlevels, -⟩ | ⟨hnot, message, hmessage, hlevels⟩
    · rw [hlevels, ok_bind, hfacts.session, hwindow, ok_bind]
      refine .inl ⟨⟨hranged, metrics.1.atr, current, hmetricsFacts.average, hcurrent, hlevelled⟩, ?_⟩
      have hcheck : SwingTechnicalProposalFields.check
          { assembly := assembly
            universeEntry := entry
            universeSnapshotId := batch.1.universeSnapshotId
            calendar := calendar
            config := config
            metrics := metrics
            levels := levels
            entryWindow := window
            readiness := assembly.readiness
            evidenceIds := metrics.1.evidenceIds ++
              [assembly.history.1.tickEvidenceId, assembly.history.1.adjustmentEvidenceId] } = .ok () :=
        proposal_check hcalendar hassembly hentry ⟨rfl, rfl, rfl, rfl, rfl, rfl⟩ hmetrics hcurrent hlevels hwindow rfl
      exact ⟨⟨_, hcheck⟩, Checked.build_of_ok hcheck, ⟨rfl, hentry, rfl, rfl, rfl⟩⟩
    · rw [hlevels, error_bind]
      refine .inr ⟨?_, _, rfl, message, List.mem_cons_of_mem _ hmessage, rfl⟩
      rintro ⟨-, atr, last, hatr, hlast, hlevelled⟩
      obtain rfl : atr = metrics.1.atr := Except.ok.inj (hatr.symm.trans hmetricsFacts.average)
      obtain rfl : last = current := Except.ok.inj (hlast.symm.trans hcurrent)
      exact hnot hlevelled
  · rw [hmetrics, error_bind]
    exact .inr ⟨fun h => hflat h.1, _, rfl, _, List.mem_cons_self, rfl⟩

theorem checkProposals_ok {b : SwingProposalBatchFields} {assemblies : List SwingInputAssembly}
    (hproposals : List.Forall₂ (Proposes batch calendar config) assemblies b.proposals)
    (huniverse : b.universeBatch = batch) (hcalendar : b.calendar = calendar) (hconfig : b.config = config) :
    (assemblies.zip b.proposals).forM (fun (assembly, p) => b.checkProposal assembly p) = .ok () := by
  refine forM_eq_ok.mpr fun pair hpair => ?_
  have hpairs := List.forall₂_iff_zip.mp hproposals
  have hp := hpairs.2 hpair
  show b.checkProposal pair.1 pair.2 = .ok ()
  unfold SwingProposalBatchFields.checkProposal
  rw [huniverse, hcalendar, hconfig, hp.assembly, hp.entry, hp.snapshotId, hp.calendar, hp.config,
    raiseIf_neg (not_not.mpr rfl), ok_bind, raiseIf_neg (not_not.mpr rfl), ok_bind, raiseIf_neg (not_not.mpr rfl),
    ok_bind, raiseIf_neg (not_not.mpr rfl), ok_bind, raiseIf_neg (not_not.mpr rfl)]

/-- A batch of the proposals of all the assemblies passes its checks. -/
theorem proposalBatch_check {b : SwingProposalBatchFields} (hcalendar : CalendarFits batch calendar config)
    (hproposals : List.Forall₂ (Proposes batch calendar config) batch.1.assemblies b.proposals)
    (hb : b.universeBatch = batch ∧ b.calendar = calendar ∧ b.config = config ∧ b.vetoes = batch.1.vetoes ∧
      b.scopedSubjectCount = batch.1.scopedSubjectCount ∧ b.proposalSubjectCount = b.proposals.length ∧
      b.vetoSubjectCount = batch.1.vetoes.length) : b.check = .ok () := by
  obtain ⟨hbUniverse, hbCalendar, hbConfig, hbVetoes, hbScoped, hbProposals, hbVetoCount⟩ := hb
  have hfacts := universeBatchFacts batch
  obtain ⟨day, hday⟩ := hcalendar.session
  have hkeys : b.proposals.map (·.1.key) = batch.1.assemblies.map (·.key) :=
    (forall₂_map_eq hproposals fun a p hp => congrArg SwingInputAssembly.key hp.assembly.symm).symm
  have hcheckCalendar : b.checkCalendar = .ok () := by
    unfold SwingProposalBatchFields.checkCalendar
    dsimp only
    have hmarket : ¬(calendar.exchange ≠ batch.1.currentUniverse.1.exchange ∨
        calendar.segment ≠ batch.1.currentUniverse.1.segment) := by
      rintro (h | h)
      · exact h hcalendar.market.1
      · exact h hcalendar.market.2
    rw [hbUniverse, hbCalendar, hcalendar.identity]
    show (do
      raiseIf _ _
      raiseIf _ _
      raiseIf _ _
      raiseIf _ _
      let _ ← (calendar.requireSession batch.1.signalSession).mapError _) = Except.ok ()
    rw [raiseIf_neg (not_not.mpr hcalendar.snapshotId), ok_bind, raiseIf_neg hmarket, ok_bind,
      raiseIf_neg (not_lt.mpr hcalendar.cutoff), ok_bind, raiseIf_neg (not_not.mpr hcalendar.readiness), ok_bind, hday]
    rfl
  have hverified : b.proposals.forM (·.1.check) = .ok () := forM_eq_ok.mpr fun p _ => p.2
  have hbound := checkProposals_ok hproposals hbUniverse hbCalendar hbConfig
  have hcounts : ¬(batch.1.scopedSubjectCount ≠ batch.1.scopedSubjectCount ∨ b.proposals.length ≠ b.proposals.length ∨
      batch.1.vetoes.length ≠ batch.1.vetoes.length ∨
      batch.1.scopedSubjectCount ≠ b.proposals.length + batch.1.vetoes.length) := by
    rw [hfacts.counts, hproposals.length_eq]
    simp
  unfold SwingProposalBatchFields.check
  dsimp only
  rw [hcheckCalendar, ok_bind, hverified, ok_bind, hkeys, hbUniverse, hbVetoes, hbScoped, hbProposals, hbVetoCount,
    raiseIf_neg (not_not.mpr hfacts.nodup), ok_bind, raiseIf_neg (not_not.mpr hfacts.sorted), ok_bind,
    raiseIf_neg (not_not.mpr rfl), ok_bind, hbound, ok_bind, raiseIf_neg (not_not.mpr rfl), ok_bind, raiseIf_neg hcounts]

end UniverseBatches

section Samples

/-- A day of `sampleSwingCalendar`, open from 09:15 to 15:30 IST. -/
def sampleSwingDay (day : SessionDate) : Decision.CalendarDay where
  day := day
  kind := .regular
  reference := .text "calendar"
  sessionWindows := [⟨86400000000 * day + 13500000000, 86400000000 * day + 36000000000, .liveContinuous⟩]
  dataReadyAt := none

def sampleSwingCalendarFields : Decision.CalendarSnapshot where
  exchange := "NSE"
  segment := "CM"
  cutoff := 0
  coverageStart := 20000
  coverageEnd := 20002
  days := [sampleSwingDay 20000, sampleSwingDay 20001, sampleSwingDay 20002]
  sourceSnapshotIds := []
  readiness := .pointInTimeVerified
  schemaVersion := "exchange-calendar/v1"
  snapshotId := .absent
  version := .absent

def sampleSwingCalendar : Decision.CalendarSnapshot :=
  { sampleSwingCalendarFields with
    snapshotId := sampleSwingCalendarFields.calculatedSnapshotId
    version := Decision.CalendarSnapshot.versionOf "exchange-calendar/v1" sampleSwingCalendarFields.calculatedSnapshotId }

def sampleSwingEntry (instrument symbol : String) (disposition : UniverseDisposition) : UniverseEntry where
  sourceRecordId := .text instrument
  listing := ⟨instrument, instrument ++ "-listing", "NSE", "CM", symbol, "EQ", none, 0, none, .text "listing"⟩
  board := .main
  listingState := .active
  suspended := some false
  surveillance := .none
  disposition := disposition
  reasonCodes := if disposition = .actionable then [] else ["LOW_LIQUIDITY"]
  eligibilityRefs := []
  liquidity := none

def sampleSwingUniverseFields : UniverseSnapshot where
  exchange := "NSE"
  segment := "CM"
  marketSession := 20000
  cutoff := 86400000000 * 20000 + 45000000000
  calendarSnapshotId := sampleSwingCalendar.snapshotId
  universeRulesVersion := "rules/v1"
  selectionKey := "nse-cash"
  scopedSourceRowIds := []
  lineageSnapshotIds := []
  readiness := .pointInTimeVerified
  entries := [sampleSwingEntry "alpha" "ALPHA" .actionable, sampleSwingEntry "beta" "BETA" .actionable,
    sampleSwingEntry "gamma" "GAMMA" .watchOnly]
  schemaVersion := "universe/v1"
  selectedRecordsHash := .absent
  snapshotId := .absent
  instrumentIds_nodup := by decide +kernel
  listingKeys_nodup := by decide +kernel

def sampleSwingUniverse : VerifiedUniverse :=
  ⟨{ sampleSwingUniverseFields with
     selectedRecordsHash := sampleSwingUniverseFields.calculatedSelectedRecordsHash
     snapshotId := sampleSwingUniverseFields.calculatedSnapshotId },
    ok_of_toOption (by decide +kernel), by decide +kernel⟩

/-- A bar around a close, with a range on one side of it or without one. -/
def sampleSwingBar (session : SessionDate) (low close : ℚ) (evidence : String) : Except SignalError AsOfSwingBar :=
  Checked.build AsOfSwingBarFields.check
    { marketSession := session
      openPrice := low
      high := close
      low := low
      close := close
      volume := 10
      tradedValue := 10 * low
      availableAt := 86400000000 * session + 40000000000
      evidenceId := evidence
      contentHash := "hash" }

/-- Two bars, the second of which closes at a price. -/
def sampleSwingHistory (subject : String) (close : ℚ) : Except SignalError InstrumentSwingHistory := do
  let first ← sampleSwingBar 19999 100 100 (subject ++ "-1")
  let second ← sampleSwingBar 20000 100 close (subject ++ "-2")
  Checked.build InstrumentSwingHistoryFields.check
    { instrumentId := subject
      listingId := subject ++ "-listing"
      tickSize := 1 / 20
      tickEvidenceId := subject ++ "-tick"
      adjustmentEvidenceId := subject ++ "-adjustment"
      bars := [first, second] }

def sampleSwingAssembly (subject : String) (close : ℚ) : Except SignalError SwingInputAssembly := do
  let history ← sampleSwingHistory subject close
  return {
    assemblyId := .text (subject ++ "-assembly")
    stableIdentitySnapshotId := .text "identities"
    stableInstrumentId := subject
    stableListingId := subject ++ "-listing"
    signalSession := 20000
    cutoff := 86400000000 * 20000 + 45000000000
    rawArtifactIds := [.text "raw-1", .text "raw-2"]
    universeSnapshotIds := [.text "universe-1", sampleSwingUniverse.1.snapshotId]
    corporateActionSnapshotId := .text "actions"
    history := history
    readiness := .pointInTimeVerified }

/-- Two assembled subjects and one veto; the second subject closes at a given price. -/
def sampleUniverseBatch (close : ℚ) : Except SignalError SwingUniverseInputBatch := do
  let alpha ← sampleSwingAssembly "alpha" 102
  let beta ← sampleSwingAssembly "beta" close
  let veto ← Checked.build SwingUniverseVetoFields.check
    ⟨"gamma", "gamma-listing", "GAMMA", .watchOnly, ["LOW_LIQUIDITY"]⟩
  Checked.build SwingUniverseInputBatchFields.check
    { currentUniverse := sampleSwingUniverse
      universeSnapshotId := sampleSwingUniverse.1.snapshotId
      signalSession := 20000
      cutoff := 86400000000 * 20000 + 45000000000
      readiness := .pointInTimeVerified
      assemblies := [alpha, beta]
      vetoes := [veto]
      scopedSubjectCount := 3
      actionableSubjectCount := 2
      vetoSubjectCount := 1 }

/-- A config that looks back one session. -/
def sampleSwingConfig : DeterministicSwingSignalConfig :=
  ⟨{ minimumHistorySessions := 2
     momentumLookbackSessions := 1
     trendLookbackSessions := 2
     atrLookbackSessions := 1
     volumeLookbackSessions := 1
     breakoutLookbackSessions := 1
     fullMomentumScore := 1 / 10
     minimumDailyTradedValue := 1000
     entryAtrBuffer := 1 / 10
     stopAtrMultiple := 3 / 2
     targetNetRewardRisk := 5 / 2
     baseRoundTripCostBps := 30
     maximumHoldingSessions := 1
     entryDelayMinutes := 5
     entryExpiryBufferMinutes := 15 }, by decide +kernel⟩

theorem sampleCalendar_fits {close : ℚ} {batch : SwingUniverseInputBatch} (h : sampleUniverseBatch close = .ok batch) :
    CalendarFits batch sampleSwingCalendar sampleSwingConfig := by
  obtain ⟨alpha, -, h⟩ := bind_eq_ok.mp h
  obtain ⟨beta, -, h⟩ := bind_eq_ok.mp h
  obtain ⟨veto, -, h⟩ := bind_eq_ok.mp h
  have hfields := (Checked.build_eq_ok.mp h).symm
  constructor
  · exact ok_of_toOption (by decide +kernel)
  · rw [hfields]
    rfl
  · rw [hfields]
    exact ⟨rfl, rfl⟩
  · rw [hfields]
    show (0 : ℤ) ≤ 86400000000 * 20000 + 45000000000
    norm_num
  · rw [hfields]
    rfl
  · rw [hfields]
    obtain ⟨day, hday, -⟩ := @exists_ok_of_any _ _ (sampleSwingCalendar.requireSession 20000) (fun _ => true)
      (by decide +kernel)
    exact ⟨day, hday⟩
  · rw [hfields]
    obtain ⟨window, hwindow, -⟩ := @exists_ok_of_any _ _ (calculateNextEntryWindow sampleSwingCalendar 20000 sampleSwingConfig)
      (fun _ => true) (by decide +kernel)
    exact ⟨window, hwindow⟩

end Samples

end IndiaSwing.Signals
