import IndiaSwing.ClosureCoverage

namespace IndiaSwing

open ActionRuns
open ExceptGuards
open PartialWrites PartialWrites.Writes

variable {ctx : DecimalContext} {source : PaperOutcomeEvidenceSource} {spec : PaperPortfolioBatchSpec}
variable {stores after : PaperStores} {state : PaperPortfolioState} {registrationId : Digest}
variable {ledger later : LocalPaperTradeLedger} {preparation : PaperPortfolioPreparationSpec}

/-- The summary of the registration is `ALERTED` or `OPEN`. -/
def LedgerActive (ctx : DecimalContext) (ledger : LocalPaperTradeLedger) (registrationId : Digest) :
    Prop := ∃ summary, ledger.summary ctx registrationId = .ok summary ∧ summary.status.active = true

theorem LedgerActive.congr (h : LedgerActive ctx ledger registrationId)
    (hregistration : later.getRegistration registrationId = ledger.getRegistration registrationId)
    (hevents : later.events registrationId = ledger.events registrationId) :
    LedgerActive ctx later registrationId := by
  obtain ⟨summary, hsummary, hactive⟩ := h
  exact ⟨summary, (summary_congr hregistration hevents).trans hsummary, hactive⟩

section Preparation

theorem activeRegistrationIds_ok {registrations : List PaperTradeRegistration} {ids : List Digest}
    (h : activeRegistrationIds ctx ledger registrations = .ok ids)
    {registration : PaperTradeRegistration} (hmem : registration ∈ registrations)
    (hactive : LedgerActive ctx ledger registration.registrationId) :
    registration.registrationId ∈ ids := by
  induction registrations generalizing ids with
  | nil => cases hmem
  | cons first rest ih =>
    unfold activeRegistrationIds at h
    obtain ⟨summary, hsummary, h⟩ := bind_eq_ok.mp h
    obtain ⟨tail, htail, h⟩ := bind_eq_ok.mp h
    obtain rfl := Except.ok.inj h
    rcases List.mem_cons.mp hmem with rfl | hrest
    · obtain ⟨summary', hsummary', hstatus⟩ := hactive
      obtain rfl := Except.ok.inj (hsummary.symm.trans hsummary')
      rw [if_pos hstatus]
      exact List.mem_cons_self
    · have hin := ih htail hrest
      split
      · exact List.mem_cons_of_mem _ hin
      · exact hin

theorem PaperOutcomeJobSpec.create_ok {job : PaperOutcomeJobSpec} {registrationId : Digest}
    {calendarMaterializationId tickSnapshotId : Digest} {historicalArtifactIds : List Digest}
    {series validatedIsin : String} {asOf : Instant} {policy : PaperOutcomePolicy}
    {expectedReplayId : ContentId}
    (h : PaperOutcomeJobSpec.create registrationId calendarMaterializationId tickSnapshotId
      historicalArtifactIds series validatedIsin asOf policy expectedReplayId = .ok job) :
    job.registrationId = registrationId := by
  unfold PaperOutcomeJobSpec.create at h
  split at h
  next => rw [← Except.ok.inj h]
  next => cases h

theorem prepareListing_ok {listing : PaperRegistrationListing} {job : PaperOutcomeJobSpec}
    (h : prepareListing ctx source preparation listing = .ok job) :
    job.registrationId = listing.registrationId := by
  have h := mapError_eq_ok.mp h
  obtain ⟨draft, hdraft, h⟩ := bind_eq_ok.mp h
  obtain ⟨evidence, -, h⟩ := bind_eq_ok.mp h
  obtain ⟨-, h⟩ := raiseIf_bind_eq_ok.mp h
  obtain ⟨replay, -, h⟩ := bind_eq_ok.mp h
  rw [PaperOutcomeJobSpec.create_ok h, PaperOutcomeJobSpec.create_ok hdraft]

theorem prepareListings_ok {listings : List PaperRegistrationListing} {jobs : List PaperOutcomeJobSpec}
    (h : listings.mapM (prepareListing ctx source preparation) = .ok jobs) :
    jobs.map (·.registrationId) = listings.map (·.registrationId) := by
  induction listings generalizing jobs with
  | nil =>
    obtain rfl := Except.ok.inj h
    rfl
  | cons listing rest ih =>
    rw [List.mapM_cons] at h
    obtain ⟨job, hjob, h⟩ := bind_eq_ok.mp h
    obtain ⟨tail, htail, h⟩ := bind_eq_ok.mp h
    obtain rfl := Except.ok.inj h
    rw [List.map_cons, List.map_cons, prepareListing_ok hjob, ih htail]

theorem PaperPortfolioBatchSpec.create_ok {asOf : Instant} {jobs : List PaperOutcomeJobSpec}
    {previous : Option PortfolioBinding} {dailyLossLimit cumulativeLossLimit : ℚ}
    (h : PaperPortfolioBatchSpec.create asOf jobs previous dailyLossLimit cumulativeLossLimit =
      .ok spec) : spec.outcomeJobs = jobs := by
  unfold PaperPortfolioBatchSpec.create at h
  split at h
  next => cases h
  split at h
  next => cases h
  split at h
  next => cases h
  split at h
  next => cases h
  split at h
  next => cases h
  next => rw [← Except.ok.inj h]

/-- A prepared batch has a job for every active trade. -/
theorem prepared_has_active {store : LocalPaperPortfolioStateStore}
    (h : preparePaperPortfolioBatch ctx source preparation ledger store = .ok spec)
    (hactive : LedgerActive ctx ledger registrationId) : registrationId ∈ spec.jobIds := by
  have h := mapError_eq_ok.mp h
  obtain ⟨ids, hids, h⟩ := bind_eq_ok.mp h
  obtain ⟨hlistings, h⟩ := raiseIf_bind_eq_ok.mp h
  obtain ⟨-, h⟩ := raiseIf_bind_eq_ok.mp h
  obtain ⟨_, -, h⟩ := bind_eq_ok.mp h
  obtain ⟨jobs, hjobs, h⟩ := bind_eq_ok.mp h
  have hspec : spec.jobIds = ids := by
    unfold PaperPortfolioBatchSpec.jobIds
    rw [PaperPortfolioBatchSpec.create_ok h, prepareListings_ok hjobs, not_not.mp hlistings]
  obtain ⟨summary, hsummary, hstatus⟩ := hactive
  obtain ⟨registration, hregistration, -⟩ := summary_ok hsummary
  obtain ⟨hmem, rfl⟩ := getRegistration_ok hregistration
  rw [hspec]
  refine activeRegistrationIds_ok hids ?_ ⟨summary, hsummary, hstatus⟩
  exact (List.mem_insertionSort _).mpr hmem

end Preparation

/-- The positions of the last state. -/
def lastPositions (stores : PaperStores) : List PaperPortfolioPosition :=
  priorPositions stores.portfolio.states.getLast?

/-- Every active position of the last state is an active trade of a ledger. -/
def ActivePositionsTraded (ctx : DecimalContext) (stores : PaperStores)
    (ledger : LocalPaperTradeLedger) : Prop :=
  ∀ position ∈ lastPositions stores, position.outcomeStatus.active = true →
    LedgerActive ctx ledger position.registrationId

/-- The status that a job gives its position: that of its record, else that of its replay. -/
def jobOutcome (ctx : DecimalContext) (source : PaperOutcomeEvidenceSource) (stores : OutcomeStores)
    (job : PaperOutcomeJobSpec) : Option PaperOutcomeStatus :=
  match stores.outcomes.get job.jobSpecId with
  | some record => some record.outcomeStatus
  | none => (resolveJob ctx source job).toOption.map (·.2.status)

/-- The steps after which the last state and the ledger still agree on what is active: an event
recorded by hand ends no active position, a batch that stores a state leaves no ended trade in an
active status, and a batch that stores none ends no active position. -/
def KeepsCoverage (ctx : DecimalContext) (stores : PaperStores) : PaperAction → Prop
  | .register _ => True
  | .recordEvent registrationId occurredAt body => ∀ event ledger,
      stores.outcome.ledger.append registrationId occurredAt body = .ok (event, ledger) →
      body.isEntry = true ∨ ∀ position ∈ lastPositions stores,
        position.outcomeStatus.active = true → position.registrationId ≠ registrationId
  | .runBatch source spec => ∀ x after, runPaperPortfolioBatch ctx source spec stores = (x, after) →
      (∀ state, x = .ok state → stores.portfolio.get spec.batchId = none →
        ∀ job ∈ spec.outcomeJobs, ∀ status ∈ jobOutcome ctx source stores.outcome job,
          status.active = true → LedgerActive ctx stores.outcome.ledger job.registrationId) ∧
      (∀ e, x = .error e → ActivePositionsTraded ctx stores after.outcome.ledger)
  | .interruptBatch source spec completed => ActivePositionsTraded ctx stores
      (interruptPaperPortfolioBatch ctx source spec completed stores).2.outcome.ledger

theorem JobOrigin.jobOutcome_eq {before after : OutcomeStores} {job : PaperOutcomeJobSpec}
    {status : PaperOutcomeStatus} (h : JobOrigin ctx source before after job status) :
    jobOutcome ctx source before job = some status := by
  unfold jobOutcome
  cases h with
  | stored record found unchanged => rw [found]
  | fresh evidence replay summary absent resolved summary_eq undecided settled unclosed =>
    rw [absent, resolved]
    rfl

/-- An active position of a job is an active trade afterwards when it was one before, or when its
replay opened it. -/
theorem JobOrigin.active {before after : OutcomeStores} {job : PaperOutcomeJobSpec}
    {status : PaperOutcomeStatus} (h : JobOrigin ctx source before after job status)
    (hregistrations : after.ledger.registrations = before.ledger.registrations)
    (hactive : status.active = true)
    (hbefore : LedgerActive ctx before.ledger job.registrationId) :
    LedgerActive ctx after.ledger job.registrationId := by
  have hsame : after.ledger.getRegistration job.registrationId =
      before.ledger.getRegistration job.registrationId := by
    unfold LocalPaperTradeLedger.getRegistration
    rw [hregistrations]
  cases h with
  | stored record found unchanged => exact hbefore.congr hsame unchanged
  | fresh evidence replay summary absent resolved summary_eq undecided settled unclosed =>
    cases hstatus : replay.status with
    | waiting => exact hbefore.congr hsame (undecided (by rw [hstatus]; rfl))
    | blocked => exact hbefore.congr hsame (undecided (by rw [hstatus]; rfl))
    | open_ =>
      have hopen : summary.status = .open_ := settled .open_ (by rw [hstatus]; rfl)
      exact ⟨summary, summary_eq, by rw [hopen]; rfl⟩
    | closed => rw [hstatus] at hactive; cases hactive
    | expired => rw [hstatus] at hactive; cases hactive

theorem StoredBatch.keeps_active {previous : Option PaperPortfolioState}
    {updated : List PaperPortfolioPosition} (hvalid : PortfolioValid ctx stores)
    (hbatch : StoredBatch ctx source spec stores after previous updated state)
    (hjobs : ∀ job ∈ spec.outcomeJobs, ∀ status ∈ jobOutcome ctx source stores.outcome job,
      status.active = true → LedgerActive ctx stores.outcome.ledger job.registrationId) :
    ActivePositionsTraded ctx after after.outcome.ledger := by
  intro position hmem hactive
  have hlast : lastPositions after = state.positions := by
    unfold lastPositions
    rw [hbatch.states, List.getLast?_concat]
    rfl
  rw [hlast] at hmem
  rcases hbatch.mem_positions.mp hmem with ⟨hprior, hnot⟩ | hupdated
  · -- an active prior position has a job
    have hmissing := (startBatch_ok hbatch.started).2
    have hin : position ∈ missingActive (priorPositions previous) spec.jobIds :=
      List.mem_filter.mpr ⟨hprior, by simp [hactive, hnot]⟩
    rw [hmissing] at hin
    cases hin
  · obtain ⟨job, hjob, hresult⟩ := (hbatch.results hvalid).ofPosition position hupdated
    rw [hresult.registrationId]
    refine hresult.origin.active hbatch.touches.writes.registrations hactive ?_
    exact hjobs job hjob _ hresult.origin.jobOutcome_eq hactive

/-- A recorded entry leaves its trade open. -/
theorem append_entry_active {registrationId : Digest} {occurredAt : Instant}
    {body : PaperTradeEventBody} {event : PaperTradeEvent}
    (h : ledger.append registrationId occurredAt body = .ok (event, later))
    (hentry : body.isEntry = true) : LedgerActive ctx later registrationId := by
  obtain ⟨registration, status, next, hregistration, hchain, hfits, rfl, rfl⟩ := append_ok h
  have hopen : next = .open_ := by
    rcases validateEventBody_status hfits.rules with ⟨-, -, hnext⟩ | ⟨hexit, -⟩ | ⟨hexpired, -⟩ |
      ⟨hinvalid, -⟩
    · exact hnext
    · cases body <;> cases hentry; cases hexit
    · cases body <;> cases hentry; cases hexpired
    · cases body <;> cases hentry; cases hinvalid
  have hafter := (chainStatus_nextEvent hchain).mpr hfits
  rw [← storeEvent_events] at hafter
  obtain ⟨summary, hsummary, hstatus⟩ := summary_of_chain ctx
    ((storeEvent_getRegistration _ _).trans hregistration) hafter
  exact ⟨summary, hsummary, by rw [hstatus, hopen]; rfl⟩

theorem recordEvent_active {occurredAt : Instant} {body : PaperTradeEventBody} {other : Digest}
    (hactive : LedgerActive ctx ledger other)
    (hkeeps : ∀ event after, ledger.append registrationId occurredAt body = .ok (event, after) →
      body.isEntry = true ∨ other ≠ registrationId) :
    LedgerActive ctx (ledger.written (ledger.append registrationId occurredAt body)) other := by
  cases happend : ledger.append registrationId occurredAt body with
  | error e => exact hactive
  | ok pair =>
    obtain ⟨event, later⟩ := pair
    show LedgerActive ctx later other
    by_cases hother : other = registrationId
    · rcases hkeeps event later happend with hentry | hne
      · rw [hother]
        exact append_entry_active happend hentry
      · exact absurd hother hne
    · obtain ⟨_, _, _, -, -, -, -, rfl⟩ := append_ok happend
      exact hactive.congr (storeEvent_getRegistration _ _) (storeEvent_events_ne _ hother)

theorem register_active {value : PaperTradeRegistration} (hactive : LedgerActive ctx ledger registrationId) :
    LedgerActive ctx (ledger.written (ledger.registerValue value)) registrationId := by
  cases hregister : ledger.registerValue value with
  | error e => exact hactive
  | ok pair =>
    obtain ⟨stored, later⟩ := pair
    show LedgerActive ctx later registrationId
    obtain ⟨summary, hsummary, -⟩ := id hactive
    obtain ⟨registration, hregistration, -⟩ := summary_ok hsummary
    have hfound := ((LedgerStep.register hregister).chain hregistration).1
    refine hactive.congr (hfound.trans hregistration.symm) ?_
    rcases registerValue_ok hregister with rfl | ⟨-, rfl⟩ <;> rfl

/-- The steps keep the agreement of the last state and the ledger. -/
theorem perform_active (hvalid : PortfolioValid ctx stores) {action : PaperAction}
    (hactive : ActivePositionsTraded ctx stores stores.outcome.ledger)
    (hkeeps : KeepsCoverage ctx stores action) :
    ActivePositionsTraded ctx (perform ctx stores action)
      (perform ctx stores action).outcome.ledger := by
  cases action with
  | register value => exact fun position hmem hstatus => register_active (hactive position hmem hstatus)
  | recordEvent registrationId occurredAt body =>
    intro position hmem hstatus
    refine recordEvent_active (hactive position hmem hstatus) fun event ledger happend => ?_
    exact (hkeeps event ledger happend).imp_right fun hnone => hnone position hmem hstatus
  | runBatch source spec =>
    rcases hrun : runPaperPortfolioBatch ctx source spec stores with ⟨x, after⟩
    obtain ⟨hstored, hfailed⟩ := hkeeps x after hrun
    show ActivePositionsTraded ctx (runPaperPortfolioBatch ctx source spec stores).2
      (runPaperPortfolioBatch ctx source spec stores).2.outcome.ledger
    rw [hrun]
    cases runPaperPortfolioBatch_cases hrun with
    | existing state found => exact hactive
    | stored _ previous updated state absent batch =>
      exact batch.keeps_active hvalid (hstored state rfl absent)
    | failed _ e portfolio =>
      intro position hmem hstatus
      unfold lastPositions at hmem
      rw [portfolio] at hmem
      exact hfailed e rfl position hmem hstatus
  | interruptBatch source spec completed =>
    intro position hmem hstatus
    have hportfolio : SamePortfolio stores (interruptPaperPortfolioBatch ctx source spec completed
      stores).2 := interruptPaperPortfolioBatch_portfolio stores
    unfold lastPositions perform at hmem
    rw [hportfolio] at hmem
    exact hkeeps position hmem hstatus

theorem performAll_active {actions : List PaperAction}
    (hkeeps : EveryAction ctx (KeepsCoverage ctx) actions) :
    ActivePositionsTraded ctx (performAll ctx actions) (performAll ctx actions).outcome.ledger := by
  have hstart : PortfolioValid ctx .empty ∧
      ActivePositionsTraded ctx .empty PaperStores.empty.outcome.ledger :=
    ⟨portfolioValid_empty, fun position hmem => by cases hmem⟩
  have hboth := hkeeps.invariant (I := fun stores => PortfolioValid ctx stores ∧
      ActivePositionsTraded ctx stores stores.outcome.ledger) hstart
    fun stores action h hstep => ⟨perform_valid h.1, perform_active h.1 h.2 hstep⟩
  exact hboth.2

section Sample

/-- A preparation that follows the last state. -/
def prepareNext (ids : List Digest) (ordered : SortedTuples.SortedUnique ids) (asOf : Instant)
    (actions : List PaperAction) : Except PaperError PaperPortfolioBatchSpec :=
  let stores := performAll .exact actions
  prepareSample ids ordered asOf (stores.portfolio.states.getLast?.map (·.binding)) stores

/-- One registration and a batch that opens its trade. -/
def openedBy (spec : PaperPortfolioBatchSpec) : List PaperAction :=
  [registerSample 1, .runBatch (sampleSource bothDays) spec]

end Sample

/-- A trade is opened by a batch and invalidated by hand. The batch prepared next leaves it out, and
its execution is refused. -/
theorem invalidated_position_omitted : ∃ first second previous,
    BatchesPrepared .exact (openedBy first ++ [registerSample 2,
      .recordEvent 1 (istInstant 101 1090) (.invalidated "MANUAL")]) ∧
    prepareNext [2] (by decide) (istInstant 102 1100) (openedBy first ++ [registerSample 2,
      .recordEvent 1 (istInstant 101 1090) (.invalidated "MANUAL")]) = .ok second ∧
    selectPredecessor second (performAll .exact (openedBy first ++ [registerSample 2,
      .recordEvent 1 (istInstant 101 1090) (.invalidated "MANUAL")])).portfolio = .ok previous ∧
    (priorPositions previous).any fun position =>
      position.outcomeStatus.active && position.registrationId ∉ second.jobIds := by
  obtain ⟨first, hfirst, hsecond⟩ := exists_ok_of_any
    (x := prepareNext [1] (by decide) (istInstant 101 1100) [registerSample 1])
    (p := fun first =>
      let actions := openedBy first ++ [registerSample 2,
        .recordEvent 1 (istInstant 101 1090) (.invalidated "MANUAL")]
      (prepareNext [2] (by decide) (istInstant 102 1100) actions).toOption.any fun second =>
        (selectPredecessor second (performAll .exact actions).portfolio).toOption.any fun previous =>
          (priorPositions previous).any fun position =>
            position.outcomeStatus.active && position.registrationId ∉ second.jobIds)
    (by decide +kernel)
  obtain ⟨second, hsecond, hprevious⟩ := exists_ok_of_any hsecond
  obtain ⟨previous, hprevious, homits⟩ := exists_ok_of_any hprevious
  refine ⟨first, second, previous, ?_, hsecond, hprevious, homits⟩
  have hregistered : BatchesPrepared .exact [registerSample 1] :=
    .append [] _ .nil fun spec hspec => by cases hspec
  have hopened : BatchesPrepared .exact (openedBy first) := by
    refine .append [registerSample 1] _ hregistered fun spec hspec => ?_
    obtain rfl := Option.some.inj hspec
    exact ⟨[registerSample 1], List.prefix_rfl, _, _, hfirst⟩
  refine .append (openedBy first ++ [registerSample 2]) _ (.append _ _ hopened ?_) ?_ <;>
    exact fun spec hspec => by cases hspec

end IndiaSwing
