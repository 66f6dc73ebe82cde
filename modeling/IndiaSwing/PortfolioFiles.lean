import IndiaSwing.Lib.CreateOnce
import IndiaSwing.Portfolio
import IndiaSwing.ResolverMonotone
import IndiaSwing.TrialFiles

namespace IndiaSwing

open ActionRuns
open CreateOnce
open ExceptGuards

/-- The directory of the states, each in the file of its batch. -/
abbrev PaperPortfolioFiles := Directory ContentId PaperPortfolioState

/-- A call of `put`, or of `put_restored` where the first state need not be bound. -/
structure PaperPortfolioRequest where
  value : PaperPortfolioState
  allowUnboundFirst : Bool

namespace PaperPortfolioFiles

variable (files : PaperPortfolioFiles)

/-- The states in the order of `hexOrder`, the order of the digits of the batch ids. -/
def listStates (hexOrder : ContentId → ℕ) : Except PaperError (List PaperPortfolioState) :=
  match files.scan hexOrder with
  | none => .error (.portfolio "paper portfolio state file set is invalid")
  | some entries => do
    raiseIf (∃ entry ∈ entries, entry.2.batchId ≠ entry.1)
      (.portfolio "paper portfolio state differs from its path")
    return entries.map (·.2)

/-- The checks on a state that has no file yet. -/
def checkUnbound (states : List PaperPortfolioState) (request : PaperPortfolioRequest) :
    Except PaperError Unit :=
  if states = [] then
    raiseIf (request.value.previous ≠ none ∧ request.allowUnboundFirst = false)
      ⟨.paperPortfolioConflict, "paper portfolio predecessor state is absent"⟩
  else do
    raiseIf (request.value.previous = none)
      ⟨.paperPortfolioConflict, "paper portfolio cannot create another genesis"⟩
    raiseIf ((LocalPaperPortfolioStateStore.leaves ⟨states⟩).map (·.binding) ≠ request.value.previous.toList)
      ⟨.paperPortfolioConflict, "paper portfolio append is not on the unique leaf"⟩

/-- The checks of `_put`. -/
def planPut (hexOrder : ContentId → ℕ) (request : PaperPortfolioRequest) :
    Except PaperError (Plan PaperPortfolioState) :=
  match (files.find? (·.isRecord request.value.batchId)).bind (·.content) with
  | some stored => do
    raiseIf (stored.batchId ≠ request.value.batchId)
      (.portfolio "paper portfolio state differs from its path")
    raiseIf (stored ≠ request.value)
      ⟨.paperPortfolioConflict, "paper portfolio batch already has another state"⟩
    return .stored stored
  | none => do
    let states ← files.listStates hexOrder
    checkUnbound states request
    return .write request.value

def log (hexOrder : ContentId → ℕ) :
    Log PaperPortfolioFiles PaperPortfolioRequest PaperPortfolioState PaperError where
  list files _ := files.listStates hexOrder
  plan files request := files.planPut hexOrder request
  write files _ value killedAfter := files.killedWrite value.batchId value killedAfter

end PaperPortfolioFiles

/-- The files of a store. -/
def LocalPaperPortfolioStateStore.files (store : LocalPaperPortfolioStateStore) : PaperPortfolioFiles :=
  filesOf PaperPortfolioState.batchId store.states

section Lemmas

variable {store : LocalPaperPortfolioStateStore} {states : List PaperPortfolioState}
variable {value : PaperPortfolioState} {request : PaperPortfolioRequest} {hexOrder : ContentId → ℕ}

theorem mem_files {file : File ContentId PaperPortfolioState} :
    file ∈ store.files ↔ ∃ state ∈ store.states, file = .record state.batchId state := by
  unfold LocalPaperPortfolioStateStore.files filesOf
  rw [List.mem_map]
  exact exists_congr fun state => and_congr_right fun _ => eq_comm

/-- Reading the directory gives the states of the store in the order of their batch ids. -/
theorem files_listStates (store : LocalPaperPortfolioStateStore) (hexOrder : ContentId → ℕ) :
    ∃ states, store.files.listStates hexOrder = .ok states ∧ states.Perm store.states := by
  let entries := (store.states.map fun state => (state.batchId, state)).insertionSort
    fun a b => hexOrder a.1 ≤ hexOrder b.1
  have hscan : store.files.scan hexOrder = some entries := scan_filesOf
  have hperm : entries.Perm (store.states.map fun state => (state.batchId, state)) :=
    List.perm_insertionSort _ _
  have hnamed : ¬∃ entry ∈ entries, entry.2.batchId ≠ entry.1 := by
    rintro ⟨entry, hentry, hdiffers⟩
    obtain ⟨state, -, rfl⟩ := List.mem_map.mp (hperm.mem_iff.mp hentry)
    exact hdiffers rfl
  refine ⟨entries.map (·.2), ?_, ?_⟩
  · unfold PaperPortfolioFiles.listStates
    rw [hscan]
    dsimp only
    rw [raiseIf_neg hnamed]
    rfl
  · have hmapped := hperm.map (·.2)
    rw [List.map_map] at hmapped
    exact hmapped.trans (List.Perm.of_eq (List.map_id _))

/-- A state is written only where its batch has no file. -/
theorem files_planPut_write (h : store.files.planPut hexOrder request = .ok (.write value)) :
    value = request.value ∧ ∀ file ∈ store.files, file.isRecord value.batchId = false := by
  unfold PaperPortfolioFiles.planPut at h
  cases hfound : store.files.find? (·.isRecord request.value.batchId) with
  | some file =>
    have hmem := List.mem_of_find?_eq_some hfound
    obtain ⟨state, -, rfl⟩ := mem_files.mp hmem
    rw [hfound] at h
    obtain ⟨-, h⟩ := raiseIf_bind_eq_ok.mp h
    obtain ⟨-, h⟩ := raiseIf_bind_eq_ok.mp h
    cases h
  | none =>
    rw [hfound] at h
    obtain ⟨states, -, h⟩ := bind_eq_ok.mp h
    obtain ⟨u, -, hdone⟩ := bind_eq_ok.mp h
    cases hdone
    refine ⟨rfl, fun file hfile => ?_⟩
    simpa using List.find?_eq_none.mp hfound file hfile

/-- The files of some store. -/
def PaperPortfolioFiles.Clean (files : PaperPortfolioFiles) : Prop :=
  ∃ store : LocalPaperPortfolioStateStore, files = store.files

def AddsState (history : List PaperPortfolioState) (value : PaperPortfolioState)
    (extended : List PaperPortfolioState) : Prop :=
  extended.Perm (history ++ [value])

theorem files_putWritten {killedAfter : ℕ} (h : store.files.planPut hexOrder request = .ok (.write value))
    (hkilled : 4 ≤ killedAfter) :
    store.files.killedWrite value.batchId value killedAfter =
      LocalPaperPortfolioStateStore.files ⟨store.states ++ [value]⟩ := by
  rw [killedWrite_finished (files_planPut_write h).2 hkilled]
  exact filesOf_concat.symm

theorem portfolioLog_lawful (hexOrder : ContentId → ℕ) :
    (PaperPortfolioFiles.log hexOrder).Lawful (fun _ _ => True) AddsState PaperPortfolioFiles.Clean where
  readable := by
    rintro _ request ⟨store, rfl⟩ -
    obtain ⟨states, hlist, -⟩ := files_listStates store hexOrder
    exact ⟨states, hlist⟩
  known := fun _ _ _ _ => trivial
  unstarted := fun _ _ _ => rfl
  finished := by
    rintro _ request value killedAfter ⟨store, rfl⟩ h hkilled
    exact (files_putWritten h hkilled).trans (files_putWritten h le_rfl).symm
  extended := by
    rintro _ request value history ⟨store, rfl⟩ h hhistory
    obtain ⟨states, hlist, hperm⟩ := files_listStates store hexOrder
    obtain ⟨extended, hextended, hperm'⟩ := files_listStates ⟨store.states ++ [value]⟩ hexOrder
    have hsame : states = history := Except.ok.inj (hlist.symm.trans hhistory)
    subst hsame
    refine ⟨extended, ?_, hperm'.trans (hperm.symm.append_right [value])⟩
    show PaperPortfolioFiles.listStates (store.files.killedWrite value.batchId value 4) hexOrder = _
    rw [files_putWritten h le_rfl, hextended]
  between := by
    rintro _ request value killedAfter ⟨store, rfl⟩ h hstarted hkilled
    refine ⟨.portfolio "paper portfolio state file set is invalid", ?_⟩
    have hscan : (store.files.killedWrite value.batchId value killedAfter).scan hexOrder = none :=
      killedWrite_between (files_planPut_write h).2 hstarted hkilled
    show PaperPortfolioFiles.listStates (store.files.killedWrite value.batchId value killedAfter) hexOrder = _
    unfold PaperPortfolioFiles.listStates
    rw [hscan]
  kept := by
    rintro _ request value ⟨store, rfl⟩ h
    exact ⟨⟨store.states ++ [value]⟩, files_putWritten h le_rfl⟩

end Lemmas

/-- The runs of a ledger: registrations, and appends that may be killed. -/
abbrev PaperLedgerAction := LogAction PaperEventRequest PaperTradeRegistration

/-- The runs of a state store, which has no other writes. -/
abbrev PaperPortfolioAction := LogAction PaperPortfolioRequest Empty

abbrev TrialLifecycleAction := LogAction TrialEventRequest TrialStoreChange

def paperLedgerStep : PaperTradeLedgerFiles → PaperLedgerAction → PaperTradeLedgerFiles :=
  PaperTradeLedgerFiles.log.step PaperTradeLedgerFiles.register

def paperPortfolioStep (hexOrder : ContentId → ℕ) :
    PaperPortfolioFiles → PaperPortfolioAction → PaperPortfolioFiles :=
  (PaperPortfolioFiles.log hexOrder).step fun _ action => action.elim

def trialLifecycleStep : TrialFiles → TrialLifecycleAction → TrialFiles :=
  TrialFiles.log.step TrialFiles.change

/-- In a run over any of the three stores every append, killed or not, leaves the history before it or
the history with its record, and can be made again, exactly if no append is killed after its temporary
file is created and before that file is removed. -/
theorem interrupted_appends_recover_iff (hexOrder : ContentId → ℕ)
    (aggregates : Option (List TrialFamilyEvaluationAggregate)) (ledgerActions : List PaperLedgerAction)
    (portfolioActions : List PaperPortfolioAction) (trialActions : List TrialLifecycleAction) :
    (EveryStep paperLedgerStep LocalPaperTradeLedger.empty.files
        (PaperTradeLedgerFiles.log.Recovers PaperTradeLedgerFiles.Registered AppendsLast) ledgerActions ↔
      EveryStep paperLedgerStep LocalPaperTradeLedger.empty.files
        PaperTradeLedgerFiles.log.KilledOutsideWrite ledgerActions) ∧
    (EveryStep (paperPortfolioStep hexOrder) LocalPaperPortfolioStateStore.empty.files
        ((PaperPortfolioFiles.log hexOrder).Recovers (fun _ _ => True) AddsState) portfolioActions ↔
      EveryStep (paperPortfolioStep hexOrder) LocalPaperPortfolioStateStore.empty.files
        (PaperPortfolioFiles.log hexOrder).KilledOutsideWrite portfolioActions) ∧
    (EveryStep trialLifecycleStep (TrialStores.empty aggregates).files
        (TrialFiles.log.Recovers TrialFiles.Registered AppendsLast) trialActions ↔
      EveryStep trialLifecycleStep (TrialStores.empty aggregates).files
        TrialFiles.log.KilledOutsideWrite trialActions) := by
  refine ⟨?_, ?_, ?_⟩
  · exact ledgerLog_lawful.run_recovers_iff (fun _ value h => register_clean h value) clean_empty ledgerActions
  · have hempty : LocalPaperPortfolioStateStore.empty.files.Clean := ⟨.empty, rfl⟩
    exact (portfolioLog_lawful hexOrder).run_recovers_iff (fun _ action _ => action.elim) hempty
      portfolioActions
  · have hempty : (TrialStores.empty aggregates).files.Clean := ⟨_, trialStoresValid_empty, rfl⟩
    exact trialLog_lawful.run_recovers_iff (fun _ change h => change_clean h change) hempty trialActions

def invalidationRequest : PaperEventRequest :=
  ⟨1, istInstant 100 960, .invalidated "OPERATOR_INVALIDATED"⟩

/-- The process is killed right after the temporary file of the first event is created. -/
def killedInvalidation : List PaperLedgerAction :=
  [.other (sampleRegistration 1 2 sampleHolding_pos), .append invalidationRequest 1]

theorem not_all_appends_recover : ¬∀ actions : List PaperLedgerAction,
    EveryStep paperLedgerStep LocalPaperTradeLedger.empty.files
      (PaperTradeLedgerFiles.log.Recovers PaperTradeLedgerFiles.Registered AppendsLast) actions := by
  intro h
  let files := run paperLedgerStep LocalPaperTradeLedger.empty.files
    [.other (sampleRegistration 1 2 (by decide))]
  have hregistered : files.Registered invalidationRequest := by
    refine ⟨sampleRegistration 1 2 (by decide), ?_⟩
    decide +kernel
  obtain ⟨history, -, hrecovered⟩ := h killedInvalidation [.other (sampleRegistration 1 2 (by decide))]
    (.append invalidationRequest 1) [] rfl invalidationRequest 1 rfl hregistered
  have hunreadable : (PaperTradeLedgerFiles.log.killed files invalidationRequest 1).listEvents 1 =
      .error (.integrity "paper event file set is invalid") := by
    decide +kernel
  rcases hrecovered with ⟨hlist, -⟩ | ⟨_, _, _, -, hlist, -⟩
  · cases hunreadable.symm.trans hlist
  · cases hunreadable.symm.trans hlist

end IndiaSwing
