import Mathlib.Algebra.BigOperators.Group.List.Lemmas
import IndiaSwing.PreparationCoverage

namespace IndiaSwing

open ActionRuns
open ExceptGuards
open ListSplits (split_concat)
open SortedTuples (mem_sorted)

variable {ctx : DecimalContext} {source : PaperOutcomeEvidenceSource} {spec : PaperPortfolioBatchSpec}
variable {stores after : PaperStores} {state : PaperPortfolioState} {registrationId : Digest}
variable {previous : Option PaperPortfolioState} {updated : List PaperPortfolioPosition}
variable {ledger later : LocalPaperTradeLedger} {states : List PaperPortfolioState}
variable {position : PaperPortfolioPosition}

/-- The position is still closed, with the same events and P&L. -/
def StaysClosed (positions : List PaperPortfolioPosition) (position : PaperPortfolioPosition) : Prop :=
  ∃ same ∈ positions, same.registrationId = position.registrationId ∧ same.outcomeStatus = .closed ∧
    same.eventIds = position.eventIds ∧ same.grossPnl = position.grossPnl ∧
    same.estimatedNetPnl = position.estimatedNetPnl

/-- Every realized outcome of a chain of states is counted once. -/
structure CountedOnce (states : List PaperPortfolioState) : Prop where
  cumulative : ∀ state ∈ states,
    state.cumulativeRealizedPnl = ((closedPositions state.positions).map (·.net)).sum
  peak : ∀ front state back, states = front ++ state :: back →
    state.peakRealizedPnl = ((front ++ [state]).map (·.cumulativeRealizedPnl)).foldl max 0
  disjoint : states.Pairwise fun a b =>
    a.newlyClosedRegistrationIds.Disjoint b.newlyClosedRegistrationIds
  union : ∀ front state back, states = front ++ state :: back → ∀ registrationId,
    ClosedPosition state.positions registrationId ↔
      ∃ earlier ∈ front ++ [state], registrationId ∈ earlier.newlyClosedRegistrationIds
  kept : states.Pairwise fun a b => ∀ position ∈ a.positions, position.outcomeStatus = .closed →
    StaysClosed b.positions position

/-- What one state adds to the count of the states before it. -/
structure CountsNext (previous : Option PaperPortfolioState) (state : PaperPortfolioState) : Prop where
  cumulative : state.cumulativeRealizedPnl = ((closedPositions state.positions).map (·.net)).sum
  peak : state.peakRealizedPnl = max (previous.elim 0 (·.peakRealizedPnl)) state.cumulativeRealizedPnl
  newly : ∀ registrationId, registrationId ∈ state.newlyClosedRegistrationIds ↔
    ClosedPosition state.positions registrationId ∧
      ¬ClosedPosition (priorPositions previous) registrationId
  kept : ∀ position ∈ priorPositions previous, position.outcomeStatus = .closed →
    StaysClosed state.positions position

theorem StaysClosed.closed {positions : List PaperPortfolioPosition} (h : StaysClosed positions position) :
    ClosedPosition positions position.registrationId := by
  obtain ⟨same, hmem, hid, hclosed, -⟩ := h
  exact ⟨same, hmem, hid, hclosed⟩

theorem StaysClosed.trans {positions positions' : List PaperPortfolioPosition}
    (h : StaysClosed positions position)
    (h' : ∀ same ∈ positions, same.outcomeStatus = .closed → StaysClosed positions' same) :
    StaysClosed positions' position := by
  obtain ⟨same, hmem, hid, hclosed, hevents, hgross, hnet⟩ := h
  obtain ⟨same', hmem', hid', hclosed', hevents', hgross', hnet'⟩ := h' same hmem hclosed
  exact ⟨same', hmem', hid'.trans hid, hclosed', hevents'.trans hevents, hgross'.trans hgross,
    hnet'.trans hnet⟩

theorem countedOnce_nil : CountedOnce [] where
  cumulative state hmem := by cases hmem
  peak front state back h := by cases front <;> cases h
  disjoint := .nil
  union front state back h := by cases front <;> cases h
  kept := .nil

section Concat

variable (hcounted : CountedOnce states) (hnext : CountsNext states.getLast? state)

include hcounted

theorem CountedOnce.last_peak : states.getLast?.elim 0 (·.peakRealizedPnl) =
    (states.map (·.cumulativeRealizedPnl)).foldl max 0 := by
  rcases List.eq_nil_or_concat states with rfl | ⟨front, last, hstates⟩
  · rfl
  · rw [List.concat_eq_append] at hstates
    rw [hstates, List.getLast?_concat]
    exact hcounted.peak front last [] hstates

/-- The closed positions of the last state are what all states closed. -/
theorem CountedOnce.last_closed : ClosedPosition (priorPositions states.getLast?) registrationId ↔
    ∃ earlier ∈ states, registrationId ∈ earlier.newlyClosedRegistrationIds := by
  rcases List.eq_nil_or_concat states with rfl | ⟨front, last, hstates⟩
  · constructor
    · rintro ⟨position, hmem, -⟩
      cases hmem
    · rintro ⟨earlier, hmem, -⟩
      cases hmem
  · rw [List.concat_eq_append] at hstates
    have hunion := hcounted.union front last [] hstates registrationId
    rw [hstates, List.getLast?_concat]
    exact hunion

/-- A position that was ever closed is closed in the last state. -/
theorem CountedOnce.last_kept {earlier : PaperPortfolioState} (hearlier : earlier ∈ states)
    (hmem : position ∈ earlier.positions) (hclosed : position.outcomeStatus = .closed) :
    StaysClosed (priorPositions states.getLast?) position := by
  rcases List.eq_nil_or_concat states with rfl | ⟨front, last, hstates⟩
  · cases hearlier
  · rw [List.concat_eq_append] at hstates
    have hkept := hcounted.kept
    rw [hstates] at hearlier hkept
    rw [hstates, List.getLast?_concat]
    rcases List.mem_append.mp hearlier with hfront | hend
    · exact (List.pairwise_append.mp hkept).2.2 earlier hfront last (by simp) position hmem hclosed
    · obtain rfl := List.mem_singleton.mp hend
      exact ⟨position, hmem, rfl, hclosed, rfl, rfl, rfl⟩

include hnext

theorem CountedOnce.concat : CountedOnce (states ++ [state]) where
  cumulative value hmem := by
    rcases List.mem_append.mp hmem with hold | hnew
    · exact hcounted.cumulative value hold
    · obtain rfl := List.mem_singleton.mp hnew
      exact hnext.cumulative
  peak front value back hsplit := by
    rcases split_concat hsplit with ⟨rfl, rfl, -⟩ | ⟨init, hstates, -⟩
    · rw [List.map_append, List.foldl_append, ← hcounted.last_peak]
      exact hnext.peak
    · exact hcounted.peak front value init hstates
  disjoint := by
    refine List.pairwise_append.mpr ⟨hcounted.disjoint, List.pairwise_singleton .., ?_⟩
    intro earlier hearlier value hvalue id hold hnew
    obtain rfl := List.mem_singleton.mp hvalue
    exact ((hnext.newly id).mp hnew).2 (hcounted.last_closed.mpr ⟨earlier, hearlier, hold⟩)
  union front value back hsplit id := by
    rcases split_concat hsplit with ⟨rfl, rfl, -⟩ | ⟨init, hstates, -⟩
    · constructor
      · intro hclosed
        by_cases hprior : ClosedPosition (priorPositions front.getLast?) id
        · obtain ⟨earlier, hearlier, hid⟩ := hcounted.last_closed.mp hprior
          exact ⟨earlier, List.mem_append_left _ hearlier, hid⟩
        · exact ⟨value, by simp, (hnext.newly id).mpr ⟨hclosed, hprior⟩⟩
      · rintro ⟨earlier, hearlier, hid⟩
        rcases List.mem_append.mp hearlier with hold | hend
        · obtain ⟨position, hmem, rfl, hclosed⟩ := hcounted.last_closed.mpr ⟨earlier, hold, hid⟩
          exact (hnext.kept position hmem hclosed).closed
        · obtain rfl := List.mem_singleton.mp hend
          exact ((hnext.newly id).mp hid).1
    · exact hcounted.union front value init hstates id
  kept := by
    refine List.pairwise_append.mpr ⟨hcounted.kept, List.pairwise_singleton .., ?_⟩
    intro earlier hearlier value hvalue position hmem hclosed
    obtain rfl := List.mem_singleton.mp hvalue
    exact (hcounted.last_kept hearlier hmem hclosed).trans hnext.kept

end Concat

/-- The net P&L that the ledger reports for a registration. -/
def ledgerNet (ctx : DecimalContext) (ledger : LocalPaperTradeLedger) (registrationId : Digest) : ℚ :=
  match ledger.summary ctx registrationId with
  | .ok summary => summary.estimatedNetPnl.getD 0
  | .error _ => 0

/-- The context rounds no sum of the P&L of different registrations. -/
def ExactSums (ctx : DecimalContext) (ledger : LocalPaperTradeLedger) : Prop :=
  ∀ ids : List Digest, ids.Nodup →
    ctx.round (ids.map (ledgerNet ctx ledger)).sum = (ids.map (ledgerNet ctx ledger)).sum

/-- With one registration, the P&L that the ledger reports is its only sum. -/
theorem exactSums_of_one {id : Digest} (hregistered : ∀ r ∈ ledger.registrations, r.registrationId = id)
    (hzero : ctx.round 0 = 0) (hone : ctx.round (ledgerNet ctx ledger id) = ledgerNet ctx ledger id) :
    ExactSums ctx ledger := by
  have hother : ∀ other ≠ id, ledgerNet ctx ledger other = 0 := by
    intro other hother
    have hmissing : ledger.registrations.find? (fun r => decide (r.registrationId = other)) = none := by
      refine List.find?_eq_none.mpr fun r hr heq => ?_
      exact hother ((of_decide_eq_true heq).symm.trans (hregistered r hr))
    unfold ledgerNet LocalPaperTradeLedger.summary LocalPaperTradeLedger.getRegistration
    rw [hmissing]
    rfl
  intro ids hnodup
  rw [List.sum_map_eq_nsmul_single id (ledgerNet ctx ledger) fun other hne _ => hother other hne]
  by_cases hid : id ∈ ids
  · rw [List.count_eq_one_of_mem hnodup hid, one_nsmul]
    exact hone
  · rw [List.count_eq_zero_of_not_mem hid, zero_nsmul]
    exact hzero

theorem exactSums_exact : ExactSums .exact ledger := fun _ _ => rfl

theorem PositionSettled.net_eq (h : PositionSettled ctx ledger position) :
    position.net = ledgerNet ctx ledger position.registrationId := by
  obtain ⟨summary, hsummary, -, -, -, hnet⟩ := h
  unfold ledgerNet PaperPortfolioPosition.net
  rw [hsummary, ← hnet]

theorem PositionSettled.same {same : PaperPortfolioPosition} (h : PositionSettled ctx ledger position)
    (hsame : PositionSettled ctx ledger same)
    (hid : same.registrationId = position.registrationId) :
    same.eventIds = position.eventIds ∧ same.grossPnl = position.grossPnl ∧
      same.estimatedNetPnl = position.estimatedNetPnl := by
  obtain ⟨summary, hsummary, -, hevents, hgross, hnet⟩ := h
  obtain ⟨summary', hsummary', -, hevents', hgross', hnet'⟩ := hsame
  rw [hid] at hsummary'
  obtain rfl := Except.ok.inj (hsummary.symm.trans hsummary')
  exact ⟨hevents'.symm.trans hevents, hgross'.symm.trans hgross, hnet'.symm.trans hnet⟩

/-- Summing the P&L of different registrations rounds nothing away. -/
theorem ExactSums.sum_eq (h : ExactSums ctx ledger) {ids : List Digest} (hnodup : ids.Nodup) :
    ctx.sum 0 (ids.map (ledgerNet ctx ledger)) = (ids.map (ledgerNet ctx ledger)).sum := by
  induction ids using List.reverseRecOn with
  | nil => rfl
  | append_singleton ids id ih =>
    have hexact := h _ hnodup
    have hprefix := ih (List.nodup_append.mp hnodup).1
    rw [List.map_append, List.map_singleton, List.sum_append, List.sum_singleton] at hexact ⊢
    have hstep : ctx.sum 0 (ids.map (ledgerNet ctx ledger) ++ [ledgerNet ctx ledger id]) =
        ctx.add (ctx.sum 0 (ids.map (ledgerNet ctx ledger))) (ledgerNet ctx ledger id) := by
      unfold DecimalContext.sum
      rw [List.foldl_append]
      rfl
    rw [hstep, hprefix]
    exact hexact

/-- Closed positions that say what the ledger says add up to the ledger's P&L. -/
theorem nets_eq {positions : List PaperPortfolioPosition}
    (hsettled : ∀ position ∈ positions, PositionSettled ctx ledger position) :
    positions.map (·.net) = (positions.map (·.registrationId)).map (ledgerNet ctx ledger) := by
  rw [List.map_map]
  exact List.map_congr_left fun position hmem => (hsettled position hmem).net_eq

theorem mem_closedPositions {positions : List PaperPortfolioPosition} :
    position ∈ closedPositions positions ↔ position ∈ positions ∧ position.outcomeStatus = .closed := by
  simp [closedPositions, PaperPortfolioPosition.closed]

def closedIds (positions : List PaperPortfolioPosition) : List Digest :=
  (closedPositions positions).map (·.registrationId)

def newlyClosedIds (prior positions : List PaperPortfolioPosition) : List Digest :=
  (newlyClosedPositions prior positions).map (·.registrationId)

theorem mem_closedIds {positions : List PaperPortfolioPosition} :
    registrationId ∈ closedIds positions ↔ ClosedPosition positions registrationId := by
  constructor
  · intro h
    obtain ⟨position, hmem, hid⟩ := List.mem_map.mp h
    obtain ⟨hin, hclosed⟩ := mem_closedPositions.mp hmem
    exact ⟨position, hin, hid, hclosed⟩
  · rintro ⟨position, hmem, hid, hclosed⟩
    exact List.mem_map.mpr ⟨position, mem_closedPositions.mpr ⟨hmem, hclosed⟩, hid⟩

theorem mem_newlyClosedPositions {prior positions : List PaperPortfolioPosition} :
    position ∈ newlyClosedPositions prior positions ↔ position ∈ positions ∧
      position.outcomeStatus = .closed ∧ ¬ClosedPosition prior position.registrationId := by
  simp [newlyClosedPositions, PaperPortfolioPosition.closed, ClosedPosition]

theorem mem_newlyClosedIds {prior positions : List PaperPortfolioPosition} :
    registrationId ∈ newlyClosedIds prior positions ↔
      ClosedPosition positions registrationId ∧ ¬ClosedPosition prior registrationId := by
  constructor
  · intro h
    obtain ⟨position, hmem, rfl⟩ := List.mem_map.mp h
    obtain ⟨hin, hclosed, hprior⟩ := mem_newlyClosedPositions.mp hmem
    exact ⟨⟨position, hin, rfl, hclosed⟩, hprior⟩
  · rintro ⟨⟨position, hin, rfl, hclosed⟩, hprior⟩
    exact List.mem_map.mpr ⟨position, mem_newlyClosedPositions.mpr ⟨hin, hclosed, hprior⟩, rfl⟩

/-- With one position for each registration, the positions of the newly closed ids are the newly
closed positions. -/
theorem filter_newlyClosed {prior positions : List PaperPortfolioPosition}
    (hunique : (positions.map (·.registrationId)).Nodup) :
    positions.filter (·.registrationId ∈ newlyClosedIds prior positions) =
      newlyClosedPositions prior positions := by
  refine List.filter_congr fun position hmem => ?_
  have hself : ClosedPosition positions position.registrationId ↔ position.outcomeStatus = .closed := by
    constructor
    · rintro ⟨same, hsame, hid, hclosed⟩
      rwa [← List.inj_on_of_nodup_map hunique hsame hmem hid]
    · exact fun hclosed => ⟨position, hmem, rfl, hclosed⟩
  rw [Bool.eq_iff_iff, decide_eq_true_iff, mem_newlyClosedIds, hself]
  simp [PaperPortfolioPosition.closed, ClosedPosition]

theorem closedIds_nodup {positions : List PaperPortfolioPosition}
    (hunique : (positions.map (·.registrationId)).Nodup) : (closedIds positions).Nodup :=
  hunique.sublist (List.filter_sublist.map _)

theorem newlyClosedIds_nodup {prior positions : List PaperPortfolioPosition}
    (hunique : (positions.map (·.registrationId)).Nodup) : (newlyClosedIds prior positions).Nodup :=
  hunique.sublist (List.filter_sublist.map _)

section Split

variable {prior positions : List PaperPortfolioPosition}
variable (hprior : (prior.map (·.registrationId)).Nodup)
variable (hunique : (positions.map (·.registrationId)).Nodup)

include hprior hunique

theorem closedIds_append_nodup : (closedIds prior ++ newlyClosedIds prior positions).Nodup := by
  refine List.nodup_append.mpr ⟨closedIds_nodup hprior, newlyClosedIds_nodup hunique, ?_⟩
  intro id hid other hother heq
  rw [heq, mem_closedIds] at hid
  exact (mem_newlyClosedIds.mp hother).2 hid

/-- When nothing that was closed is lost, the closed ids are the ones before and the new ones. -/
theorem closedIds_perm
    (hkept : ∀ position ∈ prior, position.outcomeStatus = .closed → StaysClosed positions position) :
    (closedIds prior ++ newlyClosedIds prior positions).Perm (closedIds positions) := by
  refine (List.perm_ext_iff_of_nodup (closedIds_append_nodup hprior hunique)
    (closedIds_nodup hunique)).mpr fun id => ?_
  rw [List.mem_append, mem_closedIds, mem_newlyClosedIds, mem_closedIds]
  constructor
  · rintro (⟨position, hmem, rfl, hclosed⟩ | ⟨hclosed, -⟩)
    · exact (hkept position hmem hclosed).closed
    · exact hclosed
  · intro hclosed
    by_cases hbefore : ClosedPosition prior id
    · exact .inl hbefore
    · exact .inr ⟨hclosed, hbefore⟩

end Split

/-- The step counts each outcome once: no job of a position that was closed before has a record of an
earlier status, and the P&L is summed exactly. -/
def CountsClosures (ctx : DecimalContext) (stores : PaperStores) : PaperAction → Prop
  | .runBatch source spec => ∀ state after,
      runPaperPortfolioBatch ctx source spec stores = (.ok state, after) →
      stores.portfolio.get spec.batchId = none →
      (∀ job ∈ spec.outcomeJobs, ClosedPosition (lastPositions stores) job.registrationId →
        ∀ record, stores.outcome.outcomes.get job.jobSpecId = some record →
          record.outcomeStatus = .closed) ∧
      ExactSums ctx after.outcome.ledger
  | _ => True

section Stored

variable (hvalid : PortfolioValid ctx stores)
variable (hbatch : StoredBatch ctx source spec stores after previous updated state)

include hvalid hbatch

theorem StoredBatch.prior_settled (hprior : position ∈ priorPositions previous)
    (hclosed : position.outcomeStatus = .closed) : PositionSettled ctx stores.outcome.ledger position := by
  obtain ⟨last, -, hmem, hposition⟩ := hbatch.prior_mem hvalid hprior
  exact hvalid.settled last hmem position hposition hclosed

theorem StoredBatch.stays_closed
    (hjobs : ∀ job ∈ spec.outcomeJobs, ClosedPosition (lastPositions stores) job.registrationId →
      ∀ record, stores.outcome.outcomes.get job.jobSpecId = some record →
        record.outcomeStatus = .closed)
    (hprior : position ∈ priorPositions previous) (hclosed : position.outcomeStatus = .closed) :
    StaysClosed state.positions position := by
  have hwrites := hbatch.touches.writes
  have hbefore := hbatch.prior_settled hvalid hprior hclosed
  by_cases hjob : position.registrationId ∈ spec.jobIds
  · obtain ⟨job, hmem, hid⟩ := List.mem_map.mp hjob
    obtain ⟨same, hsame, hresult⟩ := (hbatch.results hvalid).ofJob job hmem
    have hstill : LedgerClosed ctx after.outcome.ledger job.registrationId := by
      obtain ⟨summary, hsummary, hstatus, -⟩ := hbefore.grows hwrites.grows
      exact ⟨summary, by rw [hid]; exact hsummary, hstatus⟩
    have hstatus : same.outcomeStatus = .closed := by
      rcases hresult.origin.closed hwrites.registrations hstill with hstatus | ⟨-, record, hrecord, hstatus⟩
      · exact hstatus
      · rw [← hstatus]
        refine hjobs job hmem ⟨position, ?_, hid.symm, hclosed⟩ record hrecord
        unfold lastPositions
        rwa [← (hbatch.previous_eq hvalid).1]
    have hsameId := hresult.registrationId.trans hid
    have hnow : PositionSettled ctx after.outcome.ledger position := hbefore.grows hwrites.grows
    exact ⟨same, hbatch.mem_positions.mpr (.inr hsame), hsameId, hstatus,
      hnow.same (hresult.settled hstatus) hsameId⟩
  · exact ⟨position, hbatch.mem_positions.mpr (.inl ⟨hprior, hjob⟩), rfl, hclosed, rfl, rfl, rfl⟩

theorem StoredBatch.daily (hexact : ExactSums ctx after.outcome.ledger) :
    state.dailyRealizedPnl = ((newlyClosedIds (priorPositions previous) state.positions).map
      (ledgerNet ctx after.outcome.ledger)).sum := by
  have hsettled : ∀ position ∈ newlyClosedPositions (priorPositions previous) state.positions,
      PositionSettled ctx after.outcome.ledger position := by
    intro position hmem
    obtain ⟨hin, hclosed, -⟩ := mem_newlyClosedPositions.mp hmem
    exact hbatch.settled hvalid hin hclosed
  have hdaily : state.dailyRealizedPnl = ctx.sum 0 ((state.positions.filter (·.registrationId ∈
      newlyClosedIds (priorPositions previous) state.positions)).map (·.net)) := by
    rw [hbatch.state_eq]
    rfl
  rw [hdaily, filter_newlyClosed hbatch.unique, nets_eq hsettled]
  exact hexact.sum_eq (newlyClosedIds_nodup hbatch.unique)

theorem StoredBatch.cumulative (hcounted : CountedOnce stores.portfolio.states)
    (hexact : ExactSums ctx after.outcome.ledger)
    (hkept : ∀ position ∈ priorPositions previous, position.outcomeStatus = .closed →
      StaysClosed state.positions position) :
    state.cumulativeRealizedPnl = ((closedPositions state.positions).map (·.net)).sum := by
  obtain ⟨hlast, -⟩ := hbatch.previous_eq hvalid
  have hgrows := hbatch.touches.writes.grows
  have hpriorSettled : ∀ position ∈ closedPositions (priorPositions previous),
      PositionSettled ctx after.outcome.ledger position := by
    intro position hmem
    obtain ⟨hin, hclosed⟩ := mem_closedPositions.mp hmem
    exact (hbatch.prior_settled hvalid hin hclosed).grows hgrows
  have hstateSettled : ∀ position ∈ closedPositions state.positions,
      PositionSettled ctx after.outcome.ledger position := by
    intro position hmem
    obtain ⟨hin, hclosed⟩ := mem_closedPositions.mp hmem
    exact hbatch.settled hvalid hin hclosed
  have hprior : previous.elim 0 (·.cumulativeRealizedPnl) =
      ((closedIds (priorPositions previous)).map (ledgerNet ctx after.outcome.ledger)).sum := by
    unfold closedIds
    rw [← nets_eq hpriorSettled]
    cases previous with
    | none => rfl
    | some last => exact hcounted.cumulative last (List.mem_of_getLast? hlast.symm)
  have hpriorUnique : ((priorPositions previous).map (·.registrationId)).Nodup := by
    cases previous with
    | none => exact .nil
    | some last => exact hvalid.unique last (List.mem_of_getLast? hlast.symm)
  have hadd : state.cumulativeRealizedPnl =
      ctx.add (previous.elim 0 (·.cumulativeRealizedPnl)) state.dailyRealizedPnl := by
    rw [hbatch.state_eq]
    rfl
  have hsum := hexact _ (closedIds_append_nodup hpriorUnique hbatch.unique)
  rw [List.map_append, List.sum_append, ← hprior, ← hbatch.daily hvalid hexact] at hsum
  calc state.cumulativeRealizedPnl
      = previous.elim 0 (·.cumulativeRealizedPnl) + state.dailyRealizedPnl := hadd.trans hsum
    _ = ((closedIds state.positions).map (ledgerNet ctx after.outcome.ledger)).sum := by
      rw [hprior, hbatch.daily hvalid hexact, ← List.sum_append, ← List.map_append]
      exact ((closedIds_perm hpriorUnique hbatch.unique hkept).map _).sum_eq
    _ = ((closedPositions state.positions).map (·.net)).sum := by
      rw [nets_eq hstateSettled]
      rfl

theorem StoredBatch.countsNext (hcounted : CountedOnce stores.portfolio.states)
    (hexact : ExactSums ctx after.outcome.ledger)
    (hjobs : ∀ job ∈ spec.outcomeJobs, ClosedPosition (lastPositions stores) job.registrationId →
      ∀ record, stores.outcome.outcomes.get job.jobSpecId = some record →
        record.outcomeStatus = .closed) : CountsNext previous state := by
  have hkept : ∀ position ∈ priorPositions previous, position.outcomeStatus = .closed →
      StaysClosed state.positions position :=
    fun position hmem hclosed => hbatch.stays_closed hvalid hjobs hmem hclosed
  refine ⟨hbatch.cumulative hvalid hcounted hexact hkept, ?_, fun id => ?_, hkept⟩
  · rw [hbatch.state_eq]
    rfl
  · have hids : state.newlyClosedRegistrationIds =
        SortedTuples.sorted (newlyClosedIds (priorPositions previous) state.positions) := by
      rw [hbatch.state_eq]
      rfl
    rw [hids, mem_sorted, mem_newlyClosedIds]

end Stored

theorem perform_counted (hvalid : PortfolioValid ctx stores) {action : PaperAction}
    (hcounted : CountedOnce stores.portfolio.states) (hstep : CountsClosures ctx stores action) :
    CountedOnce (perform ctx stores action).portfolio.states := by
  cases action with
  | register value => exact hcounted
  | recordEvent registrationId occurredAt body => exact hcounted
  | runBatch source spec =>
    rcases hrun : runPaperPortfolioBatch ctx source spec stores with ⟨x, after⟩
    show CountedOnce (runPaperPortfolioBatch ctx source spec stores).2.portfolio.states
    rw [hrun]
    cases runPaperPortfolioBatch_cases hrun with
    | existing state found => exact hcounted
    | stored _ previous updated state absent batch =>
      obtain ⟨hjobs, hexact⟩ := hstep state after hrun absent
      have hnext := batch.countsNext hvalid hcounted hexact hjobs
      rw [(batch.previous_eq hvalid).1] at hnext
      rw [batch.states]
      exact hcounted.concat hnext
    | failed _ e portfolio =>
      rw [portfolio]
      exact hcounted
  | interruptBatch source spec completed =>
    have hportfolio : SamePortfolio stores (interruptPaperPortfolioBatch ctx source spec completed
      stores).2 := interruptPaperPortfolioBatch_portfolio stores
    show CountedOnce (interruptPaperPortfolioBatch ctx source spec completed stores).2.portfolio.states
    rw [hportfolio]
    exact hcounted

theorem performAll_counted {actions : List PaperAction} (h : EveryAction ctx (CountsClosures ctx) actions) :
    CountedOnce (performAll ctx actions).portfolio.states := by
  have hboth := h.invariant (I := fun stores => PortfolioValid ctx stores ∧
      CountedOnce stores.portfolio.states) ⟨portfolioValid_empty, countedOnce_nil⟩
    fun stores action hs hstep => ⟨perform_valid hs.1, perform_counted hs.1 hs.2 hstep⟩
  exact hboth.2

/-- In a run whose batches give no earlier record of a closed position to a job, and whose P&L is
summed exactly, every realized outcome is counted once. -/
theorem realized_outcomes_counted_once (ctx : DecimalContext) {actions : List PaperAction}
    (h : EveryAction ctx (CountsClosures ctx) actions) :
    CountedOnce (performAll ctx actions).portfolio.states :=
  performAll_counted h

section Sample

/-- The sample evidence, limited to the artifacts that a job names. -/
def artifactSource : PaperOutcomeEvidenceSource := fun spec =>
  sampleSource (bothDays.filter (·.artifactId ∈ spec.historicalArtifactIds)) spec

/-- A batch of sample trades over some artifacts, after the last state of a run. -/
def sampleBatch (ids : List Digest) (artifacts : List Digest) (asOf : Instant)
    (actions : List PaperAction) : Except PaperError PaperPortfolioBatchSpec := do
  let jobs ← ids.mapM fun id => preparePaperOutcomeJobSpec .exact artifactSource id 5 3 artifacts "EQ"
    "INE009A01021" asOf .default
  let last := (performAll .exact actions).portfolio.states.getLast?
  PaperPortfolioBatchSpec.create asOf jobs (last.map (·.binding)) 1000 2000

end Sample

/-- One trade that its first batch closes is counted once. -/
theorem realized_outcomes_counted_once_sample : ∃ spec state,
    sampleBatch [1] [6, 8] (istInstant 102 1100) [registerSample 1] = .ok spec ∧
    (performAll .exact [registerSample 1, .runBatch artifactSource spec]).portfolio.states = [state] ∧
    state.newlyClosedRegistrationIds = [1] ∧
    CountedOnce (performAll .exact [registerSample 1, .runBatch artifactSource spec]).portfolio.states := by
  obtain ⟨spec, hspec, hrun⟩ := exists_ok_of_any
    (x := sampleBatch [1] [6, 8] (istInstant 102 1100) [registerSample 1])
    (p := fun spec => (performAll .exact
      [registerSample 1, .runBatch artifactSource spec]).portfolio.states.map
        (·.newlyClosedRegistrationIds) = [[1]]) (by decide +kernel)
  obtain ⟨state, hstates, hnewly⟩ := List.map_eq_singleton_iff.mp (of_decide_eq_true hrun)
  refine ⟨spec, state, hspec, hstates, hnewly, realized_outcomes_counted_once .exact ?_⟩
  have hregistered : EveryAction .exact (CountsClosures .exact) ([] ++ [registerSample 1]) :=
    everyStep_concat.mpr ⟨everyStep_nil, trivial⟩
  refine everyStep_concat.mpr ⟨hregistered, ?_⟩
  intro state after hstate hnew
  refine ⟨?_, exactSums_exact⟩
  rintro job hjob ⟨position, hmem, -⟩
  cases hmem

/-- A batch that fails after its first job leaves the record of an open trade. When a batch with an
earlier cutoff has closed that trade, a later batch with the same job takes the old record: its state
has no closed position but keeps the realized P&L. -/
theorem closed_position_reopened : ∃ failed closing reopening first last,
    performAll .exact [registerSample 1, .runBatch artifactSource failed,
      .runBatch artifactSource closing, .runBatch artifactSource reopening] = last ∧
    last.portfolio.states.getLast? = some first ∧
    first.cumulativeRealizedPnl ≠ ((closedPositions first.positions).map (·.net)).sum ∧
    failed.outcomeJobs.take 1 = reopening.outcomeJobs ∧ closing.jobIds = [1] := by
  obtain ⟨failed, hfailed, hclosing⟩ := exists_ok_of_any
    (x := sampleBatch [1, 2] [6] (istInstant 102 1110) [registerSample 1])
    (p := fun failed =>
      (sampleBatch [1] [6, 8] (istInstant 102 1100) [registerSample 1,
        .runBatch artifactSource failed]).toOption.any fun closing =>
        (sampleBatch [1] [6] (istInstant 102 1110) [registerSample 1,
          .runBatch artifactSource failed, .runBatch artifactSource closing]).toOption.any
          fun reopening =>
            ((performAll .exact [registerSample 1, .runBatch artifactSource failed,
              .runBatch artifactSource closing,
              .runBatch artifactSource reopening]).portfolio.states.getLast?.any fun first =>
                first.cumulativeRealizedPnl ≠
                  ((closedPositions first.positions).map (·.net)).sum) &&
            (failed.outcomeJobs.take 1 = reopening.outcomeJobs && closing.jobIds = [1]))
    (by decide +kernel)
  obtain ⟨closing, -, hreopening⟩ := exists_ok_of_any hclosing
  obtain ⟨reopening, -, hlast⟩ := exists_ok_of_any hreopening
  obtain ⟨hlast, hjobs⟩ := Bool.and_eq_true_iff.mp hlast
  obtain ⟨hsame, hids⟩ := Bool.and_eq_true_iff.mp hjobs
  obtain ⟨first, hfirst, hdiffers⟩ := (Option.any_eq_true _ _).mp hlast
  exact ⟨failed, closing, reopening, first, _, rfl, hfirst, of_decide_eq_true hdiffers,
    of_decide_eq_true hsame, of_decide_eq_true hids⟩

/-- Not every run counts its realized outcomes once. -/
theorem not_all_counted_once :
    ¬∀ ctx actions, CountedOnce (performAll ctx actions).portfolio.states := by
  intro h
  obtain ⟨failed, closing, reopening, first, last, hrun, hfirst, hdiffers, -⟩ :=
    closed_position_reopened
  have hcounted := h .exact [registerSample 1, .runBatch artifactSource failed,
    .runBatch artifactSource closing, .runBatch artifactSource reopening]
  rw [hrun] at hcounted
  exact hdiffers (hcounted.cumulative first (List.mem_of_getLast? hfirst))

end IndiaSwing
