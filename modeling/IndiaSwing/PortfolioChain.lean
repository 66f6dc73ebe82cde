import Mathlib.Data.List.Chain
import IndiaSwing.DailyWorkflowStore
import IndiaSwing.Lib.ActionRuns
import IndiaSwing.PortfolioFiles

namespace IndiaSwing

open ActionRuns
open ExceptGuards

/-- A call of `put` or of `put_restored`, and what becomes of its write. -/
structure PortfolioPut where
  request : PaperPortfolioRequest
  fate : WriteFate

namespace LocalPaperPortfolioStateStore

variable (store : LocalPaperPortfolioStateStore)

/-- `_put` -/
def putState (put : PortfolioPut) :
    Except PaperError PaperPortfolioState × LocalPaperPortfolioStateStore :=
  match store.get put.request.value.batchId with
  | some stored =>
    if stored ≠ put.request.value then
      (.error ⟨.paperPortfolioConflict, "paper portfolio batch already has another state"⟩, store)
    else (.ok stored, store)
  | none =>
    match PaperPortfolioFiles.checkUnbound store.states put.request, put.fate with
    | .error e, _ => (.error e, store)
    | .ok (), .durable => (.ok put.request.value, ⟨store.states ++ [put.request.value]⟩)
    | .ok (), .lost => (.error ⟨.paperPortfolioConflict, "paper portfolio store is unavailable"⟩, store)
    | .ok (), .unconfirmed => (.error ⟨.paperPortfolioConflict, "paper portfolio store is unavailable"⟩,
        ⟨store.states ++ [put.request.value]⟩)

/-- The stored states whose predecessor is not stored. -/
def roots : List PaperPortfolioState :=
  store.states.filter fun value => value.previous.all (·.stateId ∉ store.states.map (·.stateId))

/-- A `put` whose write is durable is the put of the batch runner. -/
theorem putState_durable (value : PaperPortfolioState) :
    store.putState ⟨⟨value, false⟩, .durable⟩ =
      match store.put value with
      | .ok (stored, after) => (.ok stored, after)
      | .error e => (.error e, store) := by
  unfold putState put
  cases hget : store.get value.batchId with
  | some stored =>
    dsimp only
    split <;> rfl
  | none =>
    dsimp only
    unfold PaperPortfolioFiles.checkUnbound
    have hsame : (⟨store.states⟩ : LocalPaperPortfolioStateStore) = store := rfl
    rw [hsame]
    by_cases hempty : store.states = []
    · by_cases hnone : value.previous = none
      · simp [hempty, hnone, pure_eq_ok]
      · simp [hempty, hnone]
    · by_cases hnone : value.previous = none
      · simp [hempty, hnone]
      · by_cases hleaf : store.leaves.map (·.binding) = value.previous.toList
        · simp [hempty, hnone, hleaf, pure_eq_ok]
        · simp [hempty, hnone, hleaf]

end LocalPaperPortfolioStateStore

/-- The store that puts in any order lead to. -/
def runPuts (puts : List PortfolioPut) : LocalPaperPortfolioStateStore :=
  run (fun store put => (store.putState put).2) .empty puts

section Chain

variable {store : LocalPaperPortfolioStateStore} {states front : List PaperPortfolioState}
variable {value root last a b : PaperPortfolioState} {binding : PortfolioBinding} {put : PortfolioPut}

/-- A state's id is made of the id of the state it follows. -/
theorem sizeOf_previous (h : value.previous = some binding) : sizeOf binding.stateId < sizeOf value.stateId := by
  simp only [PaperPortfolioState.stateId, ContentId.ofFields, ContentId.list, ContentId.option, h,
    PortfolioBinding.encode, ContentId.pair.sizeOf_spec]
  omega

theorem sizeOf_linked (h : b.previous = some a.binding) : sizeOf a.stateId < sizeOf b.stateId := by
  have hlt := sizeOf_previous h
  have hid : a.binding.stateId = a.stateId := rfl
  rwa [hid] at hlt

/-- Each state follows the one stored before it, and no two are of one batch. -/
structure LinearChain (states : List PaperPortfolioState) : Prop where
  linked : states.IsChain fun earlier later => later.previous = some earlier.binding
  batches : (states.map (·.batchId)).Nodup

theorem LinearChain.growing (h : LinearChain states) :
    states.Pairwise fun a b => sizeOf a.stateId < sizeOf b.stateId := by
  have hsteps : states.IsChain fun a b => sizeOf a.stateId < sizeOf b.stateId :=
    h.linked.imp fun _ _ hnext => sizeOf_linked hnext
  have htrans : IsTrans PaperPortfolioState fun a b => sizeOf a.stateId < sizeOf b.stateId :=
    ⟨fun _ _ _ => lt_trans⟩
  exact List.isChain_iff_pairwise.mp hsteps

/-- Every state but the first follows a stored one, with nothing between them. -/
theorem LinearChain.previous_stored (h : LinearChain (root :: states)) (hmem : b ∈ states) :
    ∃ a ∈ root :: states, b.previous = some a.binding ∧
      ∀ other ∈ root :: states, sizeOf other.stateId < sizeOf b.stateId → sizeOf other.stateId ≤ sizeOf a.stateId := by
  obtain ⟨front, back, rfl⟩ := List.append_of_mem hmem
  obtain ⟨init, last, heq⟩ := (List.eq_nil_or_concat (root :: front)).resolve_left (List.cons_ne_nil _ _)
  rw [List.concat_eq_append] at heq
  have hlinked := h.linked
  have hgrowing := h.growing
  rw [← List.cons_append, heq, List.append_assoc, List.singleton_append] at hlinked hgrowing ⊢
  rw [List.isChain_append_cons_cons] at hlinked
  obtain ⟨-, hlater, hbefore⟩ := List.pairwise_append.mp hgrowing
  refine ⟨last, by simp, hlinked.2.1, fun other hother hlt => ?_⟩
  rcases List.mem_append.mp hother with hin | hin
  · exact (hbefore other hin last List.mem_cons_self).le
  rcases List.mem_cons.mp hin with rfl | hin
  · exact le_rfl
  rcases List.mem_cons.mp hin with rfl | hin
  · exact absurd hlt (lt_irrefl _)
  · have hgreater := (List.pairwise_cons.mp (List.pairwise_cons.mp hlater).2).1 other hin
    exact absurd hlt (lt_asymm hgreater)

theorem LinearChain.root_unbound (h : LinearChain (root :: states)) (hprevious : root.previous = some binding) :
    ∀ a ∈ root :: states, a.stateId ≠ binding.stateId := by
  intro a hmem heq
  have hsmall := sizeOf_previous hprevious
  rcases List.mem_cons.mp hmem with rfl | hin
  · rw [heq] at hsmall
    exact lt_irrefl _ hsmall
  · have hlarge := (List.pairwise_cons.mp h.growing).1 a hin
    rw [heq] at hlarge
    exact lt_asymm hsmall hlarge

theorem LinearChain.roots (h : LinearChain (root :: states)) :
    LocalPaperPortfolioStateStore.roots ⟨root :: states⟩ = [root] := by
  unfold LocalPaperPortfolioStateStore.roots
  rw [List.filter_cons_of_pos, List.filter_eq_nil_iff.mpr]
  · intro value hmem
    obtain ⟨a, hstored, hprevious, -⟩ := h.previous_stored hmem
    simp only [hprevious, Option.all_some, decide_eq_true_eq, not_not]
    exact List.mem_map_of_mem hstored
  · cases hprevious : root.previous with
    | none => rfl
    | some binding =>
      rw [Option.all_some, decide_eq_true_eq, List.mem_map]
      rintro ⟨a, hmem, heq⟩
      exact h.root_unbound hprevious a hmem heq

theorem LinearChain.leaves (h : LinearChain (front ++ [last])) :
    LocalPaperPortfolioStateStore.leaves ⟨front ++ [last]⟩ = [last] := by
  unfold LocalPaperPortfolioStateStore.leaves
  dsimp only
  rw [List.filter_append, List.filter_eq_nil_iff.mpr, List.nil_append, List.filter_singleton]
  · have hlast : last.stateId ∉ (front ++ [last]).filterMap fun value => value.previous.map (·.stateId) := by
      intro hmem
      obtain ⟨value, hvalue, hid⟩ := List.mem_filterMap.mp hmem
      obtain ⟨binding, hprevious, heq⟩ := Option.map_eq_some_iff.mp hid
      have hsmall := sizeOf_previous hprevious
      rw [heq] at hsmall
      rcases List.mem_append.mp hvalue with hin | hin
      · have hlarge := (List.pairwise_append.mp h.growing).2.2 value hin last (List.mem_singleton_self _)
        exact lt_asymm hsmall hlarge
      · rw [List.mem_singleton.mp hin] at hsmall
        exact lt_irrefl _ hsmall
    rw [decide_eq_true hlast]
    rfl
  · intro value hmem
    obtain ⟨init, rest, rfl⟩ := List.append_of_mem hmem
    obtain ⟨next, after, hnext⟩ := List.exists_cons_of_ne_nil (List.append_ne_nil_of_right_ne_nil rest
      (List.cons_ne_nil last []))
    have hlinked := h.linked
    rw [List.append_assoc, List.cons_append, hnext, List.isChain_append_cons_cons] at hlinked
    simp only [decide_eq_true_eq, not_not]
    refine List.mem_filterMap.mpr ⟨next, ?_, ?_⟩
    · rw [List.append_assoc, List.cons_append, hnext]
      simp
    · rw [hlinked.2.1]
      rfl

/-- No state is followed by two, and none begins beside the root. -/
theorem LinearChain.no_fork (h : LinearChain states) (ha : a ∈ states) (hb : b ∈ states)
    (hsame : a.previous = b.previous) : a = b := by
  have hordered : ∀ {a b : PaperPortfolioState}, a ∈ states → b ∈ states → a.previous = b.previous →
      ¬sizeOf a.stateId < sizeOf b.stateId := by
    intro a b ha hb hsame hlt
    obtain ⟨root, states, rfl⟩ := List.exists_cons_of_ne_nil (List.ne_nil_of_mem hb)
    have hin : b ∈ states := by
      refine (List.mem_cons.mp hb).resolve_left ?_
      rintro rfl
      rcases List.mem_cons.mp ha with rfl | hin
      · exact lt_irrefl _ hlt
      · exact lt_asymm hlt ((List.pairwise_cons.mp h.growing).1 a hin)
    obtain ⟨c, hc, hprevious, hnone⟩ := h.previous_stored hin
    have hbelow := sizeOf_linked (hsame.trans hprevious)
    exact absurd (hnone a ha hlt) (not_le.mpr hbelow)
  rcases lt_trichotomy (sizeOf a.stateId) (sizeOf b.stateId) with hlt | heq | hgt
  · exact absurd hlt (hordered ha hb hsame)
  · have hnodup : (states.map fun value => sizeOf value.stateId).Nodup :=
      List.pairwise_map.mpr (h.growing.imp fun hlt => hlt.ne)
    exact List.inj_on_of_nodup_map hnodup ha hb heq
  · exact absurd hgt (hordered hb ha hsame.symm)

theorem linearChain_nil : LinearChain [] := ⟨.nil, List.nodup_nil⟩

/-- A state that passes the checks of `_put` under the lock extends the chain. -/
theorem LinearChain.concat {request : PaperPortfolioRequest} (h : LinearChain store.states)
    (hnew : store.get request.value.batchId = none)
    (hchecks : PaperPortfolioFiles.checkUnbound store.states request = .ok ()) :
    LinearChain (store.states ++ [request.value]) := by
  have hbatches : ((store.states ++ [request.value]).map (·.batchId)).Nodup := by
    rw [List.map_append, List.nodup_append]
    refine ⟨h.batches, List.nodup_singleton _, ?_⟩
    intro id hid other hother heq
    obtain ⟨stored, hstored, rfl⟩ := List.mem_map.mp hid
    obtain rfl : other = request.value.batchId := by simpa using hother
    exact List.find?_eq_none.mp hnew stored hstored (by simpa using heq)
  refine ⟨?_, hbatches⟩
  rcases List.eq_nil_or_concat store.states with hnil | ⟨front, last, hstates⟩
  · rw [hnil]
    exact .singleton _
  · rw [List.concat_eq_append] at hstates
    unfold PaperPortfolioFiles.checkUnbound at hchecks
    rw [if_neg (by simp [hstates])] at hchecks
    obtain ⟨-, hchecks⟩ := raiseIf_bind_eq_ok.mp hchecks
    have hleaf := not_not.mp (raiseIf_eq_ok.mp hchecks)
    rw [hstates] at h hleaf ⊢
    rw [h.leaves] at hleaf
    have hprevious : request.value.previous = some last.binding := by
      cases hvalue : request.value.previous with
      | none => simp [hvalue] at hleaf
      | some binding =>
        rw [hvalue] at hleaf
        simpa using hleaf.symm
    refine List.isChain_append.mpr ⟨h.linked, .singleton _, ?_⟩
    intro earlier hearlier later hlater
    obtain rfl : last = earlier := by simpa using hearlier
    obtain rfl : request.value = later := by simpa using hlater
    exact hprevious

theorem putState_chain (h : LinearChain store.states) (put : PortfolioPut) :
    LinearChain (store.putState put).2.states := by
  unfold LocalPaperPortfolioStateStore.putState
  cases hget : store.get put.request.value.batchId with
  | some stored =>
    dsimp only
    split
    · exact h
    · exact h
  | none =>
    cases hchecks : PaperPortfolioFiles.checkUnbound store.states put.request with
    | error e => exact h
    | ok u =>
      cases hfate : put.fate with
      | durable => exact h.concat hget hchecks
      | lost => exact h
      | unconfirmed => exact h.concat hget hchecks

theorem runPuts_chain (puts : List PortfolioPut) : LinearChain (runPuts puts).states := by
  have hstep : ∀ store put, LinearChain store.states →
      LinearChain (LocalPaperPortfolioStateStore.putState store put).2.states :=
    fun _ put h => putState_chain h put
  exact run_invariant (I := fun store : LocalPaperPortfolioStateStore => LinearChain store.states) linearChain_nil
    hstep puts

/-- A put of a stored state changes nothing and returns it. -/
theorem putState_stored (h : LinearChain store.states) (hmem : put.request.value ∈ store.states) :
    store.putState put = (.ok put.request.value, store) := by
  have hget : store.get put.request.value.batchId = some put.request.value := by
    cases hfind : store.get put.request.value.batchId with
    | none => exact absurd (List.find?_eq_none.mp hfind put.request.value hmem) (by simp)
    | some stored =>
      have hbatch : stored.batchId = put.request.value.batchId := by simpa using List.find?_some hfind
      rw [List.inj_on_of_nodup_map h.batches (List.mem_of_find?_eq_some hfind) hmem hbatch]
  unfold LocalPaperPortfolioStateStore.putState
  rw [hget]
  simp

/-- A put of another state of a stored batch is rejected and changes nothing. -/
theorem putState_conflict (hmem : a ∈ store.states) (hbatch : a.batchId = put.request.value.batchId)
    (hother : ∀ stored ∈ store.states, stored ≠ put.request.value) :
    ∃ e, store.putState put = (.error e, store) := by
  unfold LocalPaperPortfolioStateStore.putState
  cases hget : store.get put.request.value.batchId with
  | none => exact absurd (List.find?_eq_none.mp hget a hmem) (by simp [hbatch])
  | some stored =>
    dsimp only
    rw [if_pos (hother stored (List.mem_of_find?_eq_some hget))]
    exact ⟨_, rfl⟩

/-- After any puts the stored states are one chain in the order of their writes, with one root and one leaf, no fork
and no second beginning; a repeated put changes nothing, and neither does one of another state for a stored batch,
which is rejected. -/
theorem portfolio_puts_form_chain (puts : List PortfolioPut) :
    (runPuts puts).states.IsChain (fun earlier later => later.previous = some earlier.binding) ∧
      ((runPuts puts).states ≠ [] → ∃ root leaf, (runPuts puts).roots = [root] ∧ (runPuts puts).leaves = [leaf]) ∧
      (∀ a ∈ (runPuts puts).states, ∀ b ∈ (runPuts puts).states, a.previous = b.previous → a = b) ∧
      ∀ put : PortfolioPut,
        (put.request.value ∈ (runPuts puts).states →
          (runPuts puts).putState put = (.ok put.request.value, runPuts puts)) ∧
        ∀ stored ∈ (runPuts puts).states, stored.batchId = put.request.value.batchId →
          stored ≠ put.request.value → ∃ e, (runPuts puts).putState put = (.error e, runPuts puts) := by
  have h := runPuts_chain puts
  refine ⟨h.linked, fun hne => ?_, fun a ha b hb => h.no_fork ha hb, fun put =>
    ⟨putState_stored h, fun stored hmem hbatch hne => ?_⟩⟩
  · obtain ⟨root, states, hroot⟩ := List.exists_cons_of_ne_nil hne
    obtain ⟨front, last, hlast⟩ := (List.eq_nil_or_concat (runPuts puts).states).resolve_left hne
    rw [List.concat_eq_append] at hlast
    refine ⟨root, last, ?_, ?_⟩
    · have hroots := (hroot ▸ h : LinearChain (root :: states)).roots
      rwa [← hroot] at hroots
    · have hleaves := (hlast ▸ h : LinearChain (front ++ [last])).leaves
      rwa [← hlast] at hleaves
  · refine putState_conflict hmem hbatch fun other hother heq => ?_
    subst heq
    exact hne (List.inj_on_of_nodup_map h.batches hmem hother hbatch)

end Chain

end IndiaSwing
