import Mathlib.Data.List.Nodup
import Mathlib.Data.List.Perm.Subperm
import Mathlib.Logic.Relation

namespace DepthFirst

open Relation

universe u

variable {α : Type u} [DecidableEq α] {next : α → List α} {fuel : ℕ}
variable {vertices visiting visited visited' : List α} {v w : α}

def Edge (next : α → List α) (v w : α) : Prop := w ∈ next v

/-- The vertices visited after `v`, or nothing when a path from `v` meets a vertex that is being visited. -/
def visit (next : α → List α) : ℕ → List α → List α → α → Option (List α)
  | 0, _, _, _ => none
  | fuel + 1, visiting, visited, v =>
    if v ∈ visiting then none
    else if v ∈ visited then some visited
    else ((next v).foldlM (visit next fuel (v :: visiting)) visited).map (v :: ·)

/-- A visit of every vertex in turn. No path without a repetition uses up the fuel. -/
def visitAll (next : α → List α) (vertices : List α) : Option (List α) :=
  vertices.foldlM (visit next (vertices.length + 1) []) []

/-- What was visited holds no cycle and no vertex that is being visited, and all that follows it was visited too. -/
structure Settled (next : α → List α) (visiting visited : List α) : Prop where
  closed : ∀ v ∈ visited, ∀ w ∈ next v, w ∈ visited
  acyclic : ∀ v ∈ visited, ¬TransGen (Edge next) v v
  apart : ∀ v ∈ visiting, v ∉ visited

theorem settled_nil : Settled next visiting [] where
  closed _ h := absurd h List.not_mem_nil
  acyclic _ h := absurd h List.not_mem_nil
  apart _ _ := List.not_mem_nil

theorem Settled.reaches (h : Settled next visiting visited) (hv : v ∈ visited)
    (hpath : ReflTransGen (Edge next) v w) : w ∈ visited := by
  induction hpath with
  | refl => exact hv
  | tail _ hedge ih => exact h.closed _ ih _ hedge

/-- A vertex whose successors were visited while it was being visited can be settled. -/
theorem Settled.cons (h : Settled next (v :: visiting) visited) (hnext : ∀ w ∈ next v, w ∈ visited)
    (hv : v ∉ visiting) : Settled next visiting (v :: visited) := by
  have hnot : v ∉ visited := h.apart v List.mem_cons_self
  constructor
  · intro a ha w hw
    rcases List.mem_cons.mp ha with rfl | ha
    · exact List.mem_cons_of_mem _ (hnext w hw)
    · exact List.mem_cons_of_mem _ (h.closed a ha w hw)
  · intro a ha hcycle
    rcases List.mem_cons.mp ha with rfl | ha
    · obtain ⟨w, hedge, hback⟩ := TransGen.head'_iff.mp hcycle
      exact hnot (h.reaches (hnext w hedge) hback)
    · exact h.acyclic a ha hcycle
  · intro a ha hmem
    rcases List.mem_cons.mp hmem with rfl | hmem
    · exact hv ha
    · exact h.apart a (List.mem_cons_of_mem _ ha) hmem

/-- Settling one vertex after another settles them all. -/
theorem foldlM_settled {step : List α → α → Option (List α)} {vs : List α}
    (hstep : ∀ visited visited' v, step visited v = some visited' → Settled next visiting visited →
      Settled next visiting visited' ∧ visited ⊆ visited' ∧ v ∈ visited')
    (h : vs.foldlM step visited = some visited') (hsettled : Settled next visiting visited) :
    Settled next visiting visited' ∧ visited ⊆ visited' ∧ ∀ v ∈ vs, v ∈ visited' := by
  induction vs generalizing visited with
  | nil =>
    obtain rfl : visited = visited' := Option.some.inj h
    exact ⟨hsettled, List.Subset.refl _, fun v hv => absurd hv List.not_mem_nil⟩
  | cons v vs ih =>
    rw [List.foldlM_cons] at h
    obtain ⟨between, hfirst, hrest⟩ := Option.bind_eq_some_iff.mp h
    obtain ⟨hbetween, hsub, hmem⟩ := hstep _ _ _ hfirst hsettled
    obtain ⟨hlast, hsub', hall⟩ := ih hrest hbetween
    exact ⟨hlast, List.Subset.trans hsub hsub', List.forall_mem_cons.mpr ⟨hsub' hmem, hall⟩⟩

/-- What a visit leaves behind. -/
theorem visit_settled (h : visit next fuel visiting visited v = some visited')
    (hsettled : Settled next visiting visited) :
    Settled next visiting visited' ∧ visited ⊆ visited' ∧ v ∈ visited' := by
  induction fuel generalizing visiting visited visited' v with
  | zero => cases h
  | succ fuel ih =>
    unfold visit at h
    by_cases hvisiting : v ∈ visiting
    · rw [if_pos hvisiting] at h
      cases h
    rw [if_neg hvisiting] at h
    by_cases hvisited : v ∈ visited
    · rw [if_pos hvisited] at h
      obtain rfl := Option.some.inj h
      exact ⟨hsettled, List.Subset.refl _, hvisited⟩
    rw [if_neg hvisited] at h
    obtain ⟨after, hfold, rfl⟩ := Option.map_eq_some_iff.mp h
    have hopened : Settled next (v :: visiting) visited :=
      ⟨hsettled.closed, hsettled.acyclic, List.forall_mem_cons.mpr ⟨hvisited, hsettled.apart⟩⟩
    obtain ⟨hafter, hsub, hnext⟩ := foldlM_settled (fun _ _ _ => ih) hfold hopened
    exact ⟨hafter.cons hnext hvisiting, List.subset_cons_of_subset _ hsub, List.mem_cons_self⟩

omit [DecidableEq α] in
theorem foldlM_isSome {step : List α → α → Option (List α)} {vs : List α}
    (hstep : ∀ v ∈ vs, ∀ visited, ∃ visited', step visited v = some visited') :
    ∃ visited', vs.foldlM step visited = some visited' := by
  induction vs generalizing visited with
  | nil => exact ⟨visited, rfl⟩
  | cons v vs ih =>
    obtain ⟨between, hfirst⟩ := hstep v List.mem_cons_self visited
    obtain ⟨visited', hrest⟩ := @ih between fun w hw => hstep w (List.mem_cons_of_mem _ hw)
    refine ⟨visited', ?_⟩
    rw [List.foldlM_cons, hfirst]
    exact hrest

/-- Without a cycle the vertices being visited form a path, which the fuel outlasts. -/
theorem exists_visit (hclosed : ∀ v ∈ vertices, ∀ w ∈ next v, w ∈ vertices)
    (hacyclic : ∀ v ∈ vertices, ¬TransGen (Edge next) v v) (hnodup : visiting.Nodup) (hsub : visiting ⊆ vertices)
    (hpath : ∀ u ∈ visiting, TransGen (Edge next) u v) (hv : v ∈ vertices)
    (hfuel : vertices.length < fuel + visiting.length) :
    ∃ visited', visit next fuel visiting visited v = some visited' := by
  induction fuel generalizing visiting visited v with
  | zero =>
    have hlength : visiting.length ≤ vertices.length := (List.Nodup.subperm hnodup hsub).length_le
    omega
  | succ fuel ih =>
    have hvisiting : v ∉ visiting := fun hmem => hacyclic v hv (hpath v hmem)
    unfold visit
    rw [if_neg hvisiting]
    by_cases hvisited : v ∈ visited
    · exact ⟨visited, if_pos hvisited⟩
    rw [if_neg hvisited]
    have hchildren : ∀ w ∈ next v, ∀ seen, ∃ seen', visit next fuel (v :: visiting) seen w = some seen' := by
      intro w hw seen
      refine ih (List.nodup_cons.mpr ⟨hvisiting, hnodup⟩) (List.cons_subset.mpr ⟨hv, hsub⟩) ?_
        (hclosed v hv w hw) ?_
      · intro u hu
        rcases List.mem_cons.mp hu with rfl | hu
        · exact .single hw
        · exact (hpath u hu).tail hw
      · rw [List.length_cons]
        omega
    obtain ⟨after, hafter⟩ := foldlM_isSome hchildren
    exact ⟨v :: after, by rw [hafter]; rfl⟩

/-- The visit succeeds exactly on the graphs without a cycle. -/
theorem visitAll_isSome_iff (hclosed : ∀ v ∈ vertices, ∀ w ∈ next v, w ∈ vertices) :
    (visitAll next vertices).isSome ↔ ∀ v ∈ vertices, ¬TransGen (Edge next) v v := by
  constructor
  · intro h v hv
    obtain ⟨visited, hvisited⟩ := Option.isSome_iff_exists.mp h
    obtain ⟨hsettled, -, hall⟩ := foldlM_settled (fun _ _ _ => visit_settled) hvisited settled_nil
    exact hsettled.acyclic v (hall v hv)
  · intro hacyclic
    refine Option.isSome_iff_exists.mpr (foldlM_isSome fun v hv visited => ?_)
    exact exists_visit hclosed hacyclic List.nodup_nil (List.nil_subset _) (fun u hu => absurd hu List.not_mem_nil) hv
      (by rw [List.length_nil]; omega)

end DepthFirst
