import Mathlib.Data.List.Basic

namespace ExceptFold

variable {ε σ α β : Type*}

/-- A loop that threads a state, keeps one output for each item, and stops at the first error. -/
def foldItems (f : σ → α → Except ε (β × σ)) : σ → List α → Except ε (List β × σ)
  | s, [] => .ok ([], s)
  | s, a :: l =>
    match f s a with
    | .error e => .error e
    | .ok (b, s') =>
      match foldItems f s' l with
      | .error e => .error e
      | .ok (bs, t) => .ok (b :: bs, t)

variable {f : σ → α → Except ε (β × σ)} {s s' t : σ} {a : α} {l l' : List α} {bs : List β} {e : ε}

@[simp] theorem foldItems_nil : foldItems f s [] = .ok ([], s) := rfl

theorem foldItems_cons_ok (h : foldItems f s (a :: l) = .ok (bs, t)) :
    ∃ b s' rest, f s a = .ok (b, s') ∧ foldItems f s' l = .ok (rest, t) ∧ bs = b :: rest := by
  unfold foldItems at h
  split at h
  next => cases h
  next b s' hf =>
    split at h
    next => cases h
    next rest t' hr =>
      obtain ⟨rfl, rfl⟩ := Prod.mk.inj (Except.ok.inj h)
      exact ⟨b, s', rest, hf, hr, rfl⟩

theorem foldItems_cons_of_ok {b : β} {rest : List β} (hf : f s a = .ok (b, s'))
    (hr : foldItems f s' l = .ok (rest, t)) : foldItems f s (a :: l) = .ok (b :: rest, t) := by
  simp only [foldItems, hf, hr]

theorem foldItems_length (h : foldItems f s l = .ok (bs, t)) : bs.length = l.length := by
  induction l generalizing s bs with
  | nil => simp only [foldItems_nil, Except.ok.injEq, Prod.mk.injEq] at h; simp [← h.1]
  | cons a l ih =>
    obtain ⟨b, s', rest, -, hr, rfl⟩ := foldItems_cons_ok h
    simp [ih hr]

/-- What one step keeps about the outputs so far and the state, the whole loop keeps. -/
theorem foldItems_invariant {P : List β → σ → Prop} (done : List β) (hs : P done s)
    (step : ∀ done s a b s', a ∈ l → P done s → f s a = .ok (b, s') → P (done ++ [b]) s')
    (h : foldItems f s l = .ok (bs, t)) : P (done ++ bs) t := by
  induction l generalizing s done bs with
  | nil =>
    simp only [foldItems_nil, Except.ok.injEq, Prod.mk.injEq] at h
    simpa [← h.1, ← h.2] using hs
  | cons a l ih =>
    obtain ⟨b, s', rest, hf, hr, rfl⟩ := foldItems_cons_ok h
    have hnext : P (done ++ [b]) s' := step done s a b s' List.mem_cons_self hs hf
    have htail := ih (done ++ [b]) hnext (fun done s a b s' ha => step done s a b s' (List.mem_cons_of_mem _ ha)) hr
    simpa using htail

/-- A loop that fails, failed at one item, in a state that the items before it reached. -/
theorem foldItems_error (h : foldItems f s l = .error e) :
    ∃ before a after outs s', l = before ++ a :: after ∧ foldItems f s before = .ok (outs, s') ∧
      f s' a = .error e := by
  induction l generalizing s with
  | nil => cases h
  | cons a l ih =>
    unfold foldItems at h
    split at h
    next e' hf =>
      obtain rfl := Except.error.inj h
      exact ⟨[], a, l, [], s, rfl, rfl, hf⟩
    next b s' hf =>
      split at h
      next e' hr =>
        obtain rfl := Except.error.inj h
        obtain ⟨before, c, after, outs, u, rfl, hb, hc⟩ := ih hr
        exact ⟨a :: before, c, after, b :: outs, u, rfl, foldItems_cons_of_ok hf hb, hc⟩
      next => cases h

/-- When each step succeeds wherever the invariant holds, the loop succeeds. -/
theorem foldItems_total {P : σ → Prop} (hs : P s)
    (step : ∀ s a, a ∈ l → P s → ∃ b s', f s a = .ok (b, s') ∧ P s') :
    ∃ bs t, foldItems f s l = .ok (bs, t) ∧ P t := by
  induction l generalizing s with
  | nil => exact ⟨[], s, rfl, hs⟩
  | cons a l ih =>
    obtain ⟨b, s', hf, hs'⟩ := step s a List.mem_cons_self hs
    obtain ⟨bs, t, hr, ht⟩ := ih hs' (fun s a ha => step s a (List.mem_cons_of_mem _ ha))
    exact ⟨b :: bs, t, foldItems_cons_of_ok hf hr, ht⟩

/-- A loop whose steps give the images of the outputs of another gives the images of all of them. -/
theorem foldItems_map {γ : Type*} {g : σ → α → Except ε (γ × σ)} {φ : β → γ}
    (step : ∀ s a, g s a = (f s a).map (Prod.map φ id)) :
    foldItems g s l = (foldItems f s l).map (Prod.map (List.map φ) id) := by
  induction l generalizing s with
  | nil => rfl
  | cons a l ih =>
    rw [foldItems, foldItems, step]
    cases hf : f s a with
    | error e => rfl
    | ok next =>
      obtain ⟨b, s'⟩ := next
      dsimp only [Except.map, Prod.map_apply, id_eq]
      rw [ih]
      cases foldItems f s' l with
      | error e => rfl
      | ok rest => rfl

end ExceptFold
