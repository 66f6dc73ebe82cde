import Mathlib.Data.List.Basic

namespace FirstHit

universe u

variable {ε : Type*} {α β : Type u}

/-- The first item that a fallible test hits, with what it found; the scan stops there. -/
def firstHit (test : α → Except ε (Option β)) : List α → Except ε (Option (α × β))
  | [] => .ok none
  | item :: rest =>
    match test item with
    | .error e => .error e
    | .ok (some found) => .ok (some (item, found))
    | .ok none => firstHit test rest

variable {test : α → Except ε (Option β)} {items more : List α} {item : α} {found : β}

theorem firstHit_cons_none (h : test item = .ok none) :
    firstHit test (item :: items) = firstHit test items := by
  simp only [firstHit, h]

theorem firstHit_some (h : firstHit test items = .ok (some (item, found))) :
    item ∈ items ∧ test item = .ok (some found) := by
  induction items with
  | nil => simp [firstHit] at h
  | cons first rest ih =>
    unfold firstHit at h
    split at h
    next => cases h
    next value hfirst =>
      obtain ⟨rfl, rfl⟩ := Prod.mk.inj (Option.some.inj (Except.ok.inj h))
      exact ⟨List.mem_cons_self, hfirst⟩
    next =>
      obtain ⟨hmem, htest⟩ := ih h
      exact ⟨List.mem_cons_of_mem _ hmem, htest⟩

/-- A scan that hit something hits the same when more items follow. -/
theorem firstHit_append_some (h : firstHit test items = .ok (some (item, found))) :
    firstHit test (items ++ more) = .ok (some (item, found)) := by
  induction items with
  | nil => simp [firstHit] at h
  | cons first rest ih =>
    unfold firstHit at h
    split at h
    next => cases h
    next value hfirst =>
      rw [List.cons_append, ← h]
      simp only [firstHit, hfirst]
    next hfirst =>
      rw [List.cons_append, firstHit_cons_none hfirst]
      exact ih h

theorem firstHit_prefix_some {longer : List α} (hpre : items <+: longer)
    (h : firstHit test items = .ok (some (item, found))) :
    firstHit test longer = .ok (some (item, found)) := by
  obtain ⟨more, rfl⟩ := hpre
  exact firstHit_append_some h

end FirstHit
