import IndiaSwing.Lib.JsonRoundTrip

namespace JsonText

section Records

variable {ε : Type*}

/-- What stands under a key. -/
def item (entries : List (String × Json)) (key : String) : Json := (entries.lookup key).getD .null

/-- A value as an object with just the given keys. -/
def exactDict (keys : List String) (e : ε) : Json → Except ε (List (String × Json))
  | .object entries =>
    if (∀ key ∈ keys, key ∈ entries.map Prod.fst) ∧ ∀ key ∈ entries.map Prod.fst, key ∈ keys then .ok entries
    else .error e
  | _ => .error e

def exactList (e : ε) : Json → Except ε (List Json)
  | .array items => .ok items
  | _ => .error e

def exactString (e : ε) : Json → Except ε String
  | .string value => .ok value
  | _ => .error e

/-- The entries of an object with sorted keys. -/
def sortedEntries (entries : List (String × Json)) : List (String × Json) :=
  (sortEntries entries).insertionSort fun a b => a.1 ≤ b.1

variable {entries : List (String × Json)} {keys : List String} {key : String} {e : ε}

theorem sortKeys_object (entries : List (String × Json)) :
    sortKeys (.object entries) = .object (sortedEntries entries) := by rw [sortKeys, sortedEntries]

theorem sortKeys_array (items : List Json) : sortKeys (.array items) = .array (items.map sortKeys) := by
  rw [sortKeys, sortItems_eq]

@[simp] theorem sortKeys_string (value : String) : sortKeys (.string value) = .string value := by
  rw [sortKeys]

@[simp] theorem sortKeys_number (value : ℤ) : sortKeys (.number value) = .number value := by rw [sortKeys]

@[simp] theorem sortKeys_bool (value : Bool) : sortKeys (.bool value) = .bool value := by rw [sortKeys]

@[simp] theorem sortKeys_null : sortKeys .null = .null := by rw [sortKeys]

theorem lookup_eq_some_iff {α β : Type*} [BEq α] [LawfulBEq α] {entries : List (α × β)} {key : α} {value : β}
    (h : (entries.map (·.1)).Nodup) : entries.lookup key = some value ↔ (key, value) ∈ entries := by
  induction entries with
  | nil => simp
  | cons entry entries ih =>
    obtain ⟨key', value'⟩ := entry
    obtain ⟨hnew, hrest⟩ := List.nodup_cons.mp h
    by_cases hkey : key = key'
    · subst hkey
      have hnot : (key, value) ∉ entries := fun hmem => hnew (List.mem_map.mpr ⟨_, hmem, rfl⟩)
      simp [hnot, eq_comm]
    · have hbeq : (key == key') = false := by simpa using hkey
      rw [List.lookup_cons, hbeq]
      simp [ih hrest, hkey]

/-- Reordering entries with distinct keys keeps what stands under a key. -/
theorem lookup_perm {α β : Type*} [BEq α] [LawfulBEq α] {entries others : List (α × β)} {key : α}
    (h : (entries.map (·.1)).Nodup) (hperm : entries.Perm others) : entries.lookup key = others.lookup key := by
  have h' : (others.map (·.1)).Nodup := (hperm.map _).nodup_iff.mp h
  refine Option.ext fun value => ?_
  rw [lookup_eq_some_iff h, lookup_eq_some_iff h', hperm.mem_iff]

theorem lookup_sortEntries (entries : List (String × Json)) (key : String) :
    (sortEntries entries).lookup key = (entries.lookup key).map sortKeys := by
  induction entries with
  | nil => rfl
  | cons entry entries ih =>
    obtain ⟨key', value⟩ := entry
    rw [sortEntries, List.lookup_cons, List.lookup_cons, ih]
    cases key == key' <;> rfl

theorem sortedEntries_perm (entries : List (String × Json)) :
    (sortedEntries entries).Perm (sortEntries entries) := List.perm_insertionSort _ _

theorem item_sortedEntries (h : (entries.map (·.1)).Nodup) (key : String) :
    item (sortedEntries entries) key = sortKeys (item entries key) := by
  have hkeys : ((sortEntries entries).map (·.1)).Nodup := by
    rw [sortEntries_keys]
    exact h
  unfold item
  rw [← lookup_perm hkeys (sortedEntries_perm entries).symm, lookup_sortEntries]
  cases entries.lookup key with
  | none => simp
  | some value => rfl

/-- Objects that differ in the order of their keys only have the same under each key. -/
theorem item_eq_of_sortKeys {others : List (String × Json)} (h : (entries.map (·.1)).Nodup)
    (h' : (others.map (·.1)).Nodup) (heq : sortKeys (.object entries) = sortKeys (.object others))
    (key : String) : sortKeys (item entries key) = sortKeys (item others key) := by
  rw [sortKeys_object, sortKeys_object, Json.object.injEq] at heq
  rw [← item_sortedEntries h, ← item_sortedEntries h', heq]

theorem exactDict_sortKeys (h : entries.map (·.1) = keys) :
    exactDict keys e (sortKeys (.object entries)) = .ok (sortedEntries entries) := by
  have hkeys : ((sortedEntries entries).map (·.1)).Perm keys := by
    have hperm := (sortedEntries_perm entries).map (·.1)
    rwa [sortEntries_keys, h] at hperm
  rw [sortKeys_object, exactDict, if_pos]
  exact ⟨fun key hkey => hkeys.mem_iff.mpr hkey, fun key hkey => hkeys.mem_iff.mp hkey⟩

theorem exactList_sortKeys (items : List Json) :
    exactList e (sortKeys (.array items)) = .ok (items.map sortKeys) := by
  rw [sortKeys_array]
  rfl

/-- Reading each of the values that a list was written as. -/
theorem mapM_written {α : Type} {f : Json → Except ε α} {g : α → Json} {values : List α}
    (h : ∀ a ∈ values, f (sortKeys (g a)) = .ok a) : ((values.map g).map sortKeys).mapM f = .ok values := by
  induction values with
  | nil => rfl
  | cons a values ih =>
    rw [List.map_cons, List.map_cons, List.mapM_cons, h a List.mem_cons_self,
      ih fun b hb => h b (List.mem_cons_of_mem _ hb)]
    rfl

end Records

end JsonText
