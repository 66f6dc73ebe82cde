import IndiaSwing.Identity
import IndiaSwing.Lib.JsonRoundTrip

namespace IndiaSwing

open JsonText KeySort

section Parts

variable (ctx : IdentityContext)

/-- The entries of a mapping that its identity has. -/
def visibleEntries (entries : List (IdentityValue × IdentityValue)) : List (IdentityValue × IdentityValue) :=
  entries.filter fun entry => !sensitiveKey ctx entry.1

/-- The fields of a dataclass that its identity has. -/
def visibleFields (names : List String) (values : List IdentityValue) : List (String × IdentityValue) :=
  (names.zip values).filter fun field => !isSensitiveAttribute field.1

theorem identityItems_eq (items : List IdentityValue) :
    identityItems ctx items = items.map (identityValue ctx) := by
  induction items with
  | nil => rfl
  | cons item items ih => rw [identityItems, ih, List.map_cons]

theorem identityPairs_eq (entries : List (IdentityValue × IdentityValue)) :
    identityPairs ctx entries =
      (visibleEntries ctx entries).map fun entry => (identityValue ctx entry.1, identityValue ctx entry.2) := by
  induction entries with
  | nil => rfl
  | cons entry entries ih =>
    obtain ⟨key, item⟩ := entry
    unfold visibleEntries at ih ⊢
    rw [identityPairs, ih]
    by_cases hkey : sensitiveKey ctx key = true
    · simp [hkey]
    · simp [hkey]

theorem safeFields_eq (names : List String) (values : List IdentityValue) :
    safeFields ctx names values =
      (visibleFields names values).map fun field => (field.1, identityValue ctx field.2) := by
  induction names generalizing values with
  | nil => simp [safeFields, visibleFields]
  | cons name names ih =>
    cases values with
    | nil => simp [safeFields, visibleFields]
    | cons value values =>
      have ih := ih values
      unfold visibleFields at ih ⊢
      rw [safeFields, ih]
      by_cases hname : isSensitiveAttribute name = true
      · simp [hname]
      · simp [hname]

theorem zip_names (names : List String) (values : List IdentityValue) :
    (names.zip values).map (·.1) <+: names := by
  induction names generalizing values with
  | nil => exact List.nil_prefix
  | cons name names ih =>
    cases values with
    | nil => exact List.nil_prefix
    | cons value values => simpa using ih values

theorem visibleFields_names {names : List String} (h : names.Nodup) (values : List IdentityValue) :
    ((visibleFields names values).map (·.1)).Nodup := by
  have hsub : ((visibleFields names values).map (·.1)).Sublist ((names.zip values).map (·.1)) :=
    List.filter_sublist.map _
  exact h.sublist (hsub.trans (zip_names names values).sublist)

end Parts

section Distinct

variable {ctx : IdentityContext}

mutual

/-- No object of an identity has a key twice. -/
theorem distinct_identityValue (value : IdentityValue) : Distinct (identityValue ctx value) := by
  cases value with
  | none => trivial
  | bool value => trivial
  | int value => trivial
  | str value => trivial
  | decimal value => exact ⟨List.nodup_singleton _, trivial, trivial⟩
  | datetime value => exact ⟨List.nodup_singleton _, trivial, trivial⟩
  | date value => exact ⟨List.nodup_singleton _, trivial, trivial⟩
  | bytes value =>
    have hkeys : ["$bytes_sha256", "length"].Nodup := by decide
    exact ⟨hkeys, trivial, trivial, trivial⟩
  | enum typeName value =>
    have hkeys : ["$enum", "value"].Nodup := by decide
    exact ⟨hkeys, trivial, distinct_identityValue value, trivial⟩
  | tuple items => exact ⟨List.nodup_singleton _, distinct_identityItems items, trivial⟩
  | list items => exact ⟨List.nodup_singleton _, distinct_identityItems items, trivial⟩
  | set items =>
    refine ⟨List.nodup_singleton _, (distinctItems_iff _).mpr fun item hitem => ?_, trivial⟩
    have hmem := (perm_sortOn dumps (identityItems ctx items)).mem_iff.mp hitem
    exact (distinctItems_iff _).mp (distinct_identityItems items) item hmem
  | mapping entries =>
    refine ⟨List.nodup_singleton _, (distinctItems_iff _).mpr fun item hitem => ?_, trivial⟩
    obtain ⟨pair, hpair, rfl⟩ := List.mem_map.mp hitem
    have hmem := (perm_sortOn (fun pair : Json × Json => dumps pair.1) (identityPairs ctx entries)).mem_iff.mp hpair
    obtain ⟨hkey, hvalue⟩ := distinct_identityPairs entries pair hmem
    exact ⟨hkey, hvalue, trivial⟩
  | dataclass typeName names values =>
    have hkeys : ["$dataclass", "fields"].Nodup := by decide
    have hnames : ((safeFields ctx names.1 values).map (·.1)).Nodup := by
      rw [safeFields_eq, List.map_map]
      exact visibleFields_names names.2 values
    exact ⟨hkeys, trivial, ⟨hnames, distinct_safeFields names.1 values⟩, trivial⟩

theorem distinct_identityItems (items : List IdentityValue) : DistinctItems (identityItems ctx items) := by
  cases items with
  | nil => trivial
  | cons item items => exact ⟨distinct_identityValue item, distinct_identityItems items⟩

theorem distinct_identityPairs (entries : List (IdentityValue × IdentityValue)) :
    ∀ pair ∈ identityPairs ctx entries, Distinct pair.1 ∧ Distinct pair.2 := by
  cases entries with
  | nil => simp [identityPairs]
  | cons entry entries =>
    obtain ⟨key, item⟩ := entry
    have hkey := distinct_identityValue key
    have hitem := distinct_identityValue item
    have hentries := distinct_identityPairs entries
    intro pair hpair
    rw [identityPairs] at hpair
    split at hpair
    · exact hentries pair hpair
    · rcases List.mem_cons.mp hpair with rfl | hpair
      · exact ⟨hkey, hitem⟩
      · exact hentries pair hpair

theorem distinct_safeFields (names : List String) (values : List IdentityValue) :
    DistinctEntries (safeFields ctx names values) := by
  cases values with
  | nil => cases names <;> trivial
  | cons value values =>
    cases names with
    | nil => trivial
    | cons name names =>
      have hvalue := distinct_identityValue value
      have hvalues := distinct_safeFields names values
      rw [safeFields]
      split
      · exact hvalues
      · exact ⟨hvalue, hvalues⟩

end

end Distinct

section Canonical

variable (ctx : IdentityContext)

/-- The identity of a value with the keys of its objects in order. -/
def canonicalIdentity (value : IdentityValue) : Json := sortKeys (identityValue ctx value)

def canonicalEntry (entry : IdentityValue × IdentityValue) : Json × Json :=
  (canonicalIdentity ctx entry.1, canonicalIdentity ctx entry.2)

def canonicalField (field : String × IdentityValue) : String × Json :=
  (field.1, canonicalIdentity ctx field.2)

def pairJson (pair : Json × Json) : Json := .array [pair.1, pair.2]

variable {ctx} {value other : IdentityValue}

theorem text_canonicalIdentity :
    compactText (canonicalIdentity ctx value) = compactText (canonicalIdentity ctx other) ↔
      canonicalIdentity ctx value = canonicalIdentity ctx other :=
  dumps_inj (distinct_identityValue value) (distinct_identityValue other)

theorem canonical_items (items : List IdentityValue) :
    sortItems (identityItems ctx items) = items.map (canonicalIdentity ctx) := by
  rw [sortItems_eq, identityItems_eq, List.map_map]
  rfl

@[simp] theorem canonical_none : canonicalIdentity ctx .none = .null := rfl

@[simp] theorem canonical_bool (b : Bool) : canonicalIdentity ctx (.bool b) = .bool b := rfl

@[simp] theorem canonical_int (n : ℤ) : canonicalIdentity ctx (.int n) = .number n := rfl

@[simp] theorem canonical_str (s : String) : canonicalIdentity ctx (.str s) = .string s := rfl

@[simp] theorem canonical_decimal (d : DecimalText.Decimal) :
    canonicalIdentity ctx (.decimal d) = .object [("$decimal", .string (String.ofList d.str))] := rfl

@[simp] theorem canonical_datetime (t : AwareDatetime) :
    canonicalIdentity ctx (.datetime t) =
      .object [("$datetime", .string (String.ofList (t.instant.isoformat ++ ['+', '0', '0', ':', '0', '0'])))] :=
  rfl

@[simp] theorem canonical_date (d : CivilTime.CivilDate) :
    canonicalIdentity ctx (.date d) = .object [("$date", .string (String.ofList d.isoformat))] := rfl

@[simp] theorem canonical_bytes (bytes : List UInt8) :
    canonicalIdentity ctx (.bytes bytes) =
      .object [("$bytes_sha256", .string (ctx.hexdigest bytes)), ("length", .number bytes.length)] := by
  have hle : "$bytes_sha256" ≤ "length" := by decide
  simp [canonicalIdentity, identityValue, sortKeys, sortEntries, hle]

@[simp] theorem canonical_enum (typeName : String) (value : IdentityValue) :
    canonicalIdentity ctx (.enum typeName value) =
      .object [("$enum", .string typeName), ("value", canonicalIdentity ctx value)] := by
  have hle : "$enum" ≤ "value" := by decide
  simp [canonicalIdentity, identityValue, sortKeys, sortEntries, hle]

@[simp] theorem canonical_tuple (items : List IdentityValue) :
    canonicalIdentity ctx (.tuple items) =
      .object [("$tuple", .array (items.map (canonicalIdentity ctx)))] := by
  rw [← canonical_items]
  rfl

@[simp] theorem canonical_list (items : List IdentityValue) :
    canonicalIdentity ctx (.list items) =
      .object [("$list", .array (items.map (canonicalIdentity ctx)))] := by
  rw [← canonical_items]
  rfl

@[simp] theorem canonical_set (items : List IdentityValue) :
    canonicalIdentity ctx (.set items) =
      .object [("$set", .array (sortOn compactText (items.map (canonicalIdentity ctx))))] := by
  have hsort : sortItems (sortOn dumps (identityItems ctx items)) =
      sortOn compactText (items.map (canonicalIdentity ctx)) := by
    rw [sortItems_eq, map_sortOn dumps compactText sortKeys fun _ => rfl, ← sortItems_eq, canonical_items]
  rw [← hsort]
  rfl

@[simp] theorem canonical_mapping (entries : List (IdentityValue × IdentityValue)) :
    canonicalIdentity ctx (.mapping entries) =
      .object [("$mapping", .array ((sortOn (fun pair => compactText pair.1)
        ((visibleEntries ctx entries).map (canonicalEntry ctx))).map pairJson))] := by
  have hsort : sortItems ((sortOn (fun pair => dumps pair.1) (identityPairs ctx entries)).map
      fun pair => .array [pair.1, pair.2]) =
      (sortOn (fun pair => compactText pair.1) ((visibleEntries ctx entries).map (canonicalEntry ctx))).map pairJson := by
    have hpairs : (identityPairs ctx entries).map (fun pair => (sortKeys pair.1, sortKeys pair.2)) =
        (visibleEntries ctx entries).map (canonicalEntry ctx) := by
      rw [identityPairs_eq, List.map_map]
      rfl
    rw [sortItems_eq, List.map_map, ← hpairs,
      ← map_sortOn (fun pair : Json × Json => dumps pair.1) (fun pair : Json × Json => compactText pair.1)
        (fun pair => (sortKeys pair.1, sortKeys pair.2)) fun _ => rfl, List.map_map]
    rfl
  rw [← hsort]
  rfl

@[simp] theorem canonical_dataclass (typeName : String) (names : {names : List String // names.Nodup})
    (values : List IdentityValue) :
    canonicalIdentity ctx (.dataclass typeName names values) =
      .object [("$dataclass", .string typeName),
        ("fields", .object (sortOn (fun entry : String × Json => entry.1)
          ((visibleFields names.1 values).map (canonicalField ctx))))] := by
  have hle : "$dataclass" ≤ "fields" := by decide
  have hfields : sortEntries (safeFields ctx names.1 values) =
      (visibleFields names.1 values).map (canonicalField ctx) := by
    rw [sortEntries_eq, safeFields_eq, List.map_map]
    rfl
  rw [← hfields]
  simp [canonicalIdentity, identityValue, sortKeys, sortEntries, hle, sortOn]

end Canonical

end IndiaSwing
