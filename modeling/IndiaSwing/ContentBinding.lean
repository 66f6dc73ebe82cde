import IndiaSwing.IdentityText

namespace IndiaSwing

open JsonText KeySort

section SameIdentity

variable (ctx : IdentityContext)

mutual

/-- Structural equality up to the text of a decimal, the moment of a datetime, the order of sets, mappings
and fields, and the erasure of sensitive keys and fields. -/
inductive SameIdentity : IdentityValue → IdentityValue → Prop
  | none : SameIdentity .none .none
  | bool (b : Bool) : SameIdentity (.bool b) (.bool b)
  | int (n : ℤ) : SameIdentity (.int n) (.int n)
  | str (s : String) : SameIdentity (.str s) (.str s)
  | decimal {d e : DecimalText.Decimal} (h : d.str = e.str) : SameIdentity (.decimal d) (.decimal e)
  | datetime {t u : AwareDatetime} (h : t.instant = u.instant) : SameIdentity (.datetime t) (.datetime u)
  | date (d : CivilTime.CivilDate) : SameIdentity (.date d) (.date d)
  | bytes (bytes : List UInt8) : SameIdentity (.bytes bytes) (.bytes bytes)
  | enum (typeName : String) {value other : IdentityValue} (h : SameIdentity value other) :
    SameIdentity (.enum typeName value) (.enum typeName other)
  | tuple {items others : List IdentityValue} (h : List.Forall₂ SameIdentity items others) :
    SameIdentity (.tuple items) (.tuple others)
  | list {items others : List IdentityValue} (h : List.Forall₂ SameIdentity items others) :
    SameIdentity (.list items) (.list others)
  | set {items order others : List IdentityValue} (hperm : items.Perm order)
    (h : List.Forall₂ SameIdentity order others) : SameIdentity (.set items) (.set others)
  | mapping {entries order others : List (IdentityValue × IdentityValue)}
    (hperm : (visibleEntries ctx entries).Perm order)
    (h : List.Forall₂ SameEntry order (visibleEntries ctx others)) :
    SameIdentity (.mapping entries) (.mapping others)
  | dataclass (typeName : String) {names names' : {names : List String // names.Nodup}}
    {values values' : List IdentityValue} {order : List (String × IdentityValue)}
    (hperm : (visibleFields names.1 values).Perm order)
    (h : List.Forall₂ SameField order (visibleFields names'.1 values')) :
    SameIdentity (.dataclass typeName names values) (.dataclass typeName names' values')

inductive SameEntry : IdentityValue × IdentityValue → IdentityValue × IdentityValue → Prop
  | mk {key key' item item' : IdentityValue} (hkey : SameIdentity key key')
    (hitem : SameIdentity item item') : SameEntry (key, item) (key', item')

inductive SameField : String × IdentityValue → String × IdentityValue → Prop
  | mk (name : String) {value value' : IdentityValue} (h : SameIdentity value value') :
    SameField (name, value) (name, value')

end

/-- The parts of a value that its identity has, one level down. -/
def identityParts : IdentityValue → List IdentityValue
  | .enum _ value => [value]
  | .tuple items => items
  | .list items => items
  | .set items => items
  | .mapping entries => (visibleEntries ctx entries).flatMap fun entry => [entry.1, entry.2]
  | .dataclass _ names values => (visibleFields names.1 values).map (·.2)
  | _ => []

/-- A mapping inside the value has two keys that the identity does not tell apart, over items that it does:
its pairs are sorted by the keys alone. -/
inductive TiedKeys : IdentityValue → Prop
  | mapping {entries : List (IdentityValue × IdentityValue)} {entry other : IdentityValue × IdentityValue}
    (hentry : entry ∈ visibleEntries ctx entries) (hother : other ∈ visibleEntries ctx entries)
    (hkey : SameIdentity ctx entry.1 other.1) (hitem : ¬SameIdentity ctx entry.2 other.2) :
    TiedKeys (.mapping entries)
  | part {value part : IdentityValue} (hpart : part ∈ identityParts ctx value) (h : TiedKeys part) :
    TiedKeys value

end SameIdentity

section Parts

variable {ctx : IdentityContext} {value part : IdentityValue}

theorem mem_of_visibleFields {names : List String} {values : List IdentityValue}
    {field : String × IdentityValue} (h : field ∈ visibleFields names values) : field.2 ∈ values :=
  (List.of_mem_zip (List.mem_filter.mp h).1).2

theorem sizeOf_part (h : part ∈ identityParts ctx value) : sizeOf part < sizeOf value := by
  cases value with
  | enum typeName inner =>
    cases List.mem_singleton.mp h
    simp
  | tuple items =>
    have hmem : part ∈ items := h
    have hlt := List.sizeOf_lt_of_mem hmem
    simp only [IdentityValue.tuple.sizeOf_spec]
    omega
  | list items =>
    have hmem : part ∈ items := h
    have hlt := List.sizeOf_lt_of_mem hmem
    simp only [IdentityValue.list.sizeOf_spec]
    omega
  | set items =>
    have hmem : part ∈ items := h
    have hlt := List.sizeOf_lt_of_mem hmem
    simp only [IdentityValue.set.sizeOf_spec]
    omega
  | mapping entries =>
    obtain ⟨⟨key, item⟩, hentry, hmem⟩ := List.mem_flatMap.mp h
    have hlt := List.sizeOf_lt_of_mem (List.mem_filter.mp hentry).1
    simp only [Prod.mk.sizeOf_spec, IdentityValue.mapping.sizeOf_spec] at hlt ⊢
    rcases List.mem_pair.mp hmem with rfl | rfl
    · omega
    · omega
  | dataclass typeName names values =>
    obtain ⟨field, hfield, rfl⟩ := List.mem_map.mp h
    have hlt := List.sizeOf_lt_of_mem (mem_of_visibleFields hfield)
    simp only [IdentityValue.dataclass.sizeOf_spec]
    omega
  | _ => simp [identityParts] at h

/-- What holds of a value when it holds of its parts holds of every value. -/
theorem identity_induction (ctx : IdentityContext) {motive : IdentityValue → Prop}
    (step : ∀ value, (∀ part ∈ identityParts ctx value, motive part) → motive value)
    (value : IdentityValue) : motive value :=
  step value fun part _ => identity_induction ctx step part
termination_by sizeOf value
decreasing_by exact sizeOf_part ‹_›

theorem mem_parts_of_entry {entries : List (IdentityValue × IdentityValue)}
    {entry : IdentityValue × IdentityValue} (h : entry ∈ visibleEntries ctx entries) :
    entry.1 ∈ identityParts ctx (.mapping entries) ∧ entry.2 ∈ identityParts ctx (.mapping entries) :=
  ⟨List.mem_flatMap.mpr ⟨entry, h, by simp⟩, List.mem_flatMap.mpr ⟨entry, h, by simp⟩⟩

end Parts

section Kinds

/-- The constructor of a value. -/
inductive IdentityKind
  | none | bool | int | str | decimal | datetime | date | bytes | enum | tuple | list | set | mapping
  | dataclass
  deriving DecidableEq

def identityKind : IdentityValue → IdentityKind
  | .none => .none
  | .bool _ => .bool
  | .int _ => .int
  | .str _ => .str
  | .decimal _ => .decimal
  | .datetime _ => .datetime
  | .date _ => .date
  | .bytes _ => .bytes
  | .enum _ _ => .enum
  | .tuple _ => .tuple
  | .list _ => .list
  | .set _ => .set
  | .mapping _ => .mapping
  | .dataclass _ _ _ => .dataclass

/-- The tag that a first key is. -/
def tagKind (key : String) : Option IdentityKind :=
  if key = "$decimal" then some .decimal
  else if key = "$datetime" then some .datetime
  else if key = "$date" then some .date
  else if key = "$bytes_sha256" then some .bytes
  else if key = "$enum" then some .enum
  else if key = "$tuple" then some .tuple
  else if key = "$list" then some .list
  else if key = "$set" then some .set
  else if key = "$mapping" then some .mapping
  else if key = "$dataclass" then some .dataclass
  else none

def jsonKind : Json → Option IdentityKind
  | .null => some .none
  | .bool _ => some .bool
  | .number _ => some .int
  | .string _ => some .str
  | .object ((key, _) :: _) => tagKind key
  | _ => none

variable {ctx : IdentityContext} {value other : IdentityValue}

/-- The tag of a canonical identity tells the kind of its value; text inside the value has no part in it. -/
theorem jsonKind_canonicalIdentity (value : IdentityValue) :
    jsonKind (canonicalIdentity ctx value) = some (identityKind value) := by
  cases value <;> simp [jsonKind, tagKind, identityKind]

theorem identityKind_eq (h : canonicalIdentity ctx value = canonicalIdentity ctx other) :
    identityKind value = identityKind other := by
  have hkind := congrArg jsonKind h
  rw [jsonKind_canonicalIdentity, jsonKind_canonicalIdentity] at hkind
  exact Option.some.inj hkind

end Kinds

section Reading

variable {ctx : IdentityContext} {value other : IdentityValue}

theorem pairJson_injective : Function.Injective pairJson := by
  rintro ⟨key, item⟩ ⟨key', item'⟩ h
  simpa [pairJson] using h

/-- Values with one canonical identity are the same up to what the identity leaves out. -/
theorem sameIdentity_of_canonical (hdigest : Function.Injective ctx.hexdigest) (value : IdentityValue) :
    ∀ other, canonicalIdentity ctx value = canonicalIdentity ctx other → SameIdentity ctx value other := by
  induction value using identity_induction ctx with
  | step value ih =>
    intro other h
    have hkind := identityKind_eq h
    cases value with
    | none =>
      cases other <;> cases hkind
      exact .none
    | bool b =>
      cases other <;> cases hkind
      simp only [canonical_bool, Json.bool.injEq] at h
      exact h ▸ .bool b
    | int n =>
      cases other <;> cases hkind
      simp only [canonical_int, Json.number.injEq] at h
      exact h ▸ .int n
    | str s =>
      cases other <;> cases hkind
      simp only [canonical_str, Json.string.injEq] at h
      exact h ▸ .str s
    | decimal d =>
      cases other <;> cases hkind
      simp only [canonical_decimal, Json.object.injEq, List.cons.injEq, Prod.mk.injEq, Json.string.injEq,
        true_and, and_true] at h
      exact .decimal (String.ofList_injective h)
    | datetime t =>
      cases other <;> cases hkind
      simp only [canonical_datetime, Json.object.injEq, List.cons.injEq, Prod.mk.injEq, Json.string.injEq,
        true_and, and_true] at h
      have htext := List.append_cancel_right (String.ofList_injective h)
      exact .datetime (CivilTime.Instant.isoformat_injective htext)
    | date d =>
      cases other <;> cases hkind
      simp only [canonical_date, Json.object.injEq, List.cons.injEq, Prod.mk.injEq, Json.string.injEq,
        true_and, and_true] at h
      exact CivilTime.CivilDate.isoformat_injective (String.ofList_injective h) ▸ .date d
    | bytes bytes =>
      cases other <;> cases hkind
      simp only [canonical_bytes, Json.object.injEq, List.cons.injEq, Prod.mk.injEq, Json.string.injEq,
        true_and, and_true] at h
      exact hdigest h.1 ▸ .bytes bytes
    | enum typeName inner =>
      cases other <;> cases hkind
      simp only [canonical_enum, Json.object.injEq, List.cons.injEq, Prod.mk.injEq, Json.string.injEq,
        true_and, and_true] at h
      obtain ⟨rfl, hinner⟩ := h
      exact .enum typeName (ih inner (List.mem_singleton_self inner) _ hinner)
    | tuple items =>
      cases other <;> cases hkind
      simp only [canonical_tuple, Json.object.injEq, List.cons.injEq, Prod.mk.injEq, Json.array.injEq,
        true_and, and_true] at h
      exact .tuple (forall₂_of_images ih h)
    | list items =>
      cases other <;> cases hkind
      simp only [canonical_list, Json.object.injEq, List.cons.injEq, Prod.mk.injEq, Json.array.injEq,
        true_and, and_true] at h
      exact .list (forall₂_of_images ih h)
    | set items =>
      cases other <;> cases hkind
      simp only [canonical_set, Json.object.injEq, List.cons.injEq, Prod.mk.injEq, Json.array.injEq,
        true_and, and_true] at h
      obtain ⟨order, hperm, hitems⟩ := forall₂_of_perm_images ih (perm_of_sortOn_eq _ h)
      exact .set hperm hitems
    | mapping entries =>
      cases other <;> cases hkind
      simp only [canonical_mapping, Json.object.injEq, List.cons.injEq, Prod.mk.injEq, Json.array.injEq,
        true_and, and_true] at h
      have hpairs := perm_of_sortOn_eq _ (pairJson_injective.list_map h)
      have hrel : ∀ entry ∈ visibleEntries ctx entries, ∀ entry',
          canonicalEntry ctx entry = canonicalEntry ctx entry' → SameEntry ctx entry entry' := by
        rintro ⟨key, item⟩ hentry ⟨key', item'⟩ heq
        obtain ⟨hkey, hitem⟩ := Prod.mk.inj heq
        have hparts := mem_parts_of_entry hentry
        exact .mk (ih key hparts.1 key' hkey) (ih item hparts.2 item' hitem)
      obtain ⟨order, hperm, hentries⟩ := forall₂_of_perm_images hrel hpairs
      exact .mapping hperm hentries
    | dataclass typeName names values =>
      cases other <;> cases hkind
      simp only [canonical_dataclass, Json.object.injEq, List.cons.injEq, Prod.mk.injEq, Json.string.injEq,
        true_and, and_true] at h
      obtain ⟨rfl, hfields⟩ := h
      have hrel : ∀ field ∈ visibleFields names.1 values, ∀ field',
          canonicalField ctx field = canonicalField ctx field' → SameField ctx field field' := by
        rintro ⟨name, inner⟩ hfield ⟨name', inner'⟩ heq
        obtain ⟨rfl, hinner⟩ := Prod.mk.inj heq
        exact .mk name (ih inner (List.mem_map.mpr ⟨_, hfield, rfl⟩) inner' hinner)
      obtain ⟨order, hperm, hall⟩ := forall₂_of_perm_images hrel (perm_of_sortOn_eq _ hfields)
      exact .dataclass typeName hperm hall

theorem sameIdentity_refl (hdigest : Function.Injective ctx.hexdigest) (value : IdentityValue) :
    SameIdentity ctx value value := sameIdentity_of_canonical hdigest value value rfl

end Reading

end IndiaSwing
