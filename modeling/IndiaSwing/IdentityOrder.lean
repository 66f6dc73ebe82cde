import IndiaSwing.ContentBinding

namespace IndiaSwing

open JsonText KeySort

section Untied

variable {ctx : IdentityContext} {value other part : IdentityValue}

theorem keys_inj_of_nodup {fields : List (String × Json)} (h : (fields.map (·.1)).Nodup) :
    ∀ a ∈ fields, ∀ b ∈ fields, a.1 = b.1 → a = b := fun _ ha _ hb heq =>
  List.inj_on_of_nodup_map h ha hb heq

/-- Without tied keys, values that are the same have one canonical identity. -/
theorem canonical_of_sameIdentity (hdigest : Function.Injective ctx.hexdigest) (value : IdentityValue) :
    ¬TiedKeys ctx value → ∀ other, SameIdentity ctx value other →
      canonicalIdentity ctx value = canonicalIdentity ctx other := by
  induction value using identity_induction ctx with
  | step value ih =>
    intro htied other h
    have hparts : ∀ part ∈ identityParts ctx value, ∀ other, SameIdentity ctx part other →
        canonicalIdentity ctx part = canonicalIdentity ctx other :=
      fun part hpart => ih part hpart fun h => htied (.part hpart h)
    cases h with
    | none => rfl
    | bool b => rfl
    | int n => rfl
    | str s => rfl
    | decimal h => rw [canonical_decimal, canonical_decimal, h]
    | datetime h => rw [canonical_datetime, canonical_datetime, h]
    | date d => rfl
    | bytes bytes => rfl
    | enum typeName h => rw [canonical_enum, canonical_enum, hparts _ (List.mem_singleton_self _) _ h]
    | @tuple items others h =>
      have hmap : items.map (canonicalIdentity ctx) = others.map (canonicalIdentity ctx) :=
        map_eq_of_forall₂ hparts h
      rw [canonical_tuple, canonical_tuple, hmap]
    | @list items others h =>
      have hmap : items.map (canonicalIdentity ctx) = others.map (canonicalIdentity ctx) :=
        map_eq_of_forall₂ hparts h
      rw [canonical_list, canonical_list, hmap]
    | @set items order others hperm h =>
      have hmap : order.map (canonicalIdentity ctx) = others.map (canonicalIdentity ctx) :=
        map_eq_of_forall₂ (fun a ha => hparts a (hperm.mem_iff.mpr ha)) h
      have hsorted : sortOn compactText (items.map (canonicalIdentity ctx)) =
          sortOn compactText (others.map (canonicalIdentity ctx)) := by
        refine sortOn_eq_of_perm _ (hmap ▸ hperm.map _) ?_
        intro a ha b hb htext
        obtain ⟨item, -, rfl⟩ := List.mem_map.mp ha
        obtain ⟨item', -, rfl⟩ := List.mem_map.mp hb
        exact text_canonicalIdentity.mp htext
      rw [canonical_set, canonical_set, hsorted]
    | @mapping entries order others hperm h =>
      have hmap : order.map (canonicalEntry ctx) = (visibleEntries ctx others).map (canonicalEntry ctx) := by
        refine map_eq_of_forall₂ ?_ h
        rintro _ hentry _ ⟨hkey, hitem⟩
        have hmem := mem_parts_of_entry (hperm.mem_iff.mpr hentry)
        exact Prod.ext (hparts _ hmem.1 _ hkey) (hparts _ hmem.2 _ hitem)
      have hsorted : sortOn (fun pair => compactText pair.1)
            ((visibleEntries ctx entries).map (canonicalEntry ctx)) =
          sortOn (fun pair => compactText pair.1) ((visibleEntries ctx others).map (canonicalEntry ctx)) := by
        refine sortOn_eq_of_perm _ (hmap ▸ hperm.map _) ?_
        intro a ha b hb htext
        obtain ⟨entry, hentry, rfl⟩ := List.mem_map.mp ha
        obtain ⟨entry', hentry', rfl⟩ := List.mem_map.mp hb
        have hkey : canonicalIdentity ctx entry.1 = canonicalIdentity ctx entry'.1 :=
          text_canonicalIdentity.mp htext
        -- the keys are the same, so untied entries have the same items
        have hitem : SameIdentity ctx entry.2 entry'.2 := by
          by_contra hne
          exact htied (.mapping hentry hentry' (sameIdentity_of_canonical hdigest _ _ hkey) hne)
        exact Prod.ext hkey (hparts _ (mem_parts_of_entry hentry).2 _ hitem)
      rw [canonical_mapping, canonical_mapping, hsorted]
    | @dataclass typeName names names' values values' order hperm h =>
      have hmap : order.map (canonicalField ctx) =
          (visibleFields names'.1 values').map (canonicalField ctx) := by
        refine map_eq_of_forall₂ ?_ h
        rintro _ hfield _ ⟨name, hvalue⟩
        exact Prod.ext rfl (hparts _ (List.mem_map.mpr ⟨_, hperm.mem_iff.mpr hfield, rfl⟩) _ hvalue)
      have hnames : (((visibleFields names.1 values).map (canonicalField ctx)).map (·.1)).Nodup := by
        rw [List.map_map]
        exact visibleFields_names names.2 values
      have hsorted : sortOn (fun entry : String × Json => entry.1)
            ((visibleFields names.1 values).map (canonicalField ctx)) =
          sortOn (fun entry => entry.1) ((visibleFields names'.1 values').map (canonicalField ctx)) :=
        sortOn_eq_of_perm _ (hmap ▸ hperm.map _) (keys_inj_of_nodup hnames)
      rw [canonical_dataclass, canonical_dataclass, hsorted]

end Untied

section Replacing

variable {ctx : IdentityContext} {value other part part' : IdentityValue}

theorem keyText_of_sameIdentity {key key' : IdentityValue} (h : SameIdentity ctx key key') :
    keyText ctx key = keyText ctx key' := by
  cases h with
  | enum typeName h =>
    cases h <;> rfl
  | _ => rfl

theorem sensitiveKey_of_sameIdentity {key key' : IdentityValue} (h : SameIdentity ctx key key') :
    sensitiveKey ctx key = sensitiveKey ctx key' := by
  unfold sensitiveKey
  rw [keyText_of_sameIdentity h]

theorem visibleEntries_split {front back : List (IdentityValue × IdentityValue)}
    {entry : IdentityValue × IdentityValue} (h : sensitiveKey ctx entry.1 = false) :
    visibleEntries ctx (front ++ entry :: back) =
      visibleEntries ctx front ++ entry :: visibleEntries ctx back := by
  simp [visibleEntries, h]

theorem not_sensitive_of_visible {entries : List (IdentityValue × IdentityValue)}
    {entry : IdentityValue × IdentityValue} (h : entry ∈ visibleEntries ctx entries) :
    entry ∈ entries ∧ sensitiveKey ctx entry.1 = false := by
  simpa [visibleEntries] using h

/-- The value of one visible field in another's place. -/
theorem exists_replace_field {names : List String} {values : List IdentityValue}
    {field : String × IdentityValue} (h : field ∈ visibleFields names values) (value' : IdentityValue) :
    ∃ values' front back, visibleFields names values = front ++ field :: back ∧
      visibleFields names values' = front ++ (field.1, value') :: back := by
  induction names generalizing values with
  | nil => simp [visibleFields] at h
  | cons name names ih =>
    cases values with
    | nil => simp [visibleFields] at h
    | cons value values =>
      have hcons : ∀ value values, visibleFields (name :: names) (value :: values) =
          if isSensitiveAttribute name then visibleFields names values
          else (name, value) :: visibleFields names values := by
        intro value values
        by_cases hname : isSensitiveAttribute name = true
        · simp [visibleFields, hname]
        · simp [visibleFields, hname]
      by_cases hname : isSensitiveAttribute name = true
      · rw [hcons, if_pos hname] at h
        obtain ⟨values', front, back, hold, hnew⟩ := ih h
        refine ⟨value :: values', front, back, ?_, ?_⟩
        · rw [hcons, if_pos hname, hold]
        · rw [hcons, if_pos hname, hnew]
      · rw [hcons, if_neg hname] at h
        rcases List.mem_cons.mp h with rfl | h
        · refine ⟨value' :: values, [], visibleFields names values, ?_, ?_⟩
          · rw [hcons, if_neg hname, List.nil_append]
          · rw [hcons, if_neg hname, List.nil_append]
        · obtain ⟨values', front, back, hold, hnew⟩ := ih h
          refine ⟨value :: values', (name, value) :: front, back, ?_, ?_⟩
          · rw [hcons, if_neg hname, hold, List.cons_append]
          · rw [hcons, if_neg hname, hnew, List.cons_append]

theorem sameEntry_refl (hdigest : Function.Injective ctx.hexdigest)
    (entry : IdentityValue × IdentityValue) : SameEntry ctx entry entry :=
  .mk (sameIdentity_refl hdigest _) (sameIdentity_refl hdigest _)

theorem sameField_refl (hdigest : Function.Injective ctx.hexdigest) (field : String × IdentityValue) :
    SameField ctx field field :=
  .mk _ (sameIdentity_refl hdigest _)

/-- An entry of a mapping in another's place, the same but with another canonical identity. -/
theorem exists_replace_entry (hdigest : Function.Injective ctx.hexdigest)
    {entries : List (IdentityValue × IdentityValue)} {entry entry' : IdentityValue × IdentityValue}
    (hentry : entry ∈ visibleEntries ctx entries) (hsame : SameEntry ctx entry entry')
    (hne : canonicalEntry ctx entry ≠ canonicalEntry ctx entry') :
    ∃ other, SameIdentity ctx (.mapping entries) other ∧
      canonicalIdentity ctx (.mapping entries) ≠ canonicalIdentity ctx other := by
  obtain ⟨hmem, hvisible⟩ := not_sensitive_of_visible hentry
  have hvisible' : sensitiveKey ctx entry'.1 = false := by
    obtain ⟨hkey, -⟩ := hsame
    rw [← sensitiveKey_of_sameIdentity hkey]
    exact hvisible
  obtain ⟨front, back, rfl⟩ := List.append_of_mem hmem
  refine ⟨.mapping (front ++ entry' :: back), .mapping (List.Perm.refl _) ?_, ?_⟩
  · rw [visibleEntries_split hvisible, visibleEntries_split hvisible']
    exact forall₂_replace (sameEntry_refl hdigest) hsame
  · intro heq
    simp only [canonical_mapping, Json.object.injEq, List.cons.injEq, Prod.mk.injEq, Json.array.injEq,
      true_and, and_true] at heq
    have hperm := perm_of_sortOn_eq _ (pairJson_injective.list_map heq)
    rw [visibleEntries_split hvisible, visibleEntries_split hvisible', List.map_append, List.map_append,
      List.map_cons, List.map_cons] at hperm
    exact hne (eq_of_perm_replace hperm)

/-- A part in another's place, the same but with another canonical identity, changes the canonical identity
of the whole. -/
theorem exists_replace_part (hdigest : Function.Injective ctx.hexdigest)
    (hpart : part ∈ identityParts ctx value) (hsame : SameIdentity ctx part part')
    (hne : canonicalIdentity ctx part ≠ canonicalIdentity ctx part') :
    ∃ other, SameIdentity ctx value other ∧ canonicalIdentity ctx value ≠ canonicalIdentity ctx other := by
  have hrefl := sameIdentity_refl hdigest
  cases value with
  | enum typeName inner =>
    cases List.mem_singleton.mp hpart
    exact ⟨.enum typeName part', .enum typeName hsame, by simpa using hne⟩
  | tuple items =>
    obtain ⟨front, back, rfl⟩ := List.append_of_mem hpart
    exact ⟨.tuple (front ++ part' :: back), .tuple (forall₂_replace hrefl hsame), by simpa using hne⟩
  | list items =>
    obtain ⟨front, back, rfl⟩ := List.append_of_mem hpart
    exact ⟨.list (front ++ part' :: back), .list (forall₂_replace hrefl hsame), by simpa using hne⟩
  | set items =>
    obtain ⟨front, back, rfl⟩ := List.append_of_mem hpart
    refine ⟨.set (front ++ part' :: back), .set (List.Perm.refl _) (forall₂_replace hrefl hsame), ?_⟩
    intro heq
    simp only [canonical_set, Json.object.injEq, List.cons.injEq, Prod.mk.injEq, Json.array.injEq,
      true_and, and_true] at heq
    have hperm := perm_of_sortOn_eq _ heq
    rw [List.map_append, List.map_append, List.map_cons, List.map_cons] at hperm
    exact hne (eq_of_perm_replace hperm)
  | mapping entries =>
    obtain ⟨⟨key, item⟩, hentry, hmem⟩ := List.mem_flatMap.mp hpart
    rcases List.mem_pair.mp hmem with rfl | rfl
    · have hentry' : SameEntry ctx (part, item) (part', item) := .mk hsame (hrefl item)
      exact exists_replace_entry hdigest hentry hentry' fun heq => hne (Prod.mk.inj heq).1
    · have hentry' : SameEntry ctx (key, part) (key, part') := .mk (hrefl key) hsame
      exact exists_replace_entry hdigest hentry hentry' fun heq => hne (Prod.mk.inj heq).2
  | dataclass typeName names values =>
    obtain ⟨field, hfield, rfl⟩ := List.mem_map.mp hpart
    obtain ⟨values', front, back, hold, hnew⟩ := exists_replace_field hfield part'
    refine ⟨.dataclass typeName names values', .dataclass typeName (List.Perm.refl _) ?_, ?_⟩
    · rw [hold, hnew]
      exact forall₂_replace (sameField_refl hdigest) (.mk field.1 hsame)
    · intro heq
      simp only [canonical_dataclass, Json.object.injEq, List.cons.injEq, Prod.mk.injEq, true_and,
        and_true] at heq
      have hperm := perm_of_sortOn_eq _ heq
      rw [hold, hnew, List.map_append, List.map_append, List.map_cons, List.map_cons] at hperm
      exact hne (Prod.mk.inj (eq_of_perm_replace hperm)).2
  | _ => simp [identityParts] at hpart

/-- An entry moved to the front of its mapping. -/
theorem sameIdentity_front (hdigest : Function.Injective ctx.hexdigest)
    {front back : List (IdentityValue × IdentityValue)} {entry : IdentityValue × IdentityValue} :
    SameIdentity ctx (.mapping (front ++ entry :: back)) (.mapping (entry :: (front ++ back))) :=
  .mapping (List.perm_middle.filter _) (List.forall₂_same.mpr fun _ _ => sameEntry_refl hdigest _)

/-- With tied keys, some reordering or part in another's place is the same value with another canonical
identity. -/
theorem exists_other_of_tied (hdigest : Function.Injective ctx.hexdigest) (h : TiedKeys ctx value) :
    ∃ other, SameIdentity ctx value other ∧ canonicalIdentity ctx value ≠ canonicalIdentity ctx other := by
  induction h with
  | @mapping entries entry other hentry hother hkey hitem =>
    by_cases heq : canonicalIdentity ctx entry.1 = canonicalIdentity ctx other.1
    · -- both orders of the two entries cannot have the canonical identity of the mapping
      obtain ⟨hmem, hvisible⟩ := not_sensitive_of_visible hentry
      obtain ⟨hmem', hvisible'⟩ := not_sensitive_of_visible hother
      obtain ⟨front, back, hsplit⟩ := List.append_of_mem hmem
      obtain ⟨front', back', hsplit'⟩ := List.append_of_mem hmem'
      have hsame : SameIdentity ctx (.mapping entries) (.mapping (entry :: (front ++ back))) :=
        hsplit ▸ sameIdentity_front hdigest
      have hsame' : SameIdentity ctx (.mapping entries) (.mapping (other :: (front' ++ back'))) :=
        hsplit' ▸ sameIdentity_front hdigest
      by_contra hall
      push Not at hall
      have hboth := (hall _ hsame).symm.trans (hall _ hsame')
      simp only [canonical_mapping, Json.object.injEq, List.cons.injEq, Prod.mk.injEq, Json.array.injEq,
        true_and, and_true] at hboth
      have hpairs := pairJson_injective.list_map hboth
      have hcons : ∀ (entry : IdentityValue × IdentityValue) (rest), sensitiveKey ctx entry.1 = false →
          (visibleEntries ctx (entry :: rest)).map (canonicalEntry ctx) =
            canonicalEntry ctx entry :: (visibleEntries ctx rest).map (canonicalEntry ctx) := by
        intro entry rest hentry
        simp [visibleEntries, hentry]
      rw [hcons _ _ hvisible, hcons _ _ hvisible'] at hpairs
      have hentries := eq_of_sortOn_front (fun pair : Json × Json => compactText pair.1)
        (congrArg compactText heq) hpairs
      exact hitem (sameIdentity_of_canonical hdigest _ _ (Prod.mk.inj hentries).2)
    · exact exists_replace_part hdigest (mem_parts_of_entry hentry).1 hkey heq
  | part hpart _ ih =>
    obtain ⟨part', hsame, hne⟩ := ih
    exact exists_replace_part hdigest hpart hsame hne

end Replacing

section Binding

variable {ctx : IdentityContext}

theorem canonicalIdentityJson_inj {value other : IdentityValue} :
    canonicalIdentityJson ctx value = canonicalIdentityJson ctx other ↔
      canonicalIdentity ctx value = canonicalIdentity ctx other := text_canonicalIdentity

/-- One identity text means one value up to what the identity leaves out; the converse holds of a value just
when no mapping inside it has tied keys. -/
theorem canonicalIdentityJson_binds_iff (hdigest : Function.Injective ctx.hexdigest) :
    (∀ value other, canonicalIdentityJson ctx value = canonicalIdentityJson ctx other →
      SameIdentity ctx value other) ∧
    ∀ value, (∀ other, canonicalIdentityJson ctx value = canonicalIdentityJson ctx other ↔
      SameIdentity ctx value other) ↔ ¬TiedKeys ctx value := by
  have hreads : ∀ value other, canonicalIdentityJson ctx value = canonicalIdentityJson ctx other →
      SameIdentity ctx value other :=
    fun value other h => sameIdentity_of_canonical hdigest value other (canonicalIdentityJson_inj.mp h)
  refine ⟨hreads, fun value => ⟨fun hiff htied => ?_, fun htied other => ⟨hreads value other, fun hsame => ?_⟩⟩⟩
  · obtain ⟨other, hsame, hne⟩ := exists_other_of_tied hdigest htied
    exact hne (canonicalIdentityJson_inj.mp ((hiff other).mpr hsame))
  · exact canonicalIdentityJson_inj.mpr (canonical_of_sameIdentity hdigest value htied other hsame)

/-- The bytes of a digest as the characters of its text. -/
def plainContext : IdentityContext where
  strEnum _ := false
  hexdigest bytes := String.ofList (bytes.map fun byte => Char.ofNat byte.toNat)

theorem plainContext_injective : Function.Injective plainContext.hexdigest := by
  have hbyte : ∀ n < 256, (Char.ofNat n).toNat = n := by decide +kernel
  have hinj : Function.Injective fun byte : UInt8 => Char.ofNat byte.toNat := by
    intro a b h
    have hnat := congrArg Char.toNat h
    rw [hbyte _ a.toNat_lt, hbyte _ b.toNat_lt] at hnat
    exact UInt8.toNat_inj.mp hnat
  intro a b h
  exact hinj.list_map (String.ofList_injective h)

/-- A frozen dataclass with a secret among its fields. -/
def account (apiKey : String) : IdentityValue :=
  .dataclass "app.Account" ⟨["name", "api_key"], by decide⟩ [.str "desk", .str apiKey]

theorem canonicalIdentityJson_binds_account :
    (∀ other, canonicalIdentityJson plainContext (account "k1") = canonicalIdentityJson plainContext other ↔
      SameIdentity plainContext (account "k1") other) ↔ ¬TiedKeys plainContext (account "k1") :=
  (canonicalIdentityJson_binds_iff plainContext_injective).2 (account "k1")

/-- One mapping in two orders has two identities. -/
theorem not_all_identities_bound :
    ¬∀ value other : IdentityValue, canonicalIdentityJson plainContext value =
      canonicalIdentityJson plainContext other ↔ SameIdentity plainContext value other := by
  intro h
  have hsame : SameIdentity plainContext
      (.mapping [(account "k1", .int 1), (account "k2", .int 2)])
      (.mapping [(account "k2", .int 2), (account "k1", .int 1)]) := by
    have hrefl (value : IdentityValue) := sameIdentity_refl plainContext_injective value
    exact .mapping ((List.Perm.swap _ _ _).filter _)
      (List.forall₂_same.mpr fun entry _ => .mk (hrefl entry.1) (hrefl entry.2))
  have hjson := (h _ _).mpr hsame
  exact absurd hjson (by decide +kernel)

end Binding

end IndiaSwing
