import Mathlib.Data.List.Dedup
import IndiaSwing.StatePublication

namespace IndiaSwing

open CivilTime JsonText ExceptGuards KeySort ObjectStore TextPatterns

section Collected

variable {hexdigest : List UInt8 → Sha256Text} {roots : PipelineStateRoots} {count total : ℕ}
variable {entries collected : List PipelineStateEntry} {run : DailyPipelineRunBinding}
variable {inventory : PipelineStateInventory}

/-- The entry describes the file. -/
structure Describes (hexdigest : List UInt8 → Sha256Text) (file : StateFile)
    (entry : PipelineStateEntry) : Prop where
  rootName : entry.rootName = file.rootName
  relativePath : entry.relativePath = file.relativePath
  content : ∃ payload, readStableRegularFile file = some payload ∧ payload.length = entry.byteCount ∧
    hexdigest payload = entry.sha256

theorem collectEntries_describes (h : collectEntries hexdigest roots count total = .ok entries) :
    List.Forall₂ (Describes hexdigest) roots entries := by
  induction roots generalizing count total entries with
  | nil =>
    obtain rfl := Except.ok.inj h
    exact .nil
  | cons file rest ih =>
    rw [collectEntries, raiseIf_bind_eq_ok] at h
    obtain ⟨-, h⟩ := h
    cases hread : readStableRegularFile file with
    | none =>
      rw [hread] at h
      cases h
    | some payload =>
      rw [hread] at h
      simp only [raiseIf_bind_eq_ok] at h
      obtain ⟨-, h⟩ := h
      obtain ⟨-, -, h⟩ := bind_eq_ok.mp h
      obtain ⟨others, hothers, hentries⟩ := bind_eq_ok.mp h
      obtain rfl := Except.ok.inj hentries
      exact .cons ⟨rfl, rfl, payload, hread, rfl, rfl⟩ (ih hothers)

theorem buildPipelineStateInventory_eq_ok
    (h : buildPipelineStateInventory hexdigest run roots = .ok inventory) :
    ∃ collected, List.Forall₂ (Describes hexdigest) roots collected ∧
      inventory.1.entries = sortOn entryKey collected := by
  obtain ⟨collected, hcollected, hbuild⟩ := bind_eq_ok.mp h
  have hfields := Checked.build_eq_ok.mp hbuild
  exact ⟨collected, collectEntries_describes hcollected, by rw [← hfields]⟩

theorem validateInventory_ordered (inventory : PipelineStateInventory) :
    inventory.1.entries.Pairwise fun a b => entryKey a < entryKey b := by
  obtain ⟨-, -, h⟩ := bind_eq_ok.mp inventory.2
  simp only [raiseIf_bind_eq_ok, not_not] at h
  exact h.1

theorem validateInventory_length (inventory : PipelineStateInventory) :
    inventory.1.entries.length ≤ maximumIncludedFiles := by
  obtain ⟨-, -, h⟩ := bind_eq_ok.mp inventory.2
  simp only [raiseIf_bind_eq_ok, not_not, not_lt] at h
  exact h.2.2.1

/-- Entries at one place of an inventory are one entry. -/
theorem entry_eq_of_key (inventory : PipelineStateInventory) {a b : PipelineStateEntry}
    (ha : a ∈ inventory.1.entries) (hb : b ∈ inventory.1.entries) (hkey : entryKey a = entryKey b) :
    a = b := by
  have hnodup : (inventory.1.entries.map entryKey).Nodup := by
    rw [List.Nodup, List.pairwise_map]
    exact (validateInventory_ordered inventory).imp fun h => ne_of_lt h
  exact List.inj_on_of_nodup_map hnodup ha hb hkey

/-- Every entry of a built inventory describes the file at its place. -/
theorem built_file (h : buildPipelineStateInventory hexdigest run roots = .ok inventory)
    {entry : PipelineStateEntry} (hentry : entry ∈ inventory.1.entries) :
    ∃ file, roots.file entry.rootName entry.relativePath = some file ∧ Describes hexdigest file entry := by
  obtain ⟨collected, hfiles, hentries⟩ := buildPipelineStateInventory_eq_ok h
  have hmem : ∀ e, e ∈ inventory.1.entries ↔ e ∈ collected := by
    intro e
    rw [hentries]
    exact (perm_sortOn entryKey collected).mem_iff
  obtain ⟨file, hfile, hdescribes⟩ := mem_of_forall₂_left hfiles.flip ((hmem entry).mp hentry)
  have hfound : (roots.file entry.rootName entry.relativePath).isSome := by
    rw [PipelineStateRoots.file, List.find?_isSome]
    exact ⟨file, hfile, by simp [hdescribes.rootName, hdescribes.relativePath]⟩
  obtain ⟨found, hfound⟩ := Option.isSome_iff_exists.mp hfound
  have hplace := List.find?_some hfound
  simp only [Bool.and_eq_true, decide_eq_true_eq] at hplace
  obtain ⟨other, hother, hdescribes'⟩ := mem_of_forall₂_left hfiles (List.mem_of_find?_eq_some hfound)
  have hkey : entryKey other = entryKey entry := by
    rw [entryKey, entryKey, hdescribes'.rootName, hdescribes'.relativePath, hplace.1, hplace.2]
  obtain rfl := entry_eq_of_key inventory ((hmem other).mpr hother) hentry hkey
  exact ⟨found, hfound, hdescribes'⟩

end Collected

section Encoding

variable {hexdigest : List UInt8 → Sha256Text} {a b : PipelineStateEntry}

theorem distinct_entryTree (entry : PipelineStateEntry) : Distinct (.object (entryTree entry)) := by
  refine ⟨by simp [entryTree], ?_⟩
  simp [entryTree, DistinctEntries, Distinct]

theorem distinct_optionalText (text : Option Sha256Text) : Distinct (optionalText text) := by
  cases text <;> trivial

theorem distinct_inventoryTree (inventory : InventoryFields) (id : Sha256Text) :
    Distinct (.object (("inventory_id", .string id.1) :: inventoryTree inventory)) := by
  refine ⟨by simp [inventoryTree], ?_⟩
  have hentries : DistinctItems (inventory.entries.map fun entry => .object (entryTree entry)) := by
    rw [distinctItems_iff]
    intro item hitem
    obtain ⟨entry, -, rfl⟩ := List.mem_map.mp hitem
    exact distinct_entryTree entry
  simp [inventoryTree, DistinctEntries, Distinct, hentries, distinct_optionalText]

theorem entryTree_inj (h : sortKeys (.object (entryTree a)) = sortKeys (.object (entryTree b))) :
    a = b := by
  have hitem := item_eq_of_sortKeys (distinct_entryTree a).1 (distinct_entryTree b).1 h
  have hcount := hitem "byte_count"
  have hpath := hitem "relative_path"
  have hroot := hitem "root_name"
  have hsha := hitem "sha256"
  simp [item, entryTree, List.lookup_cons] at hcount hpath hroot hsha
  cases a
  cases b
  rw [PipelineStateEntry.mk.injEq]
  exact ⟨StateRootName.value_injective hroot, hpath, by exact_mod_cast hcount, Subtype.ext hsha⟩

/-- Inventories that are written alike have the same entries. -/
theorem entries_eq_of_encodedInventory {inventory other : InventoryFields}
    (h : encodedInventory hexdigest inventory = encodedInventory hexdigest other) :
    inventory.entries = other.entries := by
  have hline := Utf8Text.encode_injective h
  have htext : dumps (.object (("inventory_id", .string (inventoryId hexdigest inventory).1) ::
      inventoryTree inventory)) = dumps (.object (("inventory_id",
        .string (inventoryId hexdigest other).1) :: inventoryTree other)) := by
    have hchars := congrArg String.toList hline
    rw [String.toList_append, String.toList_append] at hchars
    exact String.toList_inj.mp (List.append_cancel_right hchars)
  have hdistinct := distinct_inventoryTree inventory (inventoryId hexdigest inventory)
  have hdistinct' := distinct_inventoryTree other (inventoryId hexdigest other)
  have hentries := item_eq_of_sortKeys hdistinct.1 hdistinct'.1
    ((dumps_inj hdistinct hdistinct').mp htext) "entries"
  simp [item, inventoryTree, List.lookup_cons, sortKeys_array] at hentries
  exact List.map_injective_iff.mpr (fun _ _ => entryTree_inj) hentries

end Encoding

section Prepared

variable {hexdigest : List UInt8 → Sha256Text} {request : PublicationRequest}
variable {entry : PipelineStateEntry} {payload : List UInt8} {hash : Sha256Text}

/-- The checks before the first write pass. -/
def Prepared (hexdigest : List UInt8 → Sha256Text) (request : PublicationRequest) : Prop :=
  ∃ supplied, preparePublication hexdigest request = .ok supplied

/-- The bytes of the local file of an entry. -/
def localBytes (request : PublicationRequest) (entry : PipelineStateEntry) : Option (List UInt8) :=
  (request.roots.file entry.rootName entry.relativePath).bind readStableRegularFile

/-- What is published under a hash: the file of the first entry that has it. -/
def blobContent (request : PublicationRequest) (hash : Sha256Text) : Option (List UInt8) :=
  ((entriesInPublicationOrder request).find? (·.sha256 = hash)).bind (localBytes request)

theorem readStableRegularFile_fits {file : StateFile} (h : readStableRegularFile file = some payload) :
    payload ≠ [] ∧ payload.length ≤ maximumFileBytes := by
  unfold readStableRegularFile at h
  split at h
  · cases h
  next hfits =>
    obtain rfl := Option.some.inj h
    rwa [not_or, not_lt] at hfits

theorem localBytes_fits (h : localBytes request entry = some payload) :
    payload ≠ [] ∧ payload.length ≤ maximumFileBytes := by
  obtain ⟨file, -, hread⟩ := Option.bind_eq_some_iff.mp h
  exact readStableRegularFile_fits hread

theorem blobContent_fits (h : blobContent request hash = some payload) :
    payload ≠ [] ∧ payload.length ≤ maximumFileBytes := by
  obtain ⟨entry, -, hread⟩ := Option.bind_eq_some_iff.mp h
  exact localBytes_fits hread

theorem mem_entriesInPublicationOrder :
    entry ∈ entriesInPublicationOrder request ↔ entry ∈ request.inventory.1.entries :=
  (perm_sortOn _ _).mem_iff

theorem mem_uniqueHashes :
    hash ∈ uniqueHashes request ↔ ∃ entry ∈ entriesInPublicationOrder request, entry.sha256 = hash := by
  rw [uniqueHashes, (perm_sortOn _ _).mem_iff, List.mem_dedup, List.mem_map]
  simp only [mem_entriesInPublicationOrder]

theorem uniqueHashes_ordered (request : PublicationRequest) :
    (uniqueHashes request).Pairwise fun a b => a.1 < b.1 := by
  have hnodup : (uniqueHashes request).Nodup :=
    (perm_sortOn _ _).nodup_iff.mpr (List.nodup_dedup _)
  have hsorted := sortOn_pairwise (·.1) (request.inventory.1.entries.map (·.sha256)).dedup
  refine (hsorted.and hnodup).imp fun {a b} hab => ?_
  exact lt_of_le_of_ne hab.1 fun heq => hab.2 (Subtype.ext heq)

theorem length_uniqueHashes_le (request : PublicationRequest) :
    (uniqueHashes request).length ≤ maximumIncludedFiles := by
  rw [uniqueHashes, (perm_sortOn _ _).length_eq]
  refine (List.dedup_sublist _).length_le.trans ?_
  rw [List.length_map]
  exact validateInventory_length request.inventory

theorem encodePipelineStateInventory_eq_ok {inventory : PipelineStateInventory} {bytes : List UInt8}
    (h : encodePipelineStateInventory hexdigest inventory = .ok bytes) :
    bytes = encodedInventory hexdigest inventory.1 ∧ bytes.length ≤ maximumEncodedBytes := by
  rw [encodePipelineStateInventory, raiseIf_bind_eq_ok, not_lt] at h
  obtain ⟨hlength, hbytes⟩ := h
  obtain rfl := Except.ok.inj hbytes
  exact ⟨rfl, hlength⟩

theorem preparePublication_eq_ok {supplied : List UInt8}
    (h : preparePublication hexdigest request = .ok supplied) :
    isStateBucket request.bucket = true ∧
      (encodedInventory hexdigest request.inventory.1).length ≤ maximumEncodedBytes ∧
      ∃ rebuilt, buildPipelineStateInventory hexdigest request.run request.roots = .ok rebuilt ∧
        rebuilt.1.entries = request.inventory.1.entries := by
  rw [preparePublication, raiseIf_bind_eq_ok, not_not] at h
  obtain ⟨hbucket, h⟩ := h
  split at h
  next => cases h
  next bytes hencoded =>
    have hbytes := encodePipelineStateInventory_eq_ok hencoded
    split at h
    next => cases h
    next rebuiltBytes hrebuilt =>
      obtain ⟨rebuilt, hbuild, hencode⟩ := bind_eq_ok.mp hrebuilt
      have hrebuiltBytes := encodePipelineStateInventory_eq_ok hencode
      rw [raiseIf_bind_eq_ok, not_not, hbytes.1, hrebuiltBytes.1] at h
      exact ⟨hbucket, hbytes.1 ▸ hbytes.2, rebuilt, hbuild, entries_eq_of_encodedInventory h.1⟩

theorem Prepared.bucket (h : Prepared hexdigest request) : isStateBucket request.bucket = true :=
  h.elim fun _ hprepare => (preparePublication_eq_ok hprepare).1

theorem Prepared.inventory_fits (h : Prepared hexdigest request) :
    (encodedInventory hexdigest request.inventory.1).length ≤ maximumEncodedBytes :=
  h.elim fun _ hprepare => (preparePublication_eq_ok hprepare).2.1

/-- Every entry reads back from the local files as the inventory has it. -/
theorem Prepared.readEntry {input : PublicationInput} (h : Prepared hexdigest request)
    (hentry : entry ∈ entriesInPublicationOrder request) (hreads : input.readFails = false) :
    ∃ payload, readEntry hexdigest request input entry = .ok payload := by
  obtain ⟨supplied, hprepare⟩ := h
  obtain ⟨-, -, rebuilt, hbuild, hentries⟩ := preparePublication_eq_ok hprepare
  rw [mem_entriesInPublicationOrder, ← hentries] at hentry
  obtain ⟨file, hfile, hdescribes⟩ := built_file hbuild hentry
  obtain ⟨payload, hread, hlength, hdigest⟩ := hdescribes.content
  refine ⟨payload, ?_⟩
  simp only [IndiaSwing.readEntry, hreads, Bool.false_eq_true, raiseIf_false, ok_bind, hfile,
    Option.bind_some, hread, hlength, hdigest, ne_eq, not_true_eq_false]
  rfl

/-- What is read of an entry is its local file, with the hash of the entry. -/
theorem readEntry_eq_ok {input : PublicationInput}
    (h : readEntry hexdigest request input entry = .ok payload) :
    localBytes request entry = some payload ∧ hexdigest payload = entry.sha256 := by
  rw [readEntry, raiseIf_bind_eq_ok] at h
  obtain ⟨-, h⟩ := h
  split at h
  next => cases h
  next bytes hbytes =>
    simp only [raiseIf_bind_eq_ok, not_not] at h
    obtain ⟨-, hdigest, hpayload⟩ := h
    obtain rfl := Except.ok.inj hpayload
    exact ⟨hbytes, hdigest⟩

end Prepared

end IndiaSwing
