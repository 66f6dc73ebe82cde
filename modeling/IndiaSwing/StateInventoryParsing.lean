import IndiaSwing.ArmingCodec
import IndiaSwing.StatePublicationInputs

namespace IndiaSwing

open CivilTime JsonText ExceptGuards KeySort

/-- A moment as a text gives it: the clock reading and the offset, if there is one. -/
structure ParsedDatetime where
  clock : Instant
  offset : Option ℤ

/-- `date.fromisoformat` and `datetime.fromisoformat`. They read many forms of a date; of these the
one that `isoformat` writes is read back as what it was written from. -/
structure IsoformatReader where
  date : String → Option CivilDate
  datetime : String → Option ParsedDatetime
  date_isoformat : ∀ d, date (canonicalDate d) = some d
  datetime_isoformat : ∀ t, datetime (datetimeIsoformat t) = some ⟨t, some 0⟩

/-- The reader of the form that `isoformat` writes in UTC, and of no other. -/
def isoformatReader : IsoformatReader where
  date text := (readDate text.toList).filter fun d => canonicalDate d = text
  datetime text :=
    ((readInstant (text.toList.take (text.toList.length - 6))).filter fun t => datetimeIsoformat t = text).map
      fun t => ⟨t, some 0⟩
  date_isoformat d := by
    have hread : readDate (canonicalDate d).toList = some d := by
      rw [canonicalDate, String.toList_ofList, ← List.append_nil d.isoformat, readDate_isoformat]
    rw [hread]
    simp
  datetime_isoformat t := by
    have hread : readInstant ((datetimeIsoformat t).toList.take ((datetimeIsoformat t).toList.length - 6)) = some t := by
      rw [datetimeIsoformat, String.toList_ofList, List.length_append, List.take_left' (by simp)]
      split
      · exact readInstant_whole t ‹_›
      · exact readInstant_isoformat t
    rw [hread]
    simp

namespace StateRootName

/-- `ROOT_NAMES` -/
def all : List StateRootName :=
  [calendarData, identityRegistry, historicalPrices, dailyReports, referenceData, dailyPipeline]

def ofJson (json : Json) : Option StateRootName := all.find? fun rootName => isText rootName.value json

theorem mem_all (rootName : StateRootName) : rootName ∈ all := by
  cases rootName <;> decide

theorem ofJson_value (rootName : StateRootName) : ofJson (.string rootName.value) = some rootName := by
  cases rootName <;> decide

end StateRootName

section Reading

/-- `_validate_sha256_field` -/
def sha256Field (message : String) : Json → Except String Sha256Text
  | .string text => if h : isSha256 text = true then .ok ⟨text, h⟩ else .error message
  | _ => .error message

def optionalSha256Field (message : String) : Json → Except String (Option Sha256Text)
  | .null => .ok none
  | value => (sha256Field message value).map some

def isExactNumber (n : ℤ) : Json → Bool
  | .number value => value = n
  | _ => false

/-- A count as it is compared with the right one: what is no count is a wrong one. -/
def declaredCount (right : ℕ) : Json → ℕ
  | .number value => if 0 ≤ value then value.toNat else right + 1
  | _ => right + 1

/-- `_entry_from_raw` -/
def entryFromRaw (value : Json) : Except String PipelineStateEntry := do
  let entry ← exactDict ["byte_count", "relative_path", "root_name", "sha256"]
    "pipeline state inventory payload has an invalid shape" value
  match item entry "byte_count" with
  | .number byteCount =>
    match StateRootName.ofJson (item entry "root_name") with
    | none => .error "pipeline state entry root name is invalid"
    | some rootName => do
      let relativePath ← exactString "pipeline state relative path is unsafe" (item entry "relative_path")
      raiseIf (¬isRelativePath relativePath) "pipeline state relative path is unsafe"
      raiseIf (byteCount ≤ 0 ∨ (maximumFileBytes : ℤ) < byteCount)
        "pipeline state entry byte count is invalid"
      let sha256 ← sha256Field "pipeline state entry hash is invalid" (item entry "sha256")
      return { rootName, relativePath, byteCount := byteCount.toNat, sha256 }
  | _ => .error "pipeline state inventory payload has an invalid shape"

/-- `_TOP_LEVEL_KEYS` -/
def inventoryKeys : List String :=
  ["inventory_id", "cutoff", "entries", "entry_count", "market_session", "previous_run_id", "run_id",
    "schema_version", "total_bytes"]

variable (reader : IsoformatReader) (hexdigest : List UInt8 → Sha256Text)

/-- The constructor of an inventory on the values of a payload. -/
def inventoryOfValues (body : List (String × Json)) (marketSession : CivilDate) (cutoff : ParsedDatetime)
    (entries : List PipelineStateEntry) : Except String PipelineStateInventory := do
  raiseIf (¬isExactNumber 1 (item body "schema_version"))
    "pipeline state inventory schema version is unsupported"
  let runId ← sha256Field "pipeline state inventory run identifier is invalid" (item body "run_id")
  let previousRunId ← optionalSha256Field "pipeline state inventory previous run identifier is invalid"
    (item body "previous_run_id")
  raiseIf (cutoff.offset ≠ some 0) "pipeline state inventory cutoff is invalid"
  Checked.build validateInventory
    { runId
      previousRunId
      marketSession
      cutoff := cutoff.clock
      entries
      entryCount := declaredCount entries.length (item body "entry_count")
      totalBytes := declaredCount (entries.map (·.byteCount)).sum (item body "total_bytes") }

/-- `_inventory_from_raw` -/
def inventoryFromRaw (raw : Json) : Except String PipelineStateInventory := do
  let body ← exactDict inventoryKeys "pipeline state inventory payload has an invalid shape" raw
  match item body "market_session", item body "cutoff", item body "entries" with
  | .string marketSessionRaw, .string cutoffRaw, .array entriesRaw =>
    match reader.date marketSessionRaw, reader.datetime cutoffRaw with
    | some marketSession, some cutoff => do
      let entries ← entriesRaw.mapM entryFromRaw
      let inventory ← inventoryOfValues body marketSession cutoff entries
      raiseIf (¬isText (inventoryId hexdigest inventory.1).1 (item body "inventory_id"))
        "pipeline state inventory identity verification failed"
      return inventory
    | _, _ => .error "pipeline state inventory payload has an invalid shape"
  | _, _, _ => .error "pipeline state inventory payload has an invalid shape"

/-- `parse_pipeline_state_inventory` -/
def parsePipelineStateInventory (payload : List UInt8) : Except String PipelineStateInventory := do
  raiseIf (payload = []) "pipeline state inventory payload is empty"
  raiseIf (maximumEncodedBytes < payload.length)
    "pipeline state inventory payload exceeds the encoded-byte ceiling"
  match (Utf8Text.decode payload).map loads with
  | some (.ok raw) => do
    let inventory ← inventoryFromRaw reader hexdigest raw
    let reencoded ← encodePipelineStateInventory hexdigest inventory
    raiseIf (reencoded ≠ payload) "pipeline state inventory payload is not canonical"
    return inventory
  | _ => .error "pipeline state inventory payload is not valid canonical JSON"

end Reading

section RoundTrip

variable {reader : IsoformatReader} {hexdigest : List UInt8 → Sha256Text}
variable {inventory : PipelineStateInventory} {entry : PipelineStateEntry} {message : String}

theorem sha256Field_value (hash : Sha256Text) : sha256Field message (.string hash.1) = .ok hash := by
  rw [sha256Field, dif_pos hash.2]

theorem optionalSha256Field_value (hash : Option Sha256Text) :
    optionalSha256Field message (sortKeys (optionalText hash)) = .ok hash := by
  cases hash with
  | none =>
    rw [optionalText, sortKeys_null]
    rfl
  | some hash =>
    rw [optionalText, sortKeys_string]
    show (sha256Field message (.string hash.1)).map some = .ok (some hash)
    rw [sha256Field_value]
    rfl

theorem declaredCount_value (right : ℕ) : declaredCount right (.number right) = right := by
  rw [declaredCount, if_pos (Int.natCast_nonneg right), Int.toNat_natCast]

/-- An entry is read back from its written form. -/
theorem entryFromRaw_tree (h : validateEntry entry = .ok ()) :
    entryFromRaw (sortKeys (.object (entryTree entry))) = .ok entry := by
  have hkeys : (entryTree entry).map (·.1) = ["byte_count", "relative_path", "root_name", "sha256"] := rfl
  have hnodup := (distinct_entryTree entry).1
  unfold validateEntry at h
  simp only [raiseIf_bind_eq_ok, raiseIf_eq_ok, not_not, not_or, not_lt] at h
  obtain ⟨hpath, hpositive, hsize⟩ := h
  have hcount : ¬((entry.byteCount : ℤ) ≤ 0 ∨ (maximumFileBytes : ℤ) < entry.byteCount) := by
    omega
  unfold entryFromRaw
  rw [exactDict_sortKeys hkeys, ok_bind]
  simp only [item_sortedEntries hnodup]
  simp only [item, entryTree, List.lookup_cons, String.reduceBEq, beq_self_eq_true, Option.getD_some,
    sortKeys_string, sortKeys_number, StateRootName.ofJson_value, exactString, ok_bind, hpath,
    not_true_eq_false, raiseIf_false, raiseIf_neg hcount, sha256Field_value, Int.toNat_natCast]
  rfl

theorem validateEntry_of_mem (inventory : PipelineStateInventory) (h : entry ∈ inventory.1.entries) :
    validateEntry entry = .ok () := by
  obtain ⟨checked, hchecked, -⟩ := bind_eq_ok.mp inventory.2
  obtain ⟨_, -, hentry⟩ := mem_of_forall₂_left (mapM_eq_ok.mp hchecked) h
  exact hentry

theorem inventory_counts (inventory : PipelineStateInventory) :
    inventory.1.entryCount = inventory.1.entries.length ∧
      inventory.1.totalBytes = (inventory.1.entries.map (·.byteCount)).sum := by
  obtain ⟨-, -, h⟩ := bind_eq_ok.mp inventory.2
  simp only [raiseIf_bind_eq_ok, raiseIf_eq_ok, ne_eq, not_not] at h
  exact h.2.2.2.2

/-- `_inventory_body` with its id -/
def wireTree (hexdigest : List UInt8 → Sha256Text) (inventory : InventoryFields) : List (String × Json) :=
  ("inventory_id", .string (inventoryId hexdigest inventory).1) :: inventoryTree inventory

theorem item_wireTree (inventory : InventoryFields) (key : String) :
    item (sortedEntries (wireTree hexdigest inventory)) key =
      sortKeys (item (wireTree hexdigest inventory) key) :=
  item_sortedEntries (distinct_inventoryTree inventory (inventoryId hexdigest inventory)).1 key

theorem inventoryOfValues_tree (inventory : PipelineStateInventory) :
    inventoryOfValues (sortedEntries (wireTree hexdigest inventory.1)) inventory.1.marketSession
      ⟨inventory.1.cutoff, some 0⟩ inventory.1.entries = .ok inventory := by
  obtain ⟨hcount, htotal⟩ := inventory_counts inventory
  unfold inventoryOfValues
  simp only [item_wireTree]
  simp only [item, wireTree, inventoryTree, List.lookup_cons, String.reduceBEq, beq_self_eq_true,
    Option.getD_some, sortKeys_string, sortKeys_number, isExactNumber, decide_true, not_true_eq_false,
    raiseIf_false, ok_bind, sha256Field_value, optionalSha256Field_value, ne_eq]
  rw [Checked.build_eq_ok]
  conv_lhs => rw [← hcount, ← htotal, declaredCount_value, declaredCount_value]

/-- The values that an inventory was written as make up the inventory. -/
theorem inventoryFromRaw_tree (reader : IsoformatReader) (inventory : PipelineStateInventory) :
    inventoryFromRaw reader hexdigest (sortKeys (.object (wireTree hexdigest inventory.1))) = .ok inventory := by
  have hkeys : (wireTree hexdigest inventory.1).map (·.1) = inventoryKeys := rfl
  have hentries : ((inventory.1.entries.map fun entry => .object (entryTree entry)).map sortKeys).mapM
      entryFromRaw = .ok inventory.1.entries :=
    mapM_written fun entry hentry => entryFromRaw_tree (validateEntry_of_mem inventory hentry)
  have hid : item (sortedEntries (wireTree hexdigest inventory.1)) "inventory_id" =
      .string (inventoryId hexdigest inventory.1).1 := by
    rw [item_wireTree]
    simp [item, wireTree]
  have hsession : item (sortedEntries (wireTree hexdigest inventory.1)) "market_session" =
      .string (canonicalDate inventory.1.marketSession) := by
    rw [item_wireTree]
    simp [item, wireTree, inventoryTree, List.lookup_cons]
  have hcutoff : item (sortedEntries (wireTree hexdigest inventory.1)) "cutoff" =
      .string (datetimeIsoformat inventory.1.cutoff) := by
    rw [item_wireTree]
    simp [item, wireTree, inventoryTree, List.lookup_cons]
  have harray : item (sortedEntries (wireTree hexdigest inventory.1)) "entries" =
      .array ((inventory.1.entries.map fun entry => .object (entryTree entry)).map sortKeys) := by
    rw [item_wireTree]
    simp [item, wireTree, inventoryTree, List.lookup_cons, sortKeys_array]
  unfold inventoryFromRaw
  rw [exactDict_sortKeys hkeys, ok_bind]
  simp only [hsession, hcutoff, harray, reader.date_isoformat, reader.datetime_isoformat, hentries, ok_bind,
    inventoryOfValues_tree, hid, isText, decide_true, not_true_eq_false, raiseIf_false]
  rfl

theorem encodedInventory_eq (inventory : InventoryFields) : encodedInventory hexdigest inventory =
    Utf8Text.encode (dumps (.object (wireTree hexdigest inventory)) ++ "\n") := rfl

theorem encodedInventory_ne_nil (inventory : InventoryFields) : encodedInventory hexdigest inventory ≠ [] := by
  intro hnil
  have hempty : Utf8Text.encode "" = [] := rfl
  rw [encodedInventory_eq] at hnil
  have htext := congrArg String.length (Utf8Text.encode_injective (hnil.trans hempty.symm))
  rw [String.length_append] at htext
  exact absurd htext (Nat.succ_ne_zero _)

theorem loads_encodedInventory (inventory : InventoryFields) :
    (Utf8Text.decode (encodedInventory hexdigest inventory)).map loads =
      some (.ok (sortKeys (.object (wireTree hexdigest inventory)))) := by
  have hloads := loads_dumps_line (distinct_inventoryTree inventory (inventoryId hexdigest inventory))
  rw [encodedInventory_eq, Utf8Text.decode_encode]
  exact congrArg some hloads

/-- What was encoded is parsed back as the inventory. -/
theorem parse_encoded {bytes : List UInt8} (reader : IsoformatReader)
    (h : encodePipelineStateInventory hexdigest inventory = .ok bytes) :
    parsePipelineStateInventory reader hexdigest bytes = .ok inventory := by
  obtain ⟨hbytes, hsize⟩ := encodePipelineStateInventory_eq_ok h
  have hne : bytes ≠ [] := hbytes ▸ encodedInventory_ne_nil inventory.1
  have hread : (Utf8Text.decode bytes).map loads =
      some (.ok (sortKeys (.object (wireTree hexdigest inventory.1)))) :=
    hbytes ▸ loads_encodedInventory inventory.1
  unfold parsePipelineStateInventory
  rw [raiseIf_neg hne, ok_bind, raiseIf_neg (not_lt.mpr hsize), ok_bind, hread]
  simp only [inventoryFromRaw_tree, ok_bind, h, ne_eq, not_true_eq_false, raiseIf_false]
  rfl

end RoundTrip

end IndiaSwing
