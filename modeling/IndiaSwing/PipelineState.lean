import Mathlib.Algebra.BigOperators.Group.List.Basic
import Mathlib.Algebra.GroupWithZero.Nat
import Mathlib.Data.Prod.Lex
import IndiaSwing.Lib.KeySort
import IndiaSwing.PilotWindows

namespace IndiaSwing

open CivilTime JsonText ExceptGuards KeySort

/-- The hexadecimal text of a digest. -/
abbrev Sha256Text := {text : String // isSha256 text = true}

/-- `ROOT_NAMES` -/
inductive StateRootName
  | calendarData | identityRegistry | historicalPrices | dailyReports | referenceData | dailyPipeline
  deriving DecidableEq, Repr

namespace StateRootName

def value : StateRootName → String
  | calendarData => "calendar_data"
  | identityRegistry => "identity_registry"
  | historicalPrices => "historical_prices"
  | dailyReports => "daily_reports"
  | referenceData => "reference_data"
  | dailyPipeline => "daily_pipeline"

def index : StateRootName → ℕ
  | calendarData => 0
  | identityRegistry => 1
  | historicalPrices => 2
  | dailyReports => 3
  | referenceData => 4
  | dailyPipeline => 5

theorem value_injective : Function.Injective value := by
  intro a b h
  cases a <;> cases b <;> first | rfl | exact absurd h (by decide)

end StateRootName

def maximumIncludedFiles : ℕ := 100000

def maximumFileBytes : ℕ := 268435456

def maximumTotalBytes : ℕ := 2147483648

def maximumEncodedBytes : ℕ := 16777216

structure PipelineStateEntry where
  rootName : StateRootName
  relativePath : String
  byteCount : ℕ
  sha256 : Sha256Text
  deriving DecidableEq

def isSegmentCharacter (c : Char) : Bool :=
  c.isAlphanum || c = '.' || c = '_' || c = '-'

/-- `_validate_relative_path` -/
def isRelativePath (text : String) : Bool :=
  text ≠ "" && text.toList.length ≤ 512 && (text.toList.splitOn '/').all fun segment =>
    segment.length ≤ 128 && segment.head?.any Char.isAlphanum && segment.all isSegmentCharacter

/-- `PipelineStateEntry.__post_init__` -/
def validateEntry (entry : PipelineStateEntry) : Except String Unit := do
  raiseIf (¬isRelativePath entry.relativePath) "pipeline state relative path is unsafe"
  raiseIf (entry.byteCount = 0 ∨ maximumFileBytes < entry.byteCount)
    "pipeline state entry byte count is invalid"

/-- The order of the entries of an inventory. -/
def entryKey (entry : PipelineStateEntry) : ℕ ×ₗ String :=
  toLex (entry.rootName.index, entry.relativePath)

structure InventoryFields where
  runId : Sha256Text
  previousRunId : Option Sha256Text
  marketSession : CivilDate
  cutoff : Instant
  entries : List PipelineStateEntry
  entryCount : ℕ
  totalBytes : ℕ

/-- `_validate_inventory_state` -/
def validateInventory (inventory : InventoryFields) : Except String Unit := do
  let _ ← inventory.entries.mapM validateEntry
  raiseIf (¬inventory.entries.Pairwise fun a b => entryKey a < entryKey b)
    "pipeline state inventory entries are not canonically ordered"
  raiseIf (¬(inventory.entries.map fun entry => (entry.rootName, entry.relativePath.toLower)).Nodup)
    "pipeline state inventory entries collide within a root"
  raiseIf (maximumIncludedFiles < inventory.entries.length)
    "pipeline state inventory exceeds the included-file ceiling"
  raiseIf (maximumTotalBytes < (inventory.entries.map (·.byteCount)).sum)
    "pipeline state inventory exceeds the total-byte ceiling"
  raiseIf (inventory.entryCount ≠ inventory.entries.length)
    "pipeline state inventory entry count is inconsistent"
  raiseIf (inventory.totalBytes ≠ (inventory.entries.map (·.byteCount)).sum)
    "pipeline state inventory total bytes is inconsistent"

abbrev PipelineStateInventory := {inventory : InventoryFields // validateInventory inventory = .ok ()}

/-- `datetime.isoformat` in UTC: a whole second has no decimals. -/
def datetimeIsoformat (t : Instant) : String :=
  String.ofList ((if t.microsecond = 0 then t.isoformat.take 19 else t.isoformat) ++
    ['+', '0', '0', ':', '0', '0'])

def optionalText : Option Sha256Text → Json
  | none => .null
  | some text => .string text.1

/-- `_entry_body` -/
def entryTree (entry : PipelineStateEntry) : List (String × Json) :=
  [("byte_count", .number entry.byteCount), ("relative_path", .string entry.relativePath),
    ("root_name", .string entry.rootName.value), ("sha256", .string entry.sha256.1)]

/-- `_inventory_body` without its id -/
def inventoryTree (inventory : InventoryFields) : List (String × Json) :=
  [("cutoff", .string (datetimeIsoformat inventory.cutoff)),
    ("entries", .array (inventory.entries.map fun entry => .object (entryTree entry))),
    ("entry_count", .number inventory.entryCount),
    ("market_session", .string (canonicalDate inventory.marketSession)),
    ("previous_run_id", optionalText inventory.previousRunId),
    ("run_id", .string inventory.runId.1),
    ("schema_version", .number 1),
    ("total_bytes", .number inventory.totalBytes)]

/-- `_canonical_json_bytes` -/
def stateJsonBytes (entries : List (String × Json)) : List UInt8 :=
  Utf8Text.encode (dumps (.object entries) ++ "\n")

section Digests

variable (hexdigest : List UInt8 → Sha256Text)

def inventoryId (inventory : InventoryFields) : Sha256Text :=
  hexdigest (stateJsonBytes (inventoryTree inventory))

def encodedInventory (inventory : InventoryFields) : List UInt8 :=
  stateJsonBytes (("inventory_id", .string (inventoryId hexdigest inventory).1) :: inventoryTree inventory)

/-- `encode_pipeline_state_inventory`, whose inventory was verified when it was built. -/
def encodePipelineStateInventory (inventory : PipelineStateInventory) : Except String (List UInt8) := do
  raiseIf (maximumEncodedBytes < (encodedInventory hexdigest inventory.1).length)
    "pipeline state inventory exceeds the encoded-byte ceiling"
  return encodedInventory hexdigest inventory.1

/-- A regular file below a root that is not a lock. -/
structure StateFile where
  rootName : StateRootName
  relativePath : String
  content : List UInt8

/-- The files below the roots, in the order of the walk. -/
abbrev PipelineStateRoots := List StateFile

/-- The file at a path. -/
def PipelineStateRoots.file (roots : PipelineStateRoots) (rootName : StateRootName)
    (relativePath : String) : Option StateFile :=
  roots.find? fun file => file.rootName = rootName && file.relativePath = relativePath

/-- `read_stable_regular_file` on a file that does not change -/
def readStableRegularFile (file : StateFile) : Option (List UInt8) :=
  if file.content = [] ∨ maximumFileBytes < file.content.length then none else some file.content

/-- The entries of the files from here on, after `count` files with `total` bytes. -/
def collectEntries : PipelineStateRoots → ℕ → ℕ → Except String (List PipelineStateEntry)
  | [], _, _ => .ok []
  | file :: rest, count, total => do
    raiseIf (maximumIncludedFiles < count + 1) "pipeline state inventory exceeds the included-file ceiling"
    match readStableRegularFile file with
    | none => .error "pipeline state file could not be read safely"
    | some payload =>
      raiseIf (maximumTotalBytes < total + payload.length)
        "pipeline state inventory exceeds the total-byte ceiling"
      let entry : PipelineStateEntry :=
        ⟨file.rootName, file.relativePath, payload.length, hexdigest payload⟩
      validateEntry entry
      let entries ← collectEntries rest (count + 1) (total + payload.length)
      return entry :: entries

/-- What an inventory takes from its run. -/
structure DailyPipelineRunBinding where
  runId : Sha256Text
  previousRunId : Option Sha256Text
  marketSession : CivilDate
  cutoff : Instant

/-- `build_pipeline_state_inventory` over roots that do not change -/
def buildPipelineStateInventory (run : DailyPipelineRunBinding) (roots : PipelineStateRoots) :
    Except String PipelineStateInventory := do
  let collected ← collectEntries hexdigest roots 0 0
  Checked.build validateInventory
    { runId := run.runId
      previousRunId := run.previousRunId
      marketSession := run.marketSession
      cutoff := run.cutoff
      entries := sortOn entryKey collected
      entryCount := collected.length
      totalBytes := (collected.map (·.byteCount)).sum }

end Digests

end IndiaSwing
