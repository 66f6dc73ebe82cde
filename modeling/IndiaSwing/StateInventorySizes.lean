import IndiaSwing.StateManifests
import IndiaSwing.StateTreeInventories

namespace IndiaSwing

open CivilTime JsonText ExceptGuards KeySort DirectoryTree TextPatterns

section Sizes

variable {hexdigest : List UInt8 → Sha256Text} {inventory : PipelineStateInventory} {entry : PipelineStateEntry}
variable {text : String}

theorem mem_of_mem_intercalate {c slash : Char} {segments : List (List Char)} (h : c ∈ [slash].intercalate segments) :
    c = slash ∨ ∃ segment ∈ segments, c ∈ segment := by
  induction segments with
  | nil => simp at h
  | cons first rest ih =>
    cases rest with
    | nil => exact .inr ⟨first, List.mem_cons_self, by simpa using h⟩
    | cons second rest =>
      rw [List.intercalate_cons_cons, List.mem_append, List.mem_append, List.mem_singleton] at h
      rcases h with (hfirst | hslash) | hrest
      · exact .inr ⟨first, List.mem_cons_self, hfirst⟩
      · exact .inl hslash
      · rcases ih hrest with hslash | ⟨segment, hsegment, hc⟩
        · exact .inl hslash
        · exact .inr ⟨segment, List.mem_cons_of_mem _ hsegment, hc⟩

theorem plainChar_of_isSegmentCharacter {c : Char} (h : isSegmentCharacter c = true) : PlainChar c := by
  simp only [isSegmentCharacter, Bool.or_eq_true, decide_eq_true_eq] at h
  rcases h with ((hletter | rfl) | rfl) | rfl
  · have hrange : 48 ≤ c.toNat ∧ c.toNat ≤ 122 ∧ c.toNat ≠ 92 := by
      rcases cases_of_isAlphanum hletter with hupper | hlower | hdigit
      · obtain ⟨hlow, hhigh⟩ := range_of_isUpper hupper
        omega
      · obtain ⟨hlow, hhigh⟩ := range_of_isLower hlower
        omega
      · obtain ⟨hlow, hhigh⟩ := range_of_isDigit hdigit
        omega
    obtain ⟨hlow, hhigh, hslash⟩ := hrange
    refine plainChar_of_range (by omega) (by omega) ?_
    rintro rfl
    exact hslash rfl
  · decide
  · decide
  · decide

/-- The characters and the length of a relative path. -/
theorem relativePath_facts (h : isRelativePath text = true) : PlainText text ∧ text.toList.length ≤ 512 := by
  simp only [isRelativePath, Bool.and_eq_true, decide_eq_true_eq, List.all_eq_true] at h
  obtain ⟨⟨-, hlength⟩, hsegments⟩ := h
  refine ⟨fun c hc => ?_, hlength⟩
  have hjoin : ['/'].intercalate (text.toList.splitOn '/') = text.toList := List.intercalate_splitOn '/'
  rw [← hjoin] at hc
  rcases mem_of_mem_intercalate hc with rfl | ⟨segment, hsegment, hmem⟩
  · decide
  · exact plainChar_of_isSegmentCharacter ((hsegments segment hsegment).2 c hmem)

theorem length_rootName (rootName : StateRootName) : rootName.value.toList.length ≤ 17 := by
  cases rootName <;> decide

theorem plainText_rootName (rootName : StateRootName) : PlainText rootName.value := by
  cases rootName <;> decide

theorem entryTree_plain (h : validateEntry entry = .ok ()) : Plain (.object (entryTree entry)) := by
  unfold validateEntry at h
  simp only [raiseIf_bind_eq_ok, not_not] at h
  simp only [entryTree, Plain, PlainEntries, and_true]
  exact ⟨by decide, trivial, by decide, (relativePath_facts h.1).1, by decide, plainText_rootName _, by decide,
    plainText_sha256 _⟩

theorem inventory_plain (inventory : PipelineStateInventory) : Plain (.object (wireTree hexdigest inventory.1)) := by
  have hentries : PlainItems (inventory.1.entries.map fun entry => .object (entryTree entry)) := by
    rw [plainItems_iff]
    intro item hitem
    obtain ⟨entry, hentry, rfl⟩ := List.mem_map.mp hitem
    exact entryTree_plain (validateEntry_of_mem inventory hentry)
  simp only [wireTree, inventoryTree, Plain, PlainEntries, and_true]
  exact ⟨by decide, plainText_sha256 _, by decide, plainText_datetimeIsoformat _, by decide, hentries, by decide, trivial,
    by decide, plainText_canonicalDate _, by decide, optionalText_plain _, by decide, plainText_sha256 _, by decide,
    by decide⟩

/-- An entry of any path takes 665 characters at most. -/
theorem entryTree_size_le (h : validateEntry entry = .ok ()) : size (.object (entryTree entry)) + 1 ≤ 665 := by
  unfold validateEntry at h
  simp only [raiseIf_bind_eq_ok, raiseIf_eq_ok, not_not, not_or, not_lt] at h
  obtain ⟨hpath, -, hbytes⟩ := h
  have hlength := (relativePath_facts hpath).2
  have hroot := length_rootName entry.rootName
  have hcount : (renderNumber (entry.byteCount : ℤ)).length ≤ 9 :=
    length_renderNumber_le (by decide) (hbytes.trans_lt (by decide))
  simp only [entryTree, size, sizeEntries, length_sha256]
  simp
  omega

/-- What the entries take, with one size for each of them. -/
theorem sizeItems_entries_le {entries : List PipelineStateEntry} {n : ℕ}
    (h : ∀ entry ∈ entries, size (.object (entryTree entry)) + 1 ≤ n) :
    sizeItems (entries.map fun entry => .object (entryTree entry)) ≤ n * entries.length := by
  induction entries with
  | nil => exact Nat.zero_le _
  | cons entry entries ih =>
    have hentry := h entry List.mem_cons_self
    have hrest := ih fun other hother => h other (List.mem_cons_of_mem _ hother)
    rw [List.map_cons, sizeItems, List.length_cons, Nat.mul_succ]
    omega

theorem le_sizeItems_entries {entries : List PipelineStateEntry} {n : ℕ}
    (h : ∀ entry ∈ entries, n ≤ size (.object (entryTree entry)) + 1) :
    n * entries.length ≤ sizeItems (entries.map fun entry => .object (entryTree entry)) := by
  induction entries with
  | nil => exact Nat.zero_le _
  | cons entry entries ih =>
    have hentry := h entry List.mem_cons_self
    have hrest := ih fun other hother => h other (List.mem_cons_of_mem _ hother)
    rw [List.map_cons, sizeItems, List.length_cons, Nat.mul_succ]
    omega

theorem sizeItems_le_wireTree (inventory : InventoryFields) :
    sizeItems (inventory.entries.map fun entry => .object (entryTree entry)) ≤
      size (.object (wireTree hexdigest inventory)) := by
  simp only [wireTree, inventoryTree, size, sizeEntries]
  omega

theorem totalBytes_le (inventory : PipelineStateInventory) : inventory.1.totalBytes ≤ maximumTotalBytes := by
  obtain ⟨-, -, h⟩ := bind_eq_ok.mp inventory.2
  simp only [raiseIf_bind_eq_ok, raiseIf_eq_ok, ne_eq, not_not, not_lt] at h
  rw [h.2.2.2.2.2]
  exact h.2.2.2.1

theorem wireTree_size_le (inventory : PipelineStateInventory) : size (.object (wireTree hexdigest inventory.1)) ≤
    sizeItems (inventory.1.entries.map fun entry => .object (entryTree entry)) + 400 := by
  obtain ⟨hcounts, htotals⟩ := inventory_counts inventory
  have hfits := validateInventory_length inventory
  have hcount : (renderNumber (inventory.1.entryCount : ℤ)).length ≤ 6 :=
    length_renderNumber_le (by decide) (by rw [hcounts]; exact hfits.trans_lt (by decide))
  have htotal : (renderNumber (inventory.1.totalBytes : ℤ)).length ≤ 10 :=
    length_renderNumber_le (by decide) ((totalBytes_le inventory).trans_lt (by decide))
  have hcutoff := length_datetimeIsoformat inventory.1.cutoff
  have hprevious := optionalText_size inventory.1.previousRunId
  have hversion : (renderNumber 1).length = 1 := by decide
  simp only [wireTree, inventoryTree, size, sizeEntries, length_sha256, length_canonicalDate, hversion]
  simp
  omega

/-- Up to 25,000 entries, of any paths, fit into the encoded-byte ceiling. -/
theorem encodedInventory_fits (inventory : PipelineStateInventory) (h : inventory.1.entries.length ≤ 25000) :
    (encodedInventory hexdigest inventory.1).length ≤ maximumEncodedBytes := by
  have hline := length_encode_line_le (@inventory_plain hexdigest inventory)
  have hsize := @wireTree_size_le hexdigest inventory
  have hentries := sizeItems_entries_le fun entry hentry =>
    entryTree_size_le (validateEntry_of_mem inventory hentry)
  rw [encodedInventory_eq]
  unfold maximumEncodedBytes
  omega

end Sizes

section Publication

variable {hexdigest : List UInt8 → Sha256Text} {inventory : PipelineStateInventory} {roots : RootTrees}
variable {run : DailyPipelineRunBinding}

/-- A state that can be collected is published and read back while its text is within the encoded-byte ceiling, which it
is up to 25,000 files, and is refused by that ceiling otherwise. -/
theorem collectible_state_published (reader : IsoformatReader)
    (h : buildInventoryOfTrees hexdigest run roots = .ok inventory) :
    ((treeFiles roots).length ≤ 25000 → (encodedInventory hexdigest inventory.1).length ≤ maximumEncodedBytes) ∧
      ((encodedInventory hexdigest inventory.1).length ≤ maximumEncodedBytes →
        ∃ bytes, buildInventoryOfTrees hexdigest run roots >>= encodePipelineStateInventory hexdigest = .ok bytes ∧
          parsePipelineStateInventory reader hexdigest bytes = .ok inventory) ∧
      (maximumEncodedBytes < (encodedInventory hexdigest inventory.1).length →
        buildInventoryOfTrees hexdigest run roots >>= encodePipelineStateInventory hexdigest =
          .error "pipeline state inventory exceeds the encoded-byte ceiling") := by
  have hfiles := (buildInventoryOfTrees_eq_ok.mp h).2.entries.length_eq
  rw [List.length_map] at hfiles
  refine ⟨fun hcount => encodedInventory_fits inventory (by omega), fun hfits => ?_, fun hlarge => ?_⟩
  · have hencode : encodePipelineStateInventory hexdigest inventory = .ok (encodedInventory hexdigest inventory.1) := by
      unfold encodePipelineStateInventory
      rw [raiseIf_neg (not_lt.mpr hfits), ok_bind]
      rfl
    rw [h, ok_bind, hencode]
    exact ⟨_, rfl, parse_encoded reader hencode⟩
  · rw [h, ok_bind]
    unfold encodePipelineStateInventory
    rw [raiseIf_pos hlarge, error_bind]

/-- The digest of the examples. -/
def sampleStateDigest : List UInt8 → Sha256Text := fun _ => ⟨String.ofList (List.replicate 64 '0'), by decide +kernel⟩

def sampleStateRun : DailyPipelineRunBinding where
  runId := sampleStateDigest []
  previousRunId := none
  marketSession := ⟨739000, by decide, by decide⟩
  cutoff := ⟨0, by decide⟩

/-- Six roots with one file. -/
def sampleStateRoots : RootTrees
  | .calendarData =>
    some (.directory ⟨.leaf "2024.json" (.file [123, 125] 1) .nil, by decide +kernel,
      fun _ h => absurd h List.not_mem_nil, trivial⟩)
  | _ => some (.directory ⟨.nil, trivial⟩)

def sampleStateInventory : PipelineStateInventory :=
  ⟨{ runId := sampleStateRun.runId
     previousRunId := sampleStateRun.previousRunId
     marketSession := sampleStateRun.marketSession
     cutoff := sampleStateRun.cutoff
     entries := [⟨.calendarData, "2024.json", 2, sampleStateDigest []⟩]
     entryCount := 1
     totalBytes := 2 }, by decide +kernel⟩

theorem collectible_state_published_sample : ∃ bytes,
    buildInventoryOfTrees sampleStateDigest sampleStateRun sampleStateRoots >>= encodePipelineStateInventory sampleStateDigest = .ok bytes ∧
      parsePipelineStateInventory isoformatReader sampleStateDigest bytes = .ok sampleStateInventory := by
  have hbuild : buildInventoryOfTrees sampleStateDigest sampleStateRun sampleStateRoots = .ok sampleStateInventory := by
    refine buildInventoryOfTrees_eq_ok.mpr ⟨fun rootName => ?_, rfl, rfl, rfl, rfl, .refl _⟩
    cases rootName with
    | calendarData => exact ⟨_, rfl, ⟨_, _, rfl⟩, trivial⟩
    | identityRegistry => exact ⟨_, rfl, trivial⟩
    | historicalPrices => exact ⟨_, rfl, trivial⟩
    | dailyReports => exact ⟨_, rfl, trivial⟩
    | referenceData => exact ⟨_, rfl, trivial⟩
    | dailyPipeline => exact ⟨_, rfl, trivial⟩
  obtain ⟨hfits, hpublished, -⟩ := collectible_state_published isoformatReader hbuild
  exact hpublished (hfits (by decide))

end Publication

section Crowded

def digitCharacters : List Char := ['0', '1', '2', '3', '4', '5', '6', '7', '8', '9']

/-- The names of as many digits and a tail, in their order. -/
def crowdedNames : ℕ → List (List Char)
  | 0 => [List.replicate 123 'a']
  | digits + 1 => digitCharacters.flatMap fun c => (crowdedNames digits).map (c :: ·)

/-- A directory of files of one byte. -/
def crowdedDirectory (names : List (List Char)) : StateDirectory :=
  names.foldr (fun name rest => .leaf (String.ofList name) (.file [0] 1) rest) .nil

variable {names : List (List Char)} {digits : ℕ} {name : List Char}

theorem length_crowdedNames (digits : ℕ) : (crowdedNames digits).length = 10 ^ digits := by
  induction digits with
  | zero => rfl
  | succ digits ih =>
    rw [crowdedNames, List.length_flatMap]
    simp only [List.length_map, ih, List.map_const', List.sum_replicate_nat, pow_succ]
    rw [show digitCharacters.length = 10 by rfl, Nat.mul_comm]

theorem crowdedName_facts (h : name ∈ crowdedNames digits) :
    name.length = 123 + digits ∧ ∀ c ∈ name, c = 'a' ∨ c ∈ digitCharacters := by
  induction digits generalizing name with
  | zero =>
    rw [crowdedNames, List.mem_singleton] at h
    rw [h]
    exact ⟨by simp, fun c hc => .inl (List.eq_of_mem_replicate hc)⟩
  | succ digits ih =>
    obtain ⟨first, hfirst, h⟩ := List.mem_flatMap.mp h
    obtain ⟨rest, hrest, rfl⟩ := List.mem_map.mp h
    obtain ⟨hlength, hchars⟩ := ih hrest
    exact ⟨by rw [List.length_cons, hlength]; rfl, List.forall_mem_cons.mpr ⟨.inr hfirst, hchars⟩⟩

theorem crowdedNames_pairwise (digits : ℕ) : (crowdedNames digits).Pairwise (· < ·) := by
  induction digits with
  | zero => exact List.pairwise_singleton _ _
  | succ digits ih =>
    rw [crowdedNames, List.pairwise_flatMap]
    constructor
    · intro c _
      rw [List.pairwise_map]
      exact ih.imp fun hlt => List.cons_lt_cons_self.mpr hlt
    · have hdigits : digitCharacters.Pairwise (· < ·) := by decide
      refine hdigits.imp ?_
      intro c d hlt a ha b hb
      obtain ⟨a, -, rfl⟩ := List.mem_map.mp ha
      obtain ⟨b, -, rfl⟩ := List.mem_map.mp hb
      exact List.cons_lt_cons_iff.mpr (.inl hlt)

theorem names_crowdedDirectory (names : List (List Char)) :
    (crowdedDirectory names).names = names.map String.ofList := by
  induction names with
  | nil => rfl
  | cons name names ih =>
    rw [List.map_cons, ← ih]
    rfl

theorem isFileName_crowded (h : name ∈ crowdedNames digits) : IsFileName (String.ofList name) := by
  obtain ⟨hlength, hchars⟩ := crowdedName_facts h
  have hshort : ∀ text : String, text.toList.length < 123 → String.ofList name ≠ text := by
    rintro text htext rfl
    rw [String.toList_ofList] at htext
    omega
  refine ⟨hshort _ (by decide), ?_, hshort _ (by decide), hshort _ (by decide)⟩
  rw [String.toList_ofList]
  intro hslash
  rcases hchars _ hslash with heq | hdigit
  · exact absurd heq (by decide)
  · exact absurd hdigit (by decide)

theorem wellFormed_crowdedDirectory (hvalid : ∀ name ∈ names, IsFileName (String.ofList name))
    (hordered : names.Pairwise (· < ·)) : (crowdedDirectory names).WellFormed IsFileName := by
  induction names with
  | nil => trivial
  | cons name names ih =>
    obtain ⟨hname, hnames⟩ := List.forall_mem_cons.mp hvalid
    obtain ⟨hfirst, hrest⟩ := List.pairwise_cons.mp hordered
    refine ⟨hname, ?_, ih hnames hrest⟩
    intro other hother
    rw [← crowdedDirectory, names_crowdedDirectory] at hother
    obtain ⟨chars, hchars, rfl⟩ := List.mem_map.mp hother
    rw [String.lt_iff_toList_lt, String.toList_ofList, String.toList_ofList]
    exact hfirst chars hchars

/-- The directory that the crowded directory is in. -/
def crowdedParent : List Char := List.replicate 128 'a'

def crowdedRoot : RealDirectory :=
  ⟨.directory (String.ofList crowdedParent) (crowdedDirectory (crowdedNames 5)) .nil,
    by decide +kernel, fun _ h => absurd h List.not_mem_nil,
    wellFormed_crowdedDirectory (fun _ h => isFileName_crowded h) (crowdedNames_pairwise 5), trivial⟩

/-- Six roots, the first of which has 100,000 files of one byte with paths of 257 characters. -/
def crowdedRoots : RootTrees
  | .calendarData => some (.directory crowdedRoot)
  | _ => some (.directory ⟨.nil, trivial⟩)

/-- The path of a file of the crowded directory. -/
def crowdedPath (name : List Char) : List Char := crowdedParent ++ '/' :: name

def crowdedFile (name : List Char) : StateFile := ⟨.calendarData, String.ofList (crowdedPath name), [0]⟩

theorem included_crowdedDirectory (h : ∀ name ∈ names, String.ofList name ∉ lockFileNames) :
    includedFiles .calendarData [String.ofList crowdedParent] (crowdedDirectory names) = names.map crowdedFile := by
  induction names with
  | nil => rfl
  | cons name names ih =>
    obtain ⟨hname, hnames⟩ := List.forall_mem_cons.mp h
    have hpath : joinSegments ([String.ofList crowdedParent] ++ [String.ofList name]) = String.ofList (crowdedPath name) := by
      simp [joinSegments, crowdedPath]
    show includedFiles .calendarData _ (.leaf (String.ofList name) (.file [0] 1) (crowdedDirectory names)) = _
    rw [includedFiles, if_neg hname, ih hnames, hpath, List.map_cons]
    rfl

theorem treeFiles_crowdedRoots : treeFiles crowdedRoots = (crowdedNames 5).map crowdedFile := by
  have hlock : ∀ name ∈ crowdedNames 5, String.ofList name ∉ lockFileNames := by
    intro name hname hlock
    have hlength := (crowdedName_facts hname).1
    have hlocks : ∀ lock ∈ lockFileNames, lock.toList.length < 128 := by decide
    have hshort := hlocks _ hlock
    rw [String.toList_ofList] at hshort
    omega
  have hparent : String.ofList crowdedParent ≠ lockDirectoryName := by decide +kernel
  have hfirst : rootFiles crowdedRoots .calendarData = (crowdedNames 5).map crowdedFile := by
    show includedFiles .calendarData [] (.directory _ _ .nil) = _
    rw [includedFiles, if_neg hparent]
    show includedFiles .calendarData [String.ofList crowdedParent] _ ++ [] = _
    rw [List.append_nil, included_crowdedDirectory hlock]
  have hrest : ∀ rootName, rootName ≠ .calendarData → rootFiles crowdedRoots rootName = [] := by
    intro rootName hne
    cases rootName with
    | calendarData => exact absurd rfl hne
    | identityRegistry => rfl
    | historicalPrices => rfl
    | dailyReports => rfl
    | referenceData => rfl
    | dailyPipeline => rfl
  unfold treeFiles StateRootName.all
  simp only [List.flatMap_cons, List.flatMap_nil, hfirst, hrest _ (by decide : StateRootName.identityRegistry ≠ _),
    hrest _ (by decide : StateRootName.historicalPrices ≠ _), hrest _ (by decide : StateRootName.dailyReports ≠ _),
    hrest _ (by decide : StateRootName.referenceData ≠ _), hrest _ (by decide : StateRootName.dailyPipeline ≠ _),
    List.append_nil]

theorem length_crowdedPath (h : name ∈ crowdedNames 5) : (crowdedPath name).length = 257 := by
  have hlength := (crowdedName_facts h).1
  rw [crowdedPath, List.length_append, List.length_cons, hlength, crowdedParent, List.length_replicate]

theorem crowdedCharacter {c : Char} (h : c = 'a' ∨ c ∈ digitCharacters) :
    c.isAlphanum = true ∧ isSegmentCharacter c = true ∧ c ≠ '/' ∧ c.toLower = c := by
  have hall : ∀ c ∈ 'a' :: digitCharacters, c.isAlphanum = true ∧ isSegmentCharacter c = true ∧ c ≠ '/' ∧ c.toLower = c :=
    List.forall_iff_forall_mem.mp (by decide)
  exact hall c (List.mem_cons.mpr h)

theorem crowdedParent_characters : ∀ c ∈ crowdedParent, c = 'a' ∨ c ∈ digitCharacters := fun _ hc =>
  .inl (List.eq_of_mem_replicate hc)

theorem isRelativePath_crowded (h : name ∈ crowdedNames 5) : isRelativePath (String.ofList (crowdedPath name)) = true := by
  obtain ⟨hlength, hchars⟩ := crowdedName_facts h
  have hparent : crowdedParent.length = 128 := List.length_replicate
  have hsegments : (crowdedPath name).splitOn '/' = [crowdedParent, name] := by
    have hslash : ∀ segment ∈ [crowdedParent, name], '/' ∉ segment := by
      intro segment hsegment hslash
      rcases List.mem_cons.mp hsegment with rfl | hsegment
      · exact (crowdedCharacter (crowdedParent_characters _ hslash)).2.2.1 rfl
      · rw [List.mem_singleton.mp hsegment] at hslash
        exact (crowdedCharacter (hchars _ hslash)).2.2.1 rfl
    rw [← List.splitOn_intercalate '/' hslash (List.cons_ne_nil _ _)]
    simp [crowdedPath]
  have hsegment : ∀ segment : List Char, segment.length = 128 → (∀ c ∈ segment, c = 'a' ∨ c ∈ digitCharacters) →
      (segment.length ≤ 128 && segment.head?.any Char.isAlphanum && segment.all isSegmentCharacter) = true := by
    intro segment hsize hall
    cases segment with
    | nil => cases hsize
    | cons c rest =>
      have hhead := (crowdedCharacter (hall c List.mem_cons_self)).1
      simp only [List.head?_cons, Option.any_some, hhead, hsize, Bool.and_eq_true, List.all_eq_true, decide_eq_true_eq,
        le_refl, and_self, true_and]
      exact fun d hd => (crowdedCharacter (hall d hd)).2.1
  have hne : String.ofList (crowdedPath name) ≠ "" := by
    intro hempty
    have hchars := congrArg String.toList hempty
    rw [String.toList_ofList] at hchars
    have hsize := length_crowdedPath h
    rw [hchars] at hsize
    cases hsize
  unfold isRelativePath
  rw [String.toList_ofList, hsegments, length_crowdedPath h]
  simp only [ne_eq, hne, not_false_eq_true, decide_true, Bool.true_and, List.all_cons, List.all_nil, Bool.and_true,
    hsegment _ hparent crowdedParent_characters, hsegment _ hlength hchars]
  decide

theorem append_lt_append (head : List Char) {a b : List Char} (h : a < b) : head ++ a < head ++ b := by
  induction head with
  | nil => exact h
  | cons c head ih => exact List.cons_lt_cons_self.mpr ih

def crowdedEntries : List PipelineStateEntry := (crowdedNames 5).map fun name => fileEntry sampleStateDigest (crowdedFile name)

def crowdedFields : InventoryFields where
  runId := sampleStateRun.runId
  previousRunId := sampleStateRun.previousRunId
  marketSession := sampleStateRun.marketSession
  cutoff := sampleStateRun.cutoff
  entries := crowdedEntries
  entryCount := crowdedEntries.length
  totalBytes := (crowdedEntries.map (·.byteCount)).sum

theorem length_crowdedEntries : crowdedEntries.length = 100000 := by
  rw [crowdedEntries, List.length_map, length_crowdedNames]
  rfl

theorem crowdedEntries_ordered : crowdedEntries.Pairwise fun a b => entryKey a < entryKey b := by
  rw [crowdedEntries, List.pairwise_map]
  refine (crowdedNames_pairwise 5).imp fun {a b} hlt => ?_
  rw [entryKey, entryKey, Prod.Lex.toLex_lt_toLex]
  refine .inr ⟨rfl, ?_⟩
  show String.ofList (crowdedPath a) < String.ofList (crowdedPath b)
  rw [String.lt_iff_toList_lt, String.toList_ofList, String.toList_ofList]
  exact append_lt_append _ (List.cons_lt_cons_self.mpr hlt)

theorem crowdedEntry_valid {entry : PipelineStateEntry} (h : entry ∈ crowdedEntries) : validateEntry entry = .ok () := by
  obtain ⟨name, hname, rfl⟩ := List.mem_map.mp h
  have hsize : [(0 : UInt8)].length ≤ maximumFileBytes := by decide
  exact validateEntry_fileEntry ⟨List.cons_ne_nil _ _, hsize, isRelativePath_crowded hname⟩

theorem toLower_crowded (h : name ∈ crowdedNames 5) :
    (String.ofList (crowdedPath name)).toLower = String.ofList (crowdedPath name) := by
  have hall : ∀ c ∈ crowdedPath name, c.toLower = c := by
    intro c hc
    rcases List.mem_append.mp hc with hparent | hc
    · exact (crowdedCharacter (crowdedParent_characters c hparent)).2.2.2
    · rcases List.mem_cons.mp hc with rfl | hname
      · decide
      · exact (crowdedCharacter ((crowdedName_facts h).2 c hname)).2.2.2
  have hmap : (String.ofList (crowdedPath name)).toLower = (String.ofList (crowdedPath name)).map Char.toLower := rfl
  rw [hmap, ← String.ofList_toList (s := (String.ofList (crowdedPath name)).map _), String.toList_map,
    String.toList_ofList, List.map_congr_left hall, List.map_id']

theorem crowdedFields_valid : validateInventory crowdedFields = .ok () := by
  have hordered : crowdedFields.entries.Pairwise fun a b => entryKey a < entryKey b := crowdedEntries_ordered
  have hnodup : (crowdedFields.entries.map fun entry => (entry.rootName, entry.relativePath.toLower)).Nodup := by
    have hpaths : ∀ entry ∈ crowdedEntries, entry.relativePath.toLower = entry.relativePath := by
      intro entry hentry
      obtain ⟨name, hname, rfl⟩ := List.mem_map.mp hentry
      exact toLower_crowded hname
    rw [List.map_congr_left fun entry hentry => by rw [hpaths entry hentry]]
    rw [List.nodup_iff_pairwise_ne, List.pairwise_map]
    refine hordered.imp fun {a b} hlt heq => ?_
    rw [entryKey, entryKey, (Prod.mk.inj heq).1, (Prod.mk.inj heq).2] at hlt
    exact lt_irrefl _ hlt
  have hentries : crowdedFields.entries.mapM validateEntry = .ok (crowdedFields.entries.map fun _ => ()) :=
    mapM_ok fun entry hentry => crowdedEntry_valid hentry
  have htotal : (crowdedEntries.map (·.byteCount)).sum = 100000 := by
    rw [crowdedEntries, List.map_map]
    show ((crowdedNames 5).map fun _ => 1).sum = 100000
    rw [List.map_const', List.sum_replicate_nat, length_crowdedNames]
    rfl
  have hfiles : ¬maximumIncludedFiles < crowdedFields.entries.length := by
    show ¬maximumIncludedFiles < crowdedEntries.length
    rw [length_crowdedEntries]
    decide
  have hbytes : ¬maximumTotalBytes < (crowdedFields.entries.map (·.byteCount)).sum := by
    show ¬maximumTotalBytes < (crowdedEntries.map (·.byteCount)).sum
    rw [htotal]
    decide
  have hcount : ¬crowdedFields.entryCount ≠ crowdedFields.entries.length := not_not.mpr rfl
  have hsum : ¬crowdedFields.totalBytes ≠ (crowdedFields.entries.map (·.byteCount)).sum := not_not.mpr rfl
  refine bind_eq_ok.mpr ⟨_, hentries, raiseIf_bind_eq_ok.mpr ⟨not_not.mpr hordered, ?_⟩⟩
  refine raiseIf_bind_eq_ok.mpr ⟨not_not.mpr hnodup, raiseIf_bind_eq_ok.mpr ⟨hfiles, ?_⟩⟩
  exact raiseIf_bind_eq_ok.mpr ⟨hbytes, raiseIf_bind_eq_ok.mpr ⟨hcount, raiseIf_eq_ok.mpr hsum⟩⟩

theorem crowdedRoots_walkable (rootName : StateRootName) : Walkable crowdedRoots rootName := by
  have hplain : ∀ names : List (List Char), PlainBelow (crowdedDirectory names) := by
    intro names
    induction names with
    | nil => trivial
    | cons name names ih => exact ⟨⟨_, _, rfl⟩, ih⟩
  cases rootName with
  | calendarData => exact ⟨crowdedRoot, rfl, fun _ => hplain _, trivial⟩
  | identityRegistry => exact ⟨_, rfl, trivial⟩
  | historicalPrices => exact ⟨_, rfl, trivial⟩
  | dailyReports => exact ⟨_, rfl, trivial⟩
  | referenceData => exact ⟨_, rfl, trivial⟩
  | dailyPipeline => exact ⟨_, rfl, trivial⟩

theorem crowdedEntry_size {entry : PipelineStateEntry} (h : entry ∈ crowdedEntries) :
    360 ≤ size (.object (entryTree entry)) + 1 := by
  obtain ⟨name, hname, rfl⟩ := List.mem_map.mp h
  have hlength : (fileEntry sampleStateDigest (crowdedFile name)).relativePath.toList.length = 257 := by
    show (String.ofList (crowdedPath name)).toList.length = 257
    rw [String.toList_ofList, length_crowdedPath hname]
  simp only [entryTree, size, sizeEntries, length_sha256, hlength]
  simp
  omega

/-- A state with 100,000 files is collected and cannot be encoded. -/
theorem crowded_state_unpublishable : ∃ inventory, buildInventoryOfTrees sampleStateDigest sampleStateRun crowdedRoots = .ok inventory ∧
    encodePipelineStateInventory sampleStateDigest inventory =
      .error "pipeline state inventory exceeds the encoded-byte ceiling" := by
  refine ⟨⟨crowdedFields, crowdedFields_valid⟩, buildInventoryOfTrees_eq_ok.mpr ⟨crowdedRoots_walkable, ?_⟩, ?_⟩
  · refine ⟨rfl, rfl, rfl, rfl, ?_⟩
    rw [treeFiles_crowdedRoots, List.map_map]
    exact .refl _
  · have hline := size_le_length_encode_line (@inventory_plain sampleStateDigest ⟨crowdedFields, crowdedFields_valid⟩)
    have hentries := le_sizeItems_entries fun entry hentry => @crowdedEntry_size entry hentry
    have hsize := @sizeItems_le_wireTree sampleStateDigest crowdedFields
    rw [← encodedInventory_eq] at hline
    rw [length_crowdedEntries] at hentries
    have hlarge : maximumEncodedBytes < (encodedInventory sampleStateDigest crowdedFields).length := by
      unfold maximumEncodedBytes
      have hcount : 36000000 ≤ sizeItems (crowdedFields.entries.map fun entry => .object (entryTree entry)) := hentries
      dsimp only at hline
      omega
    unfold encodePipelineStateInventory
    rw [raiseIf_pos hlarge, error_bind]

end Crowded

end IndiaSwing
