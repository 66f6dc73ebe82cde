import IndiaSwing.StateTrees

namespace IndiaSwing

open CivilTime ExceptGuards KeySort DirectoryTree

section Roots

variable {hexdigest : List UInt8 → Sha256Text} {roots : RootTrees} {rootName : StateRootName}
variable {rootNames : List StateRootName} {state state' : WalkState} {run : DailyPipelineRunBinding}
variable {inventory : PipelineStateInventory} {entries : List PipelineStateEntry} {files : List StateFile}

/-- A root is a directory with only files and directories wherever a walk goes. -/
def Walkable (roots : RootTrees) (rootName : StateRootName) : Prop :=
  ∃ names, roots rootName = some (.directory names) ∧ PlainBelow names.1

/-- The files that a walk of a root includes. -/
def rootFiles (roots : RootTrees) (rootName : StateRootName) : List StateFile :=
  match roots rootName with
  | some (.directory names) => includedFiles rootName [] names.1
  | _ => []

/-- The files below the roots, as a list. -/
def treeFiles (roots : RootTrees) : PipelineStateRoots := StateRootName.all.flatMap (rootFiles roots)

theorem stackFiles_root {names : RealDirectory} (h : roots rootName = some (.directory names)) :
    stackFiles rootName [([], names.1)] = rootFiles roots rootName := by
  simp [stackFiles, rootFiles, h]

theorem walkRoot_eq_ok (h : walkRoot hexdigest roots state rootName = .ok state') :
    Walkable roots rootName ∧ ∃ files : List StateFile, files.Perm (rootFiles roots rootName) ∧
      files.foldlM (includeFile hexdigest) state = .ok state' := by
  unfold walkRoot at h
  cases hroot : roots rootName with
  | none =>
    rw [hroot] at h
    cases h
  | some entry =>
    rw [hroot] at h
    cases entry with
    | leaf leaf => cases h
    | directory names =>
      obtain ⟨hplain, files, hfiles, hfold⟩ := walkStack_eq_ok h
      rw [stackFiles_root hroot] at hfiles
      exact ⟨⟨names, hroot, hplain _ List.mem_cons_self⟩, files, hfiles, hfold⟩

theorem foldlM_walkRoot_eq_ok (h : rootNames.foldlM (walkRoot hexdigest roots) state = .ok state') :
    (∀ rootName ∈ rootNames, Walkable roots rootName) ∧ ∃ files : List StateFile,
      files.Perm (rootNames.flatMap (rootFiles roots)) ∧
      files.foldlM (includeFile hexdigest) state = .ok state' := by
  induction rootNames generalizing state with
  | nil =>
    obtain rfl := Except.ok.inj h
    exact ⟨by simp, [], .refl _, rfl⟩
  | cons rootName rootNames ih =>
    rw [List.foldlM_cons] at h
    obtain ⟨next, hnext, hrest⟩ := bind_eq_ok.mp h
    obtain ⟨hroot, files, hfiles, hfold⟩ := walkRoot_eq_ok hnext
    obtain ⟨hroots, others, hothers, hfold'⟩ := ih hrest
    refine ⟨List.forall_mem_cons.mpr ⟨hroot, hroots⟩, files ++ others, hfiles.append hothers, ?_⟩
    rw [List.foldlM_append, hfold]
    exact hfold'

theorem exists_foldlM_walkRoot (hcount : state.fileCount ≤ maximumIncludedFiles)
    (htotal : state.totalBytes ≤ maximumTotalBytes)
    (hroots : ∀ rootName ∈ rootNames, Walkable roots rootName)
    (hfiles : ∀ file ∈ rootNames.flatMap (rootFiles roots), Includable file)
    (hfits : Fits state.fileCount state.totalBytes (rootNames.flatMap (rootFiles roots))) :
    ∃ state', rootNames.foldlM (walkRoot hexdigest roots) state = .ok state' := by
  induction rootNames generalizing state with
  | nil => exact ⟨state, rfl⟩
  | cons rootName rootNames ih =>
    obtain ⟨⟨names, hroot, hplain⟩, hothers⟩ := List.forall_mem_cons.mp hroots
    obtain ⟨hthis, hrest⟩ := hfits.append
    have hfile : ∀ file ∈ rootFiles roots rootName, Includable file :=
      fun file hfile => hfiles file (List.mem_append_left _ hfile)
    rw [← stackFiles_root hroot] at hthis hrest hfile
    obtain ⟨next, hwalk⟩ := @exists_walkStack hexdigest rootName _ _ (names.1.directories + 1) hcount htotal
      (by simp) (by simpa using hplain) hfile hthis
    obtain ⟨-, walked, hwalked, hfold⟩ := walkStack_eq_ok hwalk
    obtain ⟨-, hfit, rfl⟩ := (foldlM_includeFile_eq_ok hcount htotal).mp hfold
    have hlength : walked.length = (stackFiles rootName [([], names.1)]).length := hwalked.length_eq
    have hsum := (hwalked.map (·.content.length)).sum_eq
    obtain ⟨state', hstate⟩ := @ih (withFiles hexdigest state walked) hfit.count hfit.total hothers
      (fun file hfile => hfiles file (List.mem_append_right _ hfile)) (by
        unfold withFiles
        rw [hlength, hsum]
        exact hrest)
    refine ⟨state', ?_⟩
    rw [List.foldlM_cons]
    refine bind_eq_ok.mpr ⟨_, ?_, hstate⟩
    unfold walkRoot
    rw [hroot]
    exact hwalk

/-- What an inventory says of its run and of the files. -/
structure Inventories (hexdigest : List UInt8 → Sha256Text) (run : DailyPipelineRunBinding)
    (files : List StateFile) (inventory : PipelineStateInventory) : Prop where
  runId : inventory.1.runId = run.runId
  previousRunId : inventory.1.previousRunId = run.previousRunId
  marketSession : inventory.1.marketSession = run.marketSession
  cutoff : inventory.1.cutoff = run.cutoff
  entries : inventory.1.entries.Perm (files.map (fileEntry hexdigest))

theorem sum_fileEntry (files : List StateFile) : ((files.map (fileEntry hexdigest)).map (·.byteCount)).sum =
    (files.map (·.content.length)).sum := by
  rw [List.map_map]
  rfl

theorem build_eq_ok_of_walked {walked : WalkState} (hstate : walked = withFiles hexdigest ⟨0, 0, []⟩ files)
    (h : Inventories hexdigest run files inventory) :
    Checked.build validateInventory
      { runId := run.runId
        previousRunId := run.previousRunId
        marketSession := run.marketSession
        cutoff := run.cutoff
        entries := sortOn entryKey walked.collected
        entryCount := walked.collected.length
        totalBytes := walked.totalBytes } = .ok inventory := by
  have hcollected : walked.collected = files.map (fileEntry hexdigest) := by
    rw [hstate]
    rfl
  have htotal : walked.totalBytes = (files.map (·.content.length)).sum := by
    rw [hstate]
    exact Nat.zero_add _
  obtain ⟨hcounts, htotals⟩ := inventory_counts inventory
  have hordered := validateInventory_ordered inventory
  have hsorted : sortOn entryKey (files.map (fileEntry hexdigest)) = inventory.1.entries := by
    have hself := sortOn_of_pairwise entryKey (hordered.imp fun hlt => le_of_lt hlt)
    rw [← hself]
    refine (sortOn_eq_of_perm entryKey h.entries fun a ha b hb hkey => ?_).symm
    exact entry_eq_of_key inventory ha hb hkey
  rw [Checked.build_eq_ok, hcollected, htotal, hsorted, ← h.entries.length_eq, ← @sum_fileEntry hexdigest files,
    ← (h.entries.map (·.byteCount)).sum_eq, ← hcounts, ← htotals, ← h.runId, ← h.previousRunId,
    ← h.marketSession, ← h.cutoff]

theorem inventories_of_build (h : Checked.build validateInventory
      { runId := run.runId
        previousRunId := run.previousRunId
        marketSession := run.marketSession
        cutoff := run.cutoff
        entries := sortOn entryKey (files.map (fileEntry hexdigest))
        entryCount := (files.map (fileEntry hexdigest)).length
        totalBytes := (files.map (·.content.length)).sum } = .ok inventory) :
    Inventories hexdigest run files inventory := by
  have hfields := Checked.build_eq_ok.mp h
  refine ⟨?_, ?_, ?_, ?_, ?_⟩
  all_goals rw [← hfields]
  exact perm_sortOn entryKey _

theorem Inventories.perm (h : Inventories hexdigest run files inventory) {others : List StateFile}
    (hperm : files.Perm others) : Inventories hexdigest run others inventory :=
  ⟨h.runId, h.previousRunId, h.marketSession, h.cutoff, h.entries.trans (hperm.map _)⟩

/-- The files of an inventory can be included. -/
theorem Inventories.includable (h : Inventories hexdigest run files inventory) {file : StateFile}
    (hfile : file ∈ files) : Includable file := by
  have hentry := validateEntry_of_mem inventory (h.entries.mem_iff.mpr (List.mem_map_of_mem hfile))
  unfold validateEntry at hentry
  simp only [raiseIf_bind_eq_ok, raiseIf_eq_ok, not_not, not_or, not_lt] at hentry
  obtain ⟨hpath, hnonzero, hsize⟩ := hentry
  exact ⟨fun hnil => hnonzero (by simp [fileEntry, hnil]), hsize, hpath⟩

theorem Inventories.fits (h : Inventories hexdigest run files inventory) : Fits 0 0 files := by
  have hlength := validateInventory_length inventory
  obtain ⟨-, -, hvalid⟩ := bind_eq_ok.mp inventory.2
  simp only [raiseIf_bind_eq_ok, raiseIf_eq_ok, not_not, not_lt] at hvalid
  have htotal := hvalid.2.2.2.1
  rw [(h.entries.map (·.byteCount)).sum_eq, sum_fileEntry] at htotal
  rw [h.entries.length_eq, List.length_map] at hlength
  exact ⟨by omega, by omega⟩

/-- The inventory of six trees is the inventory of their files. -/
theorem buildInventoryOfTrees_eq_ok : buildInventoryOfTrees hexdigest run roots = .ok inventory ↔
    (∀ rootName, Walkable roots rootName) ∧ Inventories hexdigest run (treeFiles roots) inventory := by
  unfold buildInventoryOfTrees
  rw [bind_eq_ok]
  constructor
  · rintro ⟨walked, hwalk, hbuild⟩
    obtain ⟨hroots, files, hfiles, hfold⟩ := foldlM_walkRoot_eq_ok hwalk
    obtain ⟨-, -, rfl⟩ := (foldlM_includeFile_eq_ok (Nat.zero_le _) (Nat.zero_le _)).mp hfold
    refine ⟨fun rootName => hroots rootName rootName.mem_all, ?_⟩
    simp only [withFiles, List.nil_append, Nat.zero_add] at hbuild
    exact (inventories_of_build hbuild).perm hfiles
  · rintro ⟨hroots, hinventory⟩
    obtain ⟨walked, hwalk⟩ := @exists_foldlM_walkRoot hexdigest roots StateRootName.all ⟨0, 0, []⟩
      (Nat.zero_le _) (Nat.zero_le _) (fun rootName _ => hroots rootName)
      (fun file hfile => hinventory.includable hfile) hinventory.fits
    obtain ⟨-, files, hfiles, hfold⟩ := foldlM_walkRoot_eq_ok hwalk
    obtain ⟨-, -, hwalked⟩ := (foldlM_includeFile_eq_ok (Nat.zero_le _) (Nat.zero_le _)).mp hfold
    exact ⟨walked, hwalk, build_eq_ok_of_walked hwalked (hinventory.perm hfiles.symm)⟩

theorem readStableRegularFile_eq_some {file : StateFile} {payload : List UInt8} :
    readStableRegularFile file = some payload ↔
      payload = file.content ∧ file.content ≠ [] ∧ file.content.length ≤ maximumFileBytes := by
  unfold readStableRegularFile
  split
  next hbad =>
    simp only [reduceCtorEq, false_iff, not_and, not_le]
    exact fun _ hne => hbad.resolve_left hne
  next hgood =>
    rw [not_or, not_lt] at hgood
    rw [Option.some.injEq, eq_comm]
    exact ⟨fun h => ⟨h, hgood⟩, fun h => h.1⟩

theorem collectEntries_cons {file : StateFile} {count total : ℕ} :
    collectEntries hexdigest (file :: files) count total = .ok entries ↔
      Includable file ∧ count + 1 ≤ maximumIncludedFiles ∧ total + file.content.length ≤ maximumTotalBytes ∧
        ∃ others, collectEntries hexdigest files (count + 1) (total + file.content.length) = .ok others ∧
          entries = fileEntry hexdigest file :: others := by
  rw [collectEntries, raiseIf_bind_eq_ok, not_lt]
  constructor
  · rintro ⟨hcount, h⟩
    cases hread : readStableRegularFile file with
    | none =>
      rw [hread] at h
      cases h
    | some payload =>
      rw [hread] at h
      obtain ⟨rfl, hne, hsize⟩ := readStableRegularFile_eq_some.mp hread
      simp only [raiseIf_bind_eq_ok, not_lt] at h
      obtain ⟨htotal, h⟩ := h
      obtain ⟨_, hvalid, h⟩ := bind_eq_ok.mp h
      obtain ⟨others, hothers, hentries⟩ := bind_eq_ok.mp h
      unfold validateEntry at hvalid
      simp only [raiseIf_bind_eq_ok, raiseIf_eq_ok, not_not] at hvalid
      exact ⟨⟨hne, hsize, hvalid.1⟩, hcount, htotal, others, hothers, (Except.ok.inj hentries).symm⟩
  · rintro ⟨hfile, hcount, htotal, others, hothers, rfl⟩
    have hread := readStableRegularFile_eq_some.mpr ⟨rfl, hfile.nonempty, hfile.size⟩
    have hvalid := @validateEntry_fileEntry hexdigest file hfile
    refine ⟨hcount, ?_⟩
    rw [hread]
    simp only [raiseIf_bind_eq_ok, not_lt]
    exact ⟨htotal, bind_eq_ok.mpr ⟨(), hvalid, bind_eq_ok.mpr ⟨others, hothers, rfl⟩⟩⟩

theorem collectEntries_eq_ok {count total : ℕ} (hcount : count ≤ maximumIncludedFiles)
    (htotal : total ≤ maximumTotalBytes) : collectEntries hexdigest files count total = .ok entries ↔
      (∀ file ∈ files, Includable file) ∧ Fits count total files ∧ entries = files.map (fileEntry hexdigest) := by
  induction files generalizing count total entries with
  | nil =>
    constructor
    · intro h
      obtain rfl := Except.ok.inj h
      exact ⟨by simp, ⟨hcount, htotal⟩, rfl⟩
    · rintro ⟨-, -, rfl⟩
      rfl
  | cons file files ih =>
    rw [collectEntries_cons, List.forall_mem_cons]
    constructor
    · rintro ⟨hfile, hroom, hbytes, others, hothers, rfl⟩
      obtain ⟨hall, hfits, rfl⟩ := (ih hroom hbytes).mp hothers
      exact ⟨⟨hfile, hall⟩, fits_cons.mpr hfits, rfl⟩
    · rintro ⟨⟨hfile, hall⟩, hfits, rfl⟩
      have hrest := fits_cons.mp hfits
      have hroom : count + 1 ≤ maximumIncludedFiles := (Nat.le_add_right _ _).trans hrest.count
      have hbytes : total + file.content.length ≤ maximumTotalBytes := (Nat.le_add_right _ _).trans hrest.total
      exact ⟨hfile, hroom, hbytes, _, (ih hroom hbytes).mpr ⟨hall, hrest, rfl⟩, rfl⟩

/-- The inventory of a list of files. -/
theorem buildPipelineStateInventory_iff : buildPipelineStateInventory hexdigest run files = .ok inventory ↔
    Inventories hexdigest run files inventory := by
  unfold buildPipelineStateInventory
  rw [bind_eq_ok]
  constructor
  · rintro ⟨collected, hcollected, hbuild⟩
    obtain ⟨-, -, rfl⟩ := (collectEntries_eq_ok (Nat.zero_le _) (Nat.zero_le _)).mp hcollected
    rw [sum_fileEntry] at hbuild
    exact inventories_of_build hbuild
  · intro h
    have hcollected := (@collectEntries_eq_ok hexdigest _ files 0 0 (Nat.zero_le _) (Nat.zero_le _)).mpr
      ⟨fun file hfile => h.includable hfile, h.fits, rfl⟩
    refine ⟨_, hcollected, ?_⟩
    have hbuild := @build_eq_ok_of_walked hexdigest _ _ _ (withFiles hexdigest ⟨0, 0, []⟩ files) rfl h
    simp only [withFiles, List.nil_append, Nat.zero_add] at hbuild
    rw [sum_fileEntry]
    exact hbuild

/-- The walk of six trees makes the inventory of the list of their files. -/
theorem buildInventoryOfTrees_iff_flat : buildInventoryOfTrees hexdigest run roots = .ok inventory ↔
    (∀ rootName, Walkable roots rootName) ∧
      buildPipelineStateInventory hexdigest run (treeFiles roots) = .ok inventory := by
  rw [buildInventoryOfTrees_eq_ok, buildPipelineStateInventory_iff]

end Roots

section Paths

variable {hexdigest : List UInt8 → Sha256Text} {roots : RootTrees} {rootName : StateRootName}
variable {run : DailyPipelineRunBinding} {inventory : PipelineStateInventory} {segments : List String}
variable {names : StateDirectory} {file : StateFile}

/-- The segments of a path between its slashes. -/
def splitSegments (text : String) : List String := (text.toList.splitOn '/').map String.ofList

theorem joinSegments_splitSegments (text : String) : joinSegments (splitSegments text) = text := by
  have hchars : (text.toList.splitOn '/').map (String.toList ∘ String.ofList) = text.toList.splitOn '/' := by
    simp
  rw [joinSegments, splitSegments, List.map_map, hchars, List.intercalate_splitOn, String.ofList_toList]

theorem splitSegments_joinSegments (hne : segments ≠ []) (hnames : ∀ name ∈ segments, IsFileName name) :
    splitSegments (joinSegments segments) = segments := by
  have hslash : ∀ chars ∈ segments.map String.toList, '/' ∉ chars := by
    intro chars hchars
    obtain ⟨name, hname, rfl⟩ := List.mem_map.mp hchars
    exact (hnames name hname).2.1
  rw [splitSegments, joinSegments, String.toList_ofList, List.splitOn_intercalate '/' hslash (by simpa using hne)]
  simp

theorem splitSegments_ne_nil (text : String) : splitSegments text ≠ [] := by
  simp [splitSegments]

/-- A walk comes to a path: no directory on the way is that of the locks, and the file is none of them. -/
def Walked (path : List String) : Prop :=
  (∀ parent ∈ path.dropLast, parent ≠ lockDirectoryName) ∧ ∀ name ∈ path.getLast?, name ∉ lockFileNames

theorem walked_singleton {name : String} : Walked [name] ↔ name ∉ lockFileNames := by
  simp [Walked]

theorem walked_cons {name : String} {path : List String} (h : path ≠ []) :
    Walked (name :: path) ↔ name ≠ lockDirectoryName ∧ Walked path := by
  unfold Walked
  rw [List.dropLast_cons_of_ne_nil h, List.forall_mem_cons, and_assoc, List.getLast?_cons_of_ne_nil h]

/-- A walk includes the files that it comes to. -/
theorem mem_includedFiles : file ∈ includedFiles rootName segments names ↔
    ∃ path links, (path, .leaf (.file file.content links)) ∈ names.nodes ∧ Walked path ∧
      file = ⟨rootName, joinSegments (segments ++ path), file.content⟩ := by
  induction names generalizing segments with
  | nil => simp [includedFiles, Listing.nodes]
  | leaf name leaf rest ih =>
    cases leaf with
    | link => simp only [includedFiles, ih, Listing.mem_nodes_leaf, Node.leaf.injEq, reduceCtorEq, and_false, false_or]
    | other => simp only [includedFiles, ih, Listing.mem_nodes_leaf, Node.leaf.injEq, reduceCtorEq, and_false, false_or]
    | file content links =>
      rw [includedFiles]
      split_ifs with hlock
      · rw [ih]
        refine exists_congr fun path => exists_congr fun count => ?_
        rw [Listing.mem_nodes_leaf]
        refine ⟨fun h => ⟨.inr h.1, h.2⟩, fun h => ⟨h.1.resolve_left fun hfirst => ?_, h.2⟩⟩
        rw [hfirst.1, walked_singleton] at h
        exact h.2.1 hlock
      · rw [List.mem_cons, ih]
        constructor
        · rintro (rfl | ⟨path, count, hnode, hrest⟩)
          · exact ⟨[name], links, Listing.mem_nodes_leaf.mpr (.inl ⟨rfl, rfl⟩), walked_singleton.mpr hlock, rfl⟩
          · exact ⟨path, count, Listing.mem_nodes_leaf.mpr (.inr hnode), hrest⟩
        · rintro ⟨path, count, hnode, hwalked, hfile⟩
          rcases Listing.mem_nodes_leaf.mp hnode with ⟨rfl, hleaf⟩ | hnode
          · obtain ⟨hcontent, -⟩ := Leaf.file.inj (Node.leaf.inj hleaf)
            rw [hcontent] at hfile
            exact .inl hfile
          · exact .inr ⟨path, count, hnode, hwalked, hfile⟩
  | directory name below rest ihbelow ih =>
    rw [includedFiles]
    split_ifs with hlock
    · rw [ih]
      refine exists_congr fun path => exists_congr fun count => ?_
      rw [Listing.mem_nodes_directory]
      constructor
      · exact fun h => ⟨.inr (.inr h.1), h.2⟩
      · rintro ⟨⟨-, hleaf⟩ | ⟨p, rfl, hnode⟩ | hnode, hwalked, hfile⟩
        · cases hleaf
        · exact absurd hlock ((walked_cons (Listing.ne_nil_of_mem_nodes hnode)).mp hwalked).1
        · exact ⟨hnode, hwalked, hfile⟩
    · rw [List.mem_append, ihbelow, ih]
      constructor
      · rintro (⟨path, count, hnode, hwalked, hfile⟩ | ⟨path, count, hnode, hrest⟩)
        · refine ⟨name :: path, count, Listing.mem_nodes_directory.mpr (.inr (.inl ⟨path, rfl, hnode⟩)), ?_, ?_⟩
          · exact (walked_cons (Listing.ne_nil_of_mem_nodes hnode)).mpr ⟨hlock, hwalked⟩
          · rwa [List.append_assoc] at hfile
        · exact ⟨path, count, Listing.mem_nodes_directory.mpr (.inr (.inr hnode)), hrest⟩
      · rintro ⟨path, count, hnode, hwalked, hfile⟩
        rcases Listing.mem_nodes_directory.mp hnode with ⟨-, hleaf⟩ | ⟨p, rfl, hbelow⟩ | hrest
        · cases hleaf
        · refine .inl ⟨p, count, hbelow, ((walked_cons (Listing.ne_nil_of_mem_nodes hbelow)).mp hwalked).2, ?_⟩
          rwa [List.append_assoc]
        · exact .inr ⟨path, count, hrest, hwalked, hfile⟩

/-- The entries of an inventory of trees are the files that the walks come to. -/
theorem mem_entries (h : buildInventoryOfTrees hexdigest run roots = .ok inventory) {entry : PipelineStateEntry} :
    entry ∈ inventory.1.entries ↔ ∃ names content links, roots entry.rootName = some (.directory names) ∧
      (splitSegments entry.relativePath, .leaf (.file content links)) ∈ names.1.nodes ∧
        Walked (splitSegments entry.relativePath) ∧
          entry = fileEntry hexdigest ⟨entry.rootName, entry.relativePath, content⟩ := by
  obtain ⟨hroots, hinventory⟩ := buildInventoryOfTrees_eq_ok.mp h
  rw [hinventory.entries.mem_iff, List.mem_map]
  constructor
  · rintro ⟨file, hfile, rfl⟩
    obtain ⟨rootName, -, hfile⟩ := List.mem_flatMap.mp hfile
    obtain ⟨names, hnames, -⟩ := hroots rootName
    simp only [rootFiles, hnames] at hfile
    obtain ⟨path, links, hnode, hwalked, heq⟩ := mem_includedFiles.mp hfile
    have hpath := splitSegments_joinSegments (Listing.ne_nil_of_mem_nodes hnode)
      (Listing.valid_of_mem_nodes names.2 hnode)
    rw [heq]
    refine ⟨names, file.content, links, hnames, ?_, ?_, rfl⟩
    · rwa [fileEntry, List.nil_append, hpath]
    · rwa [fileEntry, List.nil_append, hpath]
  · rintro ⟨names, content, links, hnames, hnode, hwalked, hentry⟩
    refine ⟨_, List.mem_flatMap.mpr ⟨entry.rootName, entry.rootName.mem_all, ?_⟩, hentry.symm⟩
    simp only [rootFiles, hnames]
    refine mem_includedFiles.mpr ⟨_, links, hnode, hwalked, ?_⟩
    rw [List.nil_append, joinSegments_splitSegments]

/-- No entry has its file below the file of another one. -/
def PrefixFree (entries : List PipelineStateEntry) : Prop :=
  ∀ a ∈ entries, ∀ b ∈ entries, a.rootName = b.rootName →
    splitSegments a.relativePath <+: splitSegments b.relativePath → a = b

theorem prefixFree_of_trees (h : buildInventoryOfTrees hexdigest run roots = .ok inventory) :
    PrefixFree inventory.1.entries := by
  rintro a ha b hb hroot ⟨more, hmore⟩
  obtain ⟨names, content, links, hnames, hnode, -⟩ := (mem_entries h).mp ha
  obtain ⟨names', content', links', hnames', hnode', -⟩ := (mem_entries h).mp hb
  rw [hroot, hnames'] at hnames
  obtain rfl : names' = names := StateNode.directory.inj (Option.some.inj hnames)
  rw [← hmore] at hnode'
  have hnil := Listing.eq_nil_of_leaf names'.2 hnode hnode'
  rw [hnil, List.append_nil] at hmore
  have hpath : a.relativePath = b.relativePath := by
    rw [← joinSegments_splitSegments a.relativePath, hmore, joinSegments_splitSegments]
  refine entry_eq_of_key inventory ha hb ?_
  rw [entryKey, entryKey, hroot, hpath]

/-- An inventory of trees lists exactly the files that the walks come to, and none of them lies below another. -/
theorem inventory_lists_walked_files (h : buildInventoryOfTrees hexdigest run roots = .ok inventory) :
    (∀ entry, entry ∈ inventory.1.entries ↔ ∃ names content links, roots entry.rootName = some (.directory names) ∧
      (splitSegments entry.relativePath, .leaf (.file content links)) ∈ names.1.nodes ∧
        Walked (splitSegments entry.relativePath) ∧
          entry = fileEntry hexdigest ⟨entry.rootName, entry.relativePath, content⟩) ∧
      PrefixFree inventory.1.entries :=
  ⟨fun _ => mem_entries h, prefixFree_of_trees h⟩

/-- A root with a lock, a directory of locks and one other file, and five empty ones. -/
def lockedRoots : RootTrees
  | .dailyPipeline =>
    some (.directory ⟨.leaf ".daily-runs.lock" (.file [0] 1) (.directory ".locks" (.leaf "a" .link .nil)
      (.leaf "run.json" (.file [123, 125] 1) .nil)), by simp +decide [Listing.WellFormed, Listing.names]⟩)
  | _ => some (.directory ⟨.nil, trivial⟩)

def lockedRun (digest : Sha256Text) : DailyPipelineRunBinding := ⟨digest, none, ⟨739001, by decide, by decide⟩, ⟨1, by decide⟩⟩

/-- A digest of ones. -/
def onesDigest : Sha256Text := ⟨String.ofList (List.replicate 64 '1'), by decide +kernel⟩

theorem inventory_lists_walked_files_locked : ∃ digest : Sha256Text, ∃ inventory,
    buildInventoryOfTrees (fun _ => digest) (lockedRun digest) lockedRoots = .ok inventory ∧
      (∀ entry ∈ inventory.1.entries, Walked (splitSegments entry.relativePath)) ∧ PrefixFree inventory.1.entries := by
  obtain ⟨inventory, hbuild⟩ := exists_ok_of_any
    (x := buildInventoryOfTrees (fun _ => onesDigest) (lockedRun onesDigest) lockedRoots) (p := fun _ => true)
    (by decide +kernel)
  obtain ⟨hentries, hfree⟩ := inventory_lists_walked_files hbuild.1
  refine ⟨onesDigest, inventory, hbuild.1, fun entry hentry => ?_, hfree⟩
  obtain ⟨names, content, links, -, -, hwalked, -⟩ := (hentries entry).mp hentry
  exact hwalked

end Paths

end IndiaSwing
