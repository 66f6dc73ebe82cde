import IndiaSwing.Lib.DirectoryTree
import IndiaSwing.StateInventoryParsing

namespace IndiaSwing

open CivilTime ExceptGuards KeySort DirectoryTree

section Walk

/-- What a directory has besides directories. A regular file comes with its number of hard links. -/
inductive Leaf
  | file (content : List UInt8) (links : ℕ)
  | link
  | other
  deriving DecidableEq

/-- A directory as a walk lists it: its names in order. -/
abbrev StateDirectory := Listing String Leaf

/-- A name that a directory can have for an entry. -/
def IsFileName (name : String) : Prop := name ≠ "" ∧ '/' ∉ name.toList ∧ name ≠ "." ∧ name ≠ ".."

instance (name : String) : Decidable (IsFileName name) :=
  inferInstanceAs (Decidable (name ≠ "" ∧ '/' ∉ name.toList ∧ name ≠ "." ∧ name ≠ ".."))

/-- A directory of a file system. -/
abbrev RealDirectory := {names : StateDirectory // names.WellFormed IsFileName}

/-- What stands at a path of a file system. -/
inductive StateNode
  | leaf (leaf : Leaf)
  | directory (names : RealDirectory)

/-- What stands at the six roots. -/
abbrev RootTrees := StateRootName → Option StateNode

/-- `_LOCK_DIRECTORY_NAME` -/
def lockDirectoryName : String := ".locks"

/-- `_LOCK_FILE_NAMES` -/
def lockFileNames : List String :=
  [".daily-runs.lock", ".adjudication-queues.lock", ".identity-registry.lock", ".derived-evidence.lock"]

/-- Path segments with slashes between them. -/
def joinSegments (segments : List String) : String :=
  String.ofList (['/'].intercalate (segments.map String.toList))

/-- What a walk has found so far. -/
structure WalkState where
  fileCount : ℕ
  totalBytes : ℕ
  collected : List PipelineStateEntry

/-- Directories that are still to be walked, the next one first, with their segments. -/
abbrev WalkStack := List (List String × StateDirectory)

variable (hexdigest : List UInt8 → Sha256Text)

def fileEntry (file : StateFile) : PipelineStateEntry :=
  ⟨file.rootName, file.relativePath, file.content.length, hexdigest file.content⟩

/-- A file that the walk has come to. -/
def includeFile (state : WalkState) (file : StateFile) : Except String WalkState := do
  raiseIf (maximumIncludedFiles < state.fileCount + 1)
    "pipeline state inventory exceeds the included-file ceiling"
  raiseIf (readStableRegularFile file = none) "pipeline state file could not be read safely"
  raiseIf (maximumTotalBytes < state.totalBytes + file.content.length)
    "pipeline state inventory exceeds the total-byte ceiling"
  validateEntry (fileEntry hexdigest file)
  return ⟨state.fileCount + 1, state.totalBytes + file.content.length,
    state.collected ++ [fileEntry hexdigest file]⟩

/-- The names of one directory. Its directories go on the stack, so that the last comes first. -/
def walkNames (rootName : StateRootName) (segments : List String) :
    StateDirectory → WalkState → WalkStack → Except String (WalkState × WalkStack)
  | .nil, state, stack => .ok (state, stack)
  | .leaf _ .link _, _, _ => .error "pipeline state tree contains a link or reparse entry"
  | .leaf _ .other _, _, _ => .error "pipeline state tree contains an unsupported entry type"
  | .leaf name (.file content _) rest, state, stack =>
    if name ∈ lockFileNames then walkNames rootName segments rest state stack
    else do
      let state ← includeFile hexdigest state ⟨rootName, joinSegments (segments ++ [name]), content⟩
      walkNames rootName segments rest state stack
  | .directory name below rest, state, stack =>
    if name = lockDirectoryName then walkNames rootName segments rest state stack
    else walkNames rootName segments rest state ((segments ++ [name], below) :: stack)

/-- The walk of the directories on the stack. Every round takes one directory off it. -/
def walkStack (rootName : StateRootName) : ℕ → WalkStack → WalkState → Except String WalkState
  | _, [], state => .ok state
  | 0, _ :: _, _ => .error "pipeline state tree could not be listed safely"
  | rounds + 1, (segments, names) :: stack, state => do
    let walked ← walkNames hexdigest rootName segments names state stack
    walkStack rootName rounds walked.2 walked.1

def walkRoot (roots : RootTrees) (state : WalkState) (rootName : StateRootName) : Except String WalkState :=
  match roots rootName with
  | none => .error "pipeline state root is unavailable"
  | some (.leaf _) => .error "pipeline state root must be a real non-reparse directory"
  | some (.directory names) =>
    walkStack hexdigest rootName (names.1.directories + 1) [([], names.1)] state

/-- `build_pipeline_state_inventory` over directories that do not change -/
def buildInventoryOfTrees (run : DailyPipelineRunBinding) (roots : RootTrees) :
    Except String PipelineStateInventory := do
  let walked ← StateRootName.all.foldlM (walkRoot hexdigest roots) ⟨0, 0, []⟩
  Checked.build validateInventory
    { runId := run.runId
      previousRunId := run.previousRunId
      marketSession := run.marketSession
      cutoff := run.cutoff
      entries := sortOn entryKey walked.collected
      entryCount := walked.collected.length
      totalBytes := walked.totalBytes }

end Walk

section Included

/-- The files of a directory itself that are no locks. -/
def directFiles (rootName : StateRootName) (segments : List String) : StateDirectory → List StateFile
  | .leaf name (.file content _) rest =>
    if name ∈ lockFileNames then directFiles rootName segments rest
    else ⟨rootName, joinSegments (segments ++ [name]), content⟩ :: directFiles rootName segments rest
  | .leaf _ _ rest => directFiles rootName segments rest
  | .directory _ _ rest => directFiles rootName segments rest
  | .nil => []

/-- The directories of a directory itself that a walk goes into. -/
def subdirectories (segments : List String) : StateDirectory → WalkStack
  | .nil => []
  | .leaf _ _ rest => subdirectories segments rest
  | .directory name below rest =>
    if name = lockDirectoryName then subdirectories segments rest
    else (segments ++ [name], below) :: subdirectories segments rest

/-- The files below a directory that a walk includes. -/
def includedFiles (rootName : StateRootName) (segments : List String) : StateDirectory → List StateFile
  | .leaf name (.file content _) rest =>
    if name ∈ lockFileNames then includedFiles rootName segments rest
    else ⟨rootName, joinSegments (segments ++ [name]), content⟩ :: includedFiles rootName segments rest
  | .leaf _ _ rest => includedFiles rootName segments rest
  | .directory name below rest =>
    if name = lockDirectoryName then includedFiles rootName segments rest
    else includedFiles rootName (segments ++ [name]) below ++ includedFiles rootName segments rest
  | .nil => []

/-- A directory has only files and directories. -/
def PlainNames : StateDirectory → Prop
  | .nil => True
  | .leaf _ leaf rest => (∃ content links, leaf = .file content links) ∧ PlainNames rest
  | .directory _ _ rest => PlainNames rest

/-- There are only files and directories wherever a walk goes. -/
def PlainBelow : StateDirectory → Prop
  | .nil => True
  | .leaf _ leaf rest => (∃ content links, leaf = .file content links) ∧ PlainBelow rest
  | .directory name below rest => (name ≠ lockDirectoryName → PlainBelow below) ∧ PlainBelow rest

variable {hexdigest : List UInt8 → Sha256Text} {rootName : StateRootName} {segments : List String}
variable {names : StateDirectory} {state state' : WalkState} {stack stack' : WalkStack} {file : StateFile}
variable {files others : List StateFile}

/-- A file that can be included by itself. -/
structure Includable (file : StateFile) : Prop where
  nonempty : file.content ≠ []
  size : file.content.length ≤ maximumFileBytes
  path : isRelativePath file.relativePath = true

theorem validateEntry_fileEntry (h : Includable file) : validateEntry (fileEntry hexdigest file) = .ok () := by
  have hlength : file.content.length ≠ 0 := fun hzero => h.nonempty (List.length_eq_zero_iff.mp hzero)
  unfold validateEntry
  simp only [raiseIf_bind_eq_ok, raiseIf_eq_ok, not_not, not_or, not_lt]
  exact ⟨h.path, hlength, h.size⟩

theorem includeFile_eq_ok : includeFile hexdigest state file = .ok state' ↔
    Includable file ∧ state.fileCount + 1 ≤ maximumIncludedFiles ∧
      state.totalBytes + file.content.length ≤ maximumTotalBytes ∧
      state' = ⟨state.fileCount + 1, state.totalBytes + file.content.length,
        state.collected ++ [fileEntry hexdigest file]⟩ := by
  unfold includeFile
  simp only [raiseIf_bind_eq_ok, not_lt]
  constructor
  · rintro ⟨hcount, hread, htotal, h⟩
    obtain ⟨_, hvalid, hstate⟩ := bind_eq_ok.mp h
    obtain ⟨payload, hpayload⟩ := Option.ne_none_iff_exists'.mp hread
    have hfits := readStableRegularFile_fits hpayload
    unfold validateEntry at hvalid
    simp only [raiseIf_bind_eq_ok, raiseIf_eq_ok, not_not, not_or, not_lt] at hvalid
    obtain ⟨hpath, hnonzero, hsize⟩ := hvalid
    refine ⟨⟨fun hnil => hnonzero (by simp [fileEntry, hnil]), hsize, hpath⟩, hcount, htotal, ?_⟩
    exact (Except.ok.inj hstate).symm
  · rintro ⟨hfile, hcount, htotal, rfl⟩
    have hread : readStableRegularFile file ≠ none := by
      unfold readStableRegularFile
      rw [if_neg (not_or.mpr ⟨hfile.nonempty, not_lt.mpr hfile.size⟩)]
      exact Option.some_ne_none _
    exact ⟨hcount, hread, htotal, bind_eq_ok.mpr ⟨(), validateEntry_fileEntry hfile, rfl⟩⟩

/-- The ceilings leave room for the files. -/
structure Fits (count total : ℕ) (files : List StateFile) : Prop where
  count : count + files.length ≤ maximumIncludedFiles
  total : total + (files.map (·.content.length)).sum ≤ maximumTotalBytes

theorem Fits.append {count total : ℕ} (h : Fits count total (files ++ others)) :
    Fits count total files ∧ Fits (count + files.length) (total + (files.map (·.content.length)).sum) others := by
  obtain ⟨hcount, htotal⟩ := h
  rw [List.length_append] at hcount
  rw [List.map_append, List.sum_append] at htotal
  exact ⟨⟨by omega, by omega⟩, ⟨by omega, by omega⟩⟩

theorem Fits.perm {count total : ℕ} (h : Fits count total files) (hperm : files.Perm others) :
    Fits count total others :=
  ⟨hperm.length_eq ▸ h.count, (hperm.map (·.content.length)).sum_eq ▸ h.total⟩

theorem fits_cons {count total : ℕ} :
    Fits count total (file :: files) ↔ Fits (count + 1) (total + file.content.length) files := by
  constructor
  · rintro ⟨hcount, htotal⟩
    rw [List.length_cons] at hcount
    rw [List.map_cons, List.sum_cons] at htotal
    exact ⟨by omega, by omega⟩
  · rintro ⟨hcount, htotal⟩
    refine ⟨?_, ?_⟩
    · rw [List.length_cons]
      omega
    · rw [List.map_cons, List.sum_cons]
      omega

/-- The state after a list of files. -/
def withFiles (hexdigest : List UInt8 → Sha256Text) (state : WalkState) (files : List StateFile) : WalkState :=
  ⟨state.fileCount + files.length, state.totalBytes + (files.map (·.content.length)).sum,
    state.collected ++ files.map (fileEntry hexdigest)⟩

theorem withFiles_nil : withFiles hexdigest state [] = state := by
  simp [withFiles]

theorem withFiles_cons : withFiles hexdigest state (file :: files) = withFiles hexdigest
    ⟨state.fileCount + 1, state.totalBytes + file.content.length,
      state.collected ++ [fileEntry hexdigest file]⟩ files := by
  simp [withFiles, Nat.add_assoc, Nat.add_comm 1]

theorem foldlM_includeFile_eq_ok (hcount : state.fileCount ≤ maximumIncludedFiles)
    (htotal : state.totalBytes ≤ maximumTotalBytes) :
    files.foldlM (includeFile hexdigest) state = .ok state' ↔
      (∀ file ∈ files, Includable file) ∧ Fits state.fileCount state.totalBytes files ∧
        state' = withFiles hexdigest state files := by
  induction files generalizing state with
  | nil =>
    rw [withFiles_nil]
    constructor
    · intro h
      obtain rfl := Except.ok.inj h
      exact ⟨by simp, ⟨hcount, htotal⟩, rfl⟩
    · rintro ⟨-, -, rfl⟩
      rfl
  | cons file files ih =>
    rw [List.foldlM_cons, bind_eq_ok, withFiles_cons, List.forall_mem_cons]
    constructor
    · rintro ⟨next, hnext, hrest⟩
      obtain ⟨hfile, hroom, hbytes, rfl⟩ := includeFile_eq_ok.mp hnext
      obtain ⟨hall, hfits, hstate⟩ := (ih hroom hbytes).mp hrest
      exact ⟨⟨hfile, hall⟩, fits_cons.mpr hfits, hstate⟩
    · rintro ⟨⟨hfile, hall⟩, hfits, hstate⟩
      have hrest := fits_cons.mp hfits
      have hroom : state.fileCount + 1 ≤ maximumIncludedFiles := (Nat.le_add_right _ _).trans hrest.count
      have hbytes : state.totalBytes + file.content.length ≤ maximumTotalBytes :=
        (Nat.le_add_right _ _).trans hrest.total
      exact ⟨_, includeFile_eq_ok.mpr ⟨hfile, hroom, hbytes, rfl⟩, (ih hroom hbytes).mpr ⟨hall, hrest, hstate⟩⟩

theorem walkNames_eq_ok : walkNames hexdigest rootName segments names state stack = .ok (state', stack') ↔
    PlainNames names ∧ (directFiles rootName segments names).foldlM (includeFile hexdigest) state = .ok state' ∧
      stack' = (subdirectories segments names).reverse ++ stack := by
  induction names generalizing state stack with
  | nil =>
    constructor
    · intro h
      obtain ⟨rfl, rfl⟩ := Prod.mk.inj (Except.ok.inj h)
      exact ⟨trivial, rfl, rfl⟩
    · rintro ⟨-, hstate, rfl⟩
      obtain rfl := Except.ok.inj hstate
      rfl
  | leaf name leaf rest ih =>
    cases leaf with
    | link =>
      constructor
      · intro h
        cases h
      · rintro ⟨⟨⟨_, _, hleaf⟩, -⟩, -⟩
        cases hleaf
    | other =>
      constructor
      · intro h
        cases h
      · rintro ⟨⟨⟨_, _, hleaf⟩, -⟩, -⟩
        cases hleaf
    | file content links =>
      have hplain : PlainNames (.leaf name (.file content links) rest) ↔ PlainNames rest :=
        ⟨fun h => h.2, fun h => ⟨⟨content, links, rfl⟩, h⟩⟩
      rw [hplain, walkNames, directFiles, subdirectories]
      split_ifs with hlock
      · exact ih
      · rw [List.foldlM_cons, bind_eq_ok, bind_eq_ok]
        constructor
        · rintro ⟨next, hnext, hrest⟩
          obtain ⟨hnames, hfold, hstack⟩ := ih.mp hrest
          exact ⟨hnames, ⟨next, hnext, hfold⟩, hstack⟩
        · rintro ⟨hnames, ⟨next, hnext, hfold⟩, hstack⟩
          exact ⟨next, hnext, ih.mpr ⟨hnames, hfold, hstack⟩⟩
  | directory name below rest _ ih =>
    rw [walkNames, directFiles, subdirectories, PlainNames]
    split_ifs with hlock
    · exact ih
    · rw [ih, List.reverse_cons, List.append_assoc, List.singleton_append]

/-- The files that are included below the directories of a stack. -/
def stackFiles (rootName : StateRootName) (stack : WalkStack) : List StateFile :=
  stack.flatMap fun directory => includedFiles rootName directory.1 directory.2

theorem includedFiles_perm (rootName : StateRootName) (segments : List String) (names : StateDirectory) :
    (includedFiles rootName segments names).Perm
      (directFiles rootName segments names ++ stackFiles rootName (subdirectories segments names)) := by
  induction names generalizing segments with
  | nil => exact .refl _
  | leaf name leaf rest ih =>
    cases leaf with
    | link => exact ih segments
    | other => exact ih segments
    | file content links =>
      rw [includedFiles, directFiles, subdirectories]
      split_ifs with hlock
      · exact ih segments
      · exact (ih segments).cons _
  | directory name below rest _ ih =>
    rw [includedFiles, directFiles, subdirectories]
    split_ifs with hlock
    · exact ih segments
    · have hrest := (ih segments).append_left (includedFiles rootName (segments ++ [name]) below)
      refine hrest.trans ?_
      simp only [stackFiles, List.flatMap_cons]
      rw [← List.append_assoc, ← List.append_assoc]
      exact List.perm_append_comm.append_right _

theorem plainBelow_iff (segments : List String) : PlainBelow names ↔
    PlainNames names ∧ ∀ directory ∈ subdirectories segments names, PlainBelow directory.2 := by
  induction names with
  | nil => simp [PlainBelow, PlainNames, subdirectories]
  | leaf name leaf rest ih => rw [PlainBelow, PlainNames, subdirectories, ih, and_assoc]
  | directory name below rest _ ih =>
    rw [PlainBelow, PlainNames, subdirectories, ih]
    split_ifs with hlock
    · simp [hlock]
    · simp only [ne_eq, hlock, not_false_eq_true, true_implies, List.forall_mem_cons]
      tauto

theorem directories_subdirectories (segments : List String) (names : StateDirectory) :
    ((subdirectories segments names).map fun directory => directory.2.directories + 1).sum ≤
      names.directories := by
  induction names with
  | nil => simp [subdirectories]
  | leaf name leaf rest ih => exact ih
  | directory name below rest _ ih =>
    rw [subdirectories, Listing.directories]
    split_ifs
    · omega
    · rw [List.map_cons, List.sum_cons]
      dsimp only
      omega

theorem stackFiles_walked (segments : List String) (names : StateDirectory) (stack : WalkStack) :
    (stackFiles rootName ((segments, names) :: stack)).Perm (directFiles rootName segments names ++
      stackFiles rootName ((subdirectories segments names).reverse ++ stack)) := by
  have hrest := (includedFiles_perm rootName segments names).append_right (stackFiles rootName stack)
  have hreverse := ((subdirectories segments names).reverse_perm.flatMap_right
    fun directory => includedFiles rootName directory.1 directory.2).symm
  simp only [stackFiles, List.flatMap_cons, List.flatMap_append] at hrest ⊢
  rw [List.append_assoc] at hrest
  exact hrest.trans ((hreverse.append_right _).append_left _)

/-- A walk that succeeds has included the files below its stack, each of them once. -/
theorem walkStack_eq_ok {rounds : ℕ} (h : walkStack hexdigest rootName rounds stack state = .ok state') :
    (∀ directory ∈ stack, PlainBelow directory.2) ∧ ∃ files : List StateFile,
      files.Perm (stackFiles rootName stack) ∧ files.foldlM (includeFile hexdigest) state = .ok state' := by
  induction rounds generalizing stack state with
  | zero =>
    cases stack with
    | nil =>
      obtain rfl := Except.ok.inj h
      exact ⟨by simp, [], .refl _, rfl⟩
    | cons directory stack => cases h
  | succ rounds ih =>
    cases stack with
    | nil =>
      obtain rfl := Except.ok.inj h
      exact ⟨by simp, [], .refl _, rfl⟩
    | cons directory stack =>
      obtain ⟨segments, names⟩ := directory
      obtain ⟨⟨next, stack'⟩, hnames, hrest⟩ := bind_eq_ok.mp h
      obtain ⟨hplain, hfold, rfl⟩ := walkNames_eq_ok.mp hnames
      obtain ⟨hbelow, files, hfiles, hwalk⟩ := ih hrest
      refine ⟨?_, directFiles rootName segments names ++ files, ?_, ?_⟩
      · refine List.forall_mem_cons.mpr ⟨(plainBelow_iff segments).mpr ⟨hplain, fun directory hdirectory => ?_⟩, ?_⟩
        · exact hbelow directory (List.mem_append_left _ (List.mem_reverse.mpr hdirectory))
        · exact fun directory hdirectory => hbelow directory (List.mem_append_right _ hdirectory)
      · exact (hfiles.append_left _).trans (stackFiles_walked segments names stack).symm
      · rw [List.foldlM_append, hfold]
        exact hwalk

/-- A walk with enough rounds succeeds if its files can be included. -/
theorem exists_walkStack {rounds : ℕ} (hcount : state.fileCount ≤ maximumIncludedFiles)
    (htotal : state.totalBytes ≤ maximumTotalBytes)
    (hrounds : (stack.map fun directory => directory.2.directories + 1).sum ≤ rounds)
    (hplain : ∀ directory ∈ stack, PlainBelow directory.2)
    (hfiles : ∀ file ∈ stackFiles rootName stack, Includable file)
    (hfits : Fits state.fileCount state.totalBytes (stackFiles rootName stack)) :
    ∃ state', walkStack hexdigest rootName rounds stack state = .ok state' := by
  induction rounds generalizing stack state with
  | zero =>
    cases stack with
    | nil => exact ⟨state, rfl⟩
    | cons directory stack =>
      rw [List.map_cons, List.sum_cons] at hrounds
      omega
  | succ rounds ih =>
    cases stack with
    | nil => exact ⟨state, rfl⟩
    | cons directory stack =>
      obtain ⟨segments, names⟩ := directory
      have hperm : (stackFiles rootName ((segments, names) :: stack)).Perm _ := stackFiles_walked segments names stack
      obtain ⟨hthis, hothers⟩ := List.forall_mem_cons.mp hplain
      obtain ⟨hnames, hbelow⟩ := (plainBelow_iff segments).mp hthis
      obtain ⟨hdirect, hrest⟩ := (hfits.perm hperm).append
      have hfold : (directFiles rootName segments names).foldlM (includeFile hexdigest) state =
          .ok (withFiles hexdigest state (directFiles rootName segments names)) := by
        refine (foldlM_includeFile_eq_ok hcount htotal).mpr ⟨fun file hfile => ?_, hdirect, rfl⟩
        exact hfiles file (hperm.mem_iff.mpr (List.mem_append_left _ hfile))
      have hstack : ∀ directory ∈ (subdirectories segments names).reverse ++ stack, PlainBelow directory.2 := by
        intro directory hdirectory
        rcases List.mem_append.mp hdirectory with hmem | hmem
        · exact hbelow directory (List.mem_reverse.mp hmem)
        · exact hothers directory hmem
      have hsum : (((subdirectories segments names).reverse ++ stack).map
          fun directory => directory.2.directories + 1).sum ≤ rounds := by
        have hsub := directories_subdirectories segments names
        rw [List.map_cons, List.sum_cons] at hrounds
        rw [List.map_append, List.map_reverse, List.sum_append, List.sum_reverse]
        dsimp only at hrounds
        omega
      obtain ⟨state', hwalk⟩ := @ih (withFiles hexdigest state (directFiles rootName segments names)) _
        hdirect.count hdirect.total hsum hstack
        (fun file hfile => hfiles file (hperm.mem_iff.mpr (List.mem_append_right _ hfile))) hrest
      exact ⟨state', bind_eq_ok.mpr ⟨_, walkNames_eq_ok.mpr ⟨hnames, hfold, rfl⟩, hwalk⟩⟩

end Included

end IndiaSwing
