import Mathlib.Data.List.Sort
import IndiaSwing.Lib.ActionRuns

namespace CreateOnce

open ActionRuns

/-- A file of a directory: a record under its final name, or the temporary file of a write, which has
no content until it is written. -/
inductive File (ν δ : Type*)
  | record (name : ν) (content : δ)
  | temporary (number : ℕ) (content : Option δ)

abbrev Directory (ν δ : Type*) := List (File ν δ)

variable {ν δ : Type*}

namespace File

def number : File ν δ → ℕ
  | record _ _ => 0
  | temporary number _ => number

def isTemporary (number : ℕ) : File ν δ → Bool
  | record _ _ => false
  | temporary other _ => other = number

def content : File ν δ → Option δ
  | record _ content => some content
  | temporary _ content => content

def isRecord [DecidableEq ν] (name : ν) : File ν δ → Bool
  | record other _ => other = name
  | temporary _ _ => false

/-- The name and the content of a record. -/
def asRecord : File ν δ → Option (ν × δ)
  | record name content => some (name, content)
  | temporary _ _ => none

end File

namespace Directory

/-- A number that no temporary file of the directory has. -/
def freshNumber (directory : Directory ν δ) : ℕ := (directory.map (·.number)).foldr max 0 + 1

def create (number : ℕ) (directory : Directory ν δ) : Directory ν δ :=
  directory ++ [.temporary number none]

def write (number : ℕ) (payload : δ) (directory : Directory ν δ) : Directory ν δ :=
  directory.map fun file => if file.isTemporary number then .temporary number (some payload) else file

/-- A link to a name that is taken fails and leaves the directory as it is. -/
def link [DecidableEq ν] (number : ℕ) (name : ν) (directory : Directory ν δ) : Directory ν δ :=
  match (directory.find? (·.isTemporary number)).bind (·.content) with
  | some content => if directory.any (·.isRecord name) then directory else directory ++ [.record name content]
  | none => directory

def unlink (number : ℕ) (directory : Directory ν δ) : Directory ν δ :=
  directory.filter fun file => !file.isTemporary number

variable [DecidableEq ν]

/-- The steps of a create-once write. -/
def writeSteps (name : ν) (payload : δ) (directory : Directory ν δ) :
    List (Directory ν δ → Directory ν δ) :=
  [create directory.freshNumber, write directory.freshNumber payload, link directory.freshNumber name,
    unlink directory.freshNumber]

/-- The directory that a write leaves which was killed after some of its steps. -/
def killedWrite (name : ν) (payload : δ) (killedAfter : ℕ) (directory : Directory ν δ) :
    Directory ν δ :=
  ((directory.writeSteps name payload).take killedAfter).foldl (fun current step => step current) directory

/-- The records of a directory that holds nothing else, in the order of their keys. -/
def scan (key : ν → ℕ) (directory : Directory ν δ) : Option (List (ν × δ)) :=
  if directory.any (·.asRecord.isNone) then none
  else some ((directory.filterMap (·.asRecord)).insertionSort fun a b => key a.1 ≤ key b.1)

end Directory

/-- The directory that holds the given records and nothing else. -/
def filesOf (name : δ → ν) (records : List δ) : Directory ν δ :=
  records.map fun record => .record (name record) record

/-- Records that are numbered from one. -/
def Numbered (number : δ → ℕ) (records : List δ) : Prop :=
  records.map number = List.range' 1 records.length

section Lemmas

variable {directory : Directory ν δ} {records : List δ} {record : δ} {name : ν} {payload : δ}
variable {killedAfter : ℕ} {key : ν → ℕ} {naming : δ → ν} {number : δ → ℕ}

theorem not_isTemporary_freshNumber {file : File ν δ} (h : file ∈ directory) :
    file.isTemporary directory.freshNumber = false := by
  have hle : file.number ≤ (directory.map (·.number)).foldr max 0 := by
    induction directory with
    | nil => cases h
    | cons first rest ih =>
      rcases List.mem_cons.mp h with rfl | hrest
      · exact le_max_left _ _
      · exact (ih hrest).trans (le_max_right _ _)
  cases file with
  | record => rfl
  | temporary other content =>
    have hne : other ≠ directory.freshNumber := by
      intro heq
      have hother : other ≤ (directory.map (·.number)).foldr max 0 := hle
      rw [heq, Directory.freshNumber] at hother
      omega
    simpa [File.isTemporary] using hne

theorem write_created : ((directory.create directory.freshNumber).write directory.freshNumber payload) =
    directory ++ [.temporary directory.freshNumber (some payload)] := by
  have hsame : directory.map (fun file => if file.isTemporary directory.freshNumber then
      File.temporary directory.freshNumber (some payload) else file) = directory := by
    refine (List.map_congr_left fun file hfile => ?_).trans (List.map_id _)
    rw [not_isTemporary_freshNumber hfile]
    rfl
  unfold Directory.write Directory.create
  rw [List.map_append, hsame]
  simp [File.isTemporary]

theorem scan_temporary {number : ℕ} {content : Option δ} (h : .temporary number content ∈ directory) :
    directory.scan key = none := by
  unfold Directory.scan
  rw [if_pos (List.any_eq_true.mpr ⟨_, h, rfl⟩)]

theorem scan_filesOf : (filesOf naming records).scan key =
    some ((records.map fun record => (naming record, record)).insertionSort fun a b => key a.1 ≤ key b.1) := by
  have hnone : ¬(filesOf naming records).any (·.asRecord.isNone) = true := by
    simp [filesOf, File.asRecord]
  have hall : (filesOf naming records).filterMap (·.asRecord) =
      records.map fun record => (naming record, record) := by
    rw [filesOf, List.filterMap_map, ← List.filterMap_eq_map]
    rfl
  unfold Directory.scan
  rw [if_neg hnone, hall]

theorem numbered_concat : Numbered number (records ++ [record]) ↔
    Numbered number records ∧ number record = records.length + 1 := by
  have hrange : List.range' 1 (records.length + 1) = List.range' 1 records.length ++ [records.length + 1] := by
    rw [List.range'_concat, Nat.add_comm 1]
    simp
  unfold Numbered
  rw [List.map_append, List.length_append, List.length_singleton, hrange]
  constructor
  · intro h
    obtain ⟨hrecords, hrecord⟩ := List.append_inj h (by simp)
    exact ⟨hrecords, by simpa using hrecord⟩
  · rintro ⟨hrecords, hrecord⟩
    rw [hrecords, List.map_singleton, hrecord]

theorem Numbered.le (h : Numbered number records) (hmem : record ∈ records) :
    number record ≤ records.length := by
  have hin : number record ∈ List.range' 1 records.length := by
    rw [← h]
    exact List.mem_map_of_mem hmem
  obtain ⟨-, hlt⟩ := List.mem_range'_1.mp hin
  omega

/-- Reading numbered records gives them back in their order. -/
theorem scan_numbered (h : Numbered number records) (hkey : ∀ record, key (naming record) = number record) :
    (filesOf naming records).scan key = some (records.map fun record => (naming record, record)) := by
  rw [scan_filesOf, List.Pairwise.insertionSort_eq]
  refine List.pairwise_map.mpr ?_
  have hsorted : (records.map number).Pairwise (· ≤ ·) := by
    rw [show records.map number = _ from h]
    exact List.pairwise_le_range' 
  refine (List.pairwise_map.mp hsorted).imp fun {first second} hle => ?_
  simpa [hkey] using hle

theorem filesOf_concat : filesOf naming (records ++ [record]) =
    filesOf naming records ++ [.record (naming record) record] := by
  simp [filesOf]

theorem unlink_linked : Directory.unlink directory.freshNumber
    (directory ++ [.temporary directory.freshNumber (some payload), .record name payload]) =
      directory ++ [.record name payload] := by
  have hkept : directory.filter (fun file => !file.isTemporary directory.freshNumber) = directory :=
    List.filter_eq_self.mpr fun file hfile => by simp [not_isTemporary_freshNumber hfile]
  unfold Directory.unlink
  rw [List.filter_append, hkept]
  simp [File.isTemporary]

variable [DecidableEq ν]

/-- The name of a record with the next number is not taken. -/
theorem Numbered.unused (h : Numbered number records) (hkey : ∀ record, key (naming record) = number record)
    (hnext : number record = records.length + 1) :
    ∀ file ∈ filesOf naming records, file.isRecord (naming record) = false := by
  intro file hfile
  obtain ⟨other, hother, rfl⟩ := List.mem_map.mp hfile
  have hle := h.le hother
  have hne : naming other ≠ naming record := by
    intro heq
    have hsame := congrArg key heq
    rw [hkey, hkey, hnext] at hsame
    omega
  simpa [File.isRecord] using hne

theorem link_written (hnew : ∀ file ∈ directory, file.isRecord name = false) :
    Directory.link directory.freshNumber name (directory ++ [.temporary directory.freshNumber (some payload)]) =
      directory ++ [.temporary directory.freshNumber (some payload), .record name payload] := by
  have hnone : directory.find? (fun file : File ν δ => file.isTemporary directory.freshNumber) = none := by
    refine List.find?_eq_none.mpr fun file hfile => ?_
    simp [not_isTemporary_freshNumber hfile]
  have hfind : (directory ++ [File.temporary directory.freshNumber (some payload)]).find?
      (fun file : File ν δ => file.isTemporary directory.freshNumber) =
        some (.temporary directory.freshNumber (some payload)) := by
    rw [List.find?_append, hnone]
    simp [File.isTemporary]
  have hfree : ¬(directory ++ [File.temporary directory.freshNumber (some payload)]).any
      (·.isRecord name) = true := by
    simpa [File.isRecord] using hnew
  unfold Directory.link
  rw [hfind]
  simp only [Option.bind_some, File.content, if_neg hfree, List.append_assoc, List.cons_append,
    List.nil_append]

theorem killedWrite_zero : directory.killedWrite name payload 0 = directory := rfl

/-- A write that is not killed adds its record. -/
theorem killedWrite_finished (hnew : ∀ file ∈ directory, file.isRecord name = false)
    (hkilled : 4 ≤ killedAfter) :
    directory.killedWrite name payload killedAfter = directory ++ [.record name payload] := by
  have hall : (directory.writeSteps name payload).take killedAfter = directory.writeSteps name payload :=
    List.take_of_length_le hkilled
  unfold Directory.killedWrite
  rw [hall]
  show Directory.unlink _ (Directory.link _ name (Directory.write _ payload (Directory.create _ directory))) = _
  rw [write_created, link_written hnew, unlink_linked]

/-- A write that is killed in between leaves its temporary file. -/
theorem killedWrite_between (hnew : ∀ file ∈ directory, file.isRecord name = false) (hstarted : killedAfter ≠ 0)
    (hkilled : killedAfter < 4) :
    (directory.killedWrite name payload killedAfter).scan key = none := by
  obtain rfl | rfl | rfl : killedAfter = 1 ∨ killedAfter = 2 ∨ killedAfter = 3 := by omega
  · have hcreated : File.temporary directory.freshNumber none ∈ directory.create directory.freshNumber :=
      List.mem_append_right _ (List.mem_singleton_self _)
    exact scan_temporary hcreated
  · show Directory.scan key (Directory.write _ payload (Directory.create _ directory)) = none
    rw [write_created]
    exact scan_temporary (List.mem_append_right _ (List.mem_singleton_self _))
  · show Directory.scan key (Directory.link _ name (Directory.write _ payload (Directory.create _ directory))) = none
    rw [write_created, link_written hnew]
    exact scan_temporary (List.mem_append_right _ List.mem_cons_self)

end Lemmas

/-- What an append does once its checks have passed: its record is stored already, or it writes it. -/
inductive Plan (δ : Type*)
  | stored (record : δ)
  | write (record : δ)

/-- A log over the files of a store. `write` stops after some of the steps of the write. -/
structure Log (σ ρ δ ε : Type*) where
  list : σ → ρ → Except ε (List δ)
  plan : σ → ρ → Except ε (Plan δ)
  write : σ → ρ → δ → ℕ → σ

namespace Log

variable {σ ρ δ ε α : Type*} (log : Log σ ρ δ ε)

/-- An append that is not killed. -/
def append (store : σ) (request : ρ) : Except ε (δ × σ) :=
  (log.plan store request).map fun
    | .stored record => (record, store)
    | .write record => (record, log.write store request record 4)

/-- The store after an append that was killed after some steps of its write. -/
def killed (store : σ) (request : ρ) (killedAfter : ℕ) : σ :=
  match log.plan store request with
  | .ok (.write record) => log.write store request record killedAfter
  | _ => store

/-- After an append that may have been killed the history is the one before it, and the append can be
made again as if for the first time; or the history has the new record, and the append answers as it
would after one that was not killed. -/
def Recovered (Extends : List δ → δ → List δ → Prop) (before : σ) (request : ρ) (after : σ) : Prop :=
  ∃ history, log.list before request = .ok history ∧
    ((log.list after request = .ok history ∧ log.append after request = log.append before request) ∨
      ∃ record final extended, log.append before request = .ok (record, final) ∧
        log.list after request = .ok extended ∧ Extends history record extended ∧
          log.append after request = log.append final request)

end Log

/-- The steps of a run over a log: an append that may be killed, or another change of the store. -/
inductive LogAction (ρ α : Type*)
  | append (request : ρ) (killedAfter : ℕ)
  | other (action : α)

section Runs

variable {σ ρ δ ε α : Type*} {log : Log σ ρ δ ε} {other : σ → α → σ} {Known : σ → ρ → Prop}
variable {Extends : List δ → δ → List δ → Prop} {I : σ → Prop} {start store : σ} {request : ρ}
variable {record : δ} {killedAfter : ℕ}

def Log.step (log : Log σ ρ δ ε) (other : σ → α → σ) (store : σ) : LogAction ρ α → σ
  | .append request killedAfter => log.killed store request killedAfter
  | .other action => other store action

/-- The appends of the run leave the store recovered. -/
def Log.Recovers (log : Log σ ρ δ ε) (Known : σ → ρ → Prop) (Extends : List δ → δ → List δ → Prop)
    (store : σ) (action : LogAction ρ α) : Prop :=
  ∀ request killedAfter, action = .append request killedAfter → Known store request →
    log.Recovered Extends store request (log.killed store request killedAfter)

/-- No append is killed between the first and the last step of its write. -/
def Log.KilledOutsideWrite (log : Log σ ρ δ ε) (store : σ) (action : LogAction ρ α) : Prop :=
  ∀ request killedAfter, action = .append request killedAfter →
    ∀ record, log.plan store request = .ok (.write record) → killedAfter = 0 ∨ 4 ≤ killedAfter

/-- What the operations of a log do in the stores that satisfy `I`. -/
structure Log.Lawful (log : Log σ ρ δ ε) (Known : σ → ρ → Prop) (Extends : List δ → δ → List δ → Prop)
    (I : σ → Prop) : Prop where
  readable : ∀ store request, I store → Known store request → ∃ history, log.list store request = .ok history
  known : ∀ store request record, log.plan store request = .ok (.write record) → Known store request
  unstarted : ∀ store request record, log.write store request record 0 = store
  finished : ∀ store request record killedAfter, I store → log.plan store request = .ok (.write record) →
    4 ≤ killedAfter → log.write store request record killedAfter = log.write store request record 4
  extended : ∀ store request record history, I store → log.plan store request = .ok (.write record) →
    log.list store request = .ok history →
      ∃ extended, log.list (log.write store request record 4) request = .ok extended ∧
        Extends history record extended
  between : ∀ store request record killedAfter, I store → log.plan store request = .ok (.write record) →
    killedAfter ≠ 0 → killedAfter < 4 →
      ∃ e, log.list (log.write store request record killedAfter) request = .error e
  kept : ∀ store request record, I store → log.plan store request = .ok (.write record) →
    I (log.write store request record 4)

theorem Log.killed_write (h : log.plan store request = .ok (.write record)) :
    log.killed store request killedAfter = log.write store request record killedAfter := by
  unfold Log.killed
  rw [h]

theorem Log.killed_unwritten (h : ∀ record, log.plan store request ≠ .ok (.write record)) :
    log.killed store request killedAfter = store := by
  unfold Log.killed
  split
  next record hplan => exact absurd hplan (h record)
  next => rfl

/-- An append is recovered exactly if it is not killed within its write. -/
theorem Log.Lawful.recovered_iff (hlog : log.Lawful Known Extends I) (hstore : I store)
    (hknown : Known store request) :
    log.Recovered Extends store request (log.killed store request killedAfter) ↔
      ∀ record, log.plan store request = .ok (.write record) → killedAfter = 0 ∨ 4 ≤ killedAfter := by
  constructor
  · rintro ⟨history, -, hrecovered⟩ record hplan
    by_contra hbetween
    obtain ⟨hstarted, hunfinished⟩ := not_or.mp hbetween
    obtain ⟨e, herror⟩ := hlog.between store request record killedAfter hstore hplan hstarted
      (not_le.mp hunfinished)
    rw [Log.killed_write hplan, herror] at hrecovered
    rcases hrecovered with ⟨h, -⟩ | ⟨_, _, _, -, h, -⟩
    · cases h
    · cases h
  · intro hclean
    obtain ⟨history, hhistory⟩ := hlog.readable store request hstore hknown
    refine ⟨history, hhistory, ?_⟩
    by_cases hwrites : ∃ record, log.plan store request = .ok (.write record)
    · obtain ⟨record, hplan⟩ := hwrites
      rw [Log.killed_write hplan]
      rcases hclean record hplan with rfl | hfinished
      · left
        rw [hlog.unstarted]
        exact ⟨hhistory, rfl⟩
      · right
        rw [hlog.finished store request record killedAfter hstore hplan hfinished]
        obtain ⟨extended, hlist, hextends⟩ := hlog.extended store request record history hstore hplan hhistory
        refine ⟨record, log.write store request record 4, extended, ?_, hlist, hextends, rfl⟩
        unfold Log.append
        rw [hplan]
        rfl
    · left
      rw [Log.killed_unwritten (not_exists.mp hwrites)]
      exact ⟨hhistory, rfl⟩

theorem Log.Lawful.step (hlog : log.Lawful Known Extends I) (hother : ∀ store action, I store → I (other store action))
    (hstore : I store) {action : LogAction ρ α} (hclean : log.KilledOutsideWrite store action) :
    I (log.step other store action) := by
  cases action with
  | other action => exact hother store action hstore
  | append request killedAfter =>
    show I (log.killed store request killedAfter)
    by_cases hwrites : ∃ record, log.plan store request = .ok (.write record)
    · obtain ⟨record, hplan⟩ := hwrites
      rw [Log.killed_write hplan]
      rcases hclean request killedAfter rfl record hplan with rfl | hfinished
      · rwa [hlog.unstarted]
      · rw [hlog.finished store request record killedAfter hstore hplan hfinished]
        exact hlog.kept store request record hstore hplan
    · rwa [Log.killed_unwritten (not_exists.mp hwrites)]

/-- In a run every append leaves the log recovered exactly if none is killed within its write. -/
theorem Log.Lawful.run_recovers_iff (hlog : log.Lawful Known Extends I)
    (hother : ∀ store action, I store → I (other store action)) (hstart : I start)
    (actions : List (LogAction ρ α)) :
    EveryStep (log.step other) start (log.Recovers Known Extends) actions ↔
      EveryStep (log.step other) start log.KilledOutsideWrite actions := by
  induction actions using List.reverseRecOn with
  | nil => exact iff_of_true everyStep_nil everyStep_nil
  | append_singleton actions action ih =>
    rw [everyStep_concat, everyStep_concat, ih]
    refine and_congr_right fun hclean => ?_
    have hstore := hclean.invariant hstart fun s a hs ha => hlog.step hother hs ha
    constructor
    · rintro h request killedAfter rfl record hplan
      have hknown := hlog.known _ request record hplan
      exact (hlog.recovered_iff hstore hknown).mp (h request killedAfter rfl hknown) record hplan
    · rintro h request killedAfter rfl hknown
      exact (hlog.recovered_iff hstore hknown).mpr (h request killedAfter rfl)

end Runs

end CreateOnce
