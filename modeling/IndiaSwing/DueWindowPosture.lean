import IndiaSwing.DueWindows

namespace IndiaSwing

open CivilTime ExceptGuards ClosedIntervals

section Targets

variable {ctx : IdentityContext} {r : RunbookFields} {t : Instant}

/-- The windows that have opened. -/
def opened (r : RunbookFields) (t : Instant) : List ObservationWindowSpec :=
  r.windows.filter fun w => opensAt w ≤ t.microseconds

/-- A selection, and the windows it concerns: a due one is the last of those that have opened, and the others have
closed. -/
inductive Selected (r : RunbookFields) (t : Instant) : DueWindowSelection → Prop
  | due {front back : List ObservationWindowSpec} {window : ObservationWindowSpec}
      (split : r.windows = front ++ window :: back) (opens : opensAt window ≤ t.microseconds)
      (closes : t.microseconds ≤ closesAt window) (opened_eq : opened r t = front ++ [window])
      (closed : ∀ w ∈ front, closesAt w < t.microseconds) :
      Selected r t (.due window.1.marketSession window.1.windowKind)
  | notScheduled (opened_eq : opened r t = r.windows.filter fun w => closesAt w ≤ t.microseconds)
      (closed : ∀ w ∈ r.windows, opensAt w ≤ t.microseconds → closesAt w < t.microseconds) :
      Selected r t .notScheduled

theorem selectDueQualityPilotWindow_ok (h : RunbookWindows ctx r) (t : Instant) :
    ∃ selection, selectDueQualityPilotWindow r t = .ok selection ∧ Selected r t selection := by
  unfold selectDueQualityPilotWindow
  rcases h.apart.cases t.microseconds with
    ⟨front, window, back, hsplit, hopens, hcloses, hone, hopened, hclosed⟩ | ⟨hnone, hopened, hclosed⟩
  · rw [hone]
    exact ⟨_, rfl, .due hsplit hopens hcloses hopened hclosed⟩
  · rw [hnone]
    exact ⟨_, rfl, .notScheduled hopened hclosed⟩

/-- The place of a window is the first that has its session and its kind. -/
theorem findIdx?_window (h : RunbookWindows ctx r) {front back : List ObservationWindowSpec}
    {window : ObservationWindowSpec} (hsplit : r.windows = front ++ window :: back) :
    (r.windows.findIdx? fun w => w.1.marketSession = window.1.marketSession ∧ w.1.windowKind = window.1.windowKind) =
      some front.length := by
  have hwindow : r.windows[front.length]? = some window := by
    rw [hsplit, List.getElem?_append_right le_rfl, Nat.sub_self]
    rfl
  obtain ⟨hlength, hget⟩ := List.getElem?_eq_some_iff.mp hwindow
  apply List.findIdx?_eq_some_iff_getElem.mpr
  refine ⟨hlength, by simp [hget], fun j hj hsame => ?_⟩
  have hother : r.windows[j]? = some r.windows[j] := List.getElem?_eq_getElem (hj.trans hlength)
  obtain ⟨hsession, hkind⟩ := of_decide_eq_true hsame
  have hplace := h.unique hother hwindow hsession hkind
  omega

theorem completionProbeTargets_ok (h : RunbookWindows ctx r) (t : Instant) :
    completionProbeTargets r t = .ok (opened r t) := by
  obtain ⟨selection, hselect, hselected⟩ := selectDueQualityPilotWindow_ok h t
  unfold completionProbeTargets
  rw [hselect, ok_bind]
  cases hselected with
  | @due front back window hsplit hopens hcloses hopened hclosed =>
    dsimp only
    rw [findIdx?_window h hsplit, hopened]
    dsimp only
    rw [hsplit, List.take_length_add_append]
    rfl
  | notScheduled hopened hclosed =>
    have htake := take_last_index (h.apart.closed_front t.microseconds)
    rw [hopened, ← htake]
    dsimp only
    cases (indices (fun w => closesAt w ≤ t.microseconds) r.windows).max? <;> rfl

end Targets

section Postures

variable {ctx : IdentityContext} {r : RunbookFields} {t u : Instant}

def proofEntries (proof : Option OrderedCompletionProof) : List WindowCompletionEvidence :=
  (proof.map (·.1)).getD []

/-- An ordered proof over the windows that have opened; where none has, it may be left out. -/
def ProofOver (ctx : IdentityContext) (r : RunbookFields) (t : Instant) (proof : Option OrderedCompletionProof) : Prop :=
  (proofEntries proof).map (·.1.windowId) = (opened r t).map fun w => windowId ctx w.1

/-- An entry of a proof gives a window a result. -/
def Reports (ctx : IdentityContext) (proof : Option OrderedCompletionProof) (w : ObservationWindowSpec)
    (result : CompletionProbeResult) : Prop :=
  ∃ e ∈ proofEntries proof, e.1.windowId = windowId ctx w.1 ∧ e.1.result = result

theorem proofEntries_nodup (proof : Option OrderedCompletionProof) :
    ((proofEntries proof).map (·.1.windowId)).Nodup := by
  obtain _ | proof := proof
  · exact List.nodup_nil
  · have hvalid := proof.2
    unfold validateProof at hvalid
    rw [raiseIf_eq_ok, not_not] at hvalid
    exact hvalid

/-- A window has one result. -/
theorem Reports.unique {proof : Option OrderedCompletionProof} {w : ObservationWindowSpec}
    {result result' : CompletionProbeResult} (h : Reports ctx proof w result) (h' : Reports ctx proof w result') :
    result = result' := by
  obtain ⟨e, he, hid, rfl⟩ := h
  obtain ⟨e', he', hid', rfl⟩ := h'
  have hsame := List.inj_on_of_nodup_map (proofEntries_nodup proof) he he' (hid.trans hid'.symm)
  rw [hsame]

/-- Entries of a proof that stand for given windows report an incomplete one when one of these is incomplete. -/
theorem exists_incomplete {proof : Option OrderedCompletionProof} {entries : List WindowCompletionEvidence}
    {windows : List ObservationWindowSpec} (hsub : ∀ e ∈ entries, e ∈ proofEntries proof)
    (h : entries.map (·.1.windowId) = windows.map fun w => windowId ctx w.1) :
    (∃ e ∈ entries, e.1.result = .incomplete) ↔ ∃ w ∈ windows, Reports ctx proof w .incomplete := by
  constructor
  · rintro ⟨e, he, hresult⟩
    have hmem : e.1.windowId ∈ windows.map fun w => windowId ctx w.1 := by
      rw [← h]
      exact List.mem_map_of_mem he
    obtain ⟨w, hw, hid⟩ := List.mem_map.mp hmem
    exact ⟨w, hw, e, hsub e he, hid.symm, hresult⟩
  · rintro ⟨w, hw, hreport⟩
    have hmem : windowId ctx w.1 ∈ entries.map (·.1.windowId) := by
      rw [h]
      exact List.mem_map_of_mem hw
    obtain ⟨e, he, hid⟩ := List.mem_map.mp hmem
    exact ⟨e, he, Reports.unique ⟨e, hsub e he, hid, rfl⟩ hreport⟩

/-- A moment lies inside a window that is incomplete after complete ones. -/
def DueAt (ctx : IdentityContext) (r : RunbookFields) (t : Instant) (proof : Option OrderedCompletionProof) : Prop :=
  ∃ front window back, r.windows = front ++ window :: back ∧ opensAt window ≤ t.microseconds ∧
    t.microseconds ≤ closesAt window ∧ Reports ctx proof window .incomplete ∧ ∀ w ∈ front, Reports ctx proof w .complete

/-- A window has closed and is incomplete. -/
def MissedAt (ctx : IdentityContext) (r : RunbookFields) (t : Instant) (proof : Option OrderedCompletionProof) : Prop :=
  ∃ w ∈ r.windows, closesAt w < t.microseconds ∧ Reports ctx proof w .incomplete

/-- What a posture says about the windows. -/
structure PostureOf (ctx : IdentityContext) (r : RunbookFields) (t : Instant) (proof : Option OrderedCompletionProof)
    (posture : WindowPostureAssessment) : Prop where
  due : (∃ marketSession windowKind, posture = .due marketSession windowKind) ↔ DueAt ctx r t proof
  missed : MissedAt ctx r t proof → ∃ marketSession windowKind, posture = .missedWindowBlocked marketSession windowKind

theorem mem_opened (h : RunbookWindows ctx r) {w : ObservationWindowSpec} (hw : w ∈ r.windows)
    (hclosed : closesAt w < t.microseconds) : w ∈ opened r t :=
  List.mem_filter.mpr ⟨hw, decide_eq_true ((h.apart.opens_le w hw).trans hclosed.le)⟩

/-- The posture at a moment inside a window: the entries before its own are those of the windows before it. -/
theorem postureOf_due (h : RunbookWindows ctx r) {proof : Option OrderedCompletionProof}
    {front back : List ObservationWindowSpec} {window : ObservationWindowSpec}
    {entries : List WindowCompletionEvidence} {last : WindowCompletionEvidence}
    (hsplit : r.windows = front ++ window :: back) (hopens : opensAt window ≤ t.microseconds)
    (hcloses : t.microseconds ≤ closesAt window) (hopened : opened r t = front ++ [window])
    (hclosed : ∀ w ∈ front, closesAt w < t.microseconds) (hproof : proofEntries proof = entries ++ [last])
    (hentries : entries.map (·.1.windowId) = front.map fun w => windowId ctx w.1)
    (hlast : last.1.windowId = windowId ctx window.1) :
    PostureOf ctx r t proof
      (postureOf ctx r (.due window.1.marketSession window.1.windowKind) window (proofEntries proof)) := by
  have hsub : ∀ e ∈ entries, e ∈ proofEntries proof := by
    intro e he
    rw [hproof]
    exact List.mem_append_left _ he
  have hreport : Reports ctx proof window last.1.result := by
    refine ⟨last, ?_, hlast, rfl⟩
    rw [hproof]
    exact List.mem_append_right _ List.mem_cons_self
  have hfront := exists_incomplete hsub hentries
  -- A window that has closed by now, or that holds the moment, is known by its place.
  have hplace : ∀ w ∈ r.windows, opensAt w ≤ t.microseconds → t.microseconds ≤ closesAt w → w = window := by
    intro w hw hopen hclose
    have hmem : w ∈ opened r t := List.mem_filter.mpr ⟨hw, decide_eq_true hopen⟩
    rw [hopened] at hmem
    rcases List.mem_append.mp hmem with hmem | hmem
    · exact absurd hclose (not_le.mpr (hclosed w hmem))
    · exact List.mem_singleton.mp hmem
  have hpast : ∀ w ∈ r.windows, closesAt w < t.microseconds → w ∈ front := by
    intro w hw hclose
    have hmem := mem_opened h hw hclose
    rw [hopened] at hmem
    rcases List.mem_append.mp hmem with hmem | hmem
    · exact hmem
    · rw [List.mem_singleton.mp hmem] at hclose
      exact absurd hclose (not_lt.mpr hcloses)
  unfold postureOf
  rw [hproof, List.dropLast_concat, List.getLast?_concat]
  dsimp only
  by_cases hincomplete : ∃ e ∈ entries, e.1.result = .incomplete
  · rw [if_pos hincomplete]
    obtain ⟨w, hw, hmissed⟩ := hfront.mp hincomplete
    refine ⟨iff_of_false (by simp) ?_, fun _ => ⟨_, _, rfl⟩⟩
    rintro ⟨front', window', back', hsplit', hopens', hcloses', -, hcomplete⟩
    have hmem : w ∈ front' ++ window' :: back' := by
      rw [← hsplit', hsplit]
      exact List.mem_append_left _ hw
    have hgone := hclosed w hw
    rcases List.mem_append.mp hmem with hbefore | hrest
    · exact absurd ((hcomplete w hbefore).unique hmissed) (by decide)
    · rcases List.mem_cons.mp hrest with rfl | hafter
      · omega
      · have hapart := h.apart.apart
        rw [hsplit'] at hapart
        have hlater := (List.pairwise_cons.mp (List.pairwise_append.mp hapart).2.1).1 w hafter
        have hopen := h.apart.opens_le w (by rw [hsplit']; exact hmem)
        omega
  · rw [if_neg hincomplete]
    have hcomplete : ∀ w ∈ front, Reports ctx proof w .complete := by
      intro w hw
      have hid : windowId ctx w.1 ∈ entries.map (·.1.windowId) := by
        rw [hentries]
        exact List.mem_map_of_mem hw
      obtain ⟨e, he, heq⟩ := List.mem_map.mp hid
      refine ⟨e, hsub e he, heq, ?_⟩
      cases hresult : e.1.result with
      | complete => rfl
      | incomplete => exact absurd ⟨e, he, hresult⟩ hincomplete
    have hnone : ¬MissedAt ctx r t proof := by
      rintro ⟨w, hw, hclose, hmissed⟩
      exact absurd ((hcomplete w (hpast w hw hclose)).unique hmissed) (by decide)
    by_cases hown : ∃ e ∈ some last, e.1.result = .incomplete
    · rw [if_pos hown]
      obtain ⟨e, he, hresult⟩ := hown
      obtain rfl := Option.some.inj he
      rw [hresult] at hreport
      exact ⟨iff_of_true ⟨_, _, rfl⟩ ⟨front, window, back, hsplit, hopens, hcloses, hreport, hcomplete⟩,
        fun hmissed => absurd hmissed hnone⟩
    · rw [if_neg hown]
      refine ⟨iff_of_false (by simp) ?_, fun hmissed => absurd hmissed hnone⟩
      rintro ⟨front', window', back', hsplit', hopens', hcloses', hincomplete', -⟩
      have hmem : window' ∈ r.windows := by
        rw [hsplit']
        exact List.mem_append_right _ List.mem_cons_self
      rw [hplace window' hmem hopens' hcloses'] at hincomplete'
      exact hown ⟨last, rfl, hreport.unique hincomplete'⟩

/-- The posture at a moment inside no window. -/
theorem postureOf_notScheduled (h : RunbookWindows ctx r) {proof : Option OrderedCompletionProof}
    (boundary : ObservationWindowSpec) (hproof : ProofOver ctx r t proof)
    (hclosed : ∀ w ∈ r.windows, opensAt w ≤ t.microseconds → closesAt w < t.microseconds) :
    PostureOf ctx r t proof (postureOf ctx r .notScheduled boundary (proofEntries proof)) := by
  have hall := exists_incomplete (fun e he => he) hproof
  have hdue : ¬DueAt ctx r t proof := by
    rintro ⟨front, window, back, hsplit, hopens, hcloses, -⟩
    have hmem : window ∈ r.windows := by
      rw [hsplit]
      exact List.mem_append_right _ List.mem_cons_self
    exact absurd (hclosed window hmem hopens) (not_lt.mpr hcloses)
  unfold postureOf
  dsimp only
  by_cases hincomplete : ∃ e ∈ proofEntries proof, e.1.result = .incomplete
  · rw [if_pos hincomplete]
    exact ⟨iff_of_false (by simp) hdue, fun _ => ⟨_, _, rfl⟩⟩
  · rw [if_neg hincomplete]
    have hnone : ¬MissedAt ctx r t proof := by
      rintro ⟨w, hw, hclose, hmissed⟩
      exact hincomplete (hall.mpr ⟨w, mem_opened h hw hclose, hmissed⟩)
    refine ⟨iff_of_false ?_ hdue, fun hmissed => absurd hmissed hnone⟩
    split <;> simp

theorem assessWindowPosture_ok (h : RunbookWindows ctx r) {proof : Option OrderedCompletionProof}
    (hproof : ProofOver ctx r t proof) :
    ∃ posture, assessWindowPosture ctx r t proof = .ok posture ∧ PostureOf ctx r t proof posture := by
  obtain ⟨selection, hselect, hselected⟩ := selectDueQualityPilotWindow_ok h t
  unfold assessWindowPosture
  rw [completionProbeTargets_ok h t, ok_bind]
  rcases List.eq_nil_or_concat (opened r t) with hempty | ⟨front, boundary, hopened⟩
  · rw [hempty]
    have hnone : proofEntries proof = [] := by
      have hmap := hproof
      unfold ProofOver at hmap
      rw [hempty] at hmap
      exact List.map_eq_nil_iff.mp hmap
    have hpass : ¬∃ p ∈ proof, p.1 ≠ [] := by
      rintro ⟨p, hp, hne⟩
      rw [Option.mem_def.mp hp] at hnone
      exact hne hnone
    have hreports : ∀ w result, ¬Reports ctx proof w result := by
      rintro w result ⟨e, he, -⟩
      rw [hnone] at he
      exact List.not_mem_nil he
    dsimp only [List.getLast?_nil]
    rw [raiseIf_neg hpass, ok_bind]
    refine ⟨.notScheduled, rfl, iff_of_false (by simp) ?_, ?_⟩
    · rintro ⟨-, window, -, -, -, -, hreport, -⟩
      exact hreports window _ hreport
    · rintro ⟨w, -, -, hreport⟩
      exact absurd hreport (hreports w _)
  · rw [List.concat_eq_append] at hopened
    rw [hopened, List.getLast?_concat]
    dsimp only
    have hmap := hproof
    unfold ProofOver at hmap
    rw [hopened, List.map_append] at hmap
    obtain ⟨entries, rest, hentries, hfront, hrest⟩ := List.map_eq_append_iff.mp hmap
    obtain ⟨last, rfl, hlast⟩ := List.map_eq_singleton_iff.mp hrest
    obtain _ | p := proof
    · exact absurd hentries (by simp [proofEntries])
    · dsimp only
      have hover : p.1.map (·.1.windowId) = (front ++ [boundary]).map fun w => windowId ctx w.1 := by
        rw [← hopened]
        exact hproof
      rw [raiseIf_neg (not_not.mpr hover), ok_bind, hselect, ok_bind]
      refine ⟨_, rfl, ?_⟩
      cases hselected with
      | @due front' back window hsplit hopens hcloses hopened' hclosed =>
        rw [hopened] at hopened'
        obtain ⟨rfl, hwindow⟩ := List.append_inj' hopened' rfl
        obtain rfl : boundary = window := by simpa using hwindow
        exact postureOf_due h hsplit hopens hcloses hopened hclosed hentries hfront hlast
      | notScheduled _ hclosed => exact postureOf_notScheduled h boundary hproof hclosed

end Postures

section Runbooks

variable (ctx : IdentityContext)

/-- Two proofs give one result to a window that had opened at both moments. -/
def Agree (r : RunbookFields) (t u : Instant) (proof later : Option OrderedCompletionProof) : Prop :=
  ∀ w ∈ opened r t, w ∈ opened r u → ∀ result, Reports ctx proof w result ↔ Reports ctx later w result

/-- At every moment a valid runbook selects without an overlap, its targets are the windows that have opened, in their
order, and over a proof of these the posture is due exactly inside an incomplete window that complete ones precede.
A window that was incomplete after it closed blocks every later posture. -/
theorem due_windows (r : QualityPilotInvocationRunbook ctx) :
    (∀ t, (∃ selection, selectDueQualityPilotWindow r.1 t = .ok selection) ∧
      completionProbeTargets r.1 t = .ok (r.1.windows.filter fun w => opensAt w ≤ t.microseconds)) ∧
    (∀ t proof, ProofOver ctx r.1 t proof → ∃ posture, assessWindowPosture ctx r.1 t proof = .ok posture ∧
      ((∃ marketSession windowKind, posture = .due marketSession windowKind) ↔ DueAt ctx r.1 t proof)) ∧
    ∀ t u proof later, t.microseconds ≤ u.microseconds → ProofOver ctx r.1 t proof → ProofOver ctx r.1 u later →
      Agree ctx r.1 t u proof later → MissedAt ctx r.1 t proof →
      ∃ marketSession windowKind, assessWindowPosture ctx r.1 u later =
        .ok (.missedWindowBlocked marketSession windowKind) := by
  have h := runbookWindows r
  refine ⟨fun t => ?_, fun t proof hproof => ?_, ?_⟩
  · obtain ⟨selection, hselect, -⟩ := selectDueQualityPilotWindow_ok h t
    exact ⟨⟨selection, hselect⟩, completionProbeTargets_ok h t⟩
  · obtain ⟨posture, hassess, hposture⟩ := assessWindowPosture_ok h hproof
    exact ⟨posture, hassess, hposture.due⟩
  · intro t u proof later hle hproof hlater hagree hmissed
    obtain ⟨w, hw, hclose, hreport⟩ := hmissed
    have hopened := mem_opened h hw hclose
    have hclose' : closesAt w < u.microseconds := hclose.trans_le hle
    have hreport' := (hagree w hopened (mem_opened h hw hclose') _).mp hreport
    obtain ⟨posture, hassess, hposture⟩ := assessWindowPosture_ok h hlater
    obtain ⟨marketSession, windowKind, rfl⟩ := hposture.missed ⟨w, hw, hclose', hreport'⟩
    exact ⟨marketSession, windowKind, hassess⟩

end Runbooks

end IndiaSwing
