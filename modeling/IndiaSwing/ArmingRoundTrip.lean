import IndiaSwing.ArmingCodec

namespace IndiaSwing

open JsonText KeySort ExceptGuards

section Wire

variable {ctx : IdentityContext} {m n : ManifestFields ctx}

theorem schedulesByLane_eq (hm : validateManifest m = .ok ()) (h : m.schedules.Perm n.schedules) :
    schedulesByLane m = schedulesByLane n := by
  refine sortOn_eq_of_perm _ h fun a ha b hb heq => ?_
  exact List.inj_on_of_nodup_map (nodup_of_validateManifest hm).1 ha hb (lane_value_injective heq)

theorem secretReferencesByKind_eq (hm : validateManifest m = .ok ())
    (h : m.secretReferences.Perm n.secretReferences) :
    secretReferencesByKind m = secretReferencesByKind n := by
  refine sortOn_eq_of_perm _ h fun a ha b hb heq => ?_
  exact List.inj_on_of_nodup_map (nodup_of_validateManifest hm).2 ha hb (kind_value_injective heq)

/-- Manifests that agree everywhere have one wire form. -/
theorem manifestTree_eq (hdigest : Function.Injective ctx.hexdigest) (hm : validateManifest m = .ok ())
    (hn : validateManifest n = .ok ()) (h : AgreesElsewhere m n) (href : SameSecretReferences m n) :
    manifestTree m = manifestTree n := by
  obtain ⟨hlanes, hkinds⟩ := nodup_of_validateManifest hm
  obtain ⟨hlanes', hkinds'⟩ := nodup_of_validateManifest hn
  have hid := (manifestId_eq_iff hdigest hm hn).mpr h
  have hschedules := schedulesByLane_eq hm ((perm_of_mem_iff hlanes hlanes').mp h.schedules)
  have hreferences := secretReferencesByKind_eq hm ((perm_of_mem_iff hkinds hkinds').mp href)
  unfold manifestTree
  rw [hid, hschedules, hreferences, h.runbook_id, h.pilot_run_id, h.protocol_sha256, h.bucket,
    h.image_reference, h.code_sha256, h.environment_sha256, h.gcp_project_id, h.gcp_region, h.gcp_job_name,
    h.runtime_service_account_email, h.scheduler_service_account_email, h.timeout_seconds]

theorem distinct_manifestTree (m : ManifestFields ctx) : Distinct (.object (manifestTree m)) := by
  have hkeys : ((manifestTree m).map (·.1)).Nodup := by
    show manifestKeys.Nodup
    decide
  have hschedule : Distinct (.array ((schedulesByLane m).map fun s => .object (scheduleTree s.1))) := by
    refine (distinctItems_iff _).mpr fun entry hentry => ?_
    obtain ⟨s, -, rfl⟩ := List.mem_map.mp hentry
    have hnames : ["lane", "cron_expression"].Nodup := by decide
    exact ⟨hnames, trivial, trivial, trivial⟩
  have hreference : Distinct (.array ((secretReferencesByKind m).map fun r =>
      .object (secretReferenceTree r.1))) := by
    refine (distinctItems_iff _).mpr fun entry hentry => ?_
    obtain ⟨r, -, rfl⟩ := List.mem_map.mp hentry
    have hnames : ["kind", "secret_id", "version"].Nodup := by decide
    exact ⟨hnames, trivial, trivial, trivial, trivial⟩
  exact ⟨hkeys, trivial, trivial, trivial, trivial, trivial, trivial, trivial, trivial, trivial, trivial,
    trivial, trivial, trivial, hschedule, hreference, trivial, trivial, trivial, trivial, trivial, trivial,
    trivial⟩

/-- What was encoded is read back as the tree with its keys sorted. -/
theorem parseArmingJson_encoded {bytes : List UInt8}
    (h : encodeQualityPilotArmingManifest m = .ok bytes) :
    parseArmingJson bytes maximumManifestBytes = .ok (.object (sortedEntries (manifestTree m))) := by
  unfold encodeQualityPilotArmingManifest at h
  obtain ⟨hsize, hbytes⟩ := raiseIf_bind_eq_ok.mp h
  obtain rfl := Except.ok.inj hbytes
  have hne : canonicalJsonBytes (.object (manifestTree m)) ≠ [] := by
    intro hnil
    have hempty : Utf8Text.encode "" = [] := rfl
    have htext := congrArg String.length (Utf8Text.encode_injective (hnil.trans hempty.symm))
    rw [String.length_append] at htext
    exact absurd htext (Nat.succ_ne_zero _)
  unfold parseArmingJson
  rw [raiseIf_neg (not_or.mpr ⟨hne, hsize⟩), ok_bind]
  unfold canonicalJsonBytes
  rw [Utf8Text.decode_encode]
  simp only [loads_dumps_line (distinct_manifestTree m), sortKeys_object]

end Wire

section Entries

theorem lane_ofJson (lane : QualityPilotArmingScheduleLane) :
    QualityPilotArmingScheduleLane.ofJson (.string lane.value) = some lane := by
  cases lane <;> decide

theorem kind_ofJson (kind : QualityPilotArmingSecretKind) :
    QualityPilotArmingSecretKind.ofJson (.string kind.value) = some kind := by
  cases kind <;> decide

theorem textField_of_ne {message value : String} (h : value ≠ "") :
    textField message (.string value) = .ok value := by
  rw [textField, if_neg h]

/-- A schedule is read back from its written entry. -/
theorem decodeSchedule_tree (s : QualityPilotArmingSchedule) :
    decodeSchedule (sortKeys (.object (scheduleTree s.1))) = .ok s := by
  have hnames : (scheduleTree s.1).map (·.1) = ["lane", "cron_expression"] := rfl
  have hnodup : ((scheduleTree s.1).map (·.1)).Nodup := by
    rw [hnames]
    decide
  have hcron : s.1.cronExpression ≠ "" := by
    intro hempty
    have hs := s.2
    unfold validateSchedule at hs
    rw [hempty] at hs
    cases hs
  have hlane : item (scheduleTree s.1) "lane" = .string s.1.lane.value := by
    simp [item, scheduleTree]
  have hexpression : item (scheduleTree s.1) "cron_expression" = .string s.1.cronExpression := by
    simp [item, scheduleTree, List.lookup_cons]
  unfold decodeSchedule
  rw [exactDict_sortKeys hnames, ok_bind]
  simp only [item_sortedEntries hnodup, hlane, hexpression, sortKeys_string, lane_ofJson,
    textField_of_ne hcron, ok_bind]
  exact Checked.build_of_ok s.2

/-- A secret reference is read back from its written entry. -/
theorem decodeSecretReference_tree (r : QualityPilotArmingSecretReference) :
    decodeSecretReference (sortKeys (.object (secretReferenceTree r.1))) = .ok r := by
  have hnames : (secretReferenceTree r.1).map (·.1) = ["kind", "secret_id", "version"] := rfl
  have hnodup : ((secretReferenceTree r.1).map (·.1)).Nodup := by
    rw [hnames]
    decide
  obtain ⟨hsecret, hversion⟩ : isSecretId r.1.secretId = true ∧ isSecretVersion r.1.version = true := by
    have hr := r.2
    unfold validateSecretReference at hr
    simpa only [raiseIf_bind_eq_ok, raiseIf_eq_ok, not_not] using hr
  have hsecret_ne : r.1.secretId ≠ "" := by
    intro hempty
    rw [hempty] at hsecret
    cases hsecret
  have hversion_ne : r.1.version ≠ "" := by
    intro hempty
    rw [hempty] at hversion
    cases hversion
  have hkind : item (secretReferenceTree r.1) "kind" = .string r.1.kind.value := by
    simp [item, secretReferenceTree]
  have hid : item (secretReferenceTree r.1) "secret_id" = .string r.1.secretId := by
    simp [item, secretReferenceTree, List.lookup_cons]
  have hnumber : item (secretReferenceTree r.1) "version" = .string r.1.version := by
    simp [item, secretReferenceTree, List.lookup_cons]
  unfold decodeSecretReference
  rw [exactDict_sortKeys hnames, ok_bind]
  simp only [item_sortedEntries hnodup, hkind, hid, hnumber, sortKeys_string, kind_ofJson,
    textField_of_ne hsecret_ne, textField_of_ne hversion_ne, ok_bind]
  exact Checked.build_of_ok r.2

end Entries

section Reading

variable {ctx : IdentityContext} {m : ManifestFields ctx}

/-- The manifest with its schedules and secret references in the order of the wire. -/
def inWireOrder (m : ManifestFields ctx) : ManifestFields ctx :=
  { m with schedules := schedulesByLane m, secretReferences := secretReferencesByKind m }

theorem validate_inWireOrder (m : ManifestFields ctx) :
    validateManifest (inWireOrder m) = validateManifest m := by
  have hschedules : (inWireOrder m).schedules.Perm m.schedules := perm_sortOn _ _
  have hreferences : (inWireOrder m).secretReferences.Perm m.secretReferences := perm_sortOn _ _
  unfold validateManifest
  simp only [hschedules.length_eq, hreferences.length_eq, (hschedules.map _).mem_iff,
    (hreferences.map _).mem_iff, (hschedules.map _).nodup_iff, (hreferences.map _).nodup_iff,
    hschedules.mem_iff]
  rfl

theorem agrees_inWireOrder (m : ManifestFields ctx) :
    AgreesElsewhere (inWireOrder m) m ∧ SameSecretReferences (inWireOrder m) m := by
  have hschedules : (inWireOrder m).schedules.Perm m.schedules := perm_sortOn _ _
  have hreferences : (inWireOrder m).secretReferences.Perm m.secretReferences := perm_sortOn _ _
  exact ⟨⟨rfl, rfl, rfl, rfl, rfl, rfl, rfl, rfl, rfl, rfl, rfl, rfl, fun _ => hschedules.mem_iff, rfl⟩,
    fun _ => hreferences.mem_iff⟩

/-- Every text of a valid manifest has characters, and its timeout is at least a minute. -/
theorem texts_of_validateManifest (h : validateManifest m = .ok ()) :
    m.imageReference ≠ "" ∧ m.codeSha256 ≠ "" ∧ m.environmentSha256 ≠ "" ∧ m.gcpProjectId ≠ "" ∧
      m.gcpRegion ≠ "" ∧ m.gcpJobName ≠ "" ∧ m.runtimeServiceAccountEmail ≠ "" ∧
      m.schedulerServiceAccountEmail ≠ "" ∧ 60 ≤ m.timeoutSeconds := by
  unfold validateManifest at h
  simp only [raiseIf_bind_eq_ok, raiseIf_eq_ok, not_not] at h
  obtain ⟨himage, hdigests, hproject, hregion, hjob, hruntime, hscheduler, htimeout, -⟩ := h
  refine ⟨?_, ?_, ?_, ?_, ?_, ?_, ?_, ?_, htimeout.1⟩
  · intro hempty
    rw [hempty] at himage
    exact absurd himage (by decide)
  · intro hempty
    rw [hempty] at hdigests
    exact absurd hdigests.1 (by decide)
  · intro hempty
    rw [hempty] at hdigests
    exact absurd hdigests.2 (by decide)
  · intro hempty
    rw [hempty] at hproject
    exact absurd hproject (by decide)
  · intro hempty
    rw [hempty] at hregion
    exact absurd hregion (by decide)
  · intro hempty
    rw [hempty] at hjob
    exact absurd hjob (by decide)
  · intro hempty
    rw [hempty] at hruntime
    exact absurd hruntime (by decide)
  · intro hempty
    rw [hempty] at hscheduler
    exact absurd hscheduler (by decide)

theorem item_manifestTree (m : ManifestFields ctx) (key : String) :
    item (sortedEntries (manifestTree m)) key = sortKeys (item (manifestTree m) key) := by
  refine item_sortedEntries ?_ key
  show manifestKeys.Nodup
  decide

/-- The record that a manifest was written as is read back as the manifest in wire order. -/
theorem manifestOfRecord_tree (h : validateManifest m = .ok ()) :
    manifestOfRecord ctx m.runbook (sortedEntries (manifestTree m)) =
      .ok ⟨inWireOrder m, (validate_inWireOrder m).trans h⟩ := by
  obtain ⟨himage, hcode, henvironment, hproject, hregion, hjob, hruntime, hscheduler, htimeout⟩ :=
    texts_of_validateManifest h
  have hschedules : (((schedulesByLane m).map fun s => .object (scheduleTree s.1)).map sortKeys).mapM
      decodeSchedule = .ok (schedulesByLane m) := mapM_written fun s _ => decodeSchedule_tree s
  have hreferences : (((secretReferencesByKind m).map fun r => .object (secretReferenceTree r.1)).map
      sortKeys).mapM decodeSecretReference = .ok (secretReferencesByKind m) :=
    mapM_written fun r _ => decodeSecretReference_tree r
  have htimeoutField : integerField 60 "arming manifest timeout is invalid" (.number m.timeoutSeconds) =
      .ok m.timeoutSeconds := by
    rw [integerField, if_neg (not_lt.mpr htimeout)]
  unfold manifestOfRecord
  simp only [item_manifestTree]
  simp only [item, manifestTree, List.lookup_cons, String.reduceBEq, Option.getD_some, sortKeys_string,
    sortKeys_number, sortKeys_bool, isText, equalsInteger, isFalse, decide_true, Bool.not_false, and_self,
    not_true_eq_false, raiseIf_false, ok_bind, exactList_sortKeys, hschedules, hreferences,
    textField_of_ne himage, textField_of_ne hcode, textField_of_ne henvironment, textField_of_ne hproject,
    textField_of_ne hregion, textField_of_ne hjob, textField_of_ne hruntime, textField_of_ne hscheduler,
    htimeoutField]
  exact Checked.build_of_ok ((validate_inWireOrder m).trans h)

/-- Decoding undoes encoding up to the order of the schedules and the secret references. -/
theorem decode_encode_manifest (hdigest : Function.Injective ctx.hexdigest)
    (m : QualityPilotArmingManifest ctx) {bytes : List UInt8}
    (h : encodeQualityPilotArmingManifest m.1 = .ok bytes) :
    decodeQualityPilotArmingManifest ctx bytes m.1.runbook =
      .ok ⟨inWireOrder m.1, (validate_inWireOrder m.1).trans m.2⟩ := by
  have hvalid := (validate_inWireOrder m.1).trans m.2
  obtain ⟨hagrees, hreferences⟩ := agrees_inWireOrder m.1
  have htree := manifestTree_eq hdigest hvalid m.2 hagrees hreferences
  have hid := (manifestId_eq_iff hdigest hvalid m.2).mpr hagrees
  have hencode : encodeQualityPilotArmingManifest (inWireOrder m.1) = .ok bytes := by
    unfold encodeQualityPilotArmingManifest at h ⊢
    rw [htree]
    exact h
  have hkeys : (manifestTree m.1).map (·.1) = manifestKeys := rfl
  have hentry : item (sortedEntries (manifestTree m.1)) "manifest_id" = .string (manifestId m.1) := by
    rw [item_manifestTree]
    simp [item, manifestTree, List.lookup_cons]
  unfold decodeQualityPilotArmingManifest
  rw [parseArmingJson_encoded h, ok_bind, ← sortKeys_object, exactDict_sortKeys hkeys, ok_bind,
    manifestOfRecord_tree m.2, ok_bind, hentry, hid, raiseIf_neg (by simp [isText]), ok_bind]
  simp only [hencode, ok_bind, ne_eq, not_true_eq_false, raiseIf_false]
  rfl

end Reading

end IndiaSwing
