import IndiaSwing.Lib.ExceptGuards
import IndiaSwing.ContentIds
import IndiaSwing.Timestamps
import IndiaSwing.PaperTrades

namespace IndiaSwing

open ExceptGuards

/-- The exception classes of the trial registry and the trial lifecycle. -/
inductive TrialErrorClass
  | trialNotRegistered
  | trialRegistryConflict
  | trialLifecycleError
  | trialLifecycleIntegrityError
  | trialLifecycleConflict
  deriving DecidableEq, Repr

structure TrialError where
  class_ : TrialErrorClass
  message : String
  deriving DecidableEq, Repr

def TrialError.registryConflict (message : String) : TrialError := ⟨.trialRegistryConflict, message⟩

def TrialError.lifecycle (message : String) : TrialError := ⟨.trialLifecycleError, message⟩

def TrialError.integrity (message : String) : TrialError := ⟨.trialLifecycleIntegrityError, message⟩

def TrialError.conflict (message : String) : TrialError := ⟨.trialLifecycleConflict, message⟩

inductive TrialStage
  | exploratory
  | confirmatory
  deriving DecidableEq, Repr

def TrialStage.value : TrialStage → String
  | .exploratory => "EXPLORATORY"
  | .confirmatory => "CONFIRMATORY"

theorem TrialStage.value_injective : Function.Injective TrialStage.value := by
  intro a b h
  cases a <;> cases b <;> simp_all [TrialStage.value]

/-- A registration. `declaration` stands for the declared fields that neither store reads. A trial
has a sealed holdout exactly when it names one. -/
structure TrialRegistration where
  registeredAt : Instant
  stage : TrialStage
  strategyFamilyId : String
  parentTrialId : Option ContentId
  splitPlanId : Digest
  primaryMetric : String
  secondaryMetrics : List String
  executionPolicyHash : Digest
  costScheduleHash : Digest
  passThresholds : List (String × ℚ)
  holdoutId : Option Digest
  declaration : Digest
  confirmatory_sealed : stage = .confirmatory → holdoutId ≠ none
  deriving DecidableEq

namespace TrialRegistration

def holdoutSealed (registration : TrialRegistration) : Bool := registration.holdoutId.isSome

def trialId (registration : TrialRegistration) : ContentId :=
  .ofFields "research-trial-registration/v1"
    [.int registration.registeredAt,
      .text registration.stage.value, .text registration.strategyFamilyId, .option id registration.parentTrialId,
      .digest registration.splitPlanId, .text registration.primaryMetric,
      .list (registration.secondaryMetrics.map .text), .digest registration.executionPolicyHash,
      .digest registration.costScheduleHash,
      .list (registration.passThresholds.map fun threshold =>
        .pair (.text threshold.1) (.decimal threshold.2)),
      .option .digest registration.holdoutId, .digest registration.declaration]

theorem trialId_injective : Function.Injective trialId := by
  intro a b h
  have hthreshold : Function.Injective fun threshold : String × ℚ =>
      ContentId.pair (.text threshold.1) (.decimal threshold.2) := by
    rintro ⟨name, value⟩ ⟨name', value'⟩ heq
    simpa using heq
  have htext : Function.Injective ContentId.text := fun _ _ => ContentId.text.inj
  have hdigest : Function.Injective ContentId.digest := fun _ _ => ContentId.digest.inj
  simp only [trialId, ContentId.ofFields_inj, true_and, List.cons.injEq, ContentId.int.injEq,
    ContentId.text.injEq, ContentId.digest.injEq, ContentId.list_injective.eq_iff,
    (List.map_injective_iff.mpr hthreshold).eq_iff, (List.map_injective_iff.mpr htext).eq_iff,
    (ContentId.option_injective hdigest).eq_iff,
    (ContentId.option_injective Function.injective_id).eq_iff,
    TrialStage.value_injective.eq_iff] at h
  cases a
  cases b
  simpa using h

end TrialRegistration

/-- The create-once registrations, in the order in which they were made. -/
abbrev LocalTrialRegistry := List TrialRegistration

namespace LocalTrialRegistry

variable (registry : LocalTrialRegistry)

def get (trialId : ContentId) : Except TrialError TrialRegistration :=
  match registry.find? (·.trialId = trialId) with
  | some registration => .ok registration
  | none => .error ⟨.trialNotRegistered, "trial is not registered"⟩

def registrationsForFamily (strategyFamilyId : String) : List TrialRegistration :=
  registry.filter (·.strategyFamilyId = strategyFamilyId)

/-- A registration again leaves the registry as it is; a new one of a known family follows a parent
in the family. -/
def register (registration : TrialRegistration) :
    Except TrialError (TrialRegistration × LocalTrialRegistry) := do
  match registry.find? (·.trialId = registration.trialId) with
  | some existing =>
    raiseIf (existing ≠ registration)
      (.registryConflict "trial ID already stores different registration content")
    return (existing, registry)
  | none =>
    let family := registry.registrationsForFamily registration.strategyFamilyId
    if family ≠ [] then
      match family.find? (fun value => some value.trialId = registration.parentTrialId) with
      | none =>
        throw (.registryConflict "a successor trial must reference a registered parent in its family")
      | some parent =>
        raiseIf (parent.registeredAt ≥ registration.registeredAt)
          (.registryConflict "successor registration must follow its registered parent")
    else
      raiseIf (registration.parentTrialId ≠ none)
        (.registryConflict "initial family trial cannot reference an unregistered parent")
    return (registration, registry ++ [registration])

end LocalTrialRegistry

/-- A trial above another one along `parent_trial_id`. -/
inductive Ancestor (registry : LocalTrialRegistry) : TrialRegistration → TrialRegistration → Prop
  | parent {ancestor trial : TrialRegistration} (mem : ancestor ∈ registry)
    (link : trial.parentTrialId = some ancestor.trialId) : Ancestor registry ancestor trial
  | above {ancestor parent trial : TrialRegistration} (mem : parent ∈ registry)
    (link : trial.parentTrialId = some parent.trialId) (rest : Ancestor registry ancestor parent) :
    Ancestor registry ancestor trial

/-- Every parent is itself registered. -/
def ParentsRegistered (registry : LocalTrialRegistry) : Prop :=
  ∀ trial ∈ registry, ∀ parentId, trial.parentTrialId = some parentId →
    ∃ parent ∈ registry, parent.trialId = parentId

section Lemmas

variable {registry later : LocalTrialRegistry} {registration trial ancestor : TrialRegistration}
variable {trialId : ContentId}

theorem registry_get_ok : registry.get trialId = .ok trial ↔ trial ∈ registry ∧ trial.trialId = trialId := by
  unfold LocalTrialRegistry.get
  cases hfind : registry.find? (·.trialId = trialId) with
  | none =>
    have hnone := List.find?_eq_none.mp hfind
    simp only [reduceCtorEq, false_iff, not_and]
    intro hmem hid
    exact hnone trial hmem (by simpa using hid)
  | some found =>
    have hmem := List.mem_of_find?_eq_some hfind
    have hid : found.trialId = trialId := by simpa using List.find?_some hfind
    constructor
    · intro h
      cases h
      exact ⟨hmem, hid⟩
    · rintro ⟨-, hid'⟩
      rw [TrialRegistration.trialId_injective (hid.trans hid'.symm)]

/-- A registration leaves the registry as it is or adds itself below a registered parent. -/
theorem register_cases {result : TrialRegistration}
    (h : registry.register registration = .ok (result, later)) :
    later = registry ∨ (later = registry ++ [registration] ∧ registration ∉ registry ∧
      ∀ parentId, registration.parentTrialId = some parentId →
        ∃ parent ∈ registry, parent.trialId = parentId) := by
  unfold LocalTrialRegistry.register at h
  cases hfind : registry.find? (·.trialId = registration.trialId) with
  | some existing =>
    rw [hfind] at h
    obtain ⟨-, h⟩ := raiseIf_bind_eq_ok.mp h
    cases h
    exact .inl rfl
  | none =>
    rw [hfind] at h
    have hnew : registration ∉ registry := by
      intro hmem
      exact List.find?_eq_none.mp hfind registration hmem (by simp)
    right
    dsimp only at h
    split at h
    · split at h
      · cases h
      · rename_i parent hparent
        obtain ⟨-, h⟩ := raiseIf_bind_eq_ok.mp h
        cases h
        refine ⟨rfl, hnew, fun parentId hid => ⟨parent, ?_, ?_⟩⟩
        · exact (List.mem_filter.mp (List.mem_of_find?_eq_some hparent)).1
        · have hlink : some parent.trialId = registration.parentTrialId := by
            simpa using List.find?_some hparent
          rw [hid] at hlink
          exact Option.some.inj hlink
    · obtain ⟨hroot, h⟩ := raiseIf_bind_eq_ok.mp h
      cases h
      refine ⟨rfl, hnew, fun parentId hid => ?_⟩
      rw [not_not.mp hroot] at hid
      cases hid

theorem Ancestor.mono (h : Ancestor registry ancestor trial) (hsub : registry ⊆ later) :
    Ancestor later ancestor trial := by
  induction h with
  | parent hmem hlink => exact .parent (hsub hmem) hlink
  | above hmem hlink _ ih => exact .above (hsub hmem) hlink ih

/-- What is registered later is above nothing that is registered already. -/
theorem Ancestor.restrict (h : Ancestor later ancestor trial) (hparents : ParentsRegistered registry)
    (htrial : trial ∈ registry) : Ancestor registry ancestor trial := by
  induction h with
  | @parent trial hmem hlink =>
    obtain ⟨parent, hregistered, hid⟩ := hparents trial htrial _ hlink
    rw [TrialRegistration.trialId_injective hid] at hregistered
    exact .parent hregistered hlink
  | @above parent trial _ hlink _ ih =>
    obtain ⟨registered, hregistered, hid⟩ := hparents trial htrial _ hlink
    rw [TrialRegistration.trialId_injective hid] at hregistered
    exact .above hregistered hlink (ih hregistered)

end Lemmas

end IndiaSwing
