import IndiaSwing.Lib.Checked
import IndiaSwing.Lib.Slices
import IndiaSwing.WalkForwardPlans

namespace IndiaSwing.Baselines

open ExceptGuards Slices TextPatterns

section Builder

/-- The lengths a walk-forward plan is built with. -/
structure FoldLengthFields where
  initialTrainingSessions : ℕ
  validationSessions : ℕ
  testSessions : ℕ
  stepSessions : ℕ
  deriving DecidableEq, Repr

namespace FoldLengthFields

variable (l : FoldLengthFields)

/-- The checks before the loop. -/
def check : Except String Unit := do
  raiseIf (l.initialTrainingSessions = 0) "initial_training_sessions must be a positive integer"
  raiseIf (l.validationSessions = 0) "validation_sessions must be a positive integer"
  raiseIf (l.testSessions = 0) "test_sessions must be a positive integer"
  raiseIf (l.stepSessions = 0) "step_sessions must be a positive integer"
  raiseIf (l.stepSessions < l.testSessions)
    "step_sessions must cover the test window so holdout sessions do not repeat"

variable (embargoSessions offset : ℕ)

def trainingEnd : ℕ := l.initialTrainingSessions + offset

def validationStart : ℕ := l.trainingEnd offset + embargoSessions

def validationEnd : ℕ := l.validationStart embargoSessions offset + l.validationSessions

def testStart : ℕ := l.validationEnd embargoSessions offset + embargoSessions

def testEnd : ℕ := l.testStart embargoSessions offset + l.testSessions

/-- The fold the loop makes at an offset. -/
def fold (orderedSessions : List SessionDate) : WalkForwardFoldFields where
  trainingSessions := slice orderedSessions 0 (l.trainingEnd offset)
  validationSessions :=
    slice orderedSessions (l.validationStart embargoSessions offset) (l.validationEnd embargoSessions offset)
  testSessions := slice orderedSessions (l.testStart embargoSessions offset) (l.testEnd embargoSessions offset)

end FoldLengthFields

abbrev FoldLengths := { l : FoldLengthFields // l.check = .ok () }

/-- What the checks ensure of the lengths. -/
structure LengthFacts (l : FoldLengthFields) : Prop where
  training : 0 < l.initialTrainingSessions
  validation : 0 < l.validationSessions
  test : 0 < l.testSessions
  step : l.testSessions ≤ l.stepSessions

theorem check_eq_ok {l : FoldLengthFields} : l.check = .ok () ↔ LengthFacts l := by
  constructor
  · intro h
    obtain ⟨htraining, h⟩ := raiseIf_bind_eq_ok.mp h
    obtain ⟨hvalidation, h⟩ := raiseIf_bind_eq_ok.mp h
    obtain ⟨htest, h⟩ := raiseIf_bind_eq_ok.mp h
    obtain ⟨-, h⟩ := raiseIf_bind_eq_ok.mp h
    exact ⟨Nat.pos_of_ne_zero htraining, Nat.pos_of_ne_zero hvalidation, Nat.pos_of_ne_zero htest,
      not_lt.mp (raiseIf_eq_ok.mp h)⟩
  · intro h
    have hstep := lt_of_lt_of_le h.test h.step
    exact raiseIf_bind_eq_ok.mpr ⟨h.training.ne', raiseIf_bind_eq_ok.mpr ⟨h.validation.ne',
      raiseIf_bind_eq_ok.mpr ⟨h.test.ne', raiseIf_bind_eq_ok.mpr ⟨hstep.ne', raiseIf_eq_ok.mpr (not_lt.mpr h.step)⟩⟩⟩⟩

variable (lengths : FoldLengths) (orderedSessions : List SessionDate) (embargoSessions : ℕ)

/-- The loop over the offsets. -/
def buildFolds (offset : ℕ) : Except String (List WalkForwardFold) :=
  if orderedSessions.length < lengths.1.testEnd embargoSessions offset then .ok []
  else do
    let fold ← Checked.build WalkForwardFoldFields.check (lengths.1.fold embargoSessions offset orderedSessions)
    let folds ← buildFolds (offset + lengths.1.stepSessions)
    .ok (fold :: folds)
termination_by orderedSessions.length + 1 - offset
decreasing_by
  have facts := check_eq_ok.mp lengths.2
  have htest := facts.test
  have hstep := facts.step
  simp only [FoldLengthFields.testEnd, FoldLengthFields.testStart, FoldLengthFields.validationEnd,
    FoldLengthFields.validationStart, FoldLengthFields.trainingEnd] at *
  omega

/-- `build_expanding_purged_walk_forward_plan` -/
def buildExpandingPurgedWalkForwardPlan (calendarVersion : String) (orderedSessions : List SessionDate)
    (initialTrainingSessions validationSessions testSessions stepSessions labelHorizonSessions
      embargoSessions : ℕ) : Except String PurgedWalkForwardPlan := do
  let lengths ← Checked.build FoldLengthFields.check
    ⟨initialTrainingSessions, validationSessions, testSessions, stepSessions⟩
  let folds ← buildFolds lengths orderedSessions embargoSessions 0
  raiseIf (folds = []) "calendar coverage is insufficient for one fully purged fold"
  Checked.build PurgedWalkForwardPlanFields.check
    ⟨calendarVersion, orderedSessions, labelHorizonSessions, embargoSessions, folds⟩

end Builder

section Slices

variable {p : PurgedWalkForwardPlanFields} {values : List SessionDate} {first last first' last' : ℕ}

theorem checkSessions_slice (name : String) (hsorted : values.Pairwise (· < ·)) (hlt : first < last)
    (h : last ≤ values.length) : checkSessions (slice values first last) name = .ok () := by
  refine raiseIf_neg ?_
  rintro (hnil | hunsorted)
  · exact slice_ne_nil hlt h hnil
  · exact hunsorted (hsorted.sublist slice_sublist)

/-- The last entry of one slice and the first one of a later slice. -/
theorem last_lt_head (hsorted : values.Pairwise (· < ·)) (hlt : first < last) (hle : last ≤ first')
    (hlt' : first' < last') (h' : last' ≤ values.length) :
    ∃ t ∈ (slice values first last).getLast?, ∃ v ∈ (slice values first' last').head?, t < v := by
  have h : last ≤ values.length := by omega
  obtain ⟨t, ht⟩ := Option.isSome_iff_exists.mp (List.getLast?_isSome.mpr (slice_ne_nil hlt h))
  obtain ⟨v, hv⟩ := Option.isSome_iff_exists.mp (List.isSome_head?.mpr (slice_ne_nil hlt' h'))
  exact ⟨t, ht, v, hv, rel_of_slices hsorted hle h h' (List.mem_of_getLast? ht) (List.mem_of_head? hv)⟩

theorem not_shared (hsorted : values.Pairwise (· < ·)) (hle : last ≤ first') (h : last ≤ values.length)
    (h' : last' ≤ values.length) : ¬∃ s ∈ slice values first last, s ∈ slice values first' last' := by
  rintro ⟨s, hs, hs'⟩
  exact lt_irrefl s (rel_of_slices hsorted hle h h' hs hs')

theorem contiguous_slice (hnodup : p.orderedSessions.Nodup) (hlt : first < last)
    (h : last ≤ p.orderedSessions.length) : p.contiguous (slice p.orderedSessions first last) = true := by
  have hpositions : p.positions (slice p.orderedSessions first last) = List.range' first (last - first) :=
    map_idxOf_slice hnodup h
  have hhead : (List.range' first (last - first)).head? = some first := by
    rw [List.head?_range', if_neg (by omega)]
  have hlast : (List.range' first (last - first)).getLast? = some (last - 1) := by
    rw [List.getLast?_range', if_neg (by omega)]
    exact congrArg some (by omega)
  unfold PurgedWalkForwardPlanFields.contiguous
  rw [hpositions, hhead, hlast]
  exact decide_eq_true (congrArg (List.range' first) (by omega))

/-- The gap between two slices is the distance of their ends. -/
theorem gap_slices (hnodup : p.orderedSessions.Nodup) (hlt : first < last) (hle : last ≤ first')
    (hlt' : first' < last') (h' : last' ≤ p.orderedSessions.length) :
    p.gap (slice p.orderedSessions first last) (slice p.orderedSessions first' last') = first' - last := by
  have hindex : ∀ i < p.orderedSessions.length, p.orderedSessions.idxOf (p.orderedSessions[i]?.getD 0) = i := by
    intro i hi
    rw [List.getElem?_eq_getElem hi]
    exact hnodup.idxOf_getElem i hi
  unfold PurgedWalkForwardPlanFields.gap
  rw [List.headD_eq_head?_getD, List.getLastD_eq_getLast?, head?_slice hlt', getLast?_slice hlt (by omega),
    hindex first' (by omega), hindex (last - 1) (by omega)]
  omega

end Slices

section Loop

variable {l : FoldLengthFields} {orderedSessions : List SessionDate} {embargoSessions offset offset' : ℕ}

/-- The order of the ends of a fold's slices. -/
structure EndFacts (l : FoldLengthFields) (embargoSessions offset : ℕ) : Prop where
  training : 0 < l.trainingEnd offset
  beforeValidation : l.trainingEnd offset + embargoSessions = l.validationStart embargoSessions offset
  validation : l.validationStart embargoSessions offset < l.validationEnd embargoSessions offset
  beforeTest : l.validationEnd embargoSessions offset + embargoSessions = l.testStart embargoSessions offset
  test : l.testStart embargoSessions offset < l.testEnd embargoSessions offset

variable (embargoSessions offset) in
theorem endFacts (facts : LengthFacts l) : EndFacts l embargoSessions offset :=
  ⟨Nat.add_pos_left facts.training _, rfl, Nat.lt_add_of_pos_right facts.validation, rfl,
    Nat.lt_add_of_pos_right facts.test⟩

theorem testStart_shift :
    l.testStart embargoSessions (offset + offset') = l.testStart embargoSessions offset + offset' := by
  simp only [FoldLengthFields.testStart, FoldLengthFields.validationEnd, FoldLengthFields.validationStart,
    FoldLengthFields.trainingEnd]
  omega

theorem testEnd_shift : l.testEnd embargoSessions (offset + offset') = l.testEnd embargoSessions offset + offset' := by
  unfold FoldLengthFields.testEnd
  rw [testStart_shift]
  omega

/-- A fold whose test ends inside the calendar is well formed. -/
theorem fold_check (facts : LengthFacts l) (hsorted : orderedSessions.Pairwise (· < ·))
    (h : l.testEnd embargoSessions offset ≤ orderedSessions.length) :
    (l.fold embargoSessions offset orderedSessions).check = .ok () := by
  obtain ⟨htraining, hgap, hvalidation, hgap', htest⟩ := endFacts embargoSessions offset facts
  have hfirst := checkSessions_slice "training_sessions" hsorted htraining (by omega)
  have hsecond := checkSessions_slice "validation_sessions" hsorted hvalidation (by omega)
  have hthird := checkSessions_slice "test_sessions" hsorted htest h
  refine bind_eq_ok.mpr ⟨(), hfirst, bind_eq_ok.mpr ⟨(), hsecond, bind_eq_ok.mpr ⟨(), hthird, ?_⟩⟩⟩
  refine raiseIf_bind_eq_ok.mpr ⟨not_not.mpr ⟨?_, ?_⟩, raiseIf_neg ?_⟩
  · exact last_lt_head hsorted htraining (by omega) hvalidation (by omega)
  · exact last_lt_head hsorted hvalidation (by omega) htest h
  · rintro (hshared | hshared | hshared)
    · exact not_shared hsorted (by omega) (by omega) (by omega) hshared
    · exact not_shared hsorted (by omega) (by omega) h hshared
    · exact not_shared hsorted (by omega) (by omega) h hshared

/-- The folds the loop makes from an offset on. -/
inductive Expanding (l : FoldLengthFields) (orderedSessions : List SessionDate) (embargoSessions : ℕ) :
    ℕ → List WalkForwardFold → Prop
  | nil {offset : ℕ} : orderedSessions.length < l.testEnd embargoSessions offset →
      Expanding l orderedSessions embargoSessions offset []
  | cons {offset : ℕ} {fold : WalkForwardFold} {folds : List WalkForwardFold} :
      l.testEnd embargoSessions offset ≤ orderedSessions.length →
      fold.1 = l.fold embargoSessions offset orderedSessions →
      Expanding l orderedSessions embargoSessions (offset + l.stepSessions) folds →
      Expanding l orderedSessions embargoSessions offset (fold :: folds)

variable (embargoSessions) in
/-- The loop ends and makes the folds. -/
theorem buildFolds_spec (lengths : FoldLengths) (hsorted : orderedSessions.Pairwise (· < ·)) (offset : ℕ) :
    ∃ folds, buildFolds lengths orderedSessions embargoSessions offset = .ok folds ∧
      Expanding lengths.1 orderedSessions embargoSessions offset folds := by
  induction offset using buildFolds.induct lengths orderedSessions embargoSessions with
  | case1 offset hshort =>
    refine ⟨[], ?_, .nil hshort⟩
    rw [buildFolds, if_pos hshort]
  | case2 offset hfits ih =>
    obtain ⟨folds, hfolds, hexpanding⟩ := ih
    have hcheck := fold_check (check_eq_ok.mp lengths.2) hsorted (not_lt.mp hfits)
    refine ⟨⟨_, hcheck⟩ :: folds, ?_, .cons (not_lt.mp hfits) rfl hexpanding⟩
    rw [buildFolds, if_neg hfits, Checked.build_of_ok hcheck, ok_bind, hfolds]
    rfl

variable {folds : List WalkForwardFold}

theorem Expanding.eq_nil (h : Expanding l orderedSessions embargoSessions offset folds) :
    folds = [] ↔ orderedSessions.length < l.testEnd embargoSessions offset := by
  cases h with
  | nil hshort => exact ⟨fun _ => hshort, fun _ => rfl⟩
  | cons hfits heq hrest => exact ⟨fun hnil => absurd hnil (List.cons_ne_nil _ _), fun hshort => by omega⟩

theorem Expanding.length_eq (facts : LengthFacts l) (h : Expanding l orderedSessions embargoSessions offset folds)
    (hfits : l.testEnd embargoSessions offset ≤ orderedSessions.length) :
    folds.length = (orderedSessions.length - l.testEnd embargoSessions offset) / l.stepSessions + 1 := by
  have hstep : 0 < l.stepSessions := lt_of_lt_of_le facts.test facts.step
  induction h with
  | nil hshort => omega
  | @cons offset fold folds hfits' heq hrest ih =>
    rw [List.length_cons]
    by_cases hnext : l.testEnd embargoSessions (offset + l.stepSessions) ≤ orderedSessions.length
    · rw [ih hnext]
      rw [testEnd_shift] at hnext ⊢
      have hdiv := Nat.add_div_right (orderedSessions.length - (l.testEnd embargoSessions offset + l.stepSessions))
        hstep
      rw [show orderedSessions.length - (l.testEnd embargoSessions offset + l.stepSessions) + l.stepSessions =
        orderedSessions.length - l.testEnd embargoSessions offset by omega] at hdiv
      omega
    · rw [hrest.eq_nil.mpr (not_le.mp hnext), Nat.div_eq_of_lt]
      · rfl
      · rw [testEnd_shift] at hnext
        omega

/-- Every fold is the one of an offset not before the first. -/
theorem Expanding.mem (h : Expanding l orderedSessions embargoSessions offset folds) {fold : WalkForwardFold}
    (hfold : fold ∈ folds) : ∃ o, offset ≤ o ∧ l.testEnd embargoSessions o ≤ orderedSessions.length ∧
      fold.1 = l.fold embargoSessions o orderedSessions := by
  induction h with
  | nil hshort => cases hfold
  | @cons offset first folds hfits heq hrest ih =>
    rcases List.mem_cons.mp hfold with rfl | hfold
    · exact ⟨offset, le_rfl, hfits, heq⟩
    · obtain ⟨o, ho, hend, hfoldEq⟩ := ih hfold
      exact ⟨o, by omega, hend, hfoldEq⟩

/-- The training sessions of the folds are nested. -/
theorem Expanding.nested (h : Expanding l orderedSessions embargoSessions offset folds) :
    folds.Pairwise fun f g => f.1.trainingSessions <+: g.1.trainingSessions := by
  induction h with
  | nil hshort => exact .nil
  | @cons offset first folds hfits heq hrest ih =>
    refine List.pairwise_cons.mpr ⟨fun g hg => ?_, ih⟩
    obtain ⟨o, ho, -, hgEq⟩ := hrest.mem hg
    rw [heq, hgEq]
    exact List.take_prefix_take_left (show l.initialTrainingSessions + offset ≤ l.initialTrainingSessions + o by omega)

end Loop

section Acceptance

variable {l : FoldLengthFields} {p : PurgedWalkForwardPlanFields} {offset o : ℕ} {folds : List WalkForwardFold}

/-- The test of a fold is before that of one a test length later. -/
theorem tests_before (hsorted : p.orderedSessions.Pairwise (· < ·)) (hle : o + l.testSessions ≤ offset)
    (hfits : l.testEnd p.embargoSessions offset ≤ p.orderedSessions.length) {s t : SessionDate}
    (hs : s ∈ (l.fold p.embargoSessions o p.orderedSessions).testSessions)
    (ht : t ∈ (l.fold p.embargoSessions offset p.orderedSessions).testSessions) : s < t := by
  obtain ⟨step, rfl⟩ := Nat.exists_eq_add_of_le (show o ≤ offset by omega)
  have hend : l.testEnd p.embargoSessions o ≤ l.testStart p.embargoSessions (o + step) := by
    rw [testStart_shift, FoldLengthFields.testEnd]
    omega
  have hstart : l.testStart p.embargoSessions (o + step) ≤ l.testEnd p.embargoSessions (o + step) :=
    Nat.le_add_right _ _
  exact rel_of_slices hsorted hend (by omega) hfits hs ht

theorem foldId_testSessions {f g : WalkForwardFoldFields} (h : f.foldId = g.foldId) :
    f.testSessions = g.testSessions := by
  have hfields := (ContentId.ofFields_inj.mp h).2
  injection hfields with _ hfields
  injection hfields with _ hfields
  injection hfields with htests _
  exact List.map_injective_iff.mpr (fun a b hab => ContentId.int.inj hab) (ContentId.list_injective htests)

/-- The plan's check of one fold accepts those of the loop. -/
theorem checkFold_fold (facts : LengthFacts l) (hsorted : p.orderedSessions.Pairwise (· < ·))
    (hfits : l.testEnd p.embargoSessions offset ≤ p.orderedSessions.length) :
    p.checkFold (l.fold p.embargoSessions offset p.orderedSessions) = .ok () := by
  have hnodup : p.orderedSessions.Nodup := hsorted.imp ne_of_lt
  obtain ⟨htraining, hgap, hvalidation, hgap', htest⟩ := endFacts p.embargoSessions offset facts
  have hinside : ¬∃ s ∈ (l.fold p.embargoSessions offset p.orderedSessions).trainingSessions ++
      (l.fold p.embargoSessions offset p.orderedSessions).validationSessions ++
      (l.fold p.embargoSessions offset p.orderedSessions).testSessions, s ∉ p.orderedSessions := by
    rintro ⟨s, hs, hout⟩
    rw [List.append_assoc, List.mem_append, List.mem_append] at hs
    rcases hs with hs | hs | hs <;> exact hout (slice_sublist.subset hs)
  have hfirst := contiguous_slice hnodup htraining (show _ ≤ p.orderedSessions.length by omega)
  have hsecond := contiguous_slice hnodup hvalidation (by omega)
  have hthird := contiguous_slice hnodup htest hfits
  have hlabels := gap_slices hnodup htraining (by omega) hvalidation (by omega)
  have hlabels' := gap_slices hnodup hvalidation (by omega) htest hfits
  refine raiseIf_bind_eq_ok.mpr ⟨hinside, raiseIf_bind_eq_ok.mpr ⟨Bool.eq_false_iff.not.mpr (not_not.mpr hfirst), ?_⟩⟩
  refine raiseIf_bind_eq_ok.mpr ⟨Bool.eq_false_iff.not.mpr (not_not.mpr hsecond), ?_⟩
  refine raiseIf_bind_eq_ok.mpr ⟨Bool.eq_false_iff.not.mpr (not_not.mpr hthird), ?_⟩
  refine raiseIf_bind_eq_ok.mpr ⟨not_lt.mpr ?_, raiseIf_neg (not_lt.mpr ?_)⟩
  · exact le_of_le_of_eq (by omega) hlabels.symm
  · exact le_of_le_of_eq (by omega) hlabels'.symm

/-- A fold of the loop at least one test length before an offset. -/
def Earlier (l : FoldLengthFields) (p : PurgedWalkForwardPlanFields) (offset : ℕ)
    (holds : WalkForwardFoldFields → Prop) : Prop :=
  ∃ o, o + l.testSessions ≤ offset ∧ l.testEnd p.embargoSessions o ≤ p.orderedSessions.length ∧
    holds (l.fold p.embargoSessions o p.orderedSessions)

theorem Earlier.later {holds : WalkForwardFoldFields → Prop} (h : Earlier l p offset holds) (step : ℕ) :
    Earlier l p (offset + step) holds := by
  obtain ⟨o, hle, hfits, hholds⟩ := h
  exact ⟨o, by omega, hfits, hholds⟩

/-- The plan's loop accepts the builder's folds, whatever earlier folds it has seen. -/
theorem Expanding.checkFolds_ok (facts : LengthFacts l) (hsorted : p.orderedSessions.Pairwise (· < ·))
    (h : Expanding l p.orderedSessions p.embargoSessions offset folds) {seenIds : List ContentId}
    {seenTests : List SessionDate} {previous : Option WalkForwardFold}
    (hids : ∀ id ∈ seenIds, Earlier l p offset fun f => id = f.foldId)
    (htests : ∀ s ∈ seenTests, Earlier l p offset fun f => s ∈ f.testSessions)
    (hprevious : ∀ before ∈ previous, Earlier l p offset fun f => before.1 = f) :
    p.checkFolds seenIds seenTests previous folds = .ok () := by
  induction h generalizing seenIds seenTests previous with
  | nil hshort => rfl
  | @cons offset fold folds hfits heq hrest ih =>
    have hnow : Earlier l p (offset + l.stepSessions) fun f => fold.1 = f :=
      ⟨offset, Nat.add_le_add_left facts.step _, hfits, heq⟩
    have hnonempty := List.exists_mem_of_ne_nil _ (testSessions_ok fold).1
    have hnew : fold.1.foldId ∉ seenIds := by
      intro hmem
      obtain ⟨o, hle, -, hid⟩ := hids _ hmem
      obtain ⟨s, hs⟩ := hnonempty
      have hs' := foldId_testSessions hid ▸ hs
      rw [heq] at hs
      exact lt_irrefl s (tests_before hsorted hle hfits hs' hs)
    have hfresh : ¬∃ s ∈ fold.1.testSessions, s ∈ seenTests := by
      rintro ⟨s, hs, hseen⟩
      obtain ⟨o, hle, -, hs'⟩ := htests s hseen
      rw [heq] at hs
      exact lt_irrefl s (tests_before hsorted hle hfits hs' hs)
    have hadvance : PurgedWalkForwardPlanFields.checkAdvance previous fold.1 = .ok () := by
      refine raiseIf_neg ?_
      rintro ⟨before, hbefore, hbad⟩
      obtain ⟨o, hle, -, hbeforeEq⟩ := hprevious before hbefore
      rw [hbeforeEq, heq] at hbad
      rcases hbad with ⟨s, hs, hout⟩ | ⟨last, hlast, first, hfirst, hback⟩
      · have hfront := List.take_prefix_take_left (l := p.orderedSessions)
          (show l.initialTrainingSessions + o ≤ l.initialTrainingSessions + offset by omega)
        exact hout (hfront.subset hs)
      · have hlt := tests_before hsorted hle hfits (List.mem_of_getLast? hlast) (List.mem_of_head? hfirst)
        exact absurd hback (not_le.mpr hlt)
    unfold PurgedWalkForwardPlanFields.checkFolds
    refine raiseIf_bind_eq_ok.mpr ⟨hnew, bind_eq_ok.mpr ⟨(), heq ▸ checkFold_fold facts hsorted hfits, ?_⟩⟩
    refine raiseIf_bind_eq_ok.mpr ⟨hfresh, bind_eq_ok.mpr ⟨(), hadvance, ih ?_ ?_ ?_⟩⟩
    · intro id hid
      rcases List.mem_cons.mp hid with rfl | hid
      · exact ⟨offset, Nat.add_le_add_left facts.step _, hfits, heq ▸ rfl⟩
      · exact (hids id hid).later _
    · intro s hs
      rcases List.mem_append.mp hs with hs | hs
      · exact ⟨offset, Nat.add_le_add_left facts.step _, hfits, heq ▸ hs⟩
      · exact (htests s hs).later _
    · intro before hbefore
      obtain rfl := Option.some.inj hbefore
      exact hnow

/-- No label of a session of a slice reaches a slice an embargo after it. -/
theorem label_before {values : List SessionDate} {first last first' last' label embargo : ℕ} (hnodup : values.Nodup)
    (hgap : last + embargo ≤ first') (hlabel : label ≤ embargo) (h : last ≤ values.length)
    (h' : last' ≤ values.length) {s t : SessionDate} (hs : s ∈ slice values first last)
    (ht : t ∈ slice values first' last') : values.idxOf s + label < values.idxOf t := by
  obtain ⟨i, -, hi, hget⟩ := (mem_slice h).mp hs
  obtain ⟨j, hj, -, hget'⟩ := (mem_slice h').mp ht
  rw [idxOf_of_getElem? hnodup hget, idxOf_of_getElem? hnodup hget']
  omega

end Acceptance

section Correctness

variable {calendarVersion : String} {orderedSessions : List SessionDate}
  {initialTrainingSessions validationSessions testSessions stepSessions labelHorizonSessions embargoSessions : ℕ}

/-- The builder raises exactly when not one fold fits. Otherwise it returns a plan of the given calendar with
one fold for every step that fits, whose tests advance, whose training sessions are nested, and where the
labels of no training session reach a validation or test session, nor those of a validation session a test
session. -/
theorem purged_split_correct (hversion : stripText calendarVersion.toList ≠ [])
    (hsorted : orderedSessions.Pairwise (· < ·)) (htraining : 0 < initialTrainingSessions)
    (hvalidation : 0 < validationSessions) (htest : 0 < testSessions) (hstep : testSessions ≤ stepSessions)
    (hhorizon : 10 ≤ labelHorizonSessions) (hembargo : labelHorizonSessions ≤ embargoSessions) :
    let size := initialTrainingSessions + validationSessions + testSessions + 2 * embargoSessions
    let result := buildExpandingPurgedWalkForwardPlan calendarVersion orderedSessions initialTrainingSessions
      validationSessions testSessions stepSessions labelHorizonSessions embargoSessions
    ((∃ e, result = .error e) ↔ orderedSessions.length < size) ∧
      ∀ plan, result = .ok plan →
        plan.1.orderedSessions = orderedSessions ∧
        plan.1.folds.length = (orderedSessions.length - size) / stepSessions + 1 ∧
        plan.1.folds.Pairwise Before ∧
        (plan.1.folds.Pairwise fun f g => f.1.trainingSessions <+: g.1.trainingSessions) ∧
        ∀ fold ∈ plan.1.folds,
          (∀ s ∈ fold.1.trainingSessions, ∀ t ∈ fold.1.validationSessions ++ fold.1.testSessions,
            orderedSessions.idxOf s + labelHorizonSessions < orderedSessions.idxOf t) ∧
          ∀ s ∈ fold.1.validationSessions, ∀ t ∈ fold.1.testSessions,
            orderedSessions.idxOf s + labelHorizonSessions < orderedSessions.idxOf t := by
  intro size result
  have facts : LengthFacts ⟨initialTrainingSessions, validationSessions, testSessions, stepSessions⟩ :=
    ⟨htraining, hvalidation, htest, hstep⟩
  have hlengths := check_eq_ok.mpr facts
  obtain ⟨folds, hfolds, hexpanding⟩ := buildFolds_spec embargoSessions ⟨_, hlengths⟩ hsorted 0
  replace hexpanding : Expanding ⟨initialTrainingSessions, validationSessions, testSessions, stepSessions⟩
    orderedSessions embargoSessions 0 folds := hexpanding
  have hsize : FoldLengthFields.testEnd ⟨initialTrainingSessions, validationSessions, testSessions, stepSessions⟩
      embargoSessions 0 = size := by
    simp only [FoldLengthFields.testEnd, FoldLengthFields.testStart, FoldLengthFields.validationEnd,
      FoldLengthFields.validationStart, FoldLengthFields.trainingEnd]
    omega
  have hloop : result = (raiseIf (folds = []) "calendar coverage is insufficient for one fully purged fold" >>=
      fun _ => Checked.build PurgedWalkForwardPlanFields.check
        ⟨calendarVersion, orderedSessions, labelHorizonSessions, embargoSessions, folds⟩) := by
    show buildExpandingPurgedWalkForwardPlan _ _ _ _ _ _ _ _ = _
    rw [buildExpandingPurgedWalkForwardPlan, Checked.build_of_ok hlengths, ok_bind, hfolds, ok_bind]
  by_cases hshort : orderedSessions.length < size
  · have herror : result = .error "calendar coverage is insufficient for one fully purged fold" := by
      rw [hloop, raiseIf_pos (hexpanding.eq_nil.mpr (hsize ▸ hshort)), error_bind]
    refine ⟨⟨fun _ => hshort, fun _ => ⟨_, herror⟩⟩, fun plan hplan => ?_⟩
    cases herror.symm.trans hplan
  · have hfits := hsize.le.trans (not_lt.mp hshort)
    have hne : folds ≠ [] := fun hnil => hshort (hsize ▸ hexpanding.eq_nil.mp hnil)
    have hcalendar : orderedSessions ≠ [] := by
      rintro rfl
      exact hshort (show 0 < initialTrainingSessions + validationSessions + testSessions + 2 * embargoSessions by omega)
    have hcheck : PurgedWalkForwardPlanFields.check
        ⟨calendarVersion, orderedSessions, labelHorizonSessions, embargoSessions, folds⟩ = .ok () := by
      refine raiseIf_bind_eq_ok.mpr ⟨hversion, bind_eq_ok.mpr ⟨(), raiseIf_neg ?_, ?_⟩⟩
      · exact not_or.mpr ⟨hcalendar, not_not.mpr hsorted⟩
      refine raiseIf_bind_eq_ok.mpr ⟨not_lt.mpr hhorizon, raiseIf_bind_eq_ok.mpr ⟨not_lt.mpr hembargo, ?_⟩⟩
      refine raiseIf_bind_eq_ok.mpr ⟨hne, hexpanding.checkFolds_ok facts hsorted ?_ ?_ ?_⟩
      · exact fun id hid => absurd hid List.not_mem_nil
      · exact fun s hs => absurd hs List.not_mem_nil
      · exact fun before hbefore => nomatch hbefore
    rw [raiseIf_neg hne, ok_bind, Checked.build_of_ok hcheck] at hloop
    have hnoerror : ¬∃ e, result = .error e := by
      rintro ⟨e, he⟩
      cases hloop.symm.trans he
    refine ⟨iff_of_false hnoerror hshort, fun plan hplan => ?_⟩
    obtain rfl := Except.ok.inj (hloop.symm.trans hplan)
    refine ⟨rfl, hsize ▸ hexpanding.length_eq facts hfits, (planFacts ⟨_, hcheck⟩).advancing, hexpanding.nested, ?_⟩
    intro fold hfold
    obtain ⟨o, -, hend, heq⟩ := hexpanding.mem hfold
    have hnodup : orderedSessions.Nodup := hsorted.imp ne_of_lt
    obtain ⟨-, hgap, hvalid, hgap', htests⟩ := endFacts embargoSessions o facts
    rw [heq]
    refine ⟨fun s hs t ht => ?_, fun s hs t ht => ?_⟩
    · rcases List.mem_append.mp ht with ht | ht
      · exact label_before hnodup hgap.le hembargo (by omega) (by omega) hs ht
      · exact label_before hnodup (by omega) hembargo (by omega) hend hs ht
    · exact label_before hnodup hgap'.le hembargo (by omega) hend hs ht

/-- Forty days and lengths of one. -/
theorem purged_split_correct_forty :
    ((∃ e, buildExpandingPurgedWalkForwardPlan "NSE-2024" ((List.range 40).map Int.ofNat) 5 3 2 4 10 12 = .error e) ↔
        ((List.range 40).map Int.ofNat).length < 34) ∧
      ∀ plan, buildExpandingPurgedWalkForwardPlan "NSE-2024" ((List.range 40).map Int.ofNat) 5 3 2 4 10 12 =
        .ok plan → plan.1.folds.length = 2 := by
  have hversion : stripText "NSE-2024".toList ≠ [] := by decide +kernel
  have hsorted : ((List.range 40).map Int.ofNat).Pairwise (· < ·) := by decide +kernel
  have h := purged_split_correct hversion hsorted (show 0 < 5 by decide) (show 0 < 3 by decide)
    (show 0 < 2 by decide) (show 2 ≤ 4 by decide) (show 10 ≤ 10 by decide) (show 10 ≤ 12 by decide)
  exact ⟨h.1, fun plan hplan => (h.2 plan hplan).2.1⟩

end Correctness

end IndiaSwing.Baselines
