import IndiaSwing.ContentIds
import IndiaSwing.Lib.ExceptGuards
import IndiaSwing.Lib.KeySort
import IndiaSwing.Lib.TextPatterns
import IndiaSwing.Timestamps
import Mathlib.Data.Prod.Lex

namespace IndiaSwing.Baselines

open ExceptGuards TextPatterns

section Folds

/-- `_session_tuple` -/
def checkSessions (values : List SessionDate) (name : String) : Except String Unit :=
  raiseIf (values = [] ∨ ¬values.Pairwise (· < ·)) (name ++ " must be sorted, unique trading sessions")

/-- The fields of a `WalkForwardFold`. -/
structure WalkForwardFoldFields where
  trainingSessions : List SessionDate
  validationSessions : List SessionDate
  testSessions : List SessionDate
  deriving DecidableEq, Repr

namespace WalkForwardFoldFields

variable (f : WalkForwardFoldFields)

/-- `WalkForwardFold.__post_init__` -/
def check : Except String Unit := do
  checkSessions f.trainingSessions "training_sessions"
  checkSessions f.validationSessions "validation_sessions"
  checkSessions f.testSessions "test_sessions"
  raiseIf (¬((∃ t ∈ f.trainingSessions.getLast?, ∃ v ∈ f.validationSessions.head?, t < v) ∧
      ∃ v ∈ f.validationSessions.getLast?, ∃ t ∈ f.testSessions.head?, v < t))
    "walk-forward partitions must be strictly chronological"
  raiseIf ((∃ s ∈ f.trainingSessions, s ∈ f.validationSessions) ∨ (∃ s ∈ f.trainingSessions, s ∈ f.testSessions) ∨
      ∃ s ∈ f.validationSessions, s ∈ f.testSessions) "walk-forward partitions cannot overlap"

/-- `fold_id` -/
def foldId : ContentId :=
  .ofFields "purged-walk-forward-plan/v1" [.list (f.trainingSessions.map .int), .list (f.validationSessions.map .int),
    .list (f.testSessions.map .int)]

end WalkForwardFoldFields

abbrev WalkForwardFold := { f : WalkForwardFoldFields // f.check = .ok () }

end Folds

section Plans

/-- The fields of a `PurgedWalkForwardPlan`. -/
structure PurgedWalkForwardPlanFields where
  calendarVersion : String
  orderedSessions : List SessionDate
  labelHorizonSessions : ℕ
  embargoSessions : ℕ
  folds : List WalkForwardFold
  deriving DecidableEq

namespace PurgedWalkForwardPlanFields

variable (p : PurgedWalkForwardPlanFields)

/-- The positions of some sessions in the calendar. -/
def positions (values : List SessionDate) : List ℕ := values.map p.orderedSessions.idxOf

/-- The sessions of a partition follow each other in the calendar. -/
def contiguous (values : List SessionDate) : Bool :=
  match (p.positions values).head?, (p.positions values).getLast? with
  | some first, some last => p.positions values = List.range' first (last + 1 - first)
  | _, _ => false

/-- The sessions between the ends of two partitions. -/
def gap (before after : List SessionDate) : ℤ :=
  (p.orderedSessions.idxOf (after.headD 0) : ℤ) - p.orderedSessions.idxOf (before.getLastD 0) - 1

/-- What the loop over the folds asks of one fold alone. -/
def checkFold (f : WalkForwardFoldFields) : Except String Unit := do
  raiseIf (∃ s ∈ f.trainingSessions ++ f.validationSessions ++ f.testSessions, s ∉ p.orderedSessions)
    "fold contains a session outside its calendar"
  raiseIf (p.contiguous f.trainingSessions = false) "training partition must be contiguous in trading-session time"
  raiseIf (p.contiguous f.validationSessions = false)
    "validation partition must be contiguous in trading-session time"
  raiseIf (p.contiguous f.testSessions = false) "test partition must be contiguous in trading-session time"
  raiseIf (p.gap f.trainingSessions f.validationSessions < p.embargoSessions)
    "training labels overlap validation or its required embargo"
  raiseIf (p.gap f.validationSessions f.testSessions < p.embargoSessions)
    "validation labels overlap test or its required embargo"

/-- A fold after the one before it. -/
def checkAdvance (previous : Option WalkForwardFold) (f : WalkForwardFoldFields) : Except String Unit :=
  raiseIf (∃ before ∈ previous, (∃ s ∈ before.1.trainingSessions, s ∉ f.trainingSessions) ∨
      ∃ last ∈ before.1.testSessions.getLast?, ∃ first ∈ f.testSessions.head?, first ≤ last)
    "folds must use expanding training data and advancing tests"

/-- The loop over the folds, with the ids and the test sessions seen and the fold before. -/
def checkFolds : List ContentId → List SessionDate → Option WalkForwardFold → List WalkForwardFold →
    Except String Unit
  | _, _, _, [] => .ok ()
  | seenIds, seenTests, previous, fold :: folds => do
    raiseIf (fold.1.foldId ∈ seenIds) "walk-forward folds must be unique"
    p.checkFold fold.1
    raiseIf (∃ s ∈ fold.1.testSessions, s ∈ seenTests) "test sessions cannot repeat across folds"
    checkAdvance previous fold.1
    checkFolds (fold.1.foldId :: seenIds) (fold.1.testSessions ++ seenTests) (some fold) folds

/-- `PurgedWalkForwardPlan.__post_init__` -/
def check : Except String Unit := do
  raiseIf (stripText p.calendarVersion.toList = []) "calendar_version is required"
  checkSessions p.orderedSessions "ordered_sessions"
  raiseIf (p.labelHorizonSessions < 10) "swing label horizon must be at least ten trading sessions"
  raiseIf (p.embargoSessions < p.labelHorizonSessions) "embargo must be at least the maximum forward-label horizon"
  raiseIf (p.folds = []) "folds must be a non-empty immutable exact tuple"
  p.checkFolds [] [] none p.folds

/-- `plan_id` -/
def planId : ContentId :=
  .ofFields "purged-walk-forward-plan/v1" [.text p.calendarVersion, .list (p.orderedSessions.map .int),
    .int p.labelHorizonSessions, .int p.embargoSessions, .list (p.folds.map (·.1.foldId))]

end PurgedWalkForwardPlanFields

abbrev PurgedWalkForwardPlan := { p : PurgedWalkForwardPlanFields // p.check = .ok () }

end Plans

section Facts

variable {p : PurgedWalkForwardPlanFields} {fold : WalkForwardFold}

theorem checkSessions_ok {values : List SessionDate} {name : String} (h : checkSessions values name = .ok ()) :
    values ≠ [] ∧ values.Pairwise (· < ·) := by
  obtain ⟨hne, hsorted⟩ := not_or.mp (raiseIf_eq_ok.mp h)
  exact ⟨hne, not_not.mp hsorted⟩

theorem testSessions_ok (fold : WalkForwardFold) :
    fold.1.testSessions ≠ [] ∧ fold.1.testSessions.Pairwise (· < ·) := by
  obtain ⟨_, -, h⟩ := bind_eq_ok.mp fold.2
  obtain ⟨_, -, h⟩ := bind_eq_ok.mp h
  obtain ⟨_, htest, -⟩ := bind_eq_ok.mp h
  exact checkSessions_ok htest

theorem checkFold_test (h : p.checkFold fold.1 = .ok ()) :
    (∀ s ∈ fold.1.testSessions, s ∈ p.orderedSessions) ∧ p.contiguous fold.1.testSessions = true := by
  obtain ⟨hcalendar, h⟩ := raiseIf_bind_eq_ok.mp h
  obtain ⟨-, h⟩ := raiseIf_bind_eq_ok.mp h
  obtain ⟨-, h⟩ := raiseIf_bind_eq_ok.mp h
  obtain ⟨htest, -⟩ := raiseIf_bind_eq_ok.mp h
  refine ⟨fun s hs => ?_, Bool.not_eq_false _ ▸ htest⟩
  by_contra hout
  exact hcalendar ⟨s, List.mem_append_right _ hs, hout⟩

/-- Every session of the first fold's test is before every session of the second one's. -/
def Before (f g : WalkForwardFold) : Prop := ∀ s ∈ f.1.testSessions, ∀ t ∈ g.1.testSessions, s < t

theorem sorted_bounds {values : List SessionDate} (h : values.Pairwise (· < ·)) {s : SessionDate} (hs : s ∈ values) :
    (∀ first ∈ values.head?, first ≤ s) ∧ ∀ last ∈ values.getLast?, s ≤ last := by
  constructor
  · intro first hfirst
    cases values with
    | nil => cases hs
    | cons v values =>
      obtain rfl := Option.some.inj hfirst
      rcases List.mem_cons.mp hs with rfl | hs
      · exact le_rfl
      · exact (List.rel_of_pairwise_cons h hs).le
  · intro last hlast
    obtain ⟨front, rfl⟩ := List.getLast?_eq_some_iff.mp hlast
    rcases List.mem_append.mp hs with hs | hs
    · exact ((List.pairwise_append.mp h).2.2 s hs last List.mem_cons_self).le
    · exact (List.mem_singleton.mp hs).le

theorem before_of_advance {f g : WalkForwardFold}
    (h : PurgedWalkForwardPlanFields.checkAdvance (some f) g.1 = .ok ()) : Before f g := by
  intro s hs t ht
  obtain ⟨hne, hsorted⟩ := testSessions_ok f
  obtain ⟨hne', hsorted'⟩ := testSessions_ok g
  obtain ⟨last, hlast⟩ := Option.isSome_iff_exists.mp (List.getLast?_isSome.mpr hne)
  obtain ⟨first, hfirst⟩ := Option.isSome_iff_exists.mp (List.isSome_head?.mpr hne')
  have hle := (sorted_bounds hsorted hs).2 last hlast
  have hge := (sorted_bounds hsorted' ht).1 first hfirst
  have hadvance : last < first := by
    by_contra hback
    exact raiseIf_eq_ok.mp h ⟨f, rfl, .inr ⟨last, hlast, first, hfirst, not_lt.mp hback⟩⟩
  exact lt_of_le_of_lt hle (lt_of_lt_of_le hadvance hge)

theorem Before.trans {f g k : WalkForwardFold} (h : Before f g) (h' : Before g k) : Before f k := by
  intro s hs t ht
  obtain ⟨u, hu⟩ := List.exists_mem_of_ne_nil _ (testSessions_ok g).1
  exact (h s hs u hu).trans (h' u hu t ht)

theorem checkFolds_facts {seenIds : List ContentId} {seenTests : List SessionDate} {previous : Option WalkForwardFold}
    {folds : List WalkForwardFold} (h : p.checkFolds seenIds seenTests previous folds = .ok ()) :
    (∀ fold ∈ folds, p.checkFold fold.1 = .ok () ∧ fold.1.foldId ∉ seenIds) ∧ (folds.map (·.1.foldId)).Nodup ∧
      (∀ f ∈ previous, ∀ g ∈ folds, Before f g) ∧ folds.Pairwise Before := by
  induction folds generalizing seenIds seenTests previous with
  | nil => exact ⟨fun f hf => absurd hf List.not_mem_nil, .nil, fun f _ g hg => absurd hg List.not_mem_nil, .nil⟩
  | cons fold folds ih =>
    unfold PurgedWalkForwardPlanFields.checkFolds at h
    obtain ⟨hseen, h⟩ := raiseIf_bind_eq_ok.mp h
    obtain ⟨_, hfold, h⟩ := bind_eq_ok.mp h
    obtain ⟨-, h⟩ := raiseIf_bind_eq_ok.mp h
    obtain ⟨_, hadvance, h⟩ := bind_eq_ok.mp h
    obtain ⟨hchecks, hnodup, hbefore, hpairwise⟩ := ih h
    have hnext : ∀ g ∈ folds, Before fold g := hbefore fold rfl
    refine ⟨List.forall_mem_cons.mpr ⟨⟨hfold, hseen⟩, fun g hg => ?_⟩, ?_, ?_, List.pairwise_cons.mpr ⟨hnext, hpairwise⟩⟩
    · exact ⟨(hchecks g hg).1, fun hmem => (hchecks g hg).2 (List.mem_cons_of_mem _ hmem)⟩
    · refine List.nodup_cons.mpr ⟨fun hmem => ?_, hnodup⟩
      obtain ⟨g, hg, heq⟩ := List.mem_map.mp hmem
      exact (hchecks g hg).2 (heq ▸ List.mem_cons_self)
    · intro f hf g hg
      obtain rfl := Option.mem_def.mp hf
      have hfirst := before_of_advance hadvance
      rcases List.mem_cons.mp hg with rfl | hg
      · exact hfirst
      · exact hfirst.trans (hnext g hg)

/-- What a plan ensures of its calendar and its folds. -/
structure PlanFacts (p : PurgedWalkForwardPlanFields) : Prop where
  calendar : p.orderedSessions.Pairwise (· < ·)
  ids : (p.folds.map (·.1.foldId)).Nodup
  advancing : p.folds.Pairwise Before
  tests : ∀ fold ∈ p.folds, (∀ s ∈ fold.1.testSessions, s ∈ p.orderedSessions) ∧
    p.contiguous fold.1.testSessions = true

theorem planFacts (plan : PurgedWalkForwardPlan) : PlanFacts plan.1 := by
  obtain ⟨-, h⟩ := raiseIf_bind_eq_ok.mp plan.2
  obtain ⟨_, hcalendar, h⟩ := bind_eq_ok.mp h
  obtain ⟨-, h⟩ := raiseIf_bind_eq_ok.mp h
  obtain ⟨-, h⟩ := raiseIf_bind_eq_ok.mp h
  obtain ⟨-, h⟩ := raiseIf_bind_eq_ok.mp h
  obtain ⟨hchecks, hnodup, -, hpairwise⟩ := checkFolds_facts h
  exact ⟨(checkSessions_ok hcalendar).2, hnodup, hpairwise, fun fold hfold => checkFold_test (hchecks fold hfold).1⟩

end Facts

end IndiaSwing.Baselines
