import Assay.Proofs.Requests
import Assay.Suite.Run
import Mathlib.Data.List.Nodup
import Mathlib.Data.List.Perm.Basic

/-!
# Results of tests

The tests of a file run in some order and partly side by side. Whatever the schedule and the host
are, there is one result for each selected test, in the order of the tests, and it is one of that
test (`meets_runTests`).
-/

namespace Assay.Suite

open Host Plan

/-- A numbered result is that of a numbered test if the numbers agree and the result satisfies what
is known of the test. -/
def Numbered (P : Test → TestResult → Prop) (t : Nat × Test) (r : Nat × TestResult) : Prop :=
  r.1 = t.1 ∧ P t.2 r.2

/-- The numbers of selected tests ascend. -/
theorem pairwise_select (filter : Option String) (tests : List Test) :
    (select filter tests).Pairwise fun a b => a.1 < b.1 := by
  refine List.Pairwise.filter _ (List.pairwise_map.2 ?_)
  have h : (tests.zipIdx.map Prod.snd).Pairwise (· < ·) := by
    rw [List.zipIdx_map_snd]
    exact List.pairwise_lt_range'
  exact List.pairwise_map.1 h

variable {P : Test → TestResult → Prop}

/-- Results of numbered tests have the numbers of the tests. -/
theorem map_fst_eq_of_numbered {tests : List (Nat × Test)} {results : List (Nat × TestResult)}
    (h : List.Forall₂ (Numbered P) tests results) :
    results.map Prod.fst = tests.map Prod.fst := by
  induction h with
  | nil => rfl
  | cons hr _ ih => rw [List.map_cons, List.map_cons, hr.1, ih]

/-- Sorting results by their numbers puts them in the order of the tests. -/
theorem forall₂_mergeSort {tests others : List (Nat × Test)} {results : List (Nat × TestResult)}
    (hsorted : tests.Pairwise fun a b => a.1 < b.1) (hperm : tests.Perm others)
    (h : List.Forall₂ (Numbered P) others results) :
    List.Forall₂ (Numbered P) tests (results.mergeSort fun a b => a.1 ≤ b.1) := by
  obtain ⟨ordered, hordered, hresults⟩ := List.perm_comp_forall₂ hperm h
  have hlt : (ordered.map Prod.fst).Pairwise (· < ·) := by
    rw [map_fst_eq_of_numbered hordered]
    exact List.pairwise_map.2 hsorted
  have hle : ordered.Pairwise fun a b => decide (a.1 ≤ b.1) = true :=
    (List.pairwise_map.1 hlt).imp fun hab => decide_eq_true (Nat.le_of_lt hab)
  have hnumber : ∀ a ∈ ordered, ∀ b ∈ ordered, a.1 = b.1 → a = b :=
    List.inj_on_of_nodup_map (hlt.imp Nat.ne_of_lt)
  -- the numbers tell the results apart, so there is only one way to sort them
  have heq : results.mergeSort (fun a b => a.1 ≤ b.1) = ordered := by
    have hmerge := (List.mergeSort_perm results fun a b => decide (a.1 ≤ b.1)).trans hresults.symm
    refine List.Perm.eq_of_pairwise (fun a b ha hb hab hba => ?_) ?_ hle hmerge
    · simp only [decide_eq_true_eq] at hab hba
      exact hnumber a (hmerge.subset ha) b hb (Nat.le_antisymm hab hba)
    · refine List.pairwise_mergeSort (fun a b c hab hbc => ?_) (fun a b => ?_) results
      · simp only [decide_eq_true_eq] at hab hbc ⊢
        exact Nat.le_trans hab hbc
      · simpa using Nat.le_total a.1 b.1
  exact heq ▸ hordered

/-- There is one result for each test, in the order of the tests, and it is one of that test. -/
theorem meets_runTests {R : (r : Request) → Reply r → Prop} {Q : Request → Prop} {c : Context}
    {fileTimeout : Option Nat} (schedule : List Nat) {tests : List (Nat × Test)}
    (hsorted : tests.Pairwise fun a b => a.1 < b.1)
    (h : ∀ t ∈ tests, (runTest c fileTimeout t.2).Meets R Q (P t.2)) :
    (runTests c fileTimeout schedule tests).Meets R Q fun results =>
      List.Forall₂ P (tests.map Prod.snd) results := by
  have hplans : ∀ ts ⊆ tests, List.Forall₂
      (fun (t : Nat × Test) (p : Plan (Nat × TestResult)) => p.Meets R Q (Numbered P t)) ts
      (ts.map fun t => do return (t.1, ← runTest c fileTimeout t.2)) := by
    intro ts hts
    rw [List.forall₂_map_right_iff, List.forall₂_same]
    intro t ht
    exact Meets.bind (h t (hts ht)) fun r hr => ⟨rfl, hr⟩
  simp only [runTests, List.partition_eq_filter_filter]
  refine Meets.bind (meets_inTurn (hplans _ (List.filter_subset_self _))) fun first hfirst => ?_
  refine Meets.bind (meets_sideBySide schedule (hplans _ (List.filter_subset_self _)))
    fun second hsecond => ?_
  have hperm := (List.filter_append_perm (fun t : Nat × Test => t.2.serial) tests).symm
  have hnumbered := forall₂_mergeSort hsorted hperm (List.rel_append hfirst hsecond)
  refine meets_pure.2 ?_
  rw [List.forall₂_map_left_iff, List.forall₂_map_right_iff]
  exact hnumbered.imp fun t r htr => htr.2

/-- There is one result for each test, in the order of the tests, and it is an outcome of that
test. -/
theorem every_runTests {c : Context} {fileTimeout : Option Nat} (schedule : List Nat)
    {tests : List (Nat × Test)} (hsorted : tests.Pairwise fun a b => a.1 < b.1)
    (h : ∀ t ∈ tests, (runTest c fileTimeout t.2).Every (P t.2)) :
    (runTests c fileTimeout schedule tests).Every fun results =>
      List.Forall₂ P (tests.map Prod.snd) results :=
  every_iff_meets.2 (meets_runTests schedule hsorted fun t ht => every_iff_meets.1 (h t ht))

/-- What all outcomes of some tests satisfy, all of their results satisfy. -/
theorem every_runTests_forall {Q : TestResult → Prop} {c : Context} {fileTimeout : Option Nat}
    (schedule : List Nat) {tests : List (Nat × Test)}
    (hsorted : tests.Pairwise fun a b => a.1 < b.1)
    (h : ∀ t ∈ tests, (runTest c fileTimeout t.2).Every Q) :
    (runTests c fileTimeout schedule tests).Every fun results => ∀ r ∈ results, Q r :=
  (every_runTests (P := fun _ => Q) schedule hsorted h).mono fun _ => forall_mem_of_forall₂

/-! ## Classes of results -/

/-- A result is passed exactly if it has no failures, and a skipped one is. -/
def TestResult.Consistent (r : TestResult) : Prop :=
  r.passed = r.failures.isEmpty ∧ (r.skipped.isSome = true → r.passed = true ∧ r.failures = [])

/-- The result of what is no test and failed is not passed and has a failure. -/
theorem TestResult.consistent_failed (name : String) (failure : Failure) :
    (TestResult.failed name failure).Consistent :=
  ⟨rfl, fun h => absurd h Bool.false_ne_true⟩

/-- Each result of a test is passed exactly if it has no failures, as the skipped ones are. -/
theorem every_runTest_consistent {c : Context} {fileTimeout : Option Nat} (t : Test) :
    (runTest c fileTimeout t).Every TestResult.Consistent := by
  rw [runTest]
  split
  · exact every_pure.2 ⟨rfl, fun _ => ⟨rfl, rfl⟩⟩
  · exact Every.bind (every_of_forall (P := fun _ => True) fun _ => trivial) fun _ _ =>
      every_pure.2 ⟨rfl, fun h => absurd h Bool.false_ne_true⟩

end Assay.Suite
