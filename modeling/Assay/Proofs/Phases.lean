import Assay.Proofs.Requests
import Assay.Proofs.Results

/-!
# The phases of a case file

The requests of a file's run come in four phases: those of its preparation, those of the tests that
must be alone, one test after the other, those of all other tests, and those of its tidying up
(`trace_of_file`). The results are those of the selected tests in their order, whatever the schedule
of the third phase is (`results_of_file`).
-/

namespace Assay.Suite

open Host Plan

variable {σ : Type} {handle : Handler σ} {s : σ} {c : Context} {fileTimeout : Option Nat}
  {filter : Option String} {schedule : List Nat}

/-- The plan of a test, which results in the test's number too. -/
def numbered (c : Context) (fileTimeout : Option Nat) (t : Nat × Test) :
    Plan (Nat × TestResult) := do
  return (t.1, ← runTest c fileTimeout t.2)

/-- The number of a test has no say in its requests. -/
theorem trace_numbered {t : Nat × Test} :
    (numbered c fileTimeout t).trace handle s = (runTest c fileTimeout t.2).trace handle s := by
  rw [numbered, trace_bind, trace_pure, List.append_nil]

/-- The selected tests that must be alone, or the others. -/
def inPhase (serial : Bool) (filter : Option String) (f : CaseFile) : List (Nat × Test) :=
  (select filter f.tests).filter fun t => t.2.serial == serial

/-- The plan of numbered tests, in its two phases. -/
theorem runTests_eq (tests : List (Nat × Test)) :
    runTests c fileTimeout schedule tests = (do
      let first ← inTurn ((tests.filter fun t => t.2.serial == true).map (numbered c fileTimeout))
      let second ← sideBySide schedule
        ((tests.filter fun t => t.2.serial == false).map (numbered c fileTimeout))
      return ((first ++ second).mergeSort fun a b => a.1 ≤ b.1).map Prod.snd) := by
  have halone : (fun t : Nat × Test => t.2.serial == true) = fun t => t.2.serial := by
    funext t
    simp
  have hothers : (fun t : Nat × Test => t.2.serial == false) = not ∘ fun t => t.2.serial := by
    funext t
    simp
  rw [runTests, List.partition_eq_filter_filter, halone, hothers]
  rfl

/-- The plan of a file of which tests are selected. -/
theorem runFile_eq {f : CaseFile} (h : select filter f.tests ≠ []) :
    runFile c filter schedule f = (do
      match ← runSetup (.ofContext c) f.setup with
      | .error fault => return [.failed "<setup>" (.fileSetup fault)]
      | .ok _ =>
        let results ← runTests c (f.timeout <|> c.timeout) schedule (select filter f.tests)
        match ← runTeardown (.ofContext c) f.teardown with
        | [] => return results
        | faults => return results ++ [.failed "<teardown>" (.fileTeardown faults)]) := by
  rw [runFile]
  split
  · next hnil => exact absurd hnil h
  · rfl

/-- The tests of a file that must be alone and are selected, as plans, or the others. -/
def phasePlans (c : Context) (serial : Bool) (filter : Option String) (f : CaseFile) :
    List (Plan (Nat × TestResult)) :=
  (inPhase serial filter f).map (numbered c (f.timeout <|> c.timeout))

/-- The requests of a file's run, for each host, schedule and filter. Without a selected test there
are none, and if the preparation fails there are those of the preparation only. Otherwise the
preparation comes first; then come the selected tests that must be alone, in the order of the file
and one behind the other; then all others, as the schedule has it; and then the tidying up. -/
theorem trace_of_file (c : Context) (filter : Option String) (schedule : List Nat) (f : CaseFile)
    (handle : Handler σ) (s : σ) :
    (select filter f.tests = [] → (runFile c filter schedule f).trace handle s = []) ∧
    (select filter f.tests ≠ [] →
      (∀ fault s₁, (runSetup (.ofContext c) f.setup).run handle s = (.error fault, s₁) →
        (runFile c filter schedule f).trace handle s =
          (runSetup (.ofContext c) f.setup).trace handle s) ∧
      ∀ done s₁, (runSetup (.ofContext c) f.setup).run handle s = (.ok done, s₁) →
        ∃ s₂ s₃, s₂ = ((inTurn (phasePlans c true filter f)).run handle s₁).2 ∧
          s₃ = ((sideBySide schedule (phasePlans c false filter f)).run handle s₂).2 ∧
          (runFile c filter schedule f).trace handle s =
            (runSetup (.ofContext c) f.setup).trace handle s ++
              ((traces handle (phasePlans c true filter f) s₁).flatten ++
                ((sideBySide schedule (phasePlans c false filter f)).trace handle s₂ ++
                  (runTeardown (.ofContext c) f.teardown).trace handle s₃))) ∧
    ((inPhase true filter f).Pairwise fun t u => t.1 < u.1) ∧
    ∀ t s', (numbered c (f.timeout <|> c.timeout) t).trace handle s' =
      (runTest c (f.timeout <|> c.timeout) t.2).trace handle s' := by
  refine ⟨fun h => ?_, fun h => ⟨fun fault s₁ hsetup => ?_, fun done s₁ hsetup => ?_⟩,
    (pairwise_select filter f.tests).filter _, fun t s' => trace_numbered⟩
  · simp [runFile, h]
  · rw [runFile_eq h, trace_bind, hsetup, trace_pure, List.append_nil]
  · refine ⟨_, _, rfl, rfl, ?_⟩
    have hteardown (results : List TestResult) (s₃ : σ) : (do
        match ← runTeardown (.ofContext c) f.teardown with
        | [] => return results
        | faults => return results ++ [.failed "<teardown>" (.fileTeardown faults)] :
          Plan (List TestResult)).trace handle s₃ =
        (runTeardown (.ofContext c) f.teardown).trace handle s₃ := by
      rw [trace_bind]
      cases ((runTeardown (.ofContext c) f.teardown).run handle s₃).1 <;>
        rw [trace_pure, List.append_nil]
    rw [runFile_eq h, trace_bind, hsetup]
    dsimp only
    rw [trace_bind, hteardown, runTests_eq, trace_bind, trace_bind, trace_pure, List.append_nil,
      trace_inTurn, List.append_assoc]
    simp only [run_bind, run_pure]
    rfl

/-! ## Results -/

/-- The tests that a filter selects. -/
def selected (filter : Option String) (f : CaseFile) : List Test :=
  f.tests.filter fun t => filter.all (isSelected · t)

/-- The tests that are run, without their numbers. -/
theorem map_snd_select {f : CaseFile} : (select filter f.tests).map Prod.snd = selected filter f := by
  have hfilter : (select filter f.tests).map Prod.snd =
      ((f.tests.zipIdx.map fun p => (p.2, p.1)).map Prod.snd).filter
        fun t => filter.all (isSelected · t) := by
    rw [List.filter_map]
    rfl
  rw [hfilter, List.map_map, selected]
  congr 1
  exact List.zipIdx_map_fst _ _

/-- There is no test to be run if none is selected. -/
theorem select_eq_nil_iff {f : CaseFile} : select filter f.tests = [] ↔ selected filter f = [] := by
  rw [← map_snd_select, List.map_eq_nil_iff]

/-- Without a filter all tests are selected. -/
theorem selected_none {f : CaseFile} : selected none f = f.tests :=
  List.filter_eq_self.2 fun _ _ => rfl

/-- A result has the name and the id of its test. -/
theorem every_runTest_named (t : Test) :
    (runTest c fileTimeout t).Every fun r => r.name = t.name ∧ r.id = t.id := by
  rw [runTest]
  split
  · exact ⟨rfl, rfl⟩
  · exact Every.bind (every_of_forall fun _ => trivial) fun _ _ => ⟨rfl, rfl⟩

/-- The time that the tests of a file get. -/
def timeoutOfFile (c : Context) (f : CaseFile) : Option Nat :=
  f.timeout <|> c.timeout

/-- What the tests of a file come to that a filter selects: the results of its run but for that of
the tidying up. -/
def runSelected (c : Context) (filter : Option String) (schedule : List Nat) (f : CaseFile) :
    Plan (List TestResult) :=
  runTests c (timeoutOfFile c f) schedule (select filter f.tests)

/-- There is one result for each selected test, in the order of the file, and it is one of that
test. -/
theorem meets_runSelected {R : (r : Request) → Reply r → Prop} {P : Test → TestResult → Prop}
    {f : CaseFile} (h : ∀ t ∈ selected filter f,
      (runTest c (timeoutOfFile c f) t).Meets R (fun _ => True) (P t)) :
    (runSelected c filter schedule f).Meets R (fun _ => True)
      (List.Forall₂ P (selected filter f)) := by
  rw [← map_snd_select] at h ⊢
  exact meets_runTests schedule (pairwise_select filter f.tests)
    fun t ht => h t.2 (List.mem_map_of_mem ht)

/-- The result of each test is one that the test comes to on its host. -/
theorem forall₂_reaches (f : CaseFile) :
    List.Forall₂ (fun t r => (runTest c (timeoutOfFile c f) t).Reaches handle r) (selected filter f)
      ((runSelected c filter schedule f).run handle s).1 :=
  ((meets_runSelected fun t _ => meets_reaches (runTest c (timeoutOfFile c f) t)).trace
    (fun _ s => ⟨s, rfl⟩) s).2

/-- Results that are given for each test are the results of a run. -/
theorem forall₂_eq_map {own : Test → TestResult} {tests : List Test} {results : List TestResult}
    (h : List.Forall₂ (fun t r => r = own t) tests results) : results = tests.map own := by
  induction h with
  | nil => rfl
  | cons hr _ ih => rw [List.map_cons, hr, ih]

section Own

variable {f : CaseFile} {own : Test → TestResult}
  (hown : ∀ t ∈ f.tests, ∀ r, (runTest c (timeoutOfFile c f) t).Reaches handle r → r = own t)
include hown

/-- Where the result of each test is given, those of the selected tests come out of every run. -/
theorem run_runSelected_eq_map :
    ((runSelected c filter schedule f).run handle s).1 = (selected filter f).map own := by
  have hplan : ∀ t ∈ selected filter f,
      (runTest c (timeoutOfFile c f) t).Meets (Gives handle) (fun _ => True) (· = own t) :=
    fun t ht => (meets_reaches _).mono (hown t (List.mem_of_mem_filter ht))
  exact forall₂_eq_map ((meets_runSelected hplan).trace (fun _ s => ⟨s, rfl⟩) s).2

/-- Where the result of each test is given, a run of one test after the other comes to them too. -/
theorem run_inTurn_eq_map :
    ((inTurn ((selected filter f).map (runTest c (timeoutOfFile c f)))).run handle s).1 =
      (selected filter f).map own := by
  have hplans : List.Forall₂ (fun t (p : Plan TestResult) =>
      p.Meets (Gives handle) (fun _ => True) (· = own t)) (selected filter f)
      ((selected filter f).map (runTest c (timeoutOfFile c f))) := by
    rw [List.forall₂_map_right_iff, List.forall₂_same]
    exact fun t ht => (meets_reaches _).mono (hown t (List.mem_of_mem_filter ht))
  exact forall₂_eq_map ((meets_inTurn hplans).trace (fun _ s => ⟨s, rfl⟩) s).2

end Own

/-- The elements of a list that satisfy a condition, picked by it out of a list of their values. -/
theorem map_filter_eq_zip {α β : Type} (own : α → β) (p : α → Bool) (l : List α) :
    (l.filter p).map own = ((l.zip (l.map own)).filter fun x => p x.1).map Prod.snd := by
  induction l with
  | nil => rfl
  | cons a l ih =>
    rw [List.map_cons, List.zip_cons_cons, List.filter_cons, List.filter_cons]
    split
    · rw [List.map_cons, List.map_cons, ih]
    · exact ih

/-- The results of a file's run, for each host, schedule and filter. Without a selected test there is
none and nothing is asked of the host. If the preparation fails there is one for it, and the host is
left as the preparation left it. Otherwise there is one for each selected test, in the order of the
file, with the test's name and id, and behind them one for the tidying up if some of it fails. Each
is a result that its own test comes to on the host, so it is what all outcomes of that test are.

Where the host's replies leave each test one result, as those that depend on the requests alone do
(`Reaches.eq_of_stateless`), the results are those of a run of the selected tests one after the
other, and those that an unfiltered run has for the selected tests, under any schedule and from any
state. -/
theorem results_of_file (c : Context) (filter : Option String) (schedule : List Nat) (f : CaseFile)
    (handle : Handler σ) (s : σ) :
    (selected filter f = [] → runFile c filter schedule f = pure []) ∧
    (selected filter f ≠ [] →
      (∀ fault s₁, (runSetup (.ofContext c) f.setup).run handle s = (.error fault, s₁) →
        (runFile c filter schedule f).run handle s =
          ([.failed "<setup>" (.fileSetup fault)], s₁)) ∧
      ∀ done s₁, (runSetup (.ofContext c) f.setup).run handle s = (.ok done, s₁) →
        ∀ results s₂, (runSelected c filter schedule f).run handle s₁ = (results, s₂) →
          List.Forall₂ (fun t r => r.name = t.name ∧ r.id = t.id) (selected filter f) results ∧
          List.Forall₂ (fun t r => (runTest c (timeoutOfFile c f) t).Reaches handle r)
            (selected filter f) results ∧
          (∀ P : Test → TestResult → Prop,
            (∀ t ∈ selected filter f, (runTest c (timeoutOfFile c f) t).Every (P t)) →
              List.Forall₂ P (selected filter f) results) ∧
          ∀ faults s₃, (runTeardown (.ofContext c) f.teardown).run handle s₂ = (faults, s₃) →
            (runFile c filter schedule f).run handle s =
              (results ++ (if faults = [] then []
                else [.failed "<teardown>" (.fileTeardown faults)]), s₃)) ∧
    ∀ own : Test → TestResult,
      (∀ t ∈ f.tests, ∀ r, (runTest c (timeoutOfFile c f) t).Reaches handle r → r = own t) →
        ∀ s₁ s', ((runSelected c filter schedule f).run handle s₁).1 =
            ((inTurn ((selected filter f).map (runTest c (timeoutOfFile c f)))).run handle s').1 ∧
          ∀ schedule', ((runSelected c filter schedule f).run handle s₁).1 =
            ((f.tests.zip ((runSelected c none schedule' f).run handle s').1).filter
              fun x => filter.all (isSelected · x.1)).map Prod.snd := by
  refine ⟨fun h => ?_, fun h => ⟨fun fault s₁ hsetup => ?_, fun done s₁ hsetup results s₂ hrun => ?_⟩,
    fun own hown s₁ s' => ⟨?_, fun schedule' => ?_⟩⟩
  · rw [runFile, select_eq_nil_iff.2 h]
  · rw [runFile_eq (mt select_eq_nil_iff.1 h), run_bind, hsetup]
    rfl
  · obtain rfl : ((runSelected c filter schedule f).run handle s₁).1 = results := by rw [hrun]
    have hevery {P : Test → TestResult → Prop}
        (hP : ∀ t ∈ selected filter f, (runTest c (timeoutOfFile c f) t).Every (P t)) :
        List.Forall₂ P (selected filter f) ((runSelected c filter schedule f).run handle s₁).1 :=
      (every_iff_meets.2 (meets_runSelected fun t ht => every_iff_meets.1 (hP t ht))).run handle s₁
    refine ⟨hevery fun t _ => every_runTest_named t, forall₂_reaches f, fun P => hevery,
      fun faults s₃ hteardown => ?_⟩
    rw [runFile_eq (mt select_eq_nil_iff.1 h), run_bind, hsetup]
    dsimp only
    rw [run_bind, ← timeoutOfFile, ← runSelected, hrun, run_bind, hteardown]
    cases faults <;> simp
  · rw [run_runSelected_eq_map hown, run_inTurn_eq_map hown]
  · rw [run_runSelected_eq_map hown, run_runSelected_eq_map hown, selected_none]
    exact map_filter_eq_zip own _ f.tests

end Assay.Suite
