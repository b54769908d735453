import Assay.Cli.Run
import Assay.Proofs.Registration
import Assay.Proofs.Results

/-!
# Totals, reports and exit codes

Every result that a run makes is of one class: skipped, passed or failed. The counts of a suite are
those of the results that its reports show, in each format, with one failure more if the suite could
not be tidied up; and a run fails exactly if this or some result is a failure. The reports are those
of the case files in the order of their paths, and one that could not be loaded has no say in what
is done for the others.
-/

namespace Assay

namespace Suite

open Host Plan

variable {c : Context}

/-- Every result of a file is of one class. -/
theorem every_runFile_consistent (filter : Option String) (schedule : List Nat) (f : CaseFile) :
    (runFile c filter schedule f).Every fun results => ∀ r ∈ results, r.Consistent := by
  have hresults : (runTests c (f.timeout <|> c.timeout) schedule (select filter f.tests)).Every
      fun results => ∀ r ∈ results, r.Consistent :=
    every_runTests_forall schedule (pairwise_select filter f.tests)
      fun t _ => every_runTest_consistent t.2
  have hnoted (name : String) (failure : Failure) :
      ∀ r ∈ [TestResult.failed name failure], r.Consistent :=
    List.forall_mem_singleton.2 (TestResult.consistent_failed name failure)
  rw [runFile]
  split
  · exact List.forall_mem_nil _
  · refine Every.bind (every_of_forall (P := fun _ => True) fun _ => trivial) fun prepared _ => ?_
    cases prepared with
    | error fault => exact hnoted _ _
    | ok _ =>
      refine Every.bind hresults fun results hr => ?_
      refine Every.bind (every_of_forall (P := fun _ => True) fun _ => trivial) fun faults _ => ?_
      cases faults with
      | nil => exact hr
      | cons fault rest => exact List.forall_mem_append.2 ⟨hr, hnoted _ _⟩

/-- Loaded files are those at the paths, in their order. -/
theorem every_loadEach (paths : List Path) :
    (loadEach paths).Every fun files => files.map Prod.fst = paths := by
  induction paths with
  | nil => rfl
  | cons path rest ih =>
    refine Every.bind (every_of_forall (P := fun _ => True) fun _ => trivial) fun file _ => ?_
    refine Every.bind ih fun files hfiles => every_pure.2 ?_
    rw [List.map_cons, hfiles]

/-- The case files of a suite come in the order of their paths. -/
theorem every_loadCases_sorted (path : Path) :
    (loadCases path).Every fun loaded =>
      ∀ files, loaded = .ok files → (files.map Prod.fst).Pairwise fun p q => p.compare q ≠ .gt := by
  have hcases : (caseFiles path).Every fun found =>
      ∀ paths, found = .ok paths → paths.Pairwise fun p q => p.compare q ≠ .gt := by
    refine Every.bind (every_of_forall (P := fun _ => True) fun _ => trivial) fun file _ => ?_
    split
    · rintro _ ⟨⟩
      exact List.pairwise_singleton _ _
    · refine Every.bind (every_of_forall (P := fun _ => True) fun _ => trivial) fun found _ => ?_
      cases found with
      | error reason => exact fun _ h => nomatch h
      | ok files =>
        rintro _ ⟨⟩
        exact Path.pairwise_mergeSort files
  refine Every.bind hcases fun found hfound => ?_
  cases found with
  | error reason => exact fun _ h => nomatch h
  | ok paths =>
    refine Every.bind (every_loadEach paths) fun files hfiles => every_pure.2 ?_
    rintro _ ⟨⟩
    rw [hfiles]
    exact hfound paths rfl

end Suite

namespace Report

open Suite

/-- Whether a result counts as failed. -/
def isFailed (r : TestResult) : Bool :=
  !r.skipped.isSome && !r.passed

/-- Whether a result counts as passed. -/
def isPassed (r : TestResult) : Bool :=
  !r.skipped.isSome && r.passed

/-- Each result is counted in one class. -/
theorem foldl_add (tests : List TestResult) (t : Totals) :
    tests.foldl Totals.add t =
      { passed := t.passed + tests.countP isPassed
        failed := t.failed + tests.countP isFailed
        skipped := t.skipped + tests.countP fun r => r.skipped.isSome } := by
  induction tests generalizing t with
  | nil => rfl
  | cons r rest ih =>
    rw [List.foldl_cons, ih]
    simp only [List.countP_cons, Totals.add, isPassed, isFailed]
    by_cases hs : r.skipped.isSome = true <;> by_cases hp : r.passed = true <;>
      simp [hs, hp] <;> omega

/-- A file that could not be loaded counts like the failed test that is shown for it. -/
theorem addFile_eq (t : Totals) (f : FileReport) : t.addFile f = f.tests.foldl Totals.add t := by
  rw [Totals.addFile, FileReport.tests]
  cases f.result <;> rfl

/-- The counts of files are those of the results that are shown for them. -/
theorem foldl_addFile (files : List FileReport) (t : Totals) :
    files.foldl Totals.addFile t = (files.flatMap FileReport.tests).foldl Totals.add t := by
  induction files generalizing t with
  | nil => rfl
  | cons f rest ih => rw [List.foldl_cons, ih, addFile_eq, List.flatMap_cons, List.foldl_append]

/-- The results that a report shows. -/
def SuiteReport.shown (r : SuiteReport) : List TestResult :=
  r.files.flatMap FileReport.tests

/-- One failure if the suite could not be tidied up. -/
def SuiteReport.untidy (r : SuiteReport) : Nat :=
  if r.teardown.isEmpty then 0 else 1

/-- The counts of a suite are those of the results that are shown, and of its tidying up. -/
theorem totals_eq (r : SuiteReport) :
    r.totals =
      { passed := r.shown.countP isPassed
        failed := r.shown.countP isFailed + r.untidy
        skipped := r.shown.countP fun t => t.skipped.isSome } := by
  rw [SuiteReport.totals, foldl_addFile, foldl_add, SuiteReport.shown, SuiteReport.untidy]
  split <;> simp

/-- The number of files that could not be loaded. -/
def SuiteReport.unloaded (r : SuiteReport) : Nat :=
  r.files.countP fun f => f.result.toOption.isNone

/-- The number of results of the files that were loaded. -/
def SuiteReport.results (r : SuiteReport) : Nat :=
  (r.files.flatMap fun f => f.result.toOption.getD []).length

/-- One result is shown for each of a loaded file, and one for each file that could not be loaded. -/
theorem length_shown (r : SuiteReport) : r.shown.length = r.results + r.unloaded := by
  rw [SuiteReport.shown, SuiteReport.results, SuiteReport.unloaded]
  induction r.files with
  | nil => rfl
  | cons f rest ih =>
    rw [List.flatMap_cons, List.length_append, ih, List.flatMap_cons, List.length_append,
      List.countP_cons, FileReport.tests]
    cases f.result <;> simp [Except.toOption] <;> omega

/-- Each result is of one class. -/
theorem length_eq_counts (tests : List TestResult) :
    tests.countP isPassed + tests.countP isFailed + (tests.countP fun t => t.skipped.isSome) =
      tests.length := by
  induction tests with
  | nil => rfl
  | cons r rest ih =>
    simp only [List.countP_cons, List.length_cons, isPassed, isFailed] at ih ⊢
    by_cases hs : r.skipped.isSome = true <;> by_cases hp : r.passed = true <;>
      simp [hs, hp] <;> omega

/-! ## Counting again -/

/-- The elements under a key. -/
def elements (key : String) (j : Json) : List Json :=
  match j.get? key with
  | some (.arr items) => items
  | _ => []

/-- The counts with one more test that a JSON report shows: it is skipped if it says why, and else
passed if it says so. -/
def recountTest (t : Totals) (test : Json) : Totals :=
  match test.get? "skipped", test.get? "passed" with
  | some _, _ => { t with skipped := t.skipped + 1 }
  | none, some (.bool true) => { t with passed := t.passed + 1 }
  | none, _ => { t with failed := t.failed + 1 }

/-- The counts of all tests that a JSON report shows. -/
def recount (report : Json) : Totals :=
  ((elements "results" report).flatMap (elements "tests")).foldl recountTest {}

/-- The first member of a key is the one that is found. -/
theorem lookup_cons_eq (key k : String) (v : Json) (members : List (String × Json)) :
    List.lookup key ((k, v) :: members) = if key = k then some v else members.lookup key := by
  rw [List.lookup_cons]
  by_cases h : key = k
  · rw [if_pos h, beq_iff_eq.2 h]
  · rw [if_neg h, beq_eq_false_iff_ne.2 h]

/-- A value that was put among members is found by its key, and hides no other. -/
theorem lookup_put (key k : String) (v : Json) (members : List (String × Json)) :
    (Json.put k v members).lookup key = if key = k then some v else members.lookup key := by
  induction members with
  | nil => exact lookup_cons_eq key k v []
  | cons m rest ih =>
    obtain ⟨n, w⟩ := m
    rw [Json.put]
    split
    · next heq =>
      rw [lookup_cons_eq, lookup_cons_eq, ← heq]
      split <;> rfl
    · next hne =>
      split
      · exact lookup_cons_eq key k v _
      · rw [lookup_cons_eq, lookup_cons_eq, ih]
        by_cases h : key = k
        · rw [if_pos h, if_pos h, if_neg (h ▸ hne)]
        · rw [if_neg h, if_neg h]

/-- A test is counted again as it was counted. -/
theorem recountTest_testJson (t : Totals) (r : TestResult) :
    recountTest t (testJson r) = t.add r := by
  have hskipped : (testJson r).get? "skipped" = r.skipped.map .str := by
    cases hid : r.id <;> cases hs : r.skipped <;>
      simp [testJson, Json.sorted, Json.get?, lookup_put, hid, hs]
  have hpassed : (testJson r).get? "passed" = some (.bool r.passed) := by
    cases hid : r.id <;> cases hs : r.skipped <;>
      simp [testJson, Json.sorted, Json.get?, lookup_put, hid, hs]
  rw [recountTest, hskipped, hpassed, Totals.add]
  cases r.skipped <;> cases r.passed <;> rfl

/-- The tests of a file that a JSON report shows. -/
theorem elements_fileJson (f : FileReport) :
    elements "tests" (fileJson f) = f.tests.map testJson := by
  simp [elements, fileJson, Json.sorted, Json.get?, lookup_put]

/-- The counts and the files that a JSON report shows. -/
theorem get?_suiteJson (r : SuiteReport) :
    (suiteJson r).get? "passed" = some (.ofNat r.totals.passed) ∧
      (suiteJson r).get? "failed" = some (.ofNat r.totals.failed) ∧
      (suiteJson r).get? "skipped" = some (.ofNat r.totals.skipped) ∧
      elements "results" (suiteJson r) = r.files.map fileJson := by
  simp [elements, suiteJson, Json.sorted, Json.get?, lookup_put]

/-- Counting the tests of a JSON report again comes to the counts of the results that it shows. -/
theorem recount_suiteJson (r : SuiteReport) :
    recount (suiteJson r) =
      { passed := r.shown.countP isPassed
        failed := r.shown.countP isFailed
        skipped := r.shown.countP fun t => t.skipped.isSome } := by
  have htests : (elements "results" (suiteJson r)).flatMap (elements "tests") =
      r.shown.map testJson := by
    rw [(get?_suiteJson r).2.2.2, List.flatMap_map, SuiteReport.shown, List.map_flatMap]
    simp only [elements_fileJson]
  rw [recount, htests, List.foldl_map]
  simp only [recountTest_testJson]
  rw [foldl_add]
  simp

/-! ## What agrees in a report -/

/-- Something in a report is a failure. -/
def SuiteReport.Fails (r : SuiteReport) : Prop :=
  (∃ f ∈ r.files, ∃ fault, f.result = .error fault) ∨
    (∃ f ∈ r.files, ∃ results, f.result = .ok results ∧ ∃ t ∈ results, t.passed = false) ∨
    r.teardown ≠ []

/-- What agrees in a report. -/
structure SuiteReport.Agrees (r : SuiteReport) : Prop where
  /-- The counts are those of the results, with one failure for each file that could not be loaded
  and one if the suite could not be tidied up. -/
  total : r.totals.passed + r.totals.failed + r.totals.skipped = r.results + r.unloaded + r.untidy
  /-- The JSON report shows these counts. -/
  counts : (suiteJson r).get? "passed" = some (.ofNat r.totals.passed) ∧
    (suiteJson r).get? "failed" = some (.ofNat r.totals.failed) ∧
    (suiteJson r).get? "skipped" = some (.ofNat r.totals.skipped)
  /-- It has one entry for each file, in order. -/
  entries : (elements "results" (suiteJson r)).map (Json.get? "file") =
    r.files.map fun f => some (.str f.path.text)
  /-- Counting its tests again comes to the same, but for the tidying up. -/
  recounted : r.totals =
    { recount (suiteJson r) with failed := (recount (suiteJson r)).failed + r.untidy }
  /-- In each format the process fails exactly if something is a failure. -/
  exit : ∀ o : Cli.RunOptions, (Cli.print o r).success = false ↔ r.Fails

/-- A report of results that are of one class each agrees. -/
theorem agrees_of_consistent {r : SuiteReport} (h : ∀ t ∈ r.shown, t.Consistent) : r.Agrees where
  total := by
    have hcounts := length_eq_counts r.shown
    rw [length_shown] at hcounts
    rw [totals_eq]
    dsimp only
    omega
  counts := by
    obtain ⟨hpassed, hfailed, hskipped, -⟩ := get?_suiteJson r
    exact ⟨hpassed, hfailed, hskipped⟩
  entries := by
    rw [(get?_suiteJson r).2.2.2, List.map_map]
    refine List.map_congr_left fun f _ => ?_
    simp [fileJson, Json.sorted, Json.get?, lookup_put]
  recounted := by rw [recount_suiteJson, totals_eq]
  exit o := by
    have hsuccess : (Cli.print o r).success = !r.hasFailed := by
      rw [Cli.print]
      cases o.format <;> rfl
    have hfailed : r.hasFailed = true ↔ (∃ t ∈ r.shown, isFailed t = true) ∨ r.teardown ≠ [] := by
      rw [SuiteReport.hasFailed, totals_eq, SuiteReport.untidy, decide_eq_true_eq]
      dsimp only
      rw [gt_iff_lt, Nat.add_pos_iff_pos_or_pos, List.countP_pos_iff]
      cases r.teardown <;> simp
    rw [hsuccess, Bool.not_eq_false', hfailed, SuiteReport.Fails, ← or_assoc]
    refine or_congr_left ⟨?_, ?_⟩
    · rintro ⟨t, ht, hfail⟩
      obtain ⟨f, hf, ht⟩ := List.mem_flatMap.1 ht
      cases hr : f.result with
      | error fault => exact .inl ⟨f, hf, fault, hr⟩
      | ok results =>
        rw [FileReport.tests, hr] at ht
        simp only [isFailed, Bool.and_eq_true, Bool.not_eq_true'] at hfail
        exact .inr ⟨f, hf, results, hr, t, ht, hfail.2⟩
    · rintro (⟨f, hf, fault, hr⟩ | ⟨f, hf, results, hr, t, ht, hfail⟩)
      · have hload : f.tests = [.failed "<load>" (.load fault)] := by
          rw [FileReport.tests, hr]
        exact ⟨_, List.mem_flatMap.2 ⟨f, hf, hload ▸ List.mem_singleton_self _⟩, rfl⟩
      · have hshown : t ∈ r.shown :=
          List.mem_flatMap.2 ⟨f, hf, by rw [FileReport.tests, hr]; exact ht⟩
        -- a result that failed is not skipped
        have hskipped : t.skipped.isSome = false := by
          by_contra hs
          have hpassed := ((h t hshown).2 (Bool.not_eq_false _ ▸ hs)).1
          exact absurd (hpassed.symm.trans hfail) (by decide)
        refine ⟨t, hshown, ?_⟩
        rw [isFailed, hskipped, hfail]
        rfl

end Report

namespace Cli

open Host Plan Suite Report

variable {σ : Type} {handle : Handler σ} {c : Context} {filter : Option String}
  {schedules : Schedules} {files : List (Path × Except LoadFault CaseFile)}

/-- What came of a file of a suite on a host: why it could not be loaded, or results that a run of
it comes to. -/
def IsReportOf (handle : Handler σ) (c : Context) (filter : Option String) (schedules : Schedules)
    (loaded : Path × Except LoadFault CaseFile) (r : FileReport) : Prop :=
  r.path = loaded.1 ∧
    match loaded.2 with
    | .error fault => r.result = .error fault
    | .ok file => ∃ results, r.result = .ok results ∧
      (runFile c filter (schedules.tests loaded.1) file).Reaches handle results

/-- The reports of files are those of what their runs come to, in order. -/
theorem run_runFiles (serial : Bool) (st : σ) :
    List.Forall₂ (IsReportOf handle c filter schedules) files
      ((runFiles c filter serial schedules files).run handle st).1 := by
  have hplans : List.Forall₂ (fun loaded (p : Plan FileReport) =>
      p.Meets (Gives handle) (fun _ => True) (IsReportOf handle c filter schedules loaded)) files
      (files.map (reportOn c filter schedules)) := by
    rw [List.forall₂_map_right_iff, List.forall₂_same]
    rintro ⟨path, loaded⟩ -
    cases loaded with
    | error fault => exact ⟨rfl, rfl⟩
    | ok file =>
      exact Meets.bind (meets_reaches _) fun results hr => ⟨rfl, results, rfl, hr⟩
  have hreports : (runFiles c filter serial schedules files).Meets (Gives handle) (fun _ => True)
      (List.Forall₂ (IsReportOf handle c filter schedules) files) := by
    rw [runFiles]
    split
    · exact meets_inTurn hplans
    · exact meets_sideBySide _ hplans
  exact (hreports.trace (fun _ s => ⟨s, rfl⟩) st).2

/-- What is shown of a file is of one class each. -/
theorem consistent_of_isReportOf {loaded : Path × Except LoadFault CaseFile} {r : FileReport}
    (h : IsReportOf handle c filter schedules loaded r) : ∀ t ∈ r.tests, t.Consistent := by
  obtain ⟨path, loaded⟩ := loaded
  rw [FileReport.tests]
  cases loaded with
  | error fault =>
    have hresult : r.result = .error fault := h.2
    rw [hresult]
    exact List.forall_mem_singleton.2 (TestResult.consistent_failed _ _)
  | ok file =>
    obtain ⟨results, hresult, hreaches⟩ := h.2
    rw [hresult]
    have hevery := every_iff_meets.1 (every_runFile_consistent (c := c) filter
      (schedules.tests path) file)
    exact hevery.of_reaches (fun _ _ => trivial) hreaches

/-- Schedules without the turns of a file. -/
def Schedules.without (k : Nat) (schedules : Schedules) : Schedules :=
  { schedules with files := withoutTurns k schedules.files }

/-- A file that could not be loaded has no say in what is done for the others. -/
theorem runFiles_of_not_loaded {k : Nat} {path : Path} {fault : LoadFault} (serial : Bool)
    (h : files[k]? = some (path, .error fault)) :
    runFiles c filter serial schedules files = (do
      let reports ← runFiles c filter serial (schedules.without k) (files.eraseIdx k)
      return reports.insertIdx k { path, result := .error fault }) := by
  have hplan : (files.map (reportOn c filter schedules))[k]? =
      some (.done { path, result := .error fault }) := by
    rw [List.getElem?_map, h]
    rfl
  have hrest : (files.eraseIdx k).map (reportOn c filter (schedules.without k)) =
      (files.map (reportOn c filter schedules)).eraseIdx k := by
    rw [List.eraseIdx_map]
    rfl
  rw [runFiles, runFiles, hrest]
  split
  · exact inTurn_of_done hplan
  · exact sideBySide_of_done _ hplan

/-- What is reported of a suite, on each host and for each schedule. Its case files come in the order
of their paths. A file that could not be loaded has no say in what is done for the others: without it
the requests and the reports are the same. If there are files and the suite can be prepared, the run
ends with a report of each file in their order: that it could not be loaded, or the results of its
run. All results are of one class each. The suite is tidied up, and what is printed is the report of
the files and of that, in which the counts, the JSON document and the exit code agree. -/
theorem totals_report_and_exit_agree (o : RunOptions) (config : SuiteConfig) (c : Context)
    (schedules : Schedules) (handle : Handler σ) (st : σ) :
    (∀ files st₁, (loadCases o.path).run handle st = (.ok files, st₁) →
      (files.map Prod.fst).Pairwise fun p q => p.compare q ≠ .gt) ∧
    (∀ (files : List (Path × Except LoadFault CaseFile)) k path fault,
      files[k]? = some (path, .error fault) →
        runFiles c o.filter config.serial schedules files = (do
          let reports ←
            runFiles c o.filter config.serial (schedules.without k) (files.eraseIdx k)
          return reports.insertIdx k { path, result := .error fault })) ∧
    ∀ files st₁ st₂, (loadCases o.path).run handle st = (.ok files, st₁) → files ≠ [] →
      (prepare c config).run handle st₁ = (.ok (), st₂) →
        ∃ reports st₃ teardown st₄,
          (runFiles c o.filter config.serial schedules files).run handle st₂ = (reports, st₃) ∧
          (tidyUp c config).run handle st₃ = (teardown, st₄) ∧
          (runSuite o config c schedules).run handle st =
            (print o { files := reports, teardown }, st₄) ∧
          List.Forall₂ (IsReportOf handle c o.filter schedules) files reports ∧
          (∀ r ∈ reports, ∀ t ∈ r.tests, t.Consistent) ∧
          SuiteReport.Agrees { files := reports, teardown } := by
  refine ⟨fun files st₁ hload => ?_, fun files k path fault hk => runFiles_of_not_loaded _ hk,
    fun files st₁ st₂ hload hne hprepare => ?_⟩
  · have hsorted := (every_loadCases_sorted o.path).run handle st
    rw [hload] at hsorted
    exact hsorted files rfl
  · have hreports : List.Forall₂ (IsReportOf handle c o.filter schedules) files
        ((runFiles c o.filter config.serial schedules files).run handle st₂).1 :=
      run_runFiles config.serial st₂
    have hconsistent := forall_mem_of_forall₂
      (hreports.imp fun _ _ => consistent_of_isReportOf)
    refine ⟨_, _, _, _, rfl, rfl, ?_, hreports, hconsistent, agrees_of_consistent fun t ht => ?_⟩
    · obtain ⟨first, rest, rfl⟩ := List.exists_cons_of_ne_nil hne
      rw [runSuite, run_bind, hload]
      dsimp only
      rw [run_bind, hprepare]
      dsimp only
      rw [run_bind, run_bind, run_pure]
    · obtain ⟨r, hr, ht⟩ := List.mem_flatMap.1 ht
      exact hconsistent r hr t ht

end Cli

end Assay
