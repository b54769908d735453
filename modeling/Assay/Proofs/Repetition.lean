import Assay.Case.Validate
import Mathlib.Data.Finset.Card
import Mathlib.Data.Finset.SDiff

/-!
# Repetitions of tests

A test with values is replaced where it stands by one test for each of them. What is left has no
values, so expanding once more changes nothing. The names that repetition makes may be those of other
tests: a file has one problem for each test whose name was used before (`countP_isDuplicate_problems`).
-/

namespace Assay

/-- The repetition of a test for a value. -/
def Test.repetition (t : Test) (value : String) : Test :=
  { t with name := t.name ++ " [" ++ value ++ "]", each := [], item := some value }

/-- A test without items is run as it is. -/
theorem Test.instances_of_each_eq_nil {t : Test} (h : t.each = []) : t.instances = [t] := by
  simp [instances, h]

/-- A test with items is run once for each of them. -/
theorem Test.instances_of_each_ne_nil {t : Test} (h : t.each ≠ []) :
    t.instances = t.each.map t.repetition := by
  simp only [instances, List.isEmpty_iff, h, if_false]
  rfl

/-- What a test is repeated as has no items left. -/
theorem Test.each_eq_nil_of_mem_instances {t u : Test} (h : u ∈ t.instances) : u.each = [] := by
  by_cases ht : t.each = []
  · rw [instances_of_each_eq_nil ht, List.mem_singleton] at h
    exact h ▸ ht
  · rw [instances_of_each_ne_nil ht] at h
    obtain ⟨value, _, rfl⟩ := List.mem_map.1 h
    rfl

/-- Tests are repeated part by part. -/
theorem expandEach_append (xs ys : List Test) :
    expandEach (xs ++ ys) = expandEach xs ++ expandEach ys :=
  List.flatMap_append

/-- Repeated tests have no items left. -/
theorem each_eq_nil_of_mem_expandEach {xs : List Test} {t : Test} (h : t ∈ expandEach xs) :
    t.each = [] := by
  obtain ⟨u, _, hu⟩ := List.mem_flatMap.1 h
  exact Test.each_eq_nil_of_mem_instances hu

/-- Tests without values stay as they are. -/
theorem expandEach_eq_self {xs : List Test} (h : ∀ t ∈ xs, t.each = []) : expandEach xs = xs := by
  induction xs with
  | nil => rfl
  | cons t xs ih =>
    rw [List.forall_mem_cons] at h
    rw [expandEach, List.flatMap_cons, Test.instances_of_each_eq_nil h.1, ← expandEach, ih h.2]
    rfl

/-! ## Names used twice -/

/-- Whether a problem is that of a name used before. -/
def Problem.isDuplicate : Problem → Bool
  | .duplicateName _ => true
  | _ => false

/-- An unknown name is no duplicate. -/
theorem not_isDuplicate_of_mem_unknownPlaceholders {known : List String} {context text : String}
    {p : Problem} (h : p ∈ unknownPlaceholders known context text) : p.isDuplicate = false := by
  obtain ⟨name, _, rfl⟩ := List.mem_map.1 h
  rfl

/-- What is wrong with expectations is no duplicate. -/
theorem Expect.not_isDuplicate_of_mem_problems {context : String} {e : Expect} {p : Problem}
    (h : p ∈ e.problems context) : p.isDuplicate = false := by
  rw [problems, List.mem_append, List.mem_filterMap, List.mem_filterMap] at h
  obtain ⟨pattern, _, hp⟩ | ⟨requirement, _, hp⟩ := h
  · rw [regexProblem?] at hp
    split at hp <;> simp at hp
    exact hp ▸ rfl
  · rw [requirementProblem?] at hp
    split at hp <;> simp at hp
    exact hp ▸ rfl

/-- What is wrong with a test by itself is not that its name was used before. -/
theorem Test.not_isDuplicate_of_mem_problems {t : Test} {p : Problem} (h : p ∈ t.problems) :
    p.isDuplicate = false := by
  simp only [problems, List.mem_append, List.mem_flatMap] at h
  obtain ((h | h) | ⟨s, _, h⟩) | ⟨text, _, h⟩ := h
  · split at h <;> simp at h
    exact h ▸ rfl
  · rw [templateProblems] at h
    split at h
    · simp at h
    · split at h <;> simp at h
      exact h ▸ rfl
  · exact Expect.not_isDuplicate_of_mem_problems h
  · exact not_isDuplicate_of_mem_unknownPlaceholders h

/-- A test by itself has no duplicates. -/
theorem Test.countP_isDuplicate_problems (t : Test) : t.problems.countP Problem.isDuplicate = 0 :=
  List.countP_eq_zero.2 fun _ hp => by simp [not_isDuplicate_of_mem_problems hp]

/-- The names of tests. -/
def nameSet (tests : List Test) : Finset String :=
  (tests.map Test.name).toFinset

/-- Each test either has a name that is new or makes a problem. -/
theorem countP_isDuplicate_testProblems (seen : List String) (tests : List Test) :
    (testProblems seen tests).countP Problem.isDuplicate + (nameSet tests \ seen.toFinset).card =
      tests.length := by
  induction tests generalizing seen with
  | nil => simp [testProblems, nameSet]
  | cons t rest ih =>
    have hcount := ih (t.name :: seen)
    rw [List.toFinset_cons] at hcount
    simp only [testProblems, List.countP_append, t.countP_isDuplicate_problems, List.length_cons]
    have hset : nameSet (t :: rest) = insert t.name (nameSet rest) := by
      simp [nameSet]
    by_cases hseen : t.name ∈ seen
    · have hsdiff : insert t.name (nameSet rest) \ seen.toFinset =
          nameSet rest \ insert t.name seen.toFinset := by
        ext n
        simp only [Finset.mem_sdiff, Finset.mem_insert, List.mem_toFinset]
        grind
      have hcontains : seen.contains t.name = true := by simpa using hseen
      rw [hset, hsdiff, hcontains]
      simp only [if_true, List.countP_singleton, Problem.isDuplicate]
      omega
    · have hsdiff : insert t.name (nameSet rest) \ seen.toFinset =
          insert t.name (nameSet rest \ insert t.name seen.toFinset) := by
        ext n
        simp only [Finset.mem_sdiff, Finset.mem_insert, List.mem_toFinset]
        grind
      rw [hset, hsdiff, Finset.card_insert_of_notMem (by simp)]
      simp [hseen]
      omega

/-- A file has one problem of a name used before for each test beyond the number of names. -/
theorem CaseFile.countP_isDuplicate_problems (f : CaseFile) :
    f.problems.countP Problem.isDuplicate = f.tests.length - (nameSet f.tests).card := by
  have htexts : (f.texts.flatMap (unknownPlaceholders suiteNames "file setup/teardown")).countP
      Problem.isDuplicate = 0 := by
    refine List.countP_eq_zero.2 fun p hp => ?_
    obtain ⟨text, _, hp⟩ := List.mem_flatMap.1 hp
    simp [not_isDuplicate_of_mem_unknownPlaceholders hp]
  have hversion : (if f.version ≠ 1 then [Problem.unsupportedVersion f.version] else []).countP
      Problem.isDuplicate = 0 := by
    split <;> rfl
  have htests := countP_isDuplicate_testProblems [] f.tests
  rw [List.toFinset_nil, Finset.sdiff_empty] at htests
  rw [problems, List.countP_append, List.countP_append, hversion, htexts]
  omega

/-- Expanding the values of tests goes test by test, is done after one time, leaves tests without
values as they are and puts in the place of any other one repetition for each value. In a file, a
duplicate name is reported as often as its tests outnumber their names. -/
theorem expandEach_spec :
    (∀ xs ys, expandEach (xs ++ ys) = expandEach xs ++ expandEach ys) ∧
    (∀ xs, expandEach (expandEach xs) = expandEach xs) ∧
    (∀ xs, ∀ t ∈ expandEach xs, t.each = []) ∧
    (∀ t : Test, t.each = [] → expandEach [t] = [t]) ∧
    (∀ t : Test, t.each ≠ [] → expandEach [t] = t.each.map fun value =>
      { t with name := t.name ++ " [" ++ value ++ "]", each := [], item := some value }) ∧
    ∀ f : CaseFile,
      f.problems.countP Problem.isDuplicate = f.tests.length - (nameSet f.tests).card := by
  refine ⟨expandEach_append, fun xs => ?_, fun xs t => each_eq_nil_of_mem_expandEach,
    fun t h => ?_, fun t h => ?_, CaseFile.countP_isDuplicate_problems⟩
  · exact expandEach_eq_self fun t => each_eq_nil_of_mem_expandEach
  · exact expandEach_eq_self (List.forall_mem_singleton.2 h)
  · rw [expandEach, List.flatMap_singleton, Test.instances_of_each_ne_nil h]
    rfl

end Assay
