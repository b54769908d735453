import Assay.Suite.Expectation
import Mathlib.Data.List.TakeWhile

/-!
# Outputs in normal form

The output of an invocation is one of its two streams without the blanks at its ends, so an expected
text that begins or ends with a blank is met by no invocation.
-/

namespace Assay

namespace Text

/-- A text without blanks at its ends. -/
def IsTrimmed (s : List Char) : Prop :=
  (∀ c ∈ s.head?, isBlank c = false) ∧ ∀ c ∈ s.getLast?, isBlank c = false

/-- What is left when blanks are dropped begins with no blank. -/
theorem isBlank_of_mem_head?_dropWhile {s : List Char} :
    ∀ c ∈ (s.dropWhile isBlank).head?, isBlank c = false := by
  intro c hc
  have hhead := List.head?_dropWhile_not isBlank s
  rwa [hc] at hhead

/-- What is left when blanks are dropped ends as before. -/
theorem getLast?_dropWhile {s : List Char} {c : Char} (h : c ∈ (s.dropWhile isBlank).getLast?) :
    c ∈ s.getLast? := by
  obtain ⟨front, hfront⟩ := List.dropWhile_suffix isBlank (l := s)
  rw [← hfront, List.getLast?_append, h]
  rfl

/-- A text that was trimmed has no blanks at its ends. -/
theorem isTrimmed_trim (s : List Char) : IsTrimmed (trim s) := by
  constructor
  · intro c hc
    rw [trim, trimBack, List.head?_reverse] at hc
    have hfront := getLast?_dropWhile hc
    rw [List.getLast?_reverse] at hfront
    exact isBlank_of_mem_head?_dropWhile c hfront
  · intro c hc
    rw [trim, trimBack, List.getLast?_reverse] at hc
    exact isBlank_of_mem_head?_dropWhile c hc

/-- No blanks are dropped from a text that begins with none. -/
theorem dropWhile_eq_self {s : List Char} (h : ∀ c ∈ s.head?, isBlank c = false) :
    s.dropWhile isBlank = s := by
  cases s with
  | nil => rfl
  | cons c s => simp [h c rfl]

/-- Trimming leaves a text without blanks at its ends alone. -/
theorem IsTrimmed.trim_eq {s : List Char} (h : IsTrimmed s) : trim s = s := by
  have hback : s.reverse.dropWhile isBlank = s.reverse :=
    dropWhile_eq_self fun c hc => h.2 c (by rwa [List.head?_reverse] at hc)
  rw [trim, trimFront, dropWhile_eq_self h.1, trimBack, hback, List.reverse_reverse]

/-- Nothing is left of a text exactly if it is blank. -/
theorem trim_eq_nil_iff {s : List Char} : trim s = [] ↔ ∀ c ∈ s, isBlank c = true := by
  constructor
  · intro h
    rw [trim, trimBack, List.reverse_eq_nil_iff, List.dropWhile_eq_nil_iff] at h
    have hfront : s.dropWhile isBlank = [] := by
      by_contra hne
      have hhead := List.head_dropWhile_not isBlank hne
      have hblank := h _ (List.mem_reverse.2 (List.head_mem hne))
      exact absurd (hhead.symm.trans hblank) (by decide)
    exact List.dropWhile_eq_nil_iff.1 hfront
  · intro h
    rw [trim, trimFront, List.dropWhile_eq_nil_iff.2 h]
    rfl

/-- Stripping a text trims its characters. -/
@[simp]
theorem toList_strip (s : String) : (strip s).toList = trim s.toList := by
  rw [strip, String.toList_ofList]

/-- A text without blanks at its ends is left as it is. -/
theorem strip_eq_self {s : String} (h : IsTrimmed s.toList) : strip s = s := by
  rw [strip, h.trim_eq, String.ofList_toList]

/-- A text of blanks. -/
def IsBlank (s : String) : Prop :=
  ∀ c ∈ s.toList, isBlank c = true

/-- Nothing is left of a text exactly if it is blank. -/
theorem strip_eq_empty_iff {s : String} : strip s = "" ↔ IsBlank s := by
  rw [← String.toList_inj, toList_strip, String.toList_empty, trim_eq_nil_iff, IsBlank]

end Text

namespace Outcome

open Text

variable {exitCode : Option Int} {stdout stderr : String}

/-- The output is that on the second stream if the first is blank. -/
theorem output_ofStreams_of_isBlank (h : IsBlank stdout) :
    (ofStreams exitCode stdout stderr).output = strip stderr := by
  simp [ofStreams, strip_eq_empty_iff.2 h]

/-- The output is that on the first stream if it is not blank. -/
theorem output_ofStreams_of_not_isBlank (h : ¬ IsBlank stdout) :
    (ofStreams exitCode stdout stderr).output = strip stdout := by
  have hne : strip stdout ≠ "" := fun he => h (strip_eq_empty_iff.1 he)
  simp [ofStreams, hne]

/-- An output has no blanks at its ends. -/
theorem isTrimmed_output (exitCode : Option Int) (stdout stderr : String) :
    IsTrimmed (ofStreams exitCode stdout stderr).output.toList := by
  by_cases h : IsBlank stdout
  · rw [output_ofStreams_of_isBlank h, toList_strip]
    exact isTrimmed_trim _
  · rw [output_ofStreams_of_not_isBlank h, toList_strip]
    exact isTrimmed_trim _

/-- An output is empty exactly if both streams are blank. -/
theorem output_eq_empty_iff :
    (ofStreams exitCode stdout stderr).output = "" ↔ IsBlank stdout ∧ IsBlank stderr := by
  by_cases h : IsBlank stdout
  · rw [output_ofStreams_of_isBlank h, strip_eq_empty_iff]
    exact (and_iff_right h).symm
  · rw [output_ofStreams_of_not_isBlank h, strip_eq_empty_iff]
    exact ⟨fun hb => absurd hb h, fun hb => absurd hb.1 h⟩

/-- A trimmed text that is not empty comes out as it was written. -/
theorem output_ofStreams_of_isTrimmed (h : IsTrimmed stdout.toList) (hne : stdout ≠ "") :
    (ofStreams exitCode stdout stderr).output = stdout := by
  have hstrip := strip_eq_self h
  have hblank : ¬ IsBlank stdout := fun hb =>
    hne (hstrip ▸ strip_eq_empty_iff.2 hb)
  rw [output_ofStreams_of_not_isBlank hblank, hstrip]

end Outcome

namespace Suite

open Text Outcome

/-- An exact expectation is met by the text itself. -/
theorem checkOutput_exact_eq_none_iff {expected actual : String} :
    checkOutput (.exact expected) actual = none ↔ expected = actual := by
  rw [checkOutput, checkEqual]
  split <;> simp_all [eq_comm]

/-- A text to be equal to is the same expectation whether it stands alone or as the only one of the
conditions. -/
theorem checkOutput_equals (expected actual : String) :
    checkOutput (.rules { equals := some expected }) actual = checkOutput (.exact expected) actual := by
  simp only [checkOutput, checkRules, Option.bind_some, Option.bind_none]
  cases checkEqual expected actual <;> rfl

/-- Whatever an invocation writes, its output has no blanks at its ends; it is that of the standard
output unless that is blank, empty only if both streams are blank, and its own output when it is
written again. An expected text is met, alone or as a condition, only by itself in this form, and
not at all if it has a blank at an end. -/
theorem output_normal_form (exitCode : Option Int) (stdout stderr : String) :
    (IsTrimmed (ofStreams exitCode stdout stderr).output.toList ∧
      ((ofStreams exitCode stdout stderr).output = "" ↔ IsBlank stdout ∧ IsBlank stderr) ∧
      (IsBlank stdout → (ofStreams exitCode stdout stderr).output = strip stderr) ∧
      (¬ IsBlank stdout → (ofStreams exitCode stdout stderr).output = strip stdout) ∧
      ((ofStreams exitCode stdout stderr).output ≠ "" → ∀ (code : Option Int) (other : String),
        (ofStreams code (ofStreams exitCode stdout stderr).output other).output =
          (ofStreams exitCode stdout stderr).output)) ∧
    ∀ expected : String,
      checkOutput (.rules { equals := some expected }) (ofStreams exitCode stdout stderr).output =
        checkOutput (.exact expected) (ofStreams exitCode stdout stderr).output ∧
      (checkOutput (.exact expected) (ofStreams exitCode stdout stderr).output = none ↔
        expected = (ofStreams exitCode stdout stderr).output) ∧
      (¬ IsTrimmed expected.toList →
        checkOutput (.exact expected) (ofStreams exitCode stdout stderr).output ≠ none) := by
  have htrimmed := isTrimmed_output exitCode stdout stderr
  refine ⟨⟨htrimmed, output_eq_empty_iff, output_ofStreams_of_isBlank,
    output_ofStreams_of_not_isBlank, fun hne code other => ?_⟩, fun expected => ?_⟩
  · exact output_ofStreams_of_isTrimmed htrimmed hne
  · refine ⟨checkOutput_equals expected _, checkOutput_exact_eq_none_iff, fun h hmet => ?_⟩
    exact h (checkOutput_exact_eq_none_iff.1 hmet ▸ htrimmed)

end Suite

end Assay
