import Assay.Text.Quoted

/-!
# Templates of workspace names

A template is a file name in which the first run of three or more letters `X` stands for as many
random characters. It has no slash and no backslash.
-/

namespace Assay

/-- A template taken apart: the text in front of the random part, the length of that part, and the
text behind it. -/
structure Template where
  front : List Char
  random : Nat
  back : List Char
deriving DecidableEq

namespace Template

/-- The least length of a random part. -/
def minRandom : Nat := 3

/-- The number of letters `X` in front of a text, and the text behind them. -/
def takeRun : List Char → Nat × List Char
  | [] => (0, [])
  | c :: s =>
    if c = 'X' then
      let (n, rest) := takeRun s
      (n + 1, rest)
    else (0, c :: s)

theorem length_takeRun (s : List Char) : (takeRun s).2.length + (takeRun s).1 = s.length := by
  induction s with
  | nil => rfl
  | cons c s ih =>
    rw [takeRun]
    split
    · simp only [List.length_cons]
      omega
    · simp

/-- Finds the first run that is long enough; shorter ones in front of it are text. -/
def find : List Char → Option Template
  | [] => none
  | c :: s =>
    match h : takeRun (c :: s) with
    | (0, _) => (find s).map fun t => { t with front := c :: t.front }
    | (n + 1, rest) =>
      if minRandom ≤ n + 1 then some ⟨[], n + 1, rest⟩
      else (find rest).map fun t => { t with front := List.replicate (n + 1) 'X' ++ t.front }
termination_by s => s.length
decreasing_by
  · simp only [List.length_cons]
    omega
  · have hlen := length_takeRun (c :: s)
    rw [h] at hlen
    simp only [List.length_cons] at hlen ⊢
    omega

/-- The template that a text writes. -/
def parse? (s : String) : Option Template :=
  let cs := s.toList
  if cs.contains '/' || cs.contains '\\' then none else find cs

/-- What is wrong with a text that is no template, in words. -/
def invalidMessage (s : String) : String :=
  "invalid workspace template " ++ Text.quoted s ++
    ": expected a file name with a run of at least three 'X' characters"

end Template

end Assay
