/-!
# Placeholders

A text may hold placeholders: a dollar sign, an opening brace, a name, and the closing brace that
comes next. `expand` replaces each by the value of its name in one pass from left to right. A
dollar sign that no opening brace follows is text, and so is everything in a value: values are not
looked at again. `referenced` lists the names a text mentions without replacing anything.
-/

namespace Assay

/-- Values by name, in ascending order of the names. -/
abbrev Bindings := List (String × String)

namespace Bindings

/-- The value of a name. -/
def get? (b : Bindings) (name : String) : Option String :=
  b.lookup name

/-- The bindings with a value for a name in the place of any that it had. -/
def insert (name value : String) : Bindings → Bindings
  | [] => [(name, value)]
  | (n, v) :: rest =>
    if name = n then (name, value) :: rest
    else if name < n then (name, value) :: (n, v) :: rest
    else (n, v) :: insert name value rest

/-- The bound names. -/
def names (b : Bindings) : List String :=
  b.map Prod.fst

/-- The bindings made by inserting pairs from the left. -/
def ofList (pairs : List (String × String)) : Bindings :=
  pairs.foldl (fun b p => b.insert p.1 p.2) []

end Bindings

namespace Placeholder

/-- Why a text cannot be expanded. -/
inductive Fault where
  /-- The text ends inside a placeholder whose name so far is given. -/
  | unclosed (name : String)
  /-- No value is bound to the name. -/
  | unknown (name : String)
deriving DecidableEq

/-- A fault in words. -/
def Fault.message : Fault → String
  | .unclosed name => "unclosed placeholder: $\x7b" ++ name
  | .unknown name => "unknown placeholder '" ++ name ++ "'"

/-- The text in front of the first closing brace and the text behind it. -/
def toBrace : List Char → Option (List Char × List Char)
  | [] => none
  | c :: s =>
    if c = '\x7d' then some ([], s)
    else (toBrace s).map fun (name, rest) => (c :: name, rest)

/-- The text behind the first opening of a placeholder. -/
def toOpening : List Char → Option (List Char)
  | [] => none
  | '$' :: '\x7b' :: rest => some rest
  | _ :: s => toOpening s

theorem length_lt_of_toBrace {s name rest : List Char} (h : toBrace s = some (name, rest)) :
    rest.length < s.length := by
  induction s generalizing name with
  | nil => simp [toBrace] at h
  | cons c s ih =>
    rw [toBrace] at h
    split at h
    · simp only [Option.some.injEq, Prod.mk.injEq] at h
      simp [h.2]
    · obtain ⟨⟨n, r⟩, hr, heq⟩ := Option.map_eq_some_iff.1 h
      simp only [Prod.mk.injEq] at heq
      have := ih (heq.2 ▸ hr)
      simp only [List.length_cons]
      omega

theorem length_lt_of_toOpening {s rest : List Char} (h : toOpening s = some rest) :
    rest.length < s.length := by
  fun_induction toOpening s with
  | case1 => simp at h
  | case2 r =>
    simp only [Option.some.injEq] at h
    simp only [h, List.length_cons]
    omega
  | case3 _ s _ ih =>
    have := ih h
    simp only [List.length_cons]
    omega

/-- The text with every placeholder replaced by its value. -/
def expandChars (value : String → Option String) : List Char → Except Fault (List Char)
  | [] => .ok []
  | '$' :: '\x7b' :: inner =>
    match h : toBrace inner with
    | none => .error (.unclosed (String.ofList inner))
    | some (name, rest) =>
      have := length_lt_of_toBrace h
      match value (String.ofList name) with
      | none => .error (.unknown (String.ofList name))
      | some v => (expandChars value rest).map (v.toList ++ ·)
  | c :: s => (expandChars value s).map (c :: ·)
termination_by s => s.length
decreasing_by all_goals simp only [List.length_cons]; omega

/-- The names that a text mentions, in order: each opening of a placeholder is sought behind the
closing brace of the one before, and an opening that is never closed ends the search. -/
def referencedChars (s : List Char) : List (List Char) :=
  match h : toOpening s with
  | none => []
  | some inner =>
    match h' : toBrace inner with
    | none => []
    | some (name, rest) =>
      have := length_lt_of_toOpening h
      have := length_lt_of_toBrace h'
      name :: referencedChars rest
termination_by s.length
decreasing_by omega

/-- The text with every placeholder replaced by the value bound to it. -/
def expand (s : String) (b : Bindings) : Except Fault String :=
  (expandChars b.get? s.toList).map String.ofList

/-- The names that a text mentions, in order of appearance. -/
def referenced (s : String) : List String :=
  (referencedChars s.toList).map String.ofList

end Placeholder

end Assay
