import Assay.Placeholder

/-!
# Expansion of texts

A text is read as pieces: single characters, placeholders, and at most one opening that no brace
closes. The pieces written out are the text again. Expansion fills the pieces one by one, so a value
is never looked at, and the names that a text mentions are those of its placeholders. Hence a name
that is reported as unknown is one that the text mentions and that has no value.
-/

namespace Assay.Placeholder

/-- A part of a text that expansion treats as one. -/
inductive Piece where
  | char (c : Char)
  | hole (name : List Char)
  /-- An opening with all text behind it, where no brace closes it. -/
  | opened (inner : List Char)

namespace Piece

/-- A piece as it is written. -/
def written : Piece → List Char
  | .char c => [c]
  | .hole name => '$' :: '\x7b' :: name ++ ['\x7d']
  | .opened inner => '$' :: '\x7b' :: inner

/-- The name in a placeholder. -/
def name? : Piece → Option (List Char)
  | .hole name => some name
  | .char _ | .opened _ => none

/-- What stands for a piece in the expanded text. -/
def fill (value : String → Option String) : Piece → Except Fault (List Char)
  | .char c => .ok [c]
  | .hole name =>
    match value (String.ofList name) with
    | none => .error (.unknown (String.ofList name))
    | some v => .ok v.toList
  | .opened inner => .error (.unclosed (String.ofList inner))

end Piece

/-- The pieces of a text. -/
def pieces : List Char → List Piece
  | [] => []
  | '$' :: '\x7b' :: inner =>
    match h : toBrace inner with
    | none => [.opened inner]
    | some (name, rest) =>
      have := length_lt_of_toBrace h
      .hole name :: pieces rest
  | c :: s => .char c :: pieces s
termination_by s => s.length
decreasing_by all_goals simp only [List.length_cons]; omega

/-- The text that a list of pieces expands to. -/
def fillAll (value : String → Option String) (ps : List Piece) : Except Fault (List Char) :=
  (ps.mapM (Piece.fill value)).map List.flatten

/-- No pieces expand to nothing. -/
@[simp]
theorem fillAll_nil {value : String → Option String} : fillAll value [] = .ok [] := rfl

/-- A piece expands in front of those behind it. -/
@[simp]
theorem fillAll_cons {value : String → Option String} {p : Piece} {ps : List Piece} :
    fillAll value (p :: ps) = (p.fill value).bind fun t => (fillAll value ps).map (t ++ ·) := by
  rw [fillAll, List.mapM_cons]
  cases p.fill value with
  | error e => rfl
  | ok t =>
    rw [fillAll]
    cases ps.mapM (Piece.fill value) <;> rfl

/-- Expansion fills the pieces, each by itself. -/
theorem expandChars_eq (value : String → Option String) (s : List Char) :
    expandChars value s = fillAll value (pieces s) := by
  fun_induction expandChars value s with
  | case1 => simp [pieces]
  | case2 inner h =>
    rw [pieces]
    split
    · simp [Piece.fill, Except.bind]
    · simp_all
  | case3 inner name rest h _ hv =>
    rw [pieces]
    split
    · simp_all
    · simp_all [Piece.fill, Except.bind]
  | case4 inner name rest h _ v hv ih =>
    rw [pieces]
    split
    · simp_all
    · simp_all [Piece.fill, Except.bind]
  | case5 c s hc ih =>
    rw [pieces]
    · simp [Piece.fill, Except.bind, ih]
    · exact hc

/-- What a text mentions, with the branches of the search freed from its termination argument. -/
theorem referencedChars_eq_match (s : List Char) :
    referencedChars s =
      match toOpening s with
      | none => []
      | some inner =>
        match toBrace inner with
        | none => []
        | some (name, rest) => name :: referencedChars rest := by
  rw [referencedChars]
  split
  · next h => simp [h]
  · next inner h =>
    simp only [h]
    split <;> next h' => simp [h']

/-- A character in front of a text begins no placeholder unless an opening stands there. -/
theorem toOpening_cons {c : Char} {s : List Char}
    (hc : ∀ inner, c = '$' → s = '\x7b' :: inner → False) : toOpening (c :: s) = toOpening s := by
  rw [toOpening]
  exact hc

/-- The names that a text mentions are those of its placeholders. -/
theorem referencedChars_eq (s : List Char) :
    referencedChars s = (pieces s).filterMap Piece.name? := by
  fun_induction pieces s with
  | case1 => simp [referencedChars_eq_match, toOpening]
  | case2 inner h =>
    rw [referencedChars_eq_match]
    simp [toOpening, h, Piece.name?]
  | case3 inner name rest h _ ih =>
    rw [referencedChars_eq_match]
    simp [toOpening, h, Piece.name?, ih]
  | case4 c s hc ih =>
    rw [referencedChars_eq_match, toOpening_cons hc, ← referencedChars_eq_match, ih]
    rfl

/-- A name is mentioned exactly if one of the placeholders has it. -/
theorem mem_referencedChars {s name : List Char} :
    name ∈ referencedChars s ↔ Piece.hole name ∈ pieces s := by
  rw [referencedChars_eq, List.mem_filterMap]
  constructor
  · rintro ⟨p, hp, hn⟩
    cases p <;> simp_all [Piece.name?]
  · exact fun h => ⟨_, h, rfl⟩

/-- A fault of the expansion is a fault of one of the pieces. -/
theorem exists_of_fillAll_eq_error {value : String → Option String} {ps : List Piece} {e : Fault}
    (h : fillAll value ps = .error e) : ∃ p ∈ ps, p.fill value = .error e := by
  induction ps with
  | nil => simp at h
  | cons p ps ih =>
    cases hp : p.fill value with
    | error e' =>
      simp only [fillAll_cons, hp, Except.bind, Except.error.injEq] at h
      exact ⟨p, by simp, h ▸ hp⟩
    | ok t =>
      cases hps : fillAll value ps with
      | error e' =>
        simp only [fillAll_cons, hp, hps, Except.bind, Except.map, Except.error.injEq] at h
        obtain ⟨q, hq, hqe⟩ := ih (h ▸ hps)
        exact ⟨q, List.mem_cons_of_mem _ hq, hqe⟩
      | ok ts => simp [hp, hps, Except.bind, Except.map] at h

/-- A piece without a value is a placeholder of an unknown name. -/
theorem fill_eq_error_unknown {value : String → Option String} {p : Piece} {n : String} :
    p.fill value = .error (.unknown n) ↔
      ∃ name, p = .hole name ∧ String.ofList name = n ∧ value n = none := by
  cases p with
  | char c => simp [Piece.fill]
  | opened inner => simp [Piece.fill]
  | hole name =>
    cases hv : value (String.ofList name) <;> simp [Piece.fill, hv] <;> grind

/-- A name that expansion does not know is one that the text mentions and that has no value. -/
theorem mem_referenced_of_expand_eq_unknown {s n : String} {b : Bindings}
    (h : expand s b = .error (.unknown n)) : n ∈ referenced s ∧ b.get? n = none := by
  have hs : expandChars b.get? s.toList = .error (.unknown n) := by
    cases he : expandChars b.get? s.toList <;> simp_all [expand, Except.map]
  rw [expandChars_eq] at hs
  obtain ⟨p, hp, hfill⟩ := exists_of_fillAll_eq_error hs
  obtain ⟨name, rfl, rfl, hv⟩ := fill_eq_error_unknown.1 hfill
  exact ⟨List.mem_map_of_mem (mem_referencedChars.2 hp), hv⟩

end Assay.Placeholder
