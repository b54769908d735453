import Assay.Suite.Context

/-!
# Bound names

What the operations on bindings do to look-ups and to the bound names. The names that a suite binds
are the same whatever its paths are; what is put in for a workspace or an item takes no name away.
-/

namespace Assay

namespace Bindings

/-- Without bindings no name has a value. -/
@[simp]
theorem get?_nil (m : String) : get? [] m = none := rfl

/-- The first binding of a name is the one that holds. -/
@[simp]
theorem get?_cons (n v m : String) (b : Bindings) :
    get? ((n, v) :: b) m = if m = n then some v else b.get? m := by
  rw [get?, List.lookup_cons]
  by_cases h : m = n
  · simp [h]
  · simp [h, beq_eq_false_iff_ne.2 h, get?]

/-- A name that is bound has its value, and the others keep theirs. -/
theorem get?_insert (name value m : String) (b : Bindings) :
    (b.insert name value).get? m = if m = name then some value else b.get? m := by
  induction b with
  | nil => simp [insert]
  | cons p b ih =>
    obtain ⟨n, v⟩ := p
    rw [insert]
    split
    · next hn => by_cases h : m = n <;> simp [hn, h]
    · split
      · simp
      · next hn _ =>
        by_cases h : m = n
        · simp [h, Ne.symm hn]
        · simp [h, ih]

/-- A name has a value exactly if it is bound. -/
theorem isSome_get?_iff {n : String} {b : Bindings} : (b.get? n).isSome ↔ n ∈ b.names := by
  induction b with
  | nil => simp [names]
  | cons p b ih =>
    obtain ⟨m, v⟩ := p
    have hn : names ((m, v) :: b) = m :: names b := rfl
    rw [get?_cons, hn, List.mem_cons]
    by_cases h : n = m <;> simp [h, ih]

/-- Binding a name adds it to the names. -/
theorem mem_names_insert {name value m : String} {b : Bindings} :
    m ∈ (b.insert name value).names ↔ m = name ∨ m ∈ b.names := by
  rw [← isSome_get?_iff, ← isSome_get?_iff, get?_insert]
  split <;> simp_all

/-- The names of bindings from a list are those in it. -/
theorem mem_names_ofList {m : String} {pairs : List (String × String)} :
    m ∈ (ofList pairs).names ↔ m ∈ pairs.map Prod.fst := by
  suffices h : ∀ b : Bindings, m ∈ (pairs.foldl (fun b p => b.insert p.1 p.2) b).names ↔
      m ∈ b.names ∨ m ∈ pairs.map Prod.fst by
    simpa [ofList, names] using h []
  induction pairs with
  | nil => simp
  | cons p pairs ih =>
    intro b
    rw [List.foldl_cons, ih, mem_names_insert, List.map_cons, List.mem_cons, or_assoc]
    exact or_left_comm

end Bindings

/-- The names of the paths are the same in every suite. -/
theorem Layout.mem_names_bindings {l l' : Layout} {n : String} :
    n ∈ l.bindings.names ↔ n ∈ l'.bindings.names := by
  simp only [Layout.bindings, Bindings.mem_names_ofList, List.map_cons, List.map_nil]

end Assay
