import Assay.Proofs.Requests
import Assay.Text.Bytes
import Assay.Workspace.Lifecycle
import Mathlib

/-!
# Templates taken apart

A template is taken apart in one way only: the random part is the first run of letters `X` that is
long enough, and it is as long as it can be on both sides (`find_eq_some_iff`). A workspace has the
form of its template.
-/

namespace Assay

namespace Template

variable {s rest front back : List Char} {n : Nat} {t : Template}

/-- The least random part. -/
def leastRun : List Char := ['X', 'X', 'X']

/-- A text is that of a template: the random part is long enough, no letter `X` is next to it, and
nothing in front of it is long enough. -/
structure Describes (t : Template) (s : List Char) : Prop where
  eq : s = t.front ++ List.replicate t.random 'X' ++ t.back
  le : minRandom ≤ t.random
  front_end : t.front.getLast? ≠ some 'X'
  front_short : ¬ leastRun <:+: t.front
  back_start : t.back.head? ≠ some 'X'

/-- A run is read as far as it goes. -/
theorem of_takeRun (h : takeRun s = (n, rest)) :
    s = List.replicate n 'X' ++ rest ∧ rest.head? ≠ some 'X' := by
  induction s generalizing n with
  | nil =>
    obtain ⟨rfl, rfl⟩ : 0 = n ∧ [] = rest := by simpa [takeRun] using h
    simp
  | cons c s ih =>
    rw [takeRun] at h
    split at h
    · next hc =>
      obtain ⟨rfl, rfl⟩ : (takeRun s).1 + 1 = n ∧ (takeRun s).2 = rest := by simpa using h
      obtain ⟨hs, hrest⟩ := ih rfl
      exact ⟨by rw [List.replicate_succ, List.cons_append, ← hs, hc], hrest⟩
    · next hc =>
      obtain ⟨rfl, rfl⟩ : 0 = n ∧ c :: s = rest := by simpa using h
      exact ⟨rfl, by simpa using hc⟩

/-- A run of a length is read with that length. -/
theorem takeRun_replicate (h : rest.head? ≠ some 'X') (n : Nat) :
    takeRun (List.replicate n 'X' ++ rest) = (n, rest) := by
  induction n with
  | zero =>
    cases rest with
    | nil => rfl
    | cons c rest =>
      have hc : c ≠ 'X' := by simpa using h
      simp [takeRun, hc]
  | succ n ih => simp [List.replicate_succ, takeRun, ih]

/-- A short run in front of another character makes no long one. -/
theorem not_infix_append (hn : n < minRandom) (h : rest.head? ≠ some 'X')
    (hrest : ¬ leastRun <:+: rest) : ¬ leastRun <:+: List.replicate n 'X' ++ rest := by
  induction n with
  | zero => exact hrest
  | succ n ih =>
    rw [List.replicate_succ, List.cons_append, List.infix_cons_iff, not_or]
    refine ⟨fun hprefix => ?_, ih (by omega)⟩
    obtain ⟨back, hback⟩ := hprefix
    obtain rfl | rfl : n = 0 ∨ n = 1 := by
      simp only [minRandom] at hn
      omega
    · obtain rfl : 'X' :: 'X' :: back = rest := by simpa [leastRun] using hback
      exact h rfl
    · obtain rfl : 'X' :: back = rest := by simpa [leastRun] using hback
      exact h rfl

/-- Another letter in front begins no run. -/
theorem not_infix_cons {c : Char} (hc : c ≠ 'X') (h : ¬ leastRun <:+: s) :
    ¬ leastRun <:+: c :: s := by
  rw [List.infix_cons_iff, not_or]
  refine ⟨fun hprefix => hc ?_, h⟩
  obtain ⟨back, hback⟩ := hprefix
  exact (List.cons.inj hback).1.symm

/-- Where no run begins another letter stands. -/
theorem ne_of_takeRun {c : Char} (h : takeRun (c :: s) = (0, rest)) : c ≠ 'X' := by
  obtain ⟨heq, hrest⟩ := of_takeRun h
  rw [List.replicate_zero, List.nil_append] at heq
  rw [← heq] at hrest
  simpa using hrest

/-- What is found is a template of the text. -/
theorem describes_of_find (h : find s = some t) : t.Describes s := by
  fun_induction find s generalizing t with
  | case1 => simp at h
  | case2 c s _ hrun ih =>
    obtain ⟨u, hu, rfl⟩ := Option.map_eq_some_iff.1 h
    have hd := ih hu
    have hc : c ≠ 'X' := ne_of_takeRun hrun
    refine ⟨by simp [hd.eq], hd.le, ?_, not_infix_cons hc hd.front_short, hd.back_start⟩
    cases hf : u.front with
    | nil => simpa using hc
    | cons d front => simpa [hf] using hd.front_end
  | case3 c s n rest hrun hle =>
    obtain rfl : _ = t := by simpa using h
    obtain ⟨heq, hrest⟩ := of_takeRun hrun
    exact ⟨by simpa using heq, hle, by simp, by simp [leastRun], hrest⟩
  | case4 c s n rest hrun hlt ih =>
    obtain ⟨u, hu, rfl⟩ := Option.map_eq_some_iff.1 h
    have hd := ih hu
    obtain ⟨heq, hrest⟩ := of_takeRun hrun
    -- the front goes on with the character that ends the short run
    have hhead : u.front.head? ≠ some 'X' ∧ u.front ≠ [] := by
      have hle := hd.le
      rw [hd.eq] at hrest
      cases hf : u.front with
      | nil =>
        obtain ⟨k, hk⟩ : ∃ k, u.random = k + 1 := ⟨u.random - 1, by simp [minRandom] at hle; omega⟩
        simp [hf, hk, List.replicate_succ] at hrest
      | cons d front => simpa [hf] using hrest
    refine ⟨by simp [heq, ← hd.eq], hd.le, ?_, ?_, hd.back_start⟩
    · rw [List.getLast?_append_of_ne_nil _ hhead.2]
      exact hd.front_end
    · exact not_infix_append (by omega) hhead.1 hd.front_short

/-- Nothing is found only where no run is long enough. -/
theorem not_infix_of_find (h : find s = none) : ¬ leastRun <:+: s := by
  fun_induction find s with
  | case1 => simp [leastRun]
  | case2 c s _ hrun ih =>
    have hc : c ≠ 'X' := ne_of_takeRun hrun
    exact not_infix_cons hc (ih (by simpa using h))
  | case3 c s n rest hrun hle => simp at h
  | case4 c s n rest hrun hlt ih =>
    obtain ⟨heq, hrest⟩ := of_takeRun hrun
    rw [heq]
    exact not_infix_append (by omega) hrest (ih (by simpa using h))

/-- A run that is long enough begins with the least one. -/
theorem leastRun_begins (h : minRandom ≤ n) : leastRun <+: List.replicate n 'X' := by
  obtain ⟨k, rfl⟩ : ∃ k, n = 3 + k := Nat.exists_eq_add_of_le h
  exact ⟨List.replicate k 'X', by rw [List.replicate_add]; rfl⟩

/-- A text that is described has a run that is long enough. -/
theorem Describes.leastRun_occurs (h : t.Describes s) : leastRun <:+: s := by
  rw [h.eq]
  exact (leastRun_begins h.le).isInfix.trans ⟨t.front, t.back, rfl⟩

/-- No template of a text has a longer front than another. -/
theorem Describes.length_front_le {u : Template} (ht : t.Describes s) (hu : u.Describes s) :
    u.front.length ≤ t.front.length := by
  by_contra hlt
  have heq := ht.eq.symm.trans hu.eq
  rw [List.append_assoc, List.append_assoc] at heq
  obtain ⟨gap, hgap, hrest⟩ | ⟨gap, hgap, -⟩ := List.append_eq_append_iff.1 heq
  · have hne : gap ≠ [] := fun h => hlt (by simp [hgap, h])
    -- what the longer front has beyond the shorter begins in the random part
    obtain ⟨more, hmore, -⟩ | ⟨more, hmore, -⟩ := List.append_eq_append_iff.1 hrest
    · refine hu.front_short ((leastRun_begins ht.le).isInfix.trans ?_)
      exact ⟨t.front, more, by rw [hgap, hmore, List.append_assoc]⟩
    · refine hu.front_end ?_
      rw [hgap, List.getLast?_append_of_ne_nil _ hne]
      have hlast : gap.getLast hne ∈ List.replicate t.random 'X' :=
        hmore ▸ List.mem_append_left _ (List.getLast_mem hne)
      rw [List.getLast?_eq_some_getLast hne, List.eq_of_mem_replicate hlast]
  · rw [hgap] at hlt
    simp at hlt

/-- A text has one template at most. -/
theorem Describes.unique {u : Template} (ht : t.Describes s) (hu : u.Describes s) : t = u := by
  have heq := ht.eq.symm.trans hu.eq
  rw [List.append_assoc, List.append_assoc] at heq
  have hlen := Nat.le_antisymm (hu.length_front_le ht) (ht.length_front_le hu)
  obtain ⟨hfront, hrest⟩ := List.append_inj heq hlen
  have hrun := takeRun_replicate ht.back_start t.random
  rw [hrest, takeRun_replicate hu.back_start, Prod.mk.injEq] at hrun
  cases t
  cases u
  simp_all

/-- The template of a text is the only one that describes it. -/
theorem find_eq_some_iff : find s = some t ↔ t.Describes s := by
  refine ⟨describes_of_find, fun h => ?_⟩
  cases hs : find s with
  | none => exact absurd h.leastRun_occurs (not_infix_of_find hs)
  | some u => rw [(describes_of_find hs).unique h]

/-- A text has a template exactly if it has a run that is long enough. -/
theorem isSome_find_iff : (find s).isSome ↔ leastRun <:+: s := by
  cases hs : find s with
  | none => simpa using not_infix_of_find hs
  | some t => simpa using (find_eq_some_iff.1 hs).leastRun_occurs

/-! ## Texts and names -/

/-- A text that is a single name. -/
def IsName (text : String) : Prop :=
  '/' ∉ text.toList ∧ '\\' ∉ text.toList

/-- A template is the only one that describes a single name. -/
theorem parse?_eq_some_iff {text : String} :
    parse? text = some t ↔ IsName text ∧ t.Describes text.toList := by
  rw [parse?, ← find_eq_some_iff, IsName]
  by_cases h : '/' ∈ text.toList <;> by_cases h' : '\\' ∈ text.toList <;> simp [h, h']

/-- A single name has a template exactly if it has a run that is long enough. -/
theorem isSome_parse?_iff {text : String} :
    (parse? text).isSome ↔ IsName text ∧ leastRun <:+: text.toList := by
  rw [parse?, ← isSome_find_iff, IsName]
  by_cases h : '/' ∈ text.toList <;> by_cases h' : '\\' ∈ text.toList <;> simp [h, h']

/-- A text is cut between two of its characters, in front of its random part and behind it. -/
theorem isValid_cut {text : String} (h : parse? text = some t) :
    ∀ front ∈ [t.front, t.front ++ List.replicate t.random 'X'],
      (Text.placeBehind front).IsValid text := by
  have heq := (parse?_eq_some_iff.1 h).2.eq
  simp only [List.mem_cons, List.not_mem_nil, or_false, forall_eq_or_imp, forall_eq]
  refine ⟨Text.isValid_placeBehind ?_, Text.isValid_placeBehind ?_⟩
  · exact ⟨List.replicate t.random 'X' ++ t.back, by rw [heq, List.append_assoc]⟩
  · exact ⟨t.back, heq.symm⟩

/-- A name that a template can be made into. -/
def Makes (t : Template) (name : String) : Prop :=
  ∃ random : List Char, random.length = t.random ∧ (∀ c ∈ random, c.isAlphanum = true) ∧
    name = String.ofList (t.front ++ random ++ t.back)

/-- A text has the bytes of its characters. -/
theorem utf8ByteSize_ofList (cs : List Char) :
    (String.ofList cs).utf8ByteSize = (cs.map Char.utf8Size).sum := by
  induction cs with
  | nil => rfl
  | cons c cs ih => simp [String.ofList_cons, ih]

/-- A letter or digit of ASCII is one byte. -/
theorem utf8Size_of_isAlphanum {c : Char} (h : c.isAlphanum = true) : c.utf8Size = 1 := by
  rw [Char.utf8Size_eq_one_iff]
  obtain h | h := Bool.or_eq_true_iff.1 h
  · obtain h | h := Bool.or_eq_true_iff.1 h
    · exact UInt32.le_trans (of_decide_eq_true h).2 (by decide)
    · exact UInt32.le_trans (of_decide_eq_true (Bool.and_eq_true_iff.1 h).2) (by decide)
  · exact UInt32.le_trans (of_decide_eq_true (Bool.and_eq_true_iff.1 h).2) (by decide)

/-- A name is as long as the text of the template that it is made from. -/
theorem Makes.utf8ByteSize_eq {name text : String} (h : t.Makes name)
    (ht : parse? text = some t) : name.utf8ByteSize = text.utf8ByteSize := by
  obtain ⟨random, hlen, hrandom, rfl⟩ := h
  have htext := (parse?_eq_some_iff.1 ht).2.eq
  have hsum : (random.map Char.utf8Size).sum = t.random := by
    rw [List.map_congr_left fun c hc => utf8Size_of_isAlphanum (hrandom c hc)]
    simp [hlen]
  have hX : 'X'.utf8Size = 1 := rfl
  rw [← String.ofList_toList (s := text), htext, utf8ByteSize_ofList, utf8ByteSize_ofList]
  simp [hsum, hX]

/-- A name that a template is made into is a single name like the template. -/
theorem Makes.isName {name text : String} (h : t.Makes name) (ht : parse? text = some t) :
    IsName name := by
  obtain ⟨random, -, hrandom, rfl⟩ := h
  obtain ⟨hname, hd⟩ := parse?_eq_some_iff.1 ht
  have hmem : ∀ c : Char, c.isAlphanum = false → c ∉ text.toList →
      c ∉ (String.ofList (t.front ++ random ++ t.back)).toList := by
    intro c hc hnot hin
    rw [hd.eq] at hnot
    simp only [List.mem_append, not_or] at hnot
    rw [String.toList_ofList, List.mem_append, List.mem_append] at hin
    obtain (hin | hin) | hin := hin
    · exact hnot.1.1 hin
    · exact absurd ((hrandom c hin).symm.trans hc) (by decide)
    · exact hnot.2 hin
  exact ⟨hmem _ (by decide) hname.1, hmem _ (by decide) hname.2⟩

end Template

namespace Workspace

open Host Plan Template

/-- Replies of a host that makes a new directory where it is told to and gives it a name of the
template's form. -/
def NamesByTemplate : (r : Request) → Reply r → Prop
  | .makeTemp root t, .ok path => ∃ name, t.Makes name ∧ path = root.child name
  | _, _ => True

/-- What the creation of a workspace may come to: a directory that is a child of the root and has a
name of the template's form and length, a text that is no template, or a refusal by the host. -/
def CreatedAs (root : Path) (text : String) : Except WorkspaceFault Path → Prop
  | .ok path => ∃ t name, parse? text = some t ∧ t.Makes name ∧ IsName name ∧
      name.utf8ByteSize = text.utf8ByteSize ∧ path = root.child name
  | .error (.invalidTemplate refused) => refused = text ∧ parse? text = none
  | .error _ => (parse? text).isSome

/-- A workspace is created as its template says, on each host that names the directory by it. -/
theorem meets_create {R : (r : Request) → Reply r → Prop} (root : Path) (text : String)
    (hR : ∀ t reply, R (.makeTemp root t) reply → NamesByTemplate (.makeTemp root t) reply) :
    (create root text).Meets R (fun _ => True) (CreatedAs root text) := by
  rw [create]
  cases ht : parse? text with
  | none => exact ⟨rfl, ht⟩
  | some t =>
    have hsome : (parse? text).isSome := by simp [ht]
    refine Asks.bind (meets_request trivial fun _ _ => trivial) fun made => ?_
    cases made with
    | error reason => exact hsome
    | ok _ =>
      refine Meets.bind (meets_request (Q := NamesByTemplate (.makeTemp root t)) trivial
        fun reply h => hR t reply h) fun reply hreply => ?_
      cases reply with
      | error reason => exact hsome
      | ok path =>
        obtain ⟨name, hname, rfl⟩ := hreply
        have hcreated : CreatedAs root text (.ok (root.child name)) :=
          ⟨t, name, ht, hname, hname.isName ht, hname.utf8ByteSize_eq ht, rfl⟩
        exact ⟨trivial, fun _ _ => hcreated⟩

/-- A text is taken apart in the only way that it can be: in front of the first run of at least three
letters `X`, that run as long as it is, and the text behind it. It has to be a single name with such
a run, and creating a workspace refuses it as a template only if it is not. It is cut between two of
its characters. A workspace that is created is a child of its root with a name of the template's form
and length. -/
theorem template_determines_name (text : String) :
    (∀ t, parse? text = some t ↔ IsName text ∧ t.Describes text.toList) ∧
    ((parse? text).isSome ↔ IsName text ∧ leastRun <:+: text.toList) ∧
    (∀ t, parse? text = some t →
      ∀ front ∈ [t.front, t.front ++ List.replicate t.random 'X'],
        (Text.placeBehind front).IsValid text) ∧
    ∀ root, (create root text).Meets NamesByTemplate (fun _ => True) (CreatedAs root text) :=
  ⟨fun _ => parse?_eq_some_iff, isSome_parse?_iff, fun _ => isValid_cut,
    fun root => meets_create root text fun _ _ h => h⟩

end Workspace

end Assay
